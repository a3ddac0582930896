import Carpinchos.Swamp.AsignacionFija
import Carpinchos.Swamp.Espacio
import Carpinchos.Swamp.Concesiones

/-!
# What a request for permission changes and promises

`puede_escribir` should only look. Under GLOBAL it goes through `recibirPagina` a second time,
as a write does, and a carpincho that is not known is registered on the way. It counts the files
up to five times, and a count that is too high is followed past the files. Under FIJA it
compares the pages asked for with the free slots and the pages already stored with the
maximum, but never the two together with the maximum.
-/

namespace Carpinchos.Swamp

open Outcome Runs Wire

variable {cfg : Config} {s s' : Estado} {pid pagina cant : ℤ} {archivo : String}

section Definiciones

/-- The request is answered, nothing that the server keeps has changed, and the requests that
follow get the answers that they would have got. -/
def SoloPregunta (cfg : Config) (sobras : ℕ → List UInt8) (pid cant : ℤ) (s : Estado) : Prop :=
  ∃ r s', Conteo.puedeEscribir cfg sobras pid cant s = .ok (r, s') ∧
    s'.carpinchos = s.carpinchos ∧ s'.marcos = s.marcos ∧ s'.contenido = s.contenido ∧
    ∀ xs, (run (serverProcesarMensaje cfg) xs s').map Prod.fst =
      (run (serverProcesarMensaje cfg) xs s).map Prod.fst

/-- A request for permission gets to its answer: no search goes past the slots, and the loop of
FIJA neither past the files nor into a division by zero. -/
structure RespondePermiso (cfg : Config) (pid : ℤ) (s : Estado) : Prop where
  lugar : archivoDe pid s = none ∨ s.casoAsignacion = global →
    0 < marcosLibres (archivoPedido cfg pid s) s
  capacidad : s.casoAsignacion = fija → esPrimero pid s = true ∨
    s.carpinchos.length ≤ cfg.cantArchivos ∧ 0 < cfg.marcosMaximos

/-- Whether GLOBAL is in force only for carpinchos that are known. -/
def conocidoEnGlobal (pid : ℤ) (s : Estado) : Prop :=
  s.casoAsignacion = global → archivoDe pid s ≠ none

/-- The assignment lets the request get to the count of the free slots. -/
def llegaAContar (cfg : Config) (pid : ℤ) (s : Estado) : Prop :=
  s.casoAsignacion = global ∨ s.casoAsignacion = fija ∧ permiteFija cfg pid s.carpinchos = true

/-- Each count of the files that the request needs is exact. -/
structure CuentaBien (cfg : Config) (sobras : ℕ → List UInt8) (pid : ℤ) (s : Estado) :
    Prop where
  archivo : archivoDe pid s = none → sobran (sobras 0) = 0 ∧ sobran (sobras 1) = 0
  paginas : llegaAContar cfg pid s → cfg.cantMarcos = 0 ∨ sobran (sobras 4) = 0

end Definiciones

section Chequeo

theorem contarCarpinchos_ok {cs : List Carpincho} {archivos : List String} :
    (∃ n, contarCarpinchos cs archivos = .ok n) ↔ cs.length ≤ archivos.length := by
  induction cs generalizing archivos with
  | nil => exact ⟨fun _ => Nat.zero_le _, fun _ => ⟨0, rfl⟩⟩
  | cons c cs ih =>
    cases archivos with
    | nil =>
      refine iff_of_false ?_ (Nat.not_succ_le_zero _)
      rintro ⟨n, hn⟩
      cases hn
    | cons a archivos =>
      rw [List.length_cons, List.length_cons, Nat.add_le_add_iff_right, ← ih]
      constructor
      · rintro ⟨n, hn⟩
        obtain ⟨k, hk, -⟩ := bind_eq_ok.1 hn
        exact ⟨k, hk⟩
      · rintro ⟨k, hk⟩
        refine ⟨if c.archivo = a then k + 1 else k, ?_⟩
        rw [contarCarpinchos, hk, ok_bind]

theorem chequearAsignacion_fija_ok (hcaso : s.casoAsignacion = fija) :
    (∃ a, chequearAsignacion cfg pid s = .ok (a, s)) ↔ esPrimero pid s = true ∨
      s.carpinchos.length ≤ cfg.cantArchivos ∧ 0 < cfg.marcosMaximos := by
  rw [chequearAsignacion, if_pos hcaso, esPrimero]
  cases hc : s.carpinchos with
  | nil => exact iff_of_true ⟨0, rfl⟩ (Or.inl rfl)
  | cons c cs =>
    simp only [List.head?_cons, Option.all_some, decide_eq_true_eq]
    by_cases hpid : c.pid = pid
    · simp only [hpid, true_or, iff_true]
      exact ⟨_, rfl⟩
    · simp only [hpid, false_or]
      rw [Config.cantArchivos, ← contarCarpinchos_ok]
      constructor
      · rintro ⟨a, ha⟩
        obtain ⟨n, hn, ha⟩ := bind_eq_ok.1 ha
        refine ⟨⟨n, hn⟩, Nat.pos_of_ne_zero fun hcero => ?_⟩
        rw [if_pos hcero] at ha
        cases ha
      · rintro ⟨⟨n, hn⟩, hmax⟩
        rw [hn, ok_bind, if_neg (Nat.ne_of_gt hmax)]
        exact ⟨_, rfl⟩

theorem hayEspacioArchivo_ok (hb : Bien cfg s) :
    (∃ r, hayEspacioArchivo cfg (some archivo) s = .ok r) ↔ 0 < marcosLibres archivo s := by
  rw [hayEspacioArchivo_eq hb.lugares, Nat.pos_iff_ne_zero, Ne, ← primerLibre_eq_none]
  cases primerLibre archivo s with
  | none =>
    refine iff_of_false ?_ fun hno => hno rfl
    rintro ⟨r, hr⟩
    cases hr
  | some m => exact iff_of_true ⟨some m, rfl⟩ (Option.some_ne_none m)

/-- Under GLOBAL the check leaves the carpinchos alone only if this one is known. -/
theorem chequearAsignacion_global_ok (hb : Bien cfg s) (hcaso : s.casoAsignacion = global) :
    (∃ a, chequearAsignacion cfg pid s = .ok (a, s)) ↔
      archivoDe pid s ≠ none ∧ 0 < marcosLibres (archivoPedido cfg pid s) s := by
  have hno : ¬ global = fija := by decide
  rw [chequearAsignacion, hcaso, if_neg hno, if_pos rfl]
  cases ha : archivoDe pid s with
  | none =>
    refine iff_of_false ?_ fun h => h.1 rfl
    rintro ⟨a, h⟩
    obtain ⟨⟨archivo, t⟩, ht, h⟩ := bind_eq_ok.1 h
    obtain ⟨-, hconocido, -, -⟩ := recibirPagina_escribir hb ht
    obtain ⟨libre, -, h⟩ := bind_eq_ok.1 h
    have hts : t = s := by
      cases libre <;> cases h <;> rfl
    rw [hts, ha] at hconocido
    cases hconocido
  | some a =>
    have hpedido : archivoPedido cfg pid s = a := by rw [archivoPedido, ha, Option.getD_some]
    rw [recibirPagina_conocido ha, ok_bind, hpedido, ← hayEspacioArchivo_ok hb]
    dsimp only
    constructor
    · rintro ⟨r, h⟩
      obtain ⟨libre, hlibre, -⟩ := bind_eq_ok.1 h
      exact ⟨Option.some_ne_none a, libre, hlibre⟩
    · rintro ⟨-, libre, hlibre⟩
      rw [hlibre, ok_bind]
      cases libre with
      | some m => exact ⟨0, rfl⟩
      | none => exact ⟨-1, rfl⟩

end Chequeo

section Consulta

variable {basura : Basura}

theorem recibirPagina_pregunta (hb : Bien cfg s) :
    (archivoDe pid s = none → 0 < marcosLibres (archivoPedido cfg pid s) s) ↔
      recibirPagina cfg pid .puedeEscribir s = .ok (some (archivoPedido cfg pid s), s) := by
  cases ha : archivoDe pid s with
  | some a =>
    have hpedido : archivoPedido cfg pid s = a := by rw [archivoPedido, ha, Option.getD_some]
    rw [recibirPagina_conocido ha, hpedido]
    exact iff_of_true (fun h => by cases h) rfl
  | none =>
    have hfind := ha
    have hpedido : archivoPedido cfg pid s = archivoConMasEspacio cfg s := by
      rw [archivoPedido, ha, Option.getD_none]
    rw [archivoDe_eq_find, Option.map_eq_none_iff] at hfind
    rw [hpedido, ← hayEspacioArchivo_ok hb]
    simp only [recibirPagina, hfind, true_imp_iff]
    constructor
    · rintro ⟨libre, hlibre⟩
      obtain ⟨i, x, rfl, -⟩ := (hayEspacioArchivo_spec hb _).post_of_eq hlibre
      rw [hlibre, ok_bind]
    · intro h
      obtain ⟨libre, hlibre, -⟩ := bind_eq_ok.1 h
      exact ⟨libre, hlibre⟩

theorem puedeEscribir_of_ok {a : ℤ}
    (hrecibir : recibirPagina cfg pid .puedeEscribir s = .ok (some archivo, s))
    (hchequear : chequearAsignacion cfg pid s = .ok (a, s')) :
    ∃ r, puedeEscribir cfg pid cant s = .ok (r, s') := by
  unfold puedeEscribir
  rw [hrecibir, ok_bind]
  dsimp only
  rw [hchequear, ok_bind]
  dsimp only
  split
  · exact ⟨_, rfl⟩
  · exact ⟨_, rfl⟩

theorem puedeEscribir_ok (hb : Bien cfg s) :
    (∃ r, puedeEscribir cfg pid cant s = .ok (r, s)) ↔
      RespondePermiso cfg pid s ∧ conocidoEnGlobal pid s := by
  constructor
  · rintro ⟨r, h⟩
    obtain ⟨⟨o, t⟩, hrecibir, h⟩ := bind_eq_ok.1 h
    obtain ⟨rfl, rfl⟩ := recibirPagina_puedeEscribir hb hrecibir
    obtain ⟨⟨a, u⟩, hchequear, h⟩ := bind_eq_ok.1 h
    have hu : u = t := by
      dsimp only at h
      split at h
      · cases h
        rfl
      · cases h
        rfl
    subst hu
    have hlugar := (recibirPagina_pregunta hb).2 hrecibir
    refine ⟨⟨fun h => ?_, fun hcaso => (chequearAsignacion_fija_ok hcaso).1 ⟨a, hchequear⟩⟩,
      fun hcaso => ((chequearAsignacion_global_ok hb hcaso).1 ⟨a, hchequear⟩).1⟩
    rcases h with hpid | hcaso
    · exact hlugar hpid
    · exact ((chequearAsignacion_global_ok hb hcaso).1 ⟨a, hchequear⟩).2
  · rintro ⟨h, hconocido⟩
    have hrecibir := (recibirPagina_pregunta hb).1 fun hpid => h.lugar (Or.inl hpid)
    suffices hchequear : ∃ a, chequearAsignacion cfg pid s = .ok (a, s) by
      obtain ⟨a, ha⟩ := hchequear
      exact puedeEscribir_of_ok hrecibir ha
    by_cases hfija : s.casoAsignacion = fija
    · exact (chequearAsignacion_fija_ok hfija).2 (h.capacidad hfija)
    · by_cases hglobal : s.casoAsignacion = global
      · exact (chequearAsignacion_global_ok hb hglobal).2
          ⟨hconocido hglobal, h.lugar (Or.inr hglobal)⟩
      · refine ⟨-1, ?_⟩
        rw [chequearAsignacion, if_neg hfija, if_neg hglobal]

theorem chequearAsignacion_cero {a : ℤ} (hb : Bien cfg s)
    (h : chequearAsignacion cfg pid s = .ok (a, s')) : a = 0 ↔ llegaAContar cfg pid s := by
  have hdistintas : ¬ global = fija := by decide
  by_cases hfija : s.casoAsignacion = fija
  · rw [llegaAContar, hfija, (chequearAsignacion_fija hfija h).2]
    exact ⟨fun hpermite => Or.inr ⟨rfl, hpermite⟩,
      fun h => h.elim (fun hno => absurd hno.symm hdistintas) And.right⟩
  · rw [chequearAsignacion, if_neg hfija] at h
    by_cases hglobal : s.casoAsignacion = global
    · rw [if_pos hglobal] at h
      refine iff_of_true ?_ (Or.inl hglobal)
      obtain ⟨⟨o, t⟩, ht, h⟩ := bind_eq_ok.1 h
      obtain ⟨rfl, -, hconserva, -⟩ := recibirPagina_escribir hb ht
      obtain ⟨libre, hlibre, h⟩ := bind_eq_ok.1 h
      obtain ⟨i, x, rfl, -⟩ :=
        (hayEspacioArchivo_spec (hconserva.bien hb) _).post_of_eq hlibre
      cases h
      rfl
    · rw [if_neg hglobal] at h
      cases h
      exact iff_of_false (by decide) fun h => h.elim hglobal fun h => hfija h.1

/-- The check counts files only for a carpincho that it registers. -/
theorem conteo_chequearAsignacion {a : ℤ} {sobras : ℕ → List UInt8}
    (h : Conteo.chequearAsignacion cfg sobras pid s = .ok (a, s')) :
    chequearAsignacion cfg pid s = .ok (a, s') := by
  unfold Conteo.chequearAsignacion at h
  split at h
  · next hglobal =>
    have hno : ¬ global = fija := by decide
    obtain ⟨⟨o, t⟩, ht, h⟩ := bind_eq_ok.1 h
    cases o with
    | none => cases h
    | some archivo =>
      have hrecibir := ((Conteo.recibirPagina_eq_ok (Or.inl rfl)).1 ht).1
      rw [chequearAsignacion, hglobal, if_neg hno, if_pos rfl, hrecibir]
      exact h
  · exact h

theorem conteo_chequearAsignacion_conocido {sobras : ℕ → List UInt8}
    (hconocido : conocidoEnGlobal pid s) :
    Conteo.chequearAsignacion cfg sobras pid s = chequearAsignacion cfg pid s := by
  have hno : ¬ global = fija := by decide
  unfold Conteo.chequearAsignacion
  split
  · next hglobal =>
    obtain ⟨a, ha⟩ := Option.ne_none_iff_exists'.1 (hconocido hglobal)
    have hfind := ha
    rw [archivoDe_eq_find, Option.map_eq_some_iff] at hfind
    obtain ⟨c, hc, rfl⟩ := hfind
    have hrecibir : Conteo.recibirPagina cfg sobras pid .escribir s =
        .ok (some c.archivo, s) := by
      simp only [Conteo.recibirPagina, hc]
    rw [chequearAsignacion, hglobal, if_neg hno, if_pos rfl]
    exact congrArg (fun r => r >>= _) (hrecibir.trans (recibirPagina_conocido ha _).symm)
  · next hglobal => rfl

/-- What is answered with the counts that the code makes is what is answered with exact ones. -/
theorem conteo_puedeEscribir {r : List UInt8} {sobras : ℕ → List UInt8} (hb : Bien cfg s)
    (hconteo : Conteo.puedeEscribir cfg sobras pid cant s = .ok (r, s')) :
    puedeEscribir cfg pid cant s = .ok (r, s') ∧ CuentaBien cfg sobras pid s := by
  obtain ⟨⟨o, t⟩, ht, hresto⟩ := bind_eq_ok.1 hconteo
  obtain ⟨archivo, rfl⟩ := Conteo.recibirPagina_some hb (Or.inr rfl) ht
  obtain ⟨hrecibir, hcuenta⟩ := (Conteo.recibirPagina_eq_ok (Or.inr rfl)).1 ht
  obtain ⟨rfl, -⟩ := recibirPagina_puedeEscribir hb hrecibir
  obtain ⟨⟨a, u⟩, hu, h⟩ := bind_eq_ok.1 hresto
  have hchequear := conteo_chequearAsignacion hu
  have hcero := chequearAsignacion_cero hb hchequear
  rw [puedeEscribir, hrecibir, ok_bind]
  dsimp only at h ⊢
  rw [hchequear, ok_bind]
  dsimp only
  by_cases ha : a = 0
  · rw [if_pos ha] at h ⊢
    obtain ⟨hay, hhay, h⟩ := bind_eq_ok.1 h
    obtain ⟨hpaginas, rfl⟩ := Conteo.verSiHayPaginas_eq_ok.1 hhay
    exact ⟨h, hcuenta, fun _ => hpaginas⟩
  · rw [if_neg ha] at h ⊢
    exact ⟨h, hcuenta, fun hllega => absurd (hcero.2 hllega) ha⟩

theorem puedeEscribir_conteo {r : List UInt8} {sobras : ℕ → List UInt8} (hb : Bien cfg s)
    (hconocido : conocidoEnGlobal pid s) (hcuenta : CuentaBien cfg sobras pid s)
    (h : puedeEscribir cfg pid cant s = .ok (r, s')) :
    Conteo.puedeEscribir cfg sobras pid cant s = .ok (r, s') := by
  obtain ⟨⟨o, t⟩, ht, h⟩ := bind_eq_ok.1 h
  obtain ⟨rfl, rfl⟩ := recibirPagina_puedeEscribir hb ht
  obtain ⟨⟨a, u⟩, hu, h⟩ := bind_eq_ok.1 h
  have hcero := chequearAsignacion_cero hb hu
  rw [Conteo.puedeEscribir, (Conteo.recibirPagina_eq_ok (Or.inr rfl)).2 ⟨ht, hcuenta.archivo⟩,
    ok_bind]
  dsimp only at h ⊢
  rw [conteo_chequearAsignacion_conocido hconocido, hu, ok_bind]
  dsimp only
  by_cases ha : a = 0
  · rw [if_pos ha] at h ⊢
    rw [Conteo.verSiHayPaginas_eq_ok.2 ⟨hcuenta.paginas (hcero.1 ha), rfl⟩, ok_bind]
    exact h
  · rw [if_neg ha] at h ⊢
    exact h

end Consulta

section Concesion

variable {c : Carpincho} {cs : List Carpincho} {buffer : List UInt8} {basura : Basura}
  {r : List UInt8}

abbrev Escritura := ℤ × List UInt8 × Basura

def escrituras (pid : ℤ) (paginas : List Escritura) : List (Peticion × Basura) :=
  paginas.map fun x => (.escribir pid x.1 x.2.1, x.2.2)

def Aceptadas (cfg : Config) (pid : ℤ) (paginas : List Escritura) (s : Estado) : Prop :=
  ∃ s', run (serverProcesarMensaje cfg) (escrituras pid paginas) s =
    .ok (List.replicate paginas.length (encodeInt32 0), s')

def marcosDe (pid : ℤ) (s : Estado) : ℤ :=
  ((s.carpinchos.find? fun c => c.pid = pid).map Carpincho.cantMarcos).getD 0

theorem aceptadas_cons {x : Escritura} {paginas : List Escritura} :
    Aceptadas cfg pid (x :: paginas) s ↔ ∃ s₁,
      escribirSwap cfg pid x.1 x.2.1 x.2.2 s = .ok (encodeInt32 0, s₁) ∧
        Aceptadas cfg pid paginas s₁ := by
  constructor
  · rintro ⟨s', h⟩
    obtain ⟨⟨r, s₁⟩, hpaso, h⟩ := bind_eq_ok.1 h
    obtain ⟨⟨rs, s₂⟩, hresto, h⟩ := bind_eq_ok.1 h
    rw [List.length_cons, List.replicate_succ] at h
    cases h
    exact ⟨s₁, hpaso, _, hresto⟩
  · rintro ⟨s₁, hpaso, s', hresto⟩
    refine ⟨s', ?_⟩
    have hservidor : serverProcesarMensaje cfg (.escribir pid x.1 x.2.1, x.2.2) s =
        .ok (encodeInt32 0, s₁) := hpaso
    have hescrituras : escrituras pid (x :: paginas) =
        (.escribir pid x.1 x.2.1, x.2.2) :: escrituras pid paginas := rfl
    rw [hescrituras, run, hservidor, ok_bind, hresto]
    rfl

theorem escribirSwap_rechazada (hb : Bien cfg s) (hcaso : s.casoAsignacion = fija)
    (hno : permiteFija cfg pid (carpinchosCon cfg pid s) = false) :
    escribirSwap cfg pid pagina buffer basura s ≠ .ok (encodeInt32 0, s') := by
  intro h
  obtain ⟨i, x, hx⟩ := escribirSwap_fija hb hcaso h
  exact absurd (hx.rechaza hno).1 (by decide)

theorem carpinchosCon_cabeza (hc : s.carpinchos = c :: cs) (hpid : c.pid = pid) :
    carpinchosCon cfg pid s = s.carpinchos := by
  have hconocido : archivoDe pid s = some c.archivo := by
    rw [archivoDe_eq_find, hc, List.find?_cons_of_pos (by simpa using hpid)]
    rfl
  rw [carpinchosCon, hconocido, Option.isSome_some, if_pos rfl]

theorem escribirSwap_primero (hb : Bien cfg s) (hcaso : s.casoAsignacion = fija)
    (hc : s.carpinchos = c :: cs) (hpid : c.pid = pid) (hlibre : 0 < marcosLibres c.archivo s)
    (htope : c.cantMarcos < cfg.marcosMaximos) (pagina : ℤ) (buffer : List UInt8)
    (basura : Basura) :
    ∃ s' c' cs', escribirSwap cfg pid pagina buffer basura s = .ok (encodeInt32 0, s') ∧
      Bien cfg s' ∧ s'.casoAsignacion = fija ∧ s'.carpinchos = c' :: cs' ∧ c'.pid = pid ∧
      c'.archivo = c.archivo ∧ c'.cantMarcos = c.cantMarcos + 1 ∧
      marcosLibres c.archivo s ≤ marcosLibres c.archivo s' + 1 := by
  have hcon : carpinchosCon cfg pid s = s.carpinchos := carpinchosCon_cabeza hc hpid
  have hpermite : permiteFija cfg pid s.carpinchos = true := by
    rw [hc, permiteFija, if_pos hpid]
    exact decide_eq_true htope
  have hconocido : archivoDe pid s = some c.archivo := by
    rw [archivoDe_eq_find, hc, List.find?_cons_of_pos (by simpa using hpid)]
    rfl
  obtain ⟨s', hs'⟩ := escribirSwap_acepta_fija hb hcaso hconocido hlibre hpermite pagina buffer
    basura
  obtain ⟨i, x, hx⟩ := escribirSwap_fija hb hcaso hs'
  obtain ⟨-, -, hcarpinchos⟩ := hx.acepta (by rw [hcon]; exact hpermite)
  have hcarpinchos' : s'.carpinchos = s.carpinchos.map fun iterador =>
      if iterador.pid = pid then { iterador with cantMarcos := iterador.cantMarcos + 1 }
      else iterador := by
    rw [hcarpinchos, hcon]
    rfl
  have hservidor : serverProcesarMensaje cfg (.escribir pid pagina buffer, basura) s =
      .ok (encodeInt32 0, s') := hs'
  rw [hc, List.map_cons, if_pos hpid] at hcarpinchos'
  cases procesar_cambio hb hservidor with
  | conserva hescribir => exact absurd (hescribir pid pagina buffer rfl) (by decide)
  | guarda hcaso' hg =>
    refine ⟨s', _, _, hs', hg.bien hb, hcaso'.trans hcaso, hcarpinchos', hpid, rfl, rfl, ?_⟩
    have hmenos := hg.marcosLibres_le c.archivo
    split at hmenos <;> omega

theorem aceptadas_primero {paginas : List Escritura} (hb : Bien cfg s)
    (hcaso : s.casoAsignacion = fija) (hc : s.carpinchos = c :: cs) (hpid : c.pid = pid)
    (hlibres : paginas.length ≤ marcosLibres c.archivo s) :
    Aceptadas cfg pid paginas s ↔
      paginas = [] ∨ c.cantMarcos + paginas.length ≤ cfg.marcosMaximos := by
  induction paginas generalizing s c cs with
  | nil => exact iff_of_true ⟨s, rfl⟩ (Or.inl rfl)
  | cons x paginas ih =>
    rw [List.length_cons] at hlibres
    rw [aceptadas_cons, List.length_cons]
    simp only [List.cons_ne_nil, false_or]
    push_cast
    by_cases htope : c.cantMarcos < cfg.marcosMaximos
    · obtain ⟨s₁, c', cs', hs₁, hb₁, hcaso₁, hc₁, hpid₁, harchivo, hcant, hmenos⟩ :=
        escribirSwap_primero hb hcaso hc hpid (by omega) htope x.1 x.2.1 x.2.2
      have hresto := ih hb₁ hcaso₁ hc₁ hpid₁ (by rw [harchivo]; omega)
      rw [hs₁]
      constructor
      · rintro ⟨s₂, heq, hs₂⟩
        cases heq
        rcases hresto.1 hs₂ with rfl | hcabe
        · rw [List.length_nil]
          omega
        · omega
      · intro hcabe
        refine ⟨s₁, rfl, hresto.2 (Or.inr ?_)⟩
        omega
    · have hno : permiteFija cfg pid (carpinchosCon cfg pid s) = false := by
        rw [carpinchosCon_cabeza hc hpid, hc, permiteFija, if_pos hpid]
        exact decide_eq_false htope
      refine iff_of_false ?_ (by omega)
      rintro ⟨s₁, hs₁, -⟩
      exact escribirSwap_rechazada hb hcaso hno hs₁

def registrado (cfg : Config) (pid : ℤ) (s : Estado) : Estado :=
  { s with carpinchos := carpinchosCon cfg pid s }

theorem recibirPagina_registrado (hb : Bien cfg s)
    (hlugar : 0 < marcosLibres (archivoPedido cfg pid s) s) :
    recibirPagina cfg pid .escribir s =
      .ok (some (archivoPedido cfg pid s), registrado cfg pid s) := by
  obtain ⟨o, t, ht⟩ : ∃ o t, recibirPagina cfg pid .escribir s = .ok (o, t) := by
    cases ha : archivoDe pid s with
    | some a => exact ⟨_, _, recibirPagina_conocido ha _⟩
    | none =>
      rw [archivoPedido, ha, Option.getD_none] at hlugar
      obtain ⟨archivo, t, ht, -⟩ := (recibirPagina_nuevo hb.lugares ha).2 hlugar
      exact ⟨_, _, ht⟩
  obtain ⟨rfl, -⟩ := recibirPagina_escribir hb ht
  obtain rfl := recibirPagina_con hb ht
  exact ht

theorem registrado_bien (hb : Bien cfg s)
    (hlugar : 0 < marcosLibres (archivoPedido cfg pid s) s) :
    Bien cfg (registrado cfg pid s) ∧
      archivoDe pid (registrado cfg pid s) = some (archivoPedido cfg pid s) := by
  obtain ⟨-, hconocido, hconserva, -⟩ :=
    recibirPagina_escribir hb (recibirPagina_registrado hb hlugar)
  exact ⟨hconserva.bien hb, hconocido⟩

/-- The first write registers the carpincho before anything else. -/
theorem aceptadas_registrado {x : Escritura} {paginas : List Escritura} (hb : Bien cfg s)
    (hlugar : 0 < marcosLibres (archivoPedido cfg pid s) s) :
    Aceptadas cfg pid (x :: paginas) s ↔
      Aceptadas cfg pid (x :: paginas) (registrado cfg pid s) := by
  have hconocido := (registrado_bien hb hlugar).2
  have hescribir : escribirSwap cfg pid x.1 x.2.1 x.2.2 s =
      escribirSwap cfg pid x.1 x.2.1 x.2.2 (registrado cfg pid s) := by
    unfold escribirSwap
    rw [recibirPagina_registrado hb hlugar, recibirPagina_conocido hconocido]
  rw [aceptadas_cons, aceptadas_cons, hescribir]

theorem cantMarcos_primero (hc : carpinchosCon cfg c.pid s = c :: cs) :
    c.cantMarcos = marcosDe c.pid s := by
  unfold marcosDe
  cases hl : s.carpinchos with
  | nil =>
    have ha : archivoDe c.pid s = none := by
      simp [archivoDe, fichas, hl]
    rw [carpinchosCon, ha, Option.isSome_none, if_neg Bool.false_ne_true, hl] at hc
    rw [← (List.cons.inj hc).1]
    rfl
  | cons d ds =>
    obtain ⟨ds', hds'⟩ := @carpinchosCon_cons cfg s c.pid d ds hl
    rw [hc] at hds'
    obtain ⟨rfl, -⟩ := List.cons.inj hds'
    rw [List.find?_cons_of_pos (by simp)]
    rfl

theorem permiso_fija (hb : Bien cfg s) (hcaso : s.casoAsignacion = fija)
    (h : puedeEscribir cfg pid cant s = .ok (encodeInt32 1, s')) :
    s' = s ∧ permiteFija cfg pid s.carpinchos = true ∧
      cant ≤ marcosLibres (archivoPedido cfg pid s) s := by
  obtain ⟨⟨o, t⟩, ht, h⟩ := bind_eq_ok.1 h
  obtain ⟨rfl, rfl⟩ := recibirPagina_puedeEscribir hb ht
  obtain ⟨⟨a, u⟩, hu, h⟩ := bind_eq_ok.1 h
  obtain ⟨rfl, hpermite⟩ := chequearAsignacion_fija hcaso hu
  dsimp only at h
  have hmenos : encodeInt32 (-1) ≠ encodeInt32 1 := by decide
  split at h
  · next ha =>
    rw [Except.ok.injEq, Prod.mk.injEq, verSiHayPaginas] at h
    obtain ⟨hr, rfl⟩ := h
    refine ⟨rfl, hpermite.1 ha, ?_⟩
    by_contra hcant
    rw [if_neg hcant] at hr
    exact hmenos hr
  · rw [Except.ok.injEq, Prod.mk.injEq] at h
    exact absurd h.1 hmenos

/-- Two carpinchos in one file are too many for the loop of FIJA. -/
theorem hayHolgura_unArchivo (huno : cfg.archivosSwamp.length = 1) (c c' : Carpincho)
    (cs : List Carpincho) : hayHolgura cfg (c :: c' :: cs) = false := by
  rw [hayHolgura]
  cases hcontar : contarCarpinchos (c :: c' :: cs) cfg.archivosSwamp with
  | error e => rfl
  | ok n =>
    have hlargo := contarCarpinchos_ok.1 ⟨n, hcontar⟩
    rw [huno, List.length_cons, List.length_cons] at hlargo
    omega

/-- With one file a carpincho that is not the first has permission only as the second one, and
is then one too many. -/
theorem permiteFija_segundo (huno : cfg.archivosSwamp.length = 1)
    (hpermite : permiteFija cfg pid s.carpinchos = true) (hno : ¬ esPrimero pid s = true) :
    permiteFija cfg pid (carpinchosCon cfg pid s) = false := by
  cases hl : s.carpinchos with
  | nil =>
    rw [esPrimero, hl] at hno
    exact absurd rfl hno
  | cons c cs =>
    rw [esPrimero, hl, List.head?_cons, Option.all_some, decide_eq_true_eq] at hno
    rw [hl, permiteFija, if_neg hno] at hpermite
    cases cs with
    | cons c' cs =>
      rw [hayHolgura_unArchivo huno] at hpermite
      cases hpermite
    | nil =>
      have ha : archivoDe pid s = none := by
        simp [archivoDe, fichas, hl, Carpincho.ficha, hno]
      rw [carpinchosCon, ha, Option.isSome_none, if_neg Bool.false_ne_true, hl, List.cons_append,
        List.nil_append, permiteFija, if_neg hno]
      exact hayHolgura_unArchivo huno _ _ _

/-- A permission of FIJA, with one swap file, holds for the writes that follow exactly when
there are none, or the carpincho is the first and stays within the maximum. -/
theorem permiso_fija_iff {inicio : ℕ → ℤ} {xs : List (Peticion × Basura)} {os : List (List UInt8)}
    (huno : cfg.archivosSwamp.length = 1)
    (hrun : run (serverProcesarMensaje cfg) xs (inicial cfg inicio) = .ok (os, s))
    (hcaso : s.casoAsignacion = fija) {basura : Basura}
    (hpermiso : serverProcesarMensaje cfg (.puedeEscribir pid cant, basura) s =
      .ok (encodeInt32 1, s'))
    (paginas : List Escritura) (hcant : paginas.length = cant.toNat) :
    Aceptadas cfg pid paginas s' ↔
      cant ≤ 0 ∨ esPrimero pid s = true ∧ marcosDe pid s + cant ≤ cfg.marcosMaximos := by
  have hb := (run_ubicada hrun).bien
  obtain ⟨rfl, hpermite, hlibres⟩ := permiso_fija hb hcaso hpermiso
  cases paginas with
  | nil =>
    rw [List.length_nil] at hcant
    exact iff_of_true ⟨s', rfl⟩ (Or.inl (by omega))
  | cons x paginas =>
    rw [List.length_cons] at hcant
    have hpos : ¬ cant ≤ 0 := by omega
    rw [or_iff_right hpos]
    by_cases hprimero : esPrimero pid s' = true
    · have hlugar : 0 < marcosLibres (archivoPedido cfg pid s') s' := by omega
      rw [aceptadas_registrado hb hlugar, and_iff_right hprimero]
      obtain ⟨hb', hconocido⟩ := registrado_bien hb hlugar
      obtain ⟨c, cs, hc, rfl⟩ := carpinchosCon_primero cfg hprimero
      have harchivo : c.archivo = archivoPedido cfg c.pid s' := by
        have hfind :
            (registrado cfg c.pid s').carpinchos.find? (fun d => d.pid = c.pid) = some c := by
          rw [show (registrado cfg c.pid s').carpinchos = c :: cs from hc]
          exact List.find?_cons_of_pos (by simp)
        rw [archivoDe_eq_find, hfind] at hconocido
        exact Option.some.inj hconocido
      have hmismos : marcosLibres c.archivo (registrado cfg c.pid s') =
          marcosLibres (archivoPedido cfg c.pid s') s' := by
        rw [harchivo]
        exact marcosLibres_congr rfl _
      have hlargo : ((x :: paginas).length : ℤ) = cant := by
        rw [List.length_cons]
        omega
      rw [aceptadas_primero hb' hcaso hc rfl (by rw [hmismos, List.length_cons]; omega), hlargo,
        cantMarcos_primero hc]
      simp
    · refine iff_of_false ?_ fun h => hprimero h.1
      rw [aceptadas_cons]
      rintro ⟨s₁, hs₁, -⟩
      exact escribirSwap_rechazada hb hcaso (permiteFija_segundo huno hpermite hprimero) hs₁

/-- A carpincho that has written a page asks for two more, and writes them. -/
theorem permiso_fija_dosPaginas :
    ∃ os s s', run (serverProcesarMensaje unArchivo) [(.escribir 1 1 [65, 0], basuraCero)]
        (inicial unArchivo fun _ => 0) = .ok (os, s) ∧
      serverProcesarMensaje unArchivo (.puedeEscribir 1 2, basuraCero) s =
        .ok (encodeInt32 1, s') ∧
      Aceptadas unArchivo 1 [(2, [66, 0], basuraCero), (3, [67, 0], basuraCero)] s' := by
  obtain ⟨⟨os, s⟩, hrun, hs⟩ := exists_of_returns (show returns
    (run (serverProcesarMensaje unArchivo) [(.escribir 1 1 [65, 0], basuraCero)]
      (inicial unArchivo fun _ => 0))
    (fun r => returns (serverProcesarMensaje unArchivo (.puedeEscribir 1 2, basuraCero) r.2)
      fun x => decide (x.1 = encodeInt32 1 ∧ r.2.casoAsignacion = fija ∧
        esPrimero 1 r.2 = true ∧ marcosDe 1 r.2 = 1)) = true by decide +kernel)
  obtain ⟨⟨r, s'⟩, hpermiso, hs⟩ := exists_of_returns hs
  obtain ⟨hr, hcaso, hprimero, hmarcos⟩ := of_decide_eq_true hs
  simp only at hr hcaso hprimero hmarcos hpermiso
  subst hr
  refine ⟨os, s, s', hrun, hpermiso,
    (permiso_fija_iff rfl hrun hcaso hpermiso _ rfl).2 (Or.inr ⟨hprimero, ?_⟩)⟩
  rw [hmarcos]
  decide

/-- Two pages are granted to a carpincho that may have one, and the second is refused. -/
theorem permiso_sobre_el_maximo :
    ¬ ∀ (cfg : Config) (inicio : ℕ → ℤ) (xs : List (Peticion × Basura)) (os : List (List UInt8))
        (s s' : Estado) (pid cant : ℤ) (basura : Basura) (paginas : List Escritura),
      cfg.archivosSwamp.length = 1 →
      run (serverProcesarMensaje cfg) xs (inicial cfg inicio) = .ok (os, s) →
      s.casoAsignacion = fija →
      serverProcesarMensaje cfg (.puedeEscribir pid cant, basura) s = .ok (encodeInt32 1, s') →
      paginas.length = cant.toNat →
      (∀ x ∈ paginas, ∀ m ∈ s'.marcos, m.indice = x.1 → m.pid ≠ pid) →
      (paginas.map Prod.fst).Nodup →
      Aceptadas cfg pid paginas s' := by
  intro hclaim
  obtain ⟨⟨r, s'⟩, hpermiso, hs⟩ := exists_of_returns (show returns
    (serverProcesarMensaje { unArchivo with marcosMaximos := 1 } (.puedeEscribir 1 2, basuraCero)
      (inicial { unArchivo with marcosMaximos := 1 } fun _ => 0))
    (fun x => decide (x.1 = encodeInt32 1 ∧ (∀ m ∈ x.2.marcos, m.pid ≠ 1)) &&
      !returns (run (serverProcesarMensaje { unArchivo with marcosMaximos := 1 })
        (escrituras 1 [(2, [66, 0], basuraCero), (3, [67, 0], basuraCero)]) x.2)
        fun y => decide (y.1 = List.replicate 2 (encodeInt32 0))) = true by decide +kernel)
  rw [Bool.and_eq_true, decide_eq_true_eq, Bool.not_eq_true'] at hs
  obtain ⟨⟨hr, hnueva⟩, hrechazo⟩ := hs
  simp only at hr hnueva hrechazo hpermiso
  subst hr
  obtain ⟨t, ht⟩ := hclaim { unArchivo with marcosMaximos := 1 } (fun _ => 0) [] [] _ s' 1 2
    basuraCero [(2, [66, 0], basuraCero), (3, [67, 0], basuraCero)] rfl rfl rfl hpermiso rfl
    (fun x _ m hm _ => hnueva m hm) (by decide)
  rw [List.length_cons, List.length_cons, List.length_nil] at ht
  rw [ht] at hrechazo
  cases hrechazo

end Concesion

end Carpinchos.Swamp
