import Carpinchos.Swamp.Ranuras

/-!
# Permission to write

In GLOBAL assignment `puede_escribir` compares the pages asked for with the slots that are
free at that moment, and reserves none of them. The writes within what was granted are
accepted as long as every permission is given on slots that no earlier permission counts on.
-/

namespace Carpinchos.Swamp

open Outcome Runs Wire Slots

variable {cfg : Config} {s s' : Estado} {pid pagina : ℤ} {archivo : String} {i : ℕ}

section Cuentas

/-- The pages granted to each carpincho and those it wrote. -/
structure Cuenta where
  concedidas : ℤ → ℕ
  escritas : ℤ → ℕ

def Cuenta.cero : Cuenta := ⟨fun _ => 0, fun _ => 0⟩

def Cuenta.pendientes (c : Cuenta) (pid : ℤ) : ℕ := c.concedidas pid - c.escritas pid

def Cuenta.conceder (c : Cuenta) (pid : ℤ) (n : ℕ) : Cuenta :=
  { c with concedidas := Function.update c.concedidas pid (c.concedidas pid + n) }

def Cuenta.escribir (c : Cuenta) (pid : ℤ) : Cuenta :=
  { c with escritas := Function.update c.escritas pid (c.escritas pid + 1) }

def Cuenta.anotar (c : Cuenta) (peticion : Peticion) (respuesta : List UInt8) : Cuenta :=
  match peticion with
  | .puedeEscribir pid cantPaginas =>
    if respuesta = encodeInt32 1 then c.conceder pid cantPaginas.toNat else c
  | .escribir pid _ _ =>
    if respuesta = encodeInt32 0 then c.escribir pid else c
  | _ => c

def pasoContado (cfg : Config) (x : Peticion × Basura) (t : Estado × Cuenta) :
    Except Falla (List UInt8 × (Estado × Cuenta)) := do
  let r ← serverProcesarMensaje cfg x t.1
  .ok (r.1, (r.2, t.2.anotar x.1 r.1))

/-- The server after CASO_ASIGNACION has set GLOBAL. -/
def inicialGlobal (cfg : Config) (basura : ℕ → ℤ) : Estado :=
  { inicial cfg basura with casoAsignacion := global }

def SoloPermisos (x : Peticion × Basura) : Prop :=
  match x.1 with
  | .escribir _ _ _ => True
  | .puedeEscribir _ _ => True
  | _ => False

/-- The pages granted in a file and not written yet. -/
def reservadas (archivo : String) (s : Estado) (c : Cuenta) : ℕ :=
  (((fichas s).filter fun x => x.2 = archivo).map fun x => c.pendientes x.1).sum

/-- A carpincho writes only what it was granted. -/
def dentroDeLoConcedido (t : Estado × Cuenta) (x : Peticion × Basura) : Bool :=
  match x.1 with
  | .escribir pid _ _ => t.2.escritas pid < t.2.concedidas pid
  | _ => true

/-- A permission is given on slots that the earlier ones leave. -/
def sinDobleReserva (cfg : Config) (t : Estado × Cuenta) (x : Peticion × Basura) : Bool :=
  match x.1 with
  | .puedeEscribir pid cantPaginas =>
    let archivo := archivoPedido cfg pid t.1
    decide (marcosLibres archivo t.1 < cantPaginas) ||
      decide (reservadas archivo t.1 t.2 + cantPaginas.toNat ≤ marcosLibres archivo t.1)
  | _ => true

end Cuentas

section Sumas

variable {l : List (ℤ × String)} {f g : ℤ → ℕ}

theorem sum_pendientes_congr (archivo : String) (h : ∀ x ∈ l, f x.1 = g x.1) :
    ((l.filter fun x => x.2 = archivo).map fun x => f x.1).sum =
      ((l.filter fun x => x.2 = archivo).map fun x => g x.1).sum := by
  congr 1
  exact List.map_congr_left fun x hx => h x (List.mem_of_mem_filter hx)

theorem sum_pendientes_update (archivo : String) (hnodup : (l.map Prod.fst).Nodup) {a : String}
    (hmem : (pid, a) ∈ l) (n : ℕ) :
    ((l.filter fun x => x.2 = archivo).map fun x => Function.update f pid n x.1).sum +
        (if archivo = a then f pid else 0) =
      ((l.filter fun x => x.2 = archivo).map fun x => f x.1).sum +
        (if archivo = a then n else 0) := by
  induction l with
  | nil => cases hmem
  | cons y l ih =>
    rw [List.map_cons, List.nodup_cons] at hnodup
    rcases List.mem_cons.1 hmem with rfl | hmem
    · have hresto : ∀ x ∈ l, Function.update f pid n x.1 = f x.1 := by
        intro x hx
        refine Function.update_of_ne ?_ _ _
        rintro rfl
        exact hnodup.1 (List.mem_map.2 ⟨x, hx, rfl⟩)
      have hsuma := sum_pendientes_congr archivo hresto
      by_cases ha : archivo = a
      · subst ha
        simp only [List.filter_cons, decide_true, if_true, List.map_cons, List.sum_cons,
          Function.update_self, hsuma]
        omega
      · simp only [List.filter_cons, Ne.symm ha, decide_false, Bool.false_eq_true, if_false, ha,
          hsuma]
    · have hne : y.1 ≠ pid := by
        rintro rfl
        exact hnodup.1 (List.mem_map.2 ⟨_, hmem, rfl⟩)
      have hrec := ih hnodup.2 hmem
      simp only [List.filter_cons]
      split
      · simp only [List.map_cons, List.sum_cons, Function.update_of_ne hne]
        omega
      · exact hrec

end Sumas

section Invariante

variable {c c' : Cuenta} {a : String} {r : List UInt8} {basura : Basura} {cant : ℤ}

/-- Every file has a free slot for each page granted and not written yet. -/
structure Cubierta (cfg : Config) (s : Estado) (c : Cuenta) : Prop where
  bien : Bien cfg s
  caso : s.casoAsignacion = global
  desconocidos : ∀ pid, archivoDe pid s = none → c.pendientes pid = 0
  cubre : ∀ archivo, reservadas archivo s c ≤ marcosLibres archivo s

theorem pendientes_conceder (c : Cuenta) (pid : ℤ) (n : ℕ) :
    (c.conceder pid n).pendientes =
      Function.update c.pendientes pid (c.concedidas pid + n - c.escritas pid) := by
  funext p
  by_cases hp : p = pid
  · subst hp
    simp [Cuenta.pendientes, Cuenta.conceder]
  · simp [Cuenta.pendientes, Cuenta.conceder, hp]

theorem pendientes_escribir (c : Cuenta) (pid : ℤ) :
    (c.escribir pid).pendientes =
      Function.update c.pendientes pid (c.concedidas pid - (c.escritas pid + 1)) := by
  funext p
  by_cases hp : p = pid
  · subst hp
    simp [Cuenta.pendientes, Cuenta.escribir]
  · simp [Cuenta.pendientes, Cuenta.escribir, hp]

theorem mem_fichas (h : archivoDe pid s = some a) : (pid, a) ∈ fichas s := by
  obtain ⟨⟨p, b⟩, hfind, rfl⟩ := Option.map_eq_some_iff.1 h
  have hp : p = pid := by simpa using List.find?_some hfind
  exact hp ▸ List.mem_of_find?_eq_some hfind

theorem pendientes_le_reservadas (h : archivoDe pid s = some a) :
    c.pendientes pid ≤ reservadas a s c :=
  List.le_sum_of_mem (List.mem_map.2 ⟨(pid, a), List.mem_filter.2 ⟨mem_fichas h, by simp⟩, rfl⟩)

theorem marcosLibres_congr (h : s'.marcos = s.marcos) (archivo : String) :
    marcosLibres archivo s' = marcosLibres archivo s := by
  rw [marcosLibres, h, marcosLibres]

theorem reservadas_registra (h : Registra s s')
    (hnadie : ∀ pid, archivoDe pid s = none → c.pendientes pid = 0) (archivo : String) :
    reservadas archivo s' c = reservadas archivo s c := by
  cases h with
  | igual h => rw [reservadas, h, reservadas]
  | nuevo pid a hpid h =>
    rw [reservadas, h, List.filter_append, List.map_append, List.sum_append, reservadas,
      Nat.add_eq_left]
    by_cases ha : a = archivo <;> simp [ha, hnadie pid hpid]

theorem desconocidos_registra (h : Registra s s')
    (hnadie : ∀ pid, archivoDe pid s = none → c.pendientes pid = 0) :
    ∀ pid, archivoDe pid s' = none → c.pendientes pid = 0 := by
  intro pid hpid
  refine hnadie pid ?_
  cases ha : archivoDe pid s with
  | none => rfl
  | some a =>
    rw [h.archivoDe ha] at hpid
    cases hpid

theorem Cubierta.conserva (h : Conserva s s') (hcaso : s'.casoAsignacion = s.casoAsignacion)
    (hc : Cubierta cfg s c) : Cubierta cfg s' c where
  bien := h.bien hc.bien
  caso := hcaso.trans hc.caso
  desconocidos := desconocidos_registra h.registra hc.desconocidos
  cubre := fun archivo => by
    rw [reservadas_registra h.registra hc.desconocidos, marcosLibres_congr h.marcos]
    exact hc.cubre archivo

/-- In GLOBAL a write of a carpincho with something pending is accepted. -/
theorem Cubierta.escribir (hc : Cubierta cfg s c) (hpid : c.escritas pid < c.concedidas pid)
    (pagina : ℤ) (buffer : List UInt8) (basura : Basura) :
    ∃ s', serverProcesarMensaje cfg (.escribir pid pagina buffer, basura) s =
      .ok (encodeInt32 0, s') := by
  have hpendientes : 0 < c.pendientes pid := Nat.sub_pos_of_lt hpid
  obtain ⟨a, ha⟩ : ∃ a, archivoDe pid s = some a := by
    cases ha : archivoDe pid s with
    | none => exact absurd (hc.desconocidos pid ha) hpendientes.ne'
    | some a => exact ⟨a, rfl⟩
  have hlibres : 0 < marcosLibres a s :=
    hpendientes.trans_le ((pendientes_le_reservadas ha).trans (hc.cubre a))
  obtain ⟨m, hm⟩ : ∃ m, hayEspacioArchivo cfg (some a) s = .ok (some m) := by
    have hspec := hayEspacioArchivo_spec hc.bien a
    cases hhay : hayEspacioArchivo cfg (some a) s with
    | error e =>
      rw [hhay] at hspec
      exact absurd hspec hlibres.ne'
    | ok libre =>
      rw [hhay] at hspec
      obtain ⟨-, x, rfl, -⟩ := hspec
      exact ⟨x.marco, rfl⟩
  have hno : ¬ global = fija := by decide
  have hasignacion : chequearAsignacion cfg pid s = .ok (0, s) := by
    simp only [chequearAsignacion, hc.caso, if_neg hno, if_true, recibirPagina_conocido ha,
      ok_bind, hm]
  simp only [serverProcesarMensaje, escribirSwap, recibirPagina_conocido ha, ok_bind, hm,
    hasignacion, if_true]
  exact ⟨_, rfl⟩

theorem archivoDe_archivoPedido (hb : Bien cfg s) (hcaso : s.casoAsignacion = global)
    {asignacion : ℤ} (h : chequearAsignacion cfg pid s = .ok (asignacion, s')) :
    asignacion = 0 ∧ Conserva s s' ∧ s'.casoAsignacion = global ∧
      archivoDe pid s' = some (archivoPedido cfg pid s) := by
  have hno : ¬ global = fija := by decide
  simp only [chequearAsignacion, hcaso, if_neg hno, if_true] at h
  obtain ⟨⟨archivo, t⟩, ht, h⟩ := bind_eq_ok.1 h
  obtain ⟨rfl, ha, hconserva, hcaso'⟩ := recibirPagina_escribir hb ht
  obtain ⟨libre, hlibre, h⟩ := bind_eq_ok.1 h
  obtain ⟨j, x, rfl, -⟩ := (hayEspacioArchivo_spec (hconserva.bien hb) _).post_of_eq hlibre
  cases h
  exact ⟨rfl, hconserva, hcaso'.trans hcaso, ha⟩

/-- In GLOBAL a permission is given exactly when the file has so many free slots. -/
theorem puedeEscribir_global (hb : Bien cfg s) (hcaso : s.casoAsignacion = global)
    (h : puedeEscribir cfg pid cant s = .ok (r, s')) :
    Conserva s s' ∧ s'.casoAsignacion = global ∧
      archivoDe pid s' = some (archivoPedido cfg pid s) ∧
      r = encodeInt32 (if cant ≤ marcosLibres (archivoPedido cfg pid s) s then 1 else -1) := by
  obtain ⟨⟨archivo, t⟩, ht, h⟩ := bind_eq_ok.1 h
  obtain ⟨rfl, rfl⟩ := recibirPagina_puedeEscribir hb ht
  obtain ⟨⟨asignacion, u⟩, hu, h⟩ := bind_eq_ok.1 h
  obtain ⟨rfl, hconserva, hcaso', ha⟩ := archivoDe_archivoPedido hb hcaso hu
  cases h
  refine ⟨hconserva, hcaso', ha, ?_⟩
  rw [verSiHayPaginas, marcosLibres_congr hconserva.marcos]
  by_cases hcant : cant ≤ marcosLibres (archivoPedido cfg pid t) t <;> simp [hcant]

theorem Cubierta.puedeEscribir (hc : Cubierta cfg s c)
    (hguarda : sinDobleReserva cfg (s, c) (.puedeEscribir pid cant, basura) = true)
    (h : puedeEscribir cfg pid cant s = .ok (r, s')) :
    Cubierta cfg s' (c.anotar (.puedeEscribir pid cant) r) := by
  obtain ⟨hconserva, hcaso, ha, rfl⟩ := puedeEscribir_global hc.bien hc.caso h
  have hc' := hc.conserva hconserva (hcaso.trans hc.caso.symm)
  by_cases hcant : cant ≤ marcosLibres (archivoPedido cfg pid s) s
  · rw [if_pos hcant, Cuenta.anotar, if_pos rfl]
    have hreserva : reservadas (archivoPedido cfg pid s) s c + cant.toNat ≤
        marcosLibres (archivoPedido cfg pid s) s := by
      simp only [sinDobleReserva, Bool.or_eq_true, decide_eq_true_eq] at hguarda
      exact hguarda.resolve_left (by omega)
    refine ⟨hc'.bien, hc'.caso, fun p hp => ?_, fun archivo => ?_⟩
    · rw [pendientes_conceder, Function.update_of_ne]
      · exact hc'.desconocidos p hp
      · rintro rfl
        rw [ha] at hp
        cases hp
    · have hsuma := sum_pendientes_update (f := c.pendientes) archivo hc'.bien.pids
        (mem_fichas ha) (c.concedidas pid + cant.toNat - c.escritas pid)
      have hantes := hc.cubre archivo
      have hregistra := reservadas_registra hconserva.registra hc.desconocidos archivo
      rw [marcosLibres_congr hconserva.marcos, reservadas, pendientes_conceder]
      unfold reservadas at hantes hreserva hregistra
      have hpend : c.pendientes pid = c.concedidas pid - c.escritas pid := rfl
      by_cases harchivo : archivo = archivoPedido cfg pid s
      · subst harchivo
        rw [if_pos rfl, if_pos rfl] at hsuma
        omega
      · rw [if_neg harchivo, if_neg harchivo] at hsuma
        omega
  · rw [if_neg hcant, Cuenta.anotar, if_neg (by decide)]
    exact hc'

theorem Guarda.marcosLibres_le {bytes : List UInt8} {m : Marco}
    (h : Guarda cfg pid pagina bytes i m s s') (archivo : String) :
    marcosLibres archivo s ≤
      marcosLibres archivo s' + if archivo = m.archivo then 1 else 0 := by
  obtain ⟨hlt, hm⟩ := List.getElem?_eq_some_iff.1 h.hueco
  have hbound := List.boole_getElem_le_countP
    (p := fun m : Marco => decide (m.archivo = archivo ∧ m.indice = -1)) hlt
  rw [marcosLibres, marcosLibres, h.marcos, List.countP_set hlt]
  rw [hm] at hbound ⊢
  by_cases ha : archivo = m.archivo
  · subst ha
    simp only [if_true]
    split at hbound <;> split <;> split <;> omega
  · have hno : ¬ m.archivo = archivo := fun h => ha h.symm
    simp [hno]

theorem Cubierta.escribir_paso {buffer : List UInt8} (hc : Cubierta cfg s c)
    (hpid : c.escritas pid < c.concedidas pid)
    (h : serverProcesarMensaje cfg (.escribir pid pagina buffer, basura) s = .ok (r, s')) :
    Cubierta cfg s' (c.anotar (.escribir pid pagina buffer) r) := by
  obtain ⟨s₁, h₁⟩ := hc.escribir hpid pagina buffer basura
  rw [h₁] at h
  cases h
  rw [Cuenta.anotar, if_pos rfl]
  cases procesar_cambio hc.bien h₁ with
  | conserva hescribir _ _ _ =>
    have habsurdo := hescribir pid pagina buffer rfl
    exact absurd habsurdo (by decide)
  | guarda hcaso hg =>
    have hbien := hg.bien hc.bien
    have hdesconocidos := desconocidos_registra hg.registra hc.desconocidos
    refine ⟨hbien, hcaso.trans hc.caso, fun p hp => ?_, fun archivo => ?_⟩
    · rw [pendientes_escribir, Function.update_of_ne]
      · exact hdesconocidos p hp
      · rintro rfl
        rw [hg.conocido] at hp
        cases hp
    · have hsuma := sum_pendientes_update (f := c.pendientes) archivo hbien.pids
        (mem_fichas hg.conocido) (c.concedidas pid - (c.escritas pid + 1))
      have hantes := hc.cubre archivo
      have hlibres := hg.marcosLibres_le archivo
      have hregistra := reservadas_registra hg.registra hc.desconocidos archivo
      rw [reservadas, pendientes_escribir]
      unfold reservadas at hantes hregistra
      have hpend : c.pendientes pid = c.concedidas pid - c.escritas pid := rfl
      split at hlibres
      · next harchivo =>
        rw [if_pos harchivo, if_pos harchivo] at hsuma
        omega
      · next harchivo =>
        rw [if_neg harchivo, if_neg harchivo] at hsuma
        omega

theorem inicialGlobal_cubierta (cfg : Config) (basura : ℕ → ℤ) :
    Cubierta cfg (inicialGlobal cfg basura) Cuenta.cero := by
  have hb := inicial_bien cfg basura
  refine ⟨⟨hb.lugares, hb.conocidos, hb.pids⟩, rfl, fun _ _ => rfl, fun archivo => ?_⟩
  exact Nat.zero_le _

end Invariante

section Corridas

variable {t t' : Estado × Cuenta} {r : List UInt8} {x : Peticion × Basura}

theorem pasoContado_cubierta (hc : Cubierta cfg t.1 t.2) (hx : SoloPermisos x)
    (hdentro : dentroDeLoConcedido t x = true) (hdoble : sinDobleReserva cfg t x = true)
    (h : pasoContado cfg x t = .ok (r, t')) : Cubierta cfg t'.1 t'.2 := by
  obtain ⟨s, c⟩ := t
  obtain ⟨⟨r', s'⟩, hpaso, h⟩ := bind_eq_ok.1 h
  cases h
  obtain ⟨peticion, basura⟩ := x
  cases peticion with
  | leer pid pagina => exact hx.elim
  | casoAsignacion caso => exact hx.elim
  | puedeEscribir pid cant => exact hc.puedeEscribir hdoble hpaso
  | escribir pid pagina buffer => exact hc.escribir_paso (of_decide_eq_true hdentro) hpaso

/-- When no permission counts on slots that another one was given for, every write within
what was granted is accepted. -/
theorem escrituras_aceptadas {basura : ℕ → ℤ} {xs : List (Peticion × Basura)} {c : Cuenta}
    (hxs : ∀ x ∈ xs, SoloPermisos x)
    (h : Reaches (pasoContado cfg)
      (fun t x => dentroDeLoConcedido t x && sinDobleReserva cfg t x)
      (inicialGlobal cfg basura, Cuenta.cero) xs (s, c))
    (hpid : c.escritas pid < c.concedidas pid) (pagina : ℤ) (buffer : List UInt8)
    (memoria : Basura) :
    ∃ s', serverProcesarMensaje cfg (.escribir pid pagina buffer, memoria) s =
      .ok (encodeInt32 0, s') := by
  have hpaso : ∀ (t : Estado × Cuenta) x o t', Cubierta cfg t.1 t.2 →
      (SoloPermisos x ∧ (dentroDeLoConcedido t x && sinDobleReserva cfg t x) = true) →
      pasoContado cfg x t = .ok (o, t') → Cubierta cfg t'.1 t'.2 := by
    intro t x o t' hc hx hok
    obtain ⟨hdentro, hdoble⟩ := Bool.and_eq_true_iff.1 hx.2
    exact pasoContado_cubierta hc hx.1 hdentro hdoble hok
  have hc : Cubierta cfg s c := (h.and_mem hxs).invariant hpaso (inicialGlobal_cubierta cfg basura)
  exact hc.escribir hpid pagina buffer memoria

def dosRanuras : Config := { unArchivo with tamanioSwamp := 128 }

def memoriaCero : Basura := ⟨fun _ => 0, fun _ => 0⟩

/-- One page is granted to each of two carpinchos, and the second one writes last. -/
theorem escrituras_aceptadas_deDos :
    ∃ s c, Reaches (pasoContado dosRanuras)
        (fun t x => dentroDeLoConcedido t x && sinDobleReserva dosRanuras t x)
        (inicialGlobal dosRanuras fun _ => 0, Cuenta.cero)
        [(.puedeEscribir 1 1, memoriaCero), (.puedeEscribir 2 1, memoriaCero),
          (.escribir 1 1 [65, 0], memoriaCero)] (s, c) ∧
      c.escritas 2 < c.concedidas 2 ∧
      ∃ s', serverProcesarMensaje dosRanuras (.escribir 2 1 [66, 0], memoriaCero) s =
        .ok (encodeInt32 0, s') := by
  obtain ⟨⟨s, c⟩, hs, hpid⟩ := Option.any_eq_true _ _ |>.1 (show (guardedRun
    (pasoContado dosRanuras)
    (fun t x => dentroDeLoConcedido t x && sinDobleReserva dosRanuras t x)
    [(.puedeEscribir 1 1, memoriaCero), (.puedeEscribir 2 1, memoriaCero),
      (.escribir 1 1 [65, 0], memoriaCero)]
    (inicialGlobal dosRanuras fun _ => 0, Cuenta.cero)).any
    (fun t => decide (t.2.escritas 2 < t.2.concedidas 2)) = true by decide +kernel)
  have hreaches := reaches_of_guardedRun hs
  exact ⟨s, c, hreaches, of_decide_eq_true hpid,
    escrituras_aceptadas (by simp [SoloPermisos]) hreaches (of_decide_eq_true hpid) _ _ _⟩

/-- Two carpinchos are granted the same two slots; the first one takes both. -/
theorem ranuras_concedidas_dos_veces :
    ¬ ∀ (cfg : Config) (basura : ℕ → ℤ) (xs : List (Peticion × Basura)) (s : Estado) (c : Cuenta)
        (pid pagina : ℤ) (buffer : List UInt8) (memoria : Basura),
      (∀ x ∈ xs, SoloPermisos x) →
      Reaches (pasoContado cfg) (fun t x => dentroDeLoConcedido t x = true)
        (inicialGlobal cfg basura, Cuenta.cero) xs (s, c) →
      c.escritas pid < c.concedidas pid →
      ∃ s', serverProcesarMensaje cfg (.escribir pid pagina buffer, memoria) s =
        .ok (encodeInt32 0, s') := by
  intro hclaim
  obtain ⟨⟨s, c⟩, hs, hfin⟩ := Option.any_eq_true _ _ |>.1 (show (guardedRun
    (pasoContado dosRanuras) dentroDeLoConcedido
    [(.puedeEscribir 1 2, memoriaCero), (.puedeEscribir 2 2, memoriaCero),
      (.escribir 1 1 [65, 0], memoriaCero), (.escribir 1 2 [66, 0], memoriaCero)]
    (inicialGlobal dosRanuras fun _ => 0, Cuenta.cero)).any
    (fun t => decide (t.2.escritas 2 < t.2.concedidas 2) &&
      !(serverProcesarMensaje dosRanuras (.escribir 2 1 [67, 0], memoriaCero) t.1).isOk) = true
    by decide +kernel)
  obtain ⟨hpid, hrechazo⟩ := Bool.and_eq_true_iff.1 hfin
  obtain ⟨s', hs'⟩ := hclaim dosRanuras _ _ s c 2 1 [67, 0] memoriaCero (by simp [SoloPermisos])
    (reaches_of_guardedRun hs) (of_decide_eq_true hpid)
  rw [hs'] at hrechazo
  cases hrechazo

end Corridas

end Carpinchos.Swamp
