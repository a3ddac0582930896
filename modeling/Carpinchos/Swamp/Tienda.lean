import Carpinchos.Swamp.Contenido

/-!
# What SWAmP stores and gives back

A store keeps, for each page, what was last written of it, until it is read. SWAmP with one
file does so as long as a page is written only when no slot holds it, the bytes copied stay off
other slots, and `fgets` can read the buffer as one line.
-/

namespace Carpinchos.Swamp

open Outcome Runs Wire

variable {cfg : Config} {s s' : Estado} {pid pagina : ℤ} {i : ℕ} {buffer : List UInt8}

section Definiciones

abbrev Tienda := ℤ × ℤ → Option (List UInt8)

/-- What an answered request puts into the store, or takes out of it. -/
def Tienda.anotar (f : Tienda) (peticion : Peticion) (respuesta : List UInt8) : Tienda :=
  match peticion with
  | .escribir pid pagina buffer =>
    if respuesta = encodeInt32 0 then Function.update f (pid, pagina) (some buffer) else f
  | .leer pid pagina => Function.update f (pid, pagina) none
  | _ => f

def pasoAnotado (cfg : Config) (x : Peticion × Basura) (t : Estado × Tienda) :
    Except Falla (List UInt8 × (Estado × Tienda)) := do
  let r ← serverProcesarMensaje cfg x t.1
  .ok (r.1, (r.2, t.2.anotar x.1 r.1))

/-- SWAmP holds the pages of the store and nothing else, and a read of one of them is answered
with what the store holds. -/
structure EsTienda (cfg : Config) (t : Estado × Tienda) : Prop where
  almacena : Almacena cfg t.1
  paginas : ∀ pid pagina, 0 ≤ pagina →
    ((conseguirMarco pid pagina t.1).isSome ↔ (t.2 (pid, pagina)).isSome)
  devuelve : ∀ pid pagina buffer, 0 ≤ pagina → t.2 (pid, pagina) = some buffer → ∀ basura,
    ∃ contenido s', leerSwap cfg pid pagina basura t.1 =
        .ok (respuestaConPagina pid pagina cfg.tamanioPagina contenido, s') ∧
      contenido.length = cfg.tamanioPagina ∧ buffer <+: contenido

/-- The buffer is copied whole and read back as a line: nothing but a zero may follow a newline,
or the last byte but one of the page. -/
def legible (cfg : Config) (buffer : List UInt8) : Bool :=
  let linea := hastaNuevaLinea (buffer.take (cfg.tamanioPagina - 1))
  decide (buffer.length ≤ bytesCopiados) &&
    (decide (buffer = linea) || decide (buffer = linea ++ [0]))

/-- A write of a page that no slot holds, off the other pages, of a buffer that can be read
back. -/
def guardaBien (cfg : Config) (t : Estado × Tienda) (x : Peticion × Basura) : Bool :=
  resguarda cfg t.1 x &&
    match x.1 with
    | .escribir _ _ buffer => legible cfg buffer
    | _ => true

end Definiciones

section Lineas

theorem hastaNuevaLinea_ne_nil {l : List UInt8} (h : l ≠ []) : hastaNuevaLinea l ≠ [] := by
  cases l with
  | nil => exact absurd rfl h
  | cons c cs =>
    unfold hastaNuevaLinea
    split <;> exact List.cons_ne_nil _ _

theorem hastaNuevaLinea_append (l l' : List UInt8) :
    hastaNuevaLinea (l ++ l') =
      if (10 : UInt8) ∈ l then hastaNuevaLinea l else l ++ hastaNuevaLinea l' := by
  induction l with
  | nil => rfl
  | cons c cs ih =>
    rw [List.cons_append, hastaNuevaLinea, hastaNuevaLinea, ih]
    by_cases hc : c = 10
    · simp [hc]
    · have hno : (10 : UInt8) ≠ c := fun h => hc h.symm
      by_cases hcs : (10 : UInt8) ∈ cs <;> simp [hc, hno, hcs]

theorem hastaNuevaLinea_of_notMem {l : List UInt8} (h : (10 : UInt8) ∉ l) :
    hastaNuevaLinea l = l := by
  have happend := hastaNuevaLinea_append l []
  rw [List.append_nil, if_neg h, hastaNuevaLinea, List.append_nil] at happend
  exact happend

/-- What `fgets` makes of a text that begins with the part of the buffer that it can read. -/
theorem prefix_fgets {n : ℕ} {resto viejo sigue : List UInt8} (hn : 0 < n)
    (hresto : resto.take (n - 1) = buffer.take (n - 1) ++ sigue)
    (hvacia : n ≠ 1 → resto.take (n - 1) ≠ [])
    (hentera : n - 1 < buffer.length → sigue = [])
    (hlegible : buffer = hastaNuevaLinea (buffer.take (n - 1)) ∨
      buffer = hastaNuevaLinea (buffer.take (n - 1)) ++ [0]) :
    buffer <+: fgets n resto viejo := by
  have hfgets : fgets n resto viejo =
      hastaNuevaLinea (resto.take (n - 1)) ++ ([0] ++ viejo.drop
        (hastaNuevaLinea (resto.take (n - 1)) ++ [0]).length) := by
    rw [fgets, if_neg, pisar, List.append_assoc]
    rintro ⟨hnada, huno⟩
    exact hastaNuevaLinea_ne_nil (hvacia huno) hnada
  rw [hfgets, hresto, hastaNuevaLinea_append]
  split
  · rcases hlegible with hlinea | hlinea
    · exact ⟨_, congrArg (· ++ _) hlinea⟩
    · rw [← List.append_assoc]
      exact ⟨_, congrArg (· ++ _) hlinea⟩
  · next hno =>
    rw [hastaNuevaLinea_of_notMem hno] at hlegible
    rcases hlegible with hlinea | hlinea
    · rw [List.append_assoc]
      exact ⟨_, congrArg (· ++ _) hlinea⟩
    · -- the buffer fills the page, so that nothing else is read
      have hlargo := congrArg List.length hlinea
      rw [List.length_append, List.length_take, List.length_singleton] at hlargo
      rw [hentera (by omega), hastaNuevaLinea, List.append_nil, ← List.append_assoc]
      exact ⟨_, congrArg (· ++ _) hlinea⟩

end Lineas

section Invariante

variable {f : Tienda} {r : List UInt8} {x : Peticion × Basura}

/-- The last write of each page of the store was one of what the store holds, and it can be
read back. -/
structure Anotada (cfg : Config) (s : Estado) (f : Tienda) : Prop where
  fiel : Fiel cfg s
  dentro : ∀ k i, ranura s i = some k → cfg.tamanioPagina * i + bytesCopiados ≤ cfg.tamanioSwamp
  escrita : ∀ k i bytes, Escrita cfg s.accesos k i bytes →
    ∃ buffer basura, f k = some buffer ∧ bytes = bytesDesde buffer basura ∧
      legible cfg buffer = true
  tiene : ∀ k buffer, f k = some buffer → ∃ i bytes, Escrita cfg s.accesos k i bytes

theorem inicial_anotada (cfg : Config) (basura : ℕ → ℤ) :
    Anotada cfg (inicial cfg basura) fun _ => none := by
  have hfiel := inicial_fiel cfg basura
  refine ⟨hfiel, fun k i hi => ?_, fun k i bytes h => ?_, fun k buffer h => by cases h⟩
  · obtain ⟨bytes, h⟩ := (hfiel.ultimo k i).1 hi
    cases h
  · cases h

theorem Conserva.anotada (h : Conserva s s') (ha : Anotada cfg s f) : Anotada cfg s' f where
  fiel := h.fiel ha.fiel
  dentro := by
    rw [ranura_congr h.marcos]
    exact ha.dentro
  escrita := by
    rw [h.accesos]
    exact ha.escrita
  tiene := by
    rw [h.accesos]
    exact ha.tiene

theorem Anotada.nadie (h : Anotada cfg s f) {k : ℤ × ℤ} (hk : ∀ i, ranura s i ≠ some k) :
    f k = none := by
  cases hf : f k with
  | none => rfl
  | some buffer =>
    obtain ⟨i, bytes, hescrita⟩ := h.tiene k buffer hf
    exact absurd ((h.fiel.ultimo k i).2 ⟨bytes, hescrita⟩) (hk i)

theorem Anotada.sinPagina (h : Anotada cfg s f) (hpagina : pagina ≠ -1)
    (hno : archivoDe pid s = none ∨ conseguirMarco pid pagina s = none) :
    Function.update f (pid, pagina) none = f := by
  refine Function.update_eq_self_iff.2 (h.nadie fun i hi => ?_).symm
  rcases hno with hno | hno
  · obtain ⟨archivo, harchivo⟩ := h.fiel.bien.conocido hi
    rw [hno] at harchivo
    cases harchivo
  · exact (conseguirMarco_eq_none hpagina).1 hno ⟨i, hi⟩

theorem anotada_sirve {archivo : String} (h : Sirve cfg pid pagina i archivo s s')
    (huno : cfg.archivosSwamp.length = 1) (hpagina : pagina ≠ -1) (ha : Anotada cfg s f) :
    Anotada cfg s' (Function.update f (pid, pagina) none) := by
  have hescrita := escrita_sirve h
  have hfiel := h.fiel ha.fiel huno hpagina
  refine ⟨hfiel, fun k j hj => ?_, fun k j bytes hk => ?_, fun k buffer hk => ?_⟩
  · obtain ⟨bytes, hk⟩ := (hfiel.ultimo k j).1 hj
    exact ha.dentro k j ((ha.fiel.ultimo k j).2 ⟨bytes, ((hescrita k j bytes).1 hk).2⟩)
  · obtain ⟨hne, hk⟩ := (hescrita k j bytes).1 hk
    rw [Function.update_of_ne hne]
    exact ha.escrita k j bytes hk
  · have hne : k ≠ (pid, pagina) := by
      rintro rfl
      rw [Function.update_self] at hk
      cases hk
    rw [Function.update_of_ne hne] at hk
    obtain ⟨j, bytes, hj⟩ := ha.tiene k buffer hk
    exact ⟨j, bytes, (hescrita k j bytes).2 ⟨hne, hj⟩⟩

theorem anotada_guarda {basura : ℕ → UInt8} {m : Marco}
    (h : Guarda cfg pid pagina (bytesDesde buffer basura) i m s s')
    (huno : cfg.archivosSwamp.length = 1) (hpagina : pagina ≠ -1)
    (hno : conseguirMarco pid pagina s = none) (hpisa : noPisa cfg s = true)
    (hlegible : legible cfg buffer = true) (ha : Anotada cfg s f) :
    Anotada cfg s' (Function.update f (pid, pagina) (some buffer)) := by
  have hescrita := escrita_guarda h ha.fiel.bien huno
  have hfiel := h.fiel ha.fiel huno hpagina (by simp [bytesDesde]) hno hpisa
  refine ⟨hfiel, fun k j hj => ?_, fun k j bytes hk => ?_, fun k buffer' hk => ?_⟩
  · obtain ⟨bytes, hk⟩ := (hfiel.ultimo k j).1 hj
    rcases (hescrita k j bytes).1 hk with ⟨-, rfl, -⟩ | ⟨-, hk⟩
    · exact ((noPisa_iff h ha.fiel.bien huno).1 hpisa).1
    · exact ha.dentro k j ((ha.fiel.ultimo k j).2 ⟨bytes, hk⟩)
  · rcases (hescrita k j bytes).1 hk with ⟨rfl, -, rfl⟩ | ⟨hne, hk⟩
    · rw [Function.update_self]
      exact ⟨buffer, basura, rfl, rfl, hlegible⟩
    · rw [Function.update_of_ne hne]
      exact ha.escrita k j bytes hk
  · by_cases hkey : k = (pid, pagina)
    · exact ⟨i, bytesDesde buffer basura, (hescrita _ _ _).2 (Or.inl ⟨hkey, rfl, rfl⟩)⟩
    · rw [Function.update_of_ne hkey] at hk
      obtain ⟨j, bytes, hj⟩ := ha.tiene k buffer' hk
      exact ⟨j, bytes, (hescrita k j bytes).2 (Or.inr ⟨hkey, hj⟩)⟩

theorem procesar_anotada (huno : cfg.archivosSwamp.length = 1) (ha : Anotada cfg s f)
    (hx : Paginada x) (hguarda : guardaBien cfg (s, f) x = true)
    (h : serverProcesarMensaje cfg x s = .ok (r, s')) : Anotada cfg s' (f.anotar x.1 r) := by
  cases procesar_cambio ha.fiel.bien h with
  | conserva hescribir hleer _ hc =>
    have ha' := hc.anotada ha
    obtain ⟨peticion, basura⟩ := x
    cases peticion with
    | escribir pid pagina buffer =>
      rw [hescribir pid pagina buffer rfl, Tienda.anotar, if_neg (by decide)]
      exact ha'
    | leer pid pagina =>
      have hpagina : 0 ≤ pagina := hx
      rw [Tienda.anotar, ha.sinPagina (by omega) (hleer pid pagina rfl)]
      exact ha'
    | puedeEscribir pid cant => exact ha'
    | casoAsignacion caso => exact ha'
  | sirve _ hs =>
    have hpagina := hx
    simp only [Paginada] at hpagina
    exact anotada_sirve hs huno (by omega) ha
  | guarda _ hg =>
    have hpagina := hx
    simp only [Paginada] at hpagina
    simp only [guardaBien, resguarda, Bool.and_eq_true, Option.isNone_iff_eq_none] at hguarda
    rw [Tienda.anotar, if_pos rfl]
    exact anotada_guarda hg huno (by omega) hguarda.1.1 hguarda.1.2 hguarda.2 ha

theorem Anotada.prefix_contenido (ha : Anotada cfg s f) (huno : cfg.archivosSwamp.length = 1)
    {archivo : String} (hf : f (pid, pagina) = some buffer) (hi : ranura s i = some (pid, pagina))
    (harchivo : archivoDe pid s = some archivo) (basura : Basura) :
    buffer <+: contenidoServido cfg archivo i basura s := by
  obtain ⟨bytes, hescrita⟩ := (ha.fiel.ultimo _ i).1 hi
  obtain ⟨buffer', viejo, hf', rfl, hlegible⟩ := ha.escrita _ i bytes hescrita
  obtain rfl : buffer = buffer' := Option.some.inj (hf.symm.trans hf')
  simp only [legible, Bool.and_eq_true, Bool.or_eq_true, decide_eq_true_eq] at hlegible
  obtain ⟨hcorto, hlinea⟩ := hlegible
  have hdentro := ha.dentro _ i hi
  obtain ⟨m, hm, huso, hk⟩ := exists_of_ranura hi
  have hcabeza : archivo = cfg.archivosSwamp.head cfg.archivos_ne := by
    have hconocido := ha.fiel.bien.conocidos m (List.mem_of_getElem? hm) huso
    rw [(Prod.mk.inj hk).1, harchivo, (ha.fiel.bien.unico huno hm).1] at hconocido
    exact Option.some.inj hconocido
  have hpos := cfg.pagina_pos
  have hlugar : i * cfg.tamanioPagina + bytesCopiados ≤ cfg.tamanioSwamp := by
    rw [Nat.mul_comm]
    exact hdentro
  -- what the slot has in common with the buffer
  have hcomun : (((bytesDe cfg archivo s).drop (i * cfg.tamanioPagina)).take
      (cfg.tamanioPagina - 1)).take buffer.length = buffer.take (cfg.tamanioPagina - 1) := by
    refine List.ext_getElem? fun j => ?_
    rw [List.getElem?_take, List.getElem?_take, List.getElem?_take]
    by_cases hj : j < buffer.length
    · rw [if_pos hj]
      by_cases hjP : j < cfg.tamanioPagina - 1
      · have hguardado := ha.fiel.contenido _ i _ hescrita j (lt_min (by omega) (by omega))
        have hcopiado : (bytesDesde buffer viejo).getD j 0 = buffer[j] := by
          rw [bytesDesde, List.getD_eq_getElem?_getD, List.getElem?_map,
            List.getElem?_range (by omega), Option.map_some, Option.getD_some,
            List.getD_eq_getElem?_getD, List.getElem?_eq_getElem hj, Option.getD_some]
        rw [if_pos hjP, if_pos hjP, List.getElem?_drop, bytesDe, List.getElem?_map,
          List.getElem?_range (by omega), Option.map_some, List.getElem?_eq_getElem hj,
          Nat.mul_comm i, hcabeza, hguardado, hcopiado]
      · rw [if_neg hjP, if_neg hjP]
    · rw [if_neg hj, List.getElem?_eq_none (Nat.le_of_not_lt hj), ite_self]
  have hlargo : ((bytesDe cfg archivo s).drop (i * cfg.tamanioPagina)).length =
      cfg.tamanioSwamp - i * cfg.tamanioPagina := by
    rw [List.length_drop, bytesDe, List.length_map, List.length_range]
  have hparte := List.take_append_drop buffer.length
    (((bytesDe cfg archivo s).drop (i * cfg.tamanioPagina)).take (cfg.tamanioPagina - 1))
  rw [hcomun] at hparte
  refine prefix_fgets hpos hparte.symm (fun huna hnada => ?_) (fun hmas => ?_) hlinea
  · have hcero := congrArg List.length hnada
    rw [List.length_take, hlargo, List.length_nil] at hcero
    simp only [bytesCopiados] at hlugar
    omega
  · rw [List.drop_eq_nil_iff, List.length_take]
    omega

theorem Anotada.esTienda (ha : Anotada cfg s f) (huno : cfg.archivosSwamp.length = 1) :
    EsTienda cfg (s, f) where
  almacena := ha.fiel.almacena
  paginas := fun pid pagina hpagina => by
    have hno : pagina ≠ -1 := by omega
    constructor
    · intro h
      obtain ⟨i, hi⟩ := Option.isSome_iff_exists.1 h
      obtain ⟨bytes, hescrita⟩ := (ha.fiel.ultimo _ i).1 (conseguirMarco_eq_some hno hi)
      obtain ⟨buffer, -, hf, -⟩ := ha.escrita _ i bytes hescrita
      exact Option.isSome_iff_exists.2 ⟨buffer, hf⟩
    · intro h
      obtain ⟨buffer, hf⟩ := Option.isSome_iff_exists.1 h
      obtain ⟨i, hi⟩ := ha.tiene _ buffer hf
      have hranura := (ha.fiel.ultimo _ i).2 hi
      exact Option.isSome_iff_exists.2 ⟨i, (conseguirMarco_of_unique hno ha.fiel.una).2 hranura⟩
  devuelve := fun pid pagina buffer hpagina hf basura => by
    obtain ⟨i, hescrita⟩ := ha.tiene _ buffer hf
    have hranura := (ha.fiel.ultimo _ i).2 hescrita
    have hi := (conseguirMarco_of_unique (by omega) ha.fiel.una).2 hranura
    obtain ⟨archivo, harchivo⟩ := ha.fiel.bien.conocido hranura
    obtain ⟨r, s', hleer⟩ := exists_leerSwap cfg pid pagina basura s
    rcases leerSwap_respuesta hleer with ⟨archivo', i', harchivo', hi', rfl⟩ | ⟨hno | hno, -⟩
    · obtain rfl : i = i' := Option.some.inj (hi.symm.trans hi')
      exact ⟨_, s', hleer, length_contenidoServido _ _ _ _ _,
        ha.prefix_contenido huno hf hranura harchivo' basura⟩
    · rw [harchivo] at hno
      cases hno
    · rw [hi] at hno
      cases hno

end Invariante

section Corridas

/-- Along a run that writes no page while a slot holds it, whose writes stay off the other pages
and can be read back, SWAmP with one file is a store. -/
theorem corrida_almacena (huno : cfg.archivosSwamp.length = 1) (basura : ℕ → ℤ)
    {xs : List (Peticion × Basura)} {t : Estado × Tienda} (hxs : ∀ x ∈ xs, Paginada x)
    (h : Reaches (pasoAnotado cfg) (fun t x => guardaBien cfg t x = true)
      (inicial cfg basura, fun _ => none) xs t) : EsTienda cfg t := by
  have hpaso : ∀ (t : Estado × Tienda) (x : Peticion × Basura) (o : List UInt8)
      (t' : Estado × Tienda), Anotada cfg t.1 t.2 → Paginada x ∧ guardaBien cfg t x = true →
      pasoAnotado cfg x t = .ok (o, t') → Anotada cfg t'.1 t'.2 := by
    intro t x o t' ha hx hok
    obtain ⟨⟨r, s'⟩, hr, h⟩ := bind_eq_ok.1 hok
    cases h
    exact procesar_anotada huno ha hx.1 hx.2 hr
  have hfinal := (h.and_mem hxs).invariant hpaso (inicial_anotada cfg basura)
  exact hfinal.esTienda huno

/-- A page that is written, read and written again. -/
def paginaReescrita : List (Peticion × Basura) :=
  [(.escribir 1 1 [65], sinBasura), (.escribir 1 2 [66, 10], sinBasura), (.leer 1 1, sinBasura),
    (.escribir 1 1 [67, 0], sinBasura)]

theorem corrida_almacena_releida :
    ∃ t, Reaches (pasoAnotado unArchivo) (fun t x => guardaBien unArchivo t x = true)
        (inicial unArchivo fun _ => 0, fun _ => none) paginaReescrita t ∧
      t.2 (1, 1) = some [67, 0] ∧ EsTienda unArchivo t := by
  obtain ⟨t, ht, hdos⟩ := (Option.any_eq_true _ _).1 (show
    ((guardedRun (pasoAnotado unArchivo) (guardaBien unArchivo) paginaReescrita
      (inicial unArchivo fun _ => 0, fun _ => none)).any fun t =>
        decide (t.2 (1, 1) = some [67, 0])) = true by decide +kernel)
  have hreaches := reaches_of_guardedRun ht
  exact ⟨t, hreaches, of_decide_eq_true hdos,
    corrida_almacena (by decide) _ (by simp [paginaReescrita, Paginada]) hreaches⟩

/-- A page that is written twice is in two slots. -/
theorem pagina_duplicada :
    ¬ ∀ (cfg : Config) (basura : ℕ → ℤ) (xs : List (Peticion × Basura)) r,
      cfg.archivosSwamp.length = 1 → (∀ x ∈ xs, Paginada x) →
      run (pasoAnotado cfg) xs (inicial cfg basura, fun _ => none) = .ok r → EsTienda cfg r.2 := by
  intro hclaim
  obtain ⟨r, hrun, hdos⟩ := exists_of_returns (show returns
    (run (pasoAnotado unArchivo)
      [(.escribir 1 1 [65], sinBasura), (.escribir 1 1 [66], sinBasura)]
      (inicial unArchivo fun _ => 0, fun _ => none))
    (fun r => decide (ranura r.2.1 0 = some (1, 1) ∧ ranura r.2.1 1 = some (1, 1))) = true
    by decide +kernel)
  obtain ⟨h0, h1⟩ := of_decide_eq_true hdos
  have htienda := hclaim unArchivo _ _ r (by decide) (by simp [Paginada]) hrun
  cases htienda.almacena.una 0 1 _ h0 h1

end Corridas

end Carpinchos.Swamp
