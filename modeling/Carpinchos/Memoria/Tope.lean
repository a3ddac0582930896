import Mathlib.Algebra.Order.Floor.Div
import Carpinchos.Memoria.Libro

/-!
# The pages of a carpincho under fixed assignment

Under FIJA a carpincho should have no more pages than frames. `check_alloc` sees to it for a
carpincho that exists: it asks for the pages that are missing only if they fit under the
limit. A carpincho that does not exist is created with the pages of its first block, and
there the limit is not looked at.
-/

namespace Carpinchos.Memoria

open Outcome Estado Runs

section Cuenta

variable {cfg : Config}

/-- The pages for a block of this size, with nothing else to store. -/
def paginasDelPrimerBloque (cfg : Config) (size : ℕ) : ℤ :=
  aInt ((size + 9) % 2 ^ 32 ⌈/⌉ cfg.tamanioPagina : ℕ)

/-- The pages that `memalloc_asignar_en_paginas_nuevas` creates. -/
def paginasQueFaltan (cfg : Config) (size : ℤ) (carpincho : Carpincho) : Except Falla ℤ := do
  let espacioOcupado ← sumarAllocs carpincho.allocs 0
  let espacioLibre ← enInt (espacioTotal cfg carpincho.paginas.length - espacioOcupado)
  calcularCantidadPaginasNecesaria cfg espacioLibre size

theorem ceilDiv_eq_ite {n d : ℕ} (hd : 0 < d) :
    n ⌈/⌉ d = if n % d = 0 then n / d else n / d + 1 := by
  have hn := Nat.div_add_mod n d
  have hlt := Nat.mod_lt n hd
  rw [Nat.ceilDiv_eq_add_pred_div]
  split
  · next hmod =>
    have heq : n + d - 1 = d * (n / d) + (d - 1) := by omega
    rw [heq, Nat.mul_add_div hd, Nat.div_eq_of_lt (Nat.sub_one_lt hd.ne'), Nat.add_zero]
  · next hmod =>
    have heq : n + d - 1 = d * (n / d) + (d + (n % d - 1)) := by omega
    have hmenos : n % d - 1 < d := by omega
    rw [heq, Nat.mul_add_div hd, Nat.add_div_left _ hd, Nat.div_eq_of_lt hmenos]

theorem aInt_ceilDiv_le {n d k : ℕ} (hd : 0 < d) (h : n ≤ d * k) :
    aInt ((n ⌈/⌉ d : ℕ) : ℤ) ≤ (k : ℤ) := by
  rw [← ceilDiv_le_iff_le_mul hd] at h
  exact (aInt_le (by omega)).trans (Int.ofNat_le.2 h)

theorem calcularCantidadPaginas_eq {libre size cantPag : ℤ}
    (h : calcularCantidadPaginasNecesaria cfg libre size = .ok cantPag) :
    (-2 ^ 31 ≤ size + 9 - libre ∧ size + 9 - libre < 2 ^ 31) ∧
      cantPag = aInt (aUint32 (size + 9 - libre) ⌈/⌉ cfg.tamanioPagina : ℕ) := by
  unfold calcularCantidadPaginasNecesaria at h
  obtain ⟨tamanio, htamanio, h⟩ := bind_eq_ok.1 h
  obtain ⟨necesario, hnecesario, h⟩ := bind_eq_ok.1 h
  obtain ⟨-, rfl⟩ := enInt_eq_ok.1 htamanio
  obtain ⟨hrango, rfl⟩ := enInt_eq_ok.1 hnecesario
  refine ⟨hrango, ?_⟩
  rw [ceilDiv_eq_ite cfg.pagina_pos]
  split at h
  · next hmod =>
    rw [if_pos hmod]
    exact (Except.ok.inj h).symm
  · next hmod =>
    rw [if_neg hmod]
    exact (Except.ok.inj h).symm

/-- Where no free block fits, the two loops over the allocs count the same space. -/
theorem sumarAllocs_of_recorrerAllocs {size : ℤ} {allocs : List Alloc} {ocupado total : ℤ}
    (h : recorrerAllocs size allocs ocupado = .ok (some total)) :
    sumarAllocs allocs ocupado = .ok total := by
  induction allocs generalizing ocupado with
  | nil =>
    cases h
    rfl
  | cons alloc allocs ih =>
    unfold recorrerAllocs at h
    split at h
    · cases h
    · obtain ⟨x, hx, h⟩ := bind_eq_ok.1 h
      obtain ⟨y, hy, h⟩ := bind_eq_ok.1 h
      simp only [sumarAllocs, hx, hy, ok_bind]
      exact ih h

theorem map_some_eq_ok {x : Except Falla ℤ} {n : ℤ}
    (h : (x >>= fun n => .ok (some n)) = .ok (some n)) : x = .ok n := by
  obtain ⟨m, hm, h⟩ := bind_eq_ok.1 h
  cases h
  exact hm

/-- What is asked for is what is missing, and under FIJA it fits under the limit. -/
theorem pedir_cases {size cantPag : ℤ} {carpincho : Carpincho}
    (h : paginasAPedir cfg size (some carpincho) = .ok (some cantPag)) :
    ∃ ocupado libre, sumarAllocs carpincho.allocs 0 = .ok ocupado ∧
      enInt (espacioTotal cfg carpincho.paginas.length - ocupado) = .ok libre ∧
      calcularCantidadPaginasNecesaria cfg libre size = .ok cantPag ∧ libre < size + 9 ∧
      (cfg.tipoAsignacion = .fija → size + 9 ≤ libre +
        aInt ((cfg.marcosPorCarpincho - carpincho.paginas.length) * cfg.tamanioPagina)) := by
  unfold paginasAPedir planAlloc at h
  obtain ⟨o, ho, h⟩ := bind_eq_ok.1 h
  cases o with
  | none =>
    injection h with h
    cases h
  | some ocupado =>
    dsimp only at h
    obtain ⟨libre, hlibre, h⟩ := bind_eq_ok.1 h
    obtain ⟨necesario, hnecesario, h⟩ := bind_eq_ok.1 h
    obtain ⟨-, rfl⟩ := enInt_eq_ok.1 hnecesario
    refine ⟨ocupado, libre, sumarAllocs_of_recorrerAllocs ho, hlibre, ?_⟩
    split at h
    · injection h with h
      cases h
    · next hmayor =>
      split at h
      · obtain ⟨disponible, hdisponible, h⟩ := bind_eq_ok.1 h
        obtain ⟨-, rfl⟩ := enInt_eq_ok.1 hdisponible
        split at h
        · next hcabe =>
          exact ⟨map_some_eq_ok h, not_le.1 hmayor, fun _ => by omega⟩
        · injection h with h
          cases h
      · next hdinamica =>
        refine ⟨map_some_eq_ok h, not_le.1 hmayor, fun hfija => ?_⟩
        rw [hfija] at hdinamica
        cases hdinamica

theorem paginasQueFaltan_of_pedir {size cantPag : ℤ} {carpincho : Carpincho}
    (h : paginasAPedir cfg size (some carpincho) = .ok (some cantPag)) :
    paginasQueFaltan cfg size carpincho = .ok cantPag := by
  obtain ⟨ocupado, libre, hsumar, hlibre, hcalcular, -⟩ := pedir_cases h
  unfold paginasQueFaltan
  rw [hsumar, ok_bind, hlibre, ok_bind, hcalcular]

/-- A carpincho that asks for more pages stays under the limit. -/
theorem pedir_le {size cantPag : ℤ} {carpincho : Carpincho} (hfija : cfg.tipoAsignacion = .fija)
    (hpocas : carpincho.paginas.length ≤ cfg.marcosPorCarpincho)
    (h : paginasAPedir cfg size (some carpincho) = .ok (some cantPag)) :
    carpincho.paginas.length + cantPag.toNat ≤ cfg.marcosPorCarpincho := by
  obtain ⟨ocupado, libre, -, -, hcalcular, hmayor, hcabe⟩ := pedir_cases h
  obtain ⟨⟨-, hmax⟩, rfl⟩ := calcularCantidadPaginas_eq hcalcular
  obtain ⟨faltan, hfaltan⟩ : ∃ faltan : ℕ, cfg.marcosPorCarpincho =
      carpincho.paginas.length + faltan := Nat.exists_eq_add_of_le hpocas
  have hteorico : aInt ((cfg.marcosPorCarpincho - carpincho.paginas.length) * cfg.tamanioPagina)
      ≤ (cfg.tamanioPagina * faltan : ℕ) := by
    have heq : ((cfg.marcosPorCarpincho : ℤ) - carpincho.paginas.length) * cfg.tamanioPagina =
        (cfg.tamanioPagina * faltan : ℕ) := by
      rw [hfaltan]
      push_cast
      ring
    rw [heq]
    exact aInt_le (by omega)
  have hespacio : (aUint32 (size + 9 - libre) : ℤ) = size + 9 - libre :=
    aUint32_of_range (by omega) (by omega)
  have hle : aUint32 (size + 9 - libre) ≤ cfg.tamanioPagina * faltan := by
    have := hcabe hfija
    omega
  have hpaginas := aInt_ceilDiv_le cfg.pagina_pos hle
  omega

theorem pedir_nueva {size : ℕ} {cantPag : ℤ}
    (h : paginasAPedir cfg (aInt size) none = .ok (some cantPag)) :
    cantPag = paginasDelPrimerBloque cfg size ∧ ∀ carpincho : Carpincho,
      carpincho.paginas = [] → carpincho.allocs = [] →
        paginasQueFaltan cfg (aInt size) carpincho = .ok cantPag := by
  have hcalcular := map_some_eq_ok h
  constructor
  · obtain ⟨-, heq⟩ := calcularCantidadPaginas_eq hcalcular
    have hsize : aUint32 (aInt size + 9 - 0) = (size + 9) % 2 ^ 32 := by
      unfold aUint32 aInt
      omega
    rw [heq, hsize, paginasDelPrimerBloque]
  · intro carpincho hpaginas hallocs
    have hcero : enInt (espacioTotal cfg carpincho.paginas.length - 0) = .ok 0 := by
      simp [hpaginas, espacioTotal, enInt, aInt]
    unfold paginasQueFaltan
    rw [hallocs, sumarAllocs, ok_bind, hcero, ok_bind, hcalcular]

end Cuenta

section Creacion

variable {E : Entorno} {s s' : Estado} {pid : ℤ} {c : Carpincho}

theorem getCarpincho_createPagina {p : ℕ} (hc : getCarpincho pid s = some c)
    (hs : createPagina E pid s = .ok (p, s')) :
    ∃ d, getCarpincho pid s' = some d ∧ d.paginas = c.paginas ++ [p] ∧ d.allocs = c.allocs := by
  obtain ⟨c', hc', rfl, hheaps⟩ := heaps_createPagina hs
  obtain rfl := Option.some.inj (hc.symm.trans hc')
  obtain ⟨rfl, -⟩ := getCarpincho_pid hc
  have hcon : getCarpincho c.pid (conPagina c s) =
      some { c with paginas := c.paginas ++ [s.proximoPtr] } :=
    getCarpincho_setCarpincho (f := fun d => { d with paginas := d.paginas ++ [s.proximoPtr] })
      (fun _ => rfl) (show getCarpincho c.pid (conDescriptor c s) = some c from hc)
  obtain ⟨d, hd, hheap⟩ := getCarpincho_some_of_heaps hheaps hcon
  simp only [Carpincho.heap, Prod.mk.injEq] at hheap
  exact ⟨d, hd, hheap.2⟩

theorem getCarpincho_crearPaginas {n : ℕ} (hc : getCarpincho pid s = some c)
    (hs : crearPaginas E pid n s = .ok s') :
    ∃ d, getCarpincho pid s' = some d ∧ d.paginas.length = c.paginas.length + n ∧
      d.allocs = c.allocs := by
  induction n generalizing s c with
  | zero =>
    cases hs
    exact ⟨c, hc, rfl, rfl⟩
  | succ n ih =>
    obtain ⟨⟨p, s₁⟩, hcrear, hs⟩ := bind_eq_ok.1 hs
    obtain ⟨d, hd, hpaginas, hallocs⟩ := getCarpincho_createPagina hc hcrear
    obtain ⟨e, he, hlength, heallocs⟩ := ih hd hs
    refine ⟨e, he, ?_, heallocs.trans hallocs⟩
    rw [hlength, hpaginas, List.length_append, List.length_singleton]
    omega

theorem asignarEnPaginasNuevas_cases {size d : ℕ} (hc : getCarpincho pid s = some c)
    {cantPag : ℤ} (hfaltan : paginasQueFaltan E.config (aInt size) c = .ok cantPag)
    (hs : memallocAsignarEnPaginasNuevas E pid size s = .ok (d, s')) :
    ∃ s₁, crearPaginas E pid cantPag.toNat s = .ok s₁ ∧
      memallocAsignarEnPaginaConEspacio pid size s₁ = .ok (d, s') := by
  obtain ⟨c', hc', hs⟩ := bind_eq_ok.1 hs
  obtain rfl := Option.some.inj (hc.symm.trans (carpinchoDe_some hc'))
  obtain ⟨ocupado, hocupado, hs⟩ := bind_eq_ok.1 hs
  obtain ⟨libre, hlibre, hs⟩ := bind_eq_ok.1 hs
  obtain ⟨cantPag', hcantPag, hs⟩ := bind_eq_ok.1 hs
  obtain rfl : cantPag' = cantPag := by
    unfold paginasQueFaltan at hfaltan
    rw [hocupado, ok_bind, hlibre, ok_bind, hcantPag] at hfaltan
    exact Except.ok.inj hfaltan
  obtain ⟨s₁, hasignar, hs⟩ := bind_eq_ok.1 hs
  obtain ⟨s₂, hcrear, hasignar⟩ := bind_eq_ok.1 hasignar
  obtain ⟨x, -, hasignar⟩ := bind_eq_ok.1 hasignar
  cases hasignar
  exact ⟨s₁, hcrear, hs⟩

theorem duenio_setAllocs (pid : ℤ) (allocs : List Alloc) :
    (setAllocs pid allocs s).carpinchosList.map Carpincho.duenio =
      s.carpinchosList.map Carpincho.duenio := map_setCarpincho (fun _ => by rfl) pid s

theorem duenio_asignarEnPagina {size d : ℕ}
    (hs : memallocAsignarEnPaginaConEspacio pid size s = .ok (d, s')) :
    s'.carpinchosList.map Carpincho.duenio = s.carpinchosList.map Carpincho.duenio := by
  obtain ⟨carpincho, -, hs⟩ := bind_eq_ok.1 hs
  cases hs
  exact duenio_setAllocs _ _

theorem duenio_asignarMemalloc {size : ℕ} {checkStatus : CheckAllocRespuesta}
    {direccion : Option ℕ} (hcheck : checkStatus ≠ .allocSolicitarPagina)
    (hs : asignarMemalloc E pid size checkStatus s = .ok (direccion, s')) :
    s'.carpinchosList.map Carpincho.duenio = s.carpinchosList.map Carpincho.duenio := by
  cases checkStatus with
  | allocSinEspacio =>
    cases hs
    rfl
  | allocHeap =>
    obtain ⟨⟨d, s₁⟩, hheap, hs⟩ := bind_eq_ok.1 hs
    cases hs
    obtain ⟨carpincho, -, hheap⟩ := bind_eq_ok.1 hheap
    obtain ⟨asignado, -, hheap⟩ := bind_eq_ok.1 hheap
    dsimp only at hheap
    split at hheap
    · cases hheap
      exact duenio_setAllocs _ _
    · obtain ⟨s₂, hpersistir, hheap⟩ := bind_eq_ok.1 hheap
      cases hheap
      exact (duenio_of_heaps (heaps_persistirMetadataHeap hpersistir)).trans (duenio_setAllocs _ _)
  | allocPagina =>
    obtain ⟨⟨d, s₁⟩, hpagina, hs⟩ := bind_eq_ok.1 hs
    cases hs
    exact duenio_asignarEnPagina hpagina
  | allocSolicitarPagina => exact absurd rfl hcheck

theorem getCarpincho_createCarpincho (hno : getCarpincho pid s = none) :
    ∃ c, getCarpincho pid (createCarpincho pid s) = some c ∧ c.paginas = [] ∧ c.allocs = [] := by
  have hexist : existCarpincho pid s = false := by
    rw [existCarpincho, List.any_eq_false]
    exact List.find?_eq_none.1 hno
  rw [getCarpincho] at hno
  simp [createCarpincho, hexist, getCarpincho, List.find?_append, hno]

theorem exists_paginasQueFaltan {size : ℕ} {cantPag : ℤ} (h : Consulta E pid size s cantPag) :
    ∃ c, getCarpincho pid (createCarpincho pid s) = some c ∧
      paginasQueFaltan E.config (aInt size) c = .ok cantPag := by
  unfold Consulta at h
  cases hc : getCarpincho pid s with
  | none =>
    rw [hc] at h
    obtain ⟨c, hnueva, hpaginas, hallocs⟩ := getCarpincho_createCarpincho hc
    exact ⟨c, hnueva, (pedir_nueva h).2 c hpaginas hallocs⟩
  | some c =>
    rw [hc] at h
    refine ⟨c, ?_, paginasQueFaltan_of_pedir h⟩
    rw [createCarpincho_existente hc]
    exact hc

theorem getCarpincho_preguntado (cantPag : ℤ) :
    getCarpincho pid (createCarpincho pid (preguntado pid cantPag s)) =
      getCarpincho pid (createCarpincho pid s) := by
  have hexist : existCarpincho pid (preguntado pid cantPag s) = existCarpincho pid s := rfl
  simp only [createCarpincho, hexist]
  split <;> rfl

/-- What a request does to the pages of the carpinchos: nothing, or it creates those that are
missing. -/
theorem memoryMemalloc_paginas {size : ℕ} {r : StatusMemoryOp × Option ℕ}
    (hs : memoryMemalloc E pid size s = .ok (r, s')) :
    (s'.carpinchosList.map Carpincho.duenio = s.carpinchosList.map Carpincho.duenio ∧
      ∀ cantPag, Consulta E pid size s cantPag →
        E.puedeEscribirSwamp s.mensajes pid cantPag = 0) ∨
    ∃ cantPag s₂, Consulta E pid size s cantPag ∧
      crearPaginas E pid cantPag.toNat (createCarpincho pid (preguntado pid cantPag s)) = .ok s₂ ∧
      s'.carpinchosList.map Carpincho.duenio = s₂.carpinchosList.map Carpincho.duenio := by
  obtain ⟨⟨checkStatus, s₁⟩, hplan, hs⟩ := bind_eq_ok.1 hs
  obtain ⟨⟨direccion, s₂⟩, hasignar, hs⟩ := bind_eq_ok.1 hs
  have hfin : s'.carpinchosList.map Carpincho.duenio = s₂.carpinchosList.map Carpincho.duenio := by
    cases direccion with
    | none =>
      cases hs
      rfl
    | some direccion =>
      obtain ⟨s₃, hpersistir, hs⟩ := bind_eq_ok.1 hs
      cases hs
      exact duenio_of_heaps (heaps_persistirDireccion hpersistir)
  obtain ⟨o, ho, hplanifica⟩ := consulta_of_planifica hplan
  cases o with
  | none =>
    obtain ⟨heq, hcheck⟩ := hplanifica
    obtain rfl : s₁ = s := heq
    refine Or.inl ⟨hfin.trans (duenio_asignarMemalloc hcheck hasignar), fun cantPag hcon => ?_⟩
    rw [Consulta, ho] at hcon
    cases hcon
  | some cantPag =>
    rw [Planifica] at hplanifica
    split at hplanifica
    · cases hplanifica
      obtain ⟨c, hc, hfaltan⟩ := exists_paginasQueFaltan ho
      rw [← getCarpincho_preguntado cantPag] at hc
      obtain ⟨⟨d, s₃⟩, hnuevas, hasignar⟩ := bind_eq_ok.1 hasignar
      cases hasignar
      obtain ⟨s₃, hcrear, hfinal⟩ := asignarEnPaginasNuevas_cases hc hfaltan hnuevas
      exact Or.inr ⟨cantPag, s₃, ho, hcrear, hfin.trans (duenio_asignarEnPagina hfinal)⟩
    · next hno =>
      cases hplanifica
      have hcheck : CheckAllocRespuesta.allocSinEspacio ≠ .allocSolicitarPagina := by decide
      have hcar := duenio_asignarMemalloc hcheck hasignar
      refine Or.inl ⟨hfin.trans hcar, fun n hcon => ?_⟩
      rw [Consulta, ho] at hcon
      cases hcon
      exact not_not.1 hno

end Creacion

section Tope

variable {E : Entorno} {s s' : Estado} {pid : ℤ} {c : Carpincho} {tope : ℕ}

structure DentroDelTope (tope : ℕ) (s : Estado) : Prop where
  pids : (s.carpinchosList.map Carpincho.pid).Nodup
  cantidad : ∀ c ∈ s.carpinchosList, c.paginas.length ≤ tope

theorem DentroDelTope.of_duenio (h : DentroDelTope tope s)
    (hcar : s'.carpinchosList.map Carpincho.duenio = s.carpinchosList.map Carpincho.duenio) :
    DentroDelTope tope s' := by
  refine ⟨?_, fun c' hc' => ?_⟩
  · rw [pids_of_duenio hcar]
    exact h.pids
  · obtain ⟨c, hc, -, hpaginas⟩ := exists_duenio hcar hc'
    rw [← hpaginas]
    exact h.cantidad c hc

theorem DentroDelTope.of_heaps (h : DentroDelTope tope s) (heq : s'.heaps = s.heaps) :
    DentroDelTope tope s' :=
  h.of_duenio (duenio_of_heaps heq)

theorem DentroDelTope.createCarpincho (h : DentroDelTope tope s) (pid : ℤ) :
    DentroDelTope tope (createCarpincho pid s) := by
  unfold Memoria.createCarpincho
  split
  · exact h
  · next hno =>
    refine ⟨nodup_pids_append h.pids (Bool.eq_false_iff.2 hno), fun c hc => ?_⟩
    rcases List.mem_append.1 hc with hc | hc
    · exact h.cantidad c hc
    · obtain rfl := List.mem_singleton.1 hc
      exact Nat.zero_le _

theorem DentroDelTope.createPagina {p : ℕ} (h : DentroDelTope tope s)
    (hc : getCarpincho pid s = some c) (hlugar : c.paginas.length < tope)
    (hs : createPagina E pid s = .ok (p, s')) : DentroDelTope tope s' := by
  obtain ⟨c', hc', -, hheaps⟩ := heaps_createPagina hs
  obtain rfl := Option.some.inj (hc.symm.trans hc')
  refine ⟨?_, fun d' hd' => ?_⟩
  · rw [pids_conPagina hheaps]
    exact h.pids
  · obtain ⟨d, hd, -, hpaginas⟩ := exists_of_conPagina hheaps hd'
    rw [← hpaginas]
    split
    · next hpid =>
      obtain rfl := List.inj_on_of_nodup_map h.pids hd (getCarpincho_pid hc).2 hpid
      rw [List.length_append, List.length_singleton]
      exact hlugar
    · exact h.cantidad d hd

theorem DentroDelTope.crearPaginas {n : ℕ} (h : DentroDelTope tope s)
    (hc : getCarpincho pid s = some c) (hlugar : c.paginas.length + n ≤ tope)
    (hs : crearPaginas E pid n s = .ok s') : DentroDelTope tope s' := by
  induction n generalizing s c with
  | zero =>
    cases hs
    exact h
  | succ n ih =>
    obtain ⟨⟨p, s₁⟩, hcrear, hs⟩ := bind_eq_ok.1 hs
    obtain ⟨d, hd, hpaginas, -⟩ := getCarpincho_createPagina hc hcrear
    have hlength : d.paginas.length = c.paginas.length + 1 := by
      rw [hpaginas, List.length_append, List.length_singleton]
    exact ih (h.createPagina hc (by omega) hcrear) hd (by omega) hs

/-- A carpincho that exists may ask for pages, and a new one may if its block fits. -/
def pideDentroDelTope (cfg : Config) (s : Estado) : Llamada → Bool
  | .memalloc pid size => existCarpincho pid s ||
      decide (paginasDelPrimerBloque cfg size ≤ cfg.marcosPorCarpincho)
  | _ => true

theorem paginas_memalloc_nueva {size : ℕ} {r : StatusMemoryOp × Option ℕ}
    (hno : getCarpincho pid s = none)
    (hconcede : ∀ historia pid cantPag, E.puedeEscribirSwamp historia pid cantPag = 1)
    (hs : memoryMemalloc E pid size s = .ok (r, s')) :
    ∃ d ∈ s'.carpinchosList,
      d.paginas.length = (paginasDelPrimerBloque E.config size).toNat := by
  rcases memoryMemalloc_paginas hs with ⟨-, hcero⟩ | ⟨cantPag, s₂, hcon, hcrear, hcar⟩
  · obtain ⟨r, hplan, -⟩ := bind_eq_ok.1 hs
    obtain ⟨o, ho, -⟩ := consulta_of_planifica hplan
    have hpedir := ho
    rw [hno] at hpedir
    obtain ⟨cantPag, -, hsome⟩ := bind_eq_ok.1 hpedir
    cases hsome
    have huno := hconcede s.mensajes pid cantPag
    rw [hcero cantPag ho] at huno
    cases huno
  · have hnueva : cantPag = paginasDelPrimerBloque E.config size := by
      rw [Consulta, hno] at hcon
      exact (pedir_nueva hcon).1
    obtain ⟨c, hc, hpaginas, -⟩ := getCarpincho_createCarpincho hno
    rw [← getCarpincho_preguntado cantPag] at hc
    obtain ⟨d, hd, hlength, -⟩ := getCarpincho_crearPaginas hc hcrear
    obtain ⟨d', hd', -, heq⟩ := exists_duenio hcar.symm (getCarpincho_pid hd).2
    refine ⟨d', hd', ?_⟩
    rw [heq, hlength, hpaginas, hnueva, List.length_nil, Nat.zero_add]

theorem DentroDelTope.memoryMemalloc {size : ℕ} {r : StatusMemoryOp × Option ℕ}
    (hfija : E.config.tipoAsignacion = .fija) (h : DentroDelTope E.config.marcosPorCarpincho s)
    (hpide : pideDentroDelTope E.config s (.memalloc pid size) = true)
    (hs : memoryMemalloc E pid size s = .ok (r, s')) :
    DentroDelTope E.config.marcosPorCarpincho s' := by
  rcases memoryMemalloc_paginas hs with ⟨hcar, -⟩ | ⟨cantPag, s₂, hcon, hcrear, hcar⟩
  · exact h.of_duenio hcar
  · have h₀ : DentroDelTope E.config.marcosPorCarpincho (preguntado pid cantPag s) :=
      h.of_duenio rfl
    have h₁ := h₀.createCarpincho pid
    rw [Consulta] at hcon
    refine (?_ : DentroDelTope E.config.marcosPorCarpincho s₂).of_duenio hcar
    cases hc : getCarpincho pid s with
    | none =>
      rw [hc] at hcon
      obtain ⟨c, hnueva, hpaginas, -⟩ := getCarpincho_createCarpincho hc
      rw [← getCarpincho_preguntado cantPag] at hnueva
      have hcabe : paginasDelPrimerBloque E.config size ≤ E.config.marcosPorCarpincho := by
        have hexist : existCarpincho pid s = false := by
          rw [existCarpincho, List.any_eq_false]
          exact List.find?_eq_none.1 hc
        simpa [pideDentroDelTope, hexist] using hpide
      refine h₁.crearPaginas hnueva ?_ hcrear
      rw [hpaginas, (pedir_nueva hcon).1, List.length_nil]
      omega
    | some c =>
      rw [hc] at hcon
      have hc₁ := hc
      rw [← createCarpincho_existente hc, ← getCarpincho_preguntado cantPag] at hc₁
      exact h₁.crearPaginas hc₁ (pedir_le hfija (h.cantidad c (getCarpincho_pid hc).2) hcon) hcrear

theorem DentroDelTope.quitarPagina {pag : ℕ} (h : DentroDelTope tope s)
    (hs : quitarPagina pid pag s = .ok s') : DentroDelTope tope s' := by
  obtain ⟨-, -, hs⟩ := bind_eq_ok.1 hs
  obtain ⟨c, hc, hs⟩ := bind_eq_ok.1 hs
  obtain ⟨i, -, hs⟩ := bind_eq_ok.1 hs
  have hmenos : (c.paginas.eraseIdx i.toNat).length ≤ tope :=
    ((List.eraseIdx_sublist _ _).length_le).trans
      (h.cantidad c (getCarpincho_pid (carpinchoDe_some hc)).2)
  have hquitar : DentroDelTope tope
      (s.setCarpincho pid fun c' => { c' with paginas := c.paginas.eraseIdx i.toNat }) := by
    constructor
    · have hpids := map_setCarpincho (g := Carpincho.pid)
        (f := fun c' => { c' with paginas := c.paginas.eraseIdx i.toNat }) (fun _ => rfl) pid s
      rw [hpids]
      exact h.pids
    · intro d hd
      obtain ⟨e, he, rfl⟩ := List.mem_map.1 hd
      split
      · exact hmenos
      · exact h.cantidad e he
  split at hs
  · dsimp only at hs
    split at hs
    · cases hs
      exact hquitar
    · obtain ⟨-, -, hs⟩ := bind_eq_ok.1 hs
      cases hs
      exact ⟨hquitar.pids, hquitar.cantidad⟩
  · cases hs

theorem DentroDelTope.compactarMientras {fuel : ℕ} (h : DentroDelTope tope s)
    (hs : compactarMientras E pid fuel s = .ok s') : DentroDelTope tope s' := by
  induction fuel generalizing s with
  | zero => cases hs
  | succ fuel ih =>
    obtain ⟨⟨resultado, s₁⟩, hcompactar, hs⟩ := bind_eq_ok.1 hs
    cases resultado with
    | false =>
      cases hs
      rw [compactar_falso hcompactar]
      exact h
    | true =>
      obtain ⟨c, -, hcompactar⟩ := bind_eq_ok.1 hcompactar
      split at hcompactar
      · cases hcompactar
      · obtain ⟨l, -, hcompactar⟩ := bind_eq_ok.1 hcompactar
        split at hcompactar
        · obtain ⟨allocs, -, hcompactar⟩ := bind_eq_ok.1 hcompactar
          obtain ⟨s₂, hquitar, hcompactar⟩ := bind_eq_ok.1 hcompactar
          cases hcompactar
          exact ih ((h.of_duenio (duenio_setAllocs pid allocs)).quitarPagina hquitar) hs
        · cases hcompactar

theorem DentroDelTope.memoryMemfreeAll {status : StatusMemoryOp} (h : DentroDelTope tope s)
    (hs : memoryMemfreeAll pid s = .ok (status, s')) : DentroDelTope tope s' := by
  unfold Memoria.memoryMemfreeAll at hs
  split at hs
  · cases hs
    exact h
  · obtain ⟨s₁, hclose, hs⟩ := bind_eq_ok.1 hs
    cases hs
    have hcar := (closeCarpincho_cerrado hclose).carpinchos
    dsimp only at hcar
    constructor
    · rw [hcar]
      exact h.pids.sublist ((List.eraseIdx_sublist _ _).map _)
    · intro c hc
      rw [hcar] at hc
      exact h.cantidad c (List.mem_of_mem_eraseIdx hc)

/-- Every call keeps the limit if a first block fits. -/
theorem DentroDelTope.llamar {op : Llamada} {r : Respuesta}
    (hfija : E.config.tipoAsignacion = .fija) (h : DentroDelTope E.config.marcosPorCarpincho s)
    (hpide : pideDentroDelTope E.config s op = true) (hs : llamar E op s = .ok (r, s')) :
    DentroDelTope E.config.marcosPorCarpincho s' := by
  cases op with
  | memalloc pid size =>
    obtain ⟨⟨r, s₁⟩, hs, hok⟩ := bind_eq_ok.1 hs
    cases hok
    exact h.memoryMemalloc hfija hpide hs
  | memwrite pid pos valor =>
    obtain ⟨⟨r, s₁⟩, hs, hok⟩ := bind_eq_ok.1 hs
    cases hok
    exact h.of_heaps (heaps_memoryMemwrite hs)
  | memread pid pos buffer =>
    obtain ⟨⟨r, s₁⟩, hs, hok⟩ := bind_eq_ok.1 hs
    cases hok
    exact h.of_heaps (heaps_memoryMemread hs)
  | memfree pid pos =>
    obtain ⟨⟨r, s₁⟩, hs, hok⟩ := bind_eq_ok.1 hs
    cases hok
    rcases memoryMemfree_cases hs with ⟨-, rfl, -⟩ |
      ⟨c, allocs, alloc, s₂, -, -, -, -, hpersistir, hmientras⟩
    · exact h
    · have h₁ := h.of_duenio (duenio_setAllocs pid allocs)
      exact (h₁.of_heaps (heaps_persistirMetadataHeap hpersistir)).compactarMientras hmientras
  | memfreeAll pid =>
    obtain ⟨⟨r, s₁⟩, hs, hok⟩ := bind_eq_ok.1 hs
    cases hok
    exact h.memoryMemfreeAll hs

end Tope

section Corrida

/-- The limit holds in every state of a run in which the first block of each carpincho fits;
and the first one that does not fit breaks it. -/
theorem corrida_dentroDelTope (E : Entorno) (basura : ℕ → Pagina)
    (hfija : E.config.tipoAsignacion = .fija)
    (hconcede : ∀ historia pid cantPag, E.puedeEscribirSwamp historia pid cantPag = 1)
    {ops : List Llamada} {s : Estado}
    (h : Reaches (llamar E) (fun s op => pideDentroDelTope E.config s op = true)
      (inicializarMemoria E.config basura) ops s) :
    (∀ c ∈ s.carpinchosList, c.paginas.length ≤ E.config.marcosPorCarpincho) ∧
    ∀ pid size r s', memoryMemalloc E pid size s = .ok (r, s') →
      ((∀ c ∈ s'.carpinchosList, c.paginas.length ≤ E.config.marcosPorCarpincho) ↔
        pideDentroDelTope E.config s (.memalloc pid size) = true) := by
  have hpaso : ∀ s op r s', DentroDelTope E.config.marcosPorCarpincho s →
      pideDentroDelTope E.config s op = true → llamar E op s = .ok (r, s') →
      DentroDelTope E.config.marcosPorCarpincho s' :=
    fun s op r s' hs hpide hok => hs.llamar hfija hpide hok
  have htope := h.invariant hpaso ⟨List.nodup_nil, fun c hc => absurd hc List.not_mem_nil⟩
  refine ⟨htope.cantidad, fun pid size r s' hs => ⟨fun hcantidad => ?_, fun hpide => ?_⟩⟩
  · cases hc : getCarpincho pid s with
    | none =>
      obtain ⟨d, hd, hlength⟩ := paginas_memalloc_nueva hc hconcede hs
      have hle := hcantidad d hd
      rw [pideDentroDelTope, Bool.or_eq_true, decide_eq_true_eq]
      omega
    | some c =>
      obtain ⟨rfl, hmem⟩ := getCarpincho_pid hc
      rw [pideDentroDelTope, existCarpincho_of_mem hmem, Bool.true_or]
  · exact (htope.memoryMemalloc hfija hpide hs).cantidad

def configFija : Config := { configHeap with tipoAsignacion := .fija }

def estadoFija : Estado := inicializarMemoria configFija estadoHeap.descriptor

/-- A carpincho fills its four pages, and no more are given to it. -/
theorem corrida_dentroDelTope_llena :
    ∃ s, guardedRun (llamar (entornoFiel configFija)) (pideDentroDelTope configFija)
      [.memalloc 1 50, .memalloc 1 51, .memalloc 2 119, .memfree 1 68, .memalloc 1 60]
      estadoFija = some s ∧
      s.carpinchosList.map (fun c => c.paginas.length) = [4, 4] ∧
      ∀ c ∈ s.carpinchosList, c.paginas.length ≤ 4 := by
  have hcorrida : (guardedRun (llamar (entornoFiel configFija)) (pideDentroDelTope configFija)
      [.memalloc 1 50, .memalloc 1 51, .memalloc 2 119, .memfree 1 68, .memalloc 1 60]
      estadoFija).any
      (fun s => s.carpinchosList.map (fun c => c.paginas.length) = [4, 4]) = true := by
    decide +kernel
  obtain ⟨s, hs, hcuenta⟩ := (Option.any_eq_true _ _).1 hcorrida
  have htope := (corrida_dentroDelTope (entornoFiel configFija) estadoHeap.descriptor rfl
    (fun _ _ _ => rfl) (reaches_of_guardedRun hs)).1
  exact ⟨s, hs, of_decide_eq_true hcuenta, htope⟩

/-- The first block of a carpincho takes seven pages of a limit of four. -/
theorem primer_bloque_sobre_el_tope :
    ∃ s, Reaches (llamar (entornoFiel configFija)) (fun _ _ => True) estadoFija
      [.memalloc 1 200] s ∧ ¬ ∀ c ∈ s.carpinchosList, c.paginas.length ≤ 4 := by
  have hcorrida : (guardedRun (llamar (entornoFiel configFija)) (fun _ _ => true)
      [.memalloc 1 200] estadoFija).any
      (fun s => s.carpinchosList.any fun c => c.paginas.length = 7) = true := by
    decide +kernel
  obtain ⟨s, hs, hsiete⟩ := (Option.any_eq_true _ _).1 hcorrida
  obtain ⟨c, hc, hlength⟩ := List.any_eq_true.1 hsiete
  refine ⟨s, (reaches_of_guardedRun hs).mono fun _ _ _ => trivial, fun htope => ?_⟩
  have hle := htope c hc
  rw [of_decide_eq_true hlength] at hle
  omega

end Corrida

end Carpinchos.Memoria
