import Mathlib.Data.List.TakeWhile
import Carpinchos.Memoria.Ocupacion

/-!
# The plan of a request and its execution

`check_alloc` decides where a block goes with the size as an `int`; the functions that put it
there take the size as a `uint32_t`. For sizes that both types hold the plan can be carried
out. A larger one is a negative number for `check_alloc`, which then finds room that is not
there.
-/

namespace Carpinchos.Memoria

open Outcome Estado Runs Tiling

section Definiciones

/-- The blocks tile the addresses from 0 on, within the pages, which an `int` can measure. -/
structure HeapMedible (cfg : Config) (carpincho : Carpincho) : Prop where
  seguidos : bloques.Tiles 0 carpincho.allocs (bloques.total carpincho.allocs)
  datos : ∀ alloc ∈ carpincho.allocs, 1 ≤ alloc.tamanioData
  caben : bloques.total carpincho.allocs ≤ carpincho.paginas.length * cfg.tamanioPagina
  entero : carpincho.paginas.length * cfg.tamanioPagina < 2 ^ 31

def HayLibre (x : ℤ) (allocs : List Alloc) : Prop :=
  ∃ a ∈ allocs, a.isFree = true ∧ x ≤ a.tamanioData

instance (x : ℤ) (allocs : List Alloc) : Decidable (HayLibre x allocs) :=
  inferInstanceAs (Decidable (∃ a ∈ allocs, _))

/-- The block has the place that the answer of `check_alloc` says. -/
def Ejecutable (cfg : Config) (carpincho : Carpincho) (size : ℕ) : CheckAllocRespuesta → Prop
  | .allocHeap => ∃ r, asignarEnHeapLibre size carpincho.allocs = .ok r
  | .allocPagina => bloques.total carpincho.allocs + size + 9 ≤
      carpincho.paginas.length * cfg.tamanioPagina
  | .allocSolicitarPagina => ∃ cantPag : ℕ,
      paginasQueFaltan cfg (aInt size) carpincho = .ok cantPag ∧
      bloques.total carpincho.allocs + size + 9 ≤
        (carpincho.paginas.length + cantPag) * cfg.tamanioPagina ∧
      (carpincho.paginas.length + cantPag) * cfg.tamanioPagina <
        bloques.total carpincho.allocs + size + 9 + cfg.tamanioPagina
  | .allocSinEspacio => True

/-- `check_alloc` answers, and what it answers can be carried out. -/
def PlanEjecutable (E : Entorno) (carpincho : Carpincho) (size : ℕ) (s : Estado) : Prop :=
  ∃ r s', checkAlloc E carpincho (aInt size) s = .ok (r, s') ∧ Ejecutable E.config carpincho size r

def espacioLibre (cfg : Config) (carpincho : Carpincho) : ℤ :=
  carpincho.paginas.length * cfg.tamanioPagina - bloques.total carpincho.allocs

def paginasFaltantes (cfg : Config) (carpincho : Carpincho) (x : ℤ) : ℕ :=
  (x + 9 - espacioLibre cfg carpincho).toNat ⌈/⌉ cfg.tamanioPagina

def disponibleTeorico (cfg : Config) (carpincho : Carpincho) : ℤ :=
  aInt ((cfg.marcosPorCarpincho - carpincho.paginas.length) * cfg.tamanioPagina) +
    espacioLibre cfg carpincho

/-- Under FIJA that sum is an `int`. -/
def CuotaEntera (cfg : Config) (carpincho : Carpincho) : Prop :=
  cfg.tipoAsignacion = .fija →
    -2 ^ 31 ≤ disponibleTeorico cfg carpincho ∧ disponibleTeorico cfg carpincho < 2 ^ 31

def cabeEnLaCuota (cfg : Config) (carpincho : Carpincho) (size : ℤ) : Bool :=
  match cfg.tipoAsignacion with
  | .dinamica => true
  | .fija => decide (size + 9 ≤ disponibleTeorico cfg carpincho)

/-- Each sum that the plan of this size comes to is an `int`. -/
def SumasEnteras (cfg : Config) (carpincho : Carpincho) (size : ℤ) : Prop :=
  size + 9 < 2 ^ 31 ∧ (HayLibre size carpincho.allocs ∨ size + 9 ≤ espacioLibre cfg carpincho ∨
    CuotaEntera cfg carpincho)

/-- There is no free block, the space after the last one is too short even for the size as an
`int`, and the quota or SWAmP deny the pages for it. -/
structure Denegada (E : Entorno) (carpincho : Carpincho) (size : ℕ) (s : Estado) : Prop where
  ocupados : ∀ alloc ∈ carpincho.allocs, alloc.isFree = false
  corto : espacioLibre E.config carpincho < aInt size + 9
  cuota : CuotaEntera E.config carpincho
  denegada : cabeEnLaCuota E.config carpincho (aInt size) = false ∨
    E.puedeEscribirSwamp s.mensajes carpincho.pid
      (paginasFaltantes E.config carpincho (aInt size)) = 0

end Definiciones

section Cuentas

variable {cfg : Config} {carpincho : Carpincho} {allocs : List Alloc} {x : ℤ}

theorem total_cons (hdato : 1 ≤ alloc.tamanioData) (allocs : List Alloc) :
    (bloques.total (alloc :: allocs) : ℤ) = alloc.tamanioData + 9 + bloques.total allocs := by
  have htotal : bloques.total (alloc :: allocs) =
      (alloc.tamanioData + 9).toNat + bloques.total allocs := rfl
  omega

theorem recorrerAllocs_ok {ocupado : ℤ} (hdatos : ∀ a ∈ allocs, 1 ≤ a.tamanioData)
    (hocupado : 0 ≤ ocupado) (hlt : ocupado + bloques.total allocs < 2 ^ 31) :
    recorrerAllocs x allocs ocupado =
      .ok (if HayLibre x allocs then none else some (ocupado + bloques.total allocs)) := by
  induction allocs generalizing ocupado with
  | nil => simp [recorrerAllocs, HayLibre, Blocks.total]
  | cons alloc allocs ih =>
    rw [List.forall_mem_cons] at hdatos
    have htotal := total_cons hdatos.1 allocs
    have hprimero : enInt (ocupado + alloc.tamanioData) = .ok (ocupado + alloc.tamanioData) :=
      enInt_eq_ok.2 ⟨by omega, rfl⟩
    have hsegundo : enInt (ocupado + alloc.tamanioData + 9) =
        .ok (ocupado + alloc.tamanioData + 9) := enInt_eq_ok.2 ⟨by omega, rfl⟩
    unfold recorrerAllocs
    split
    · next hlibre =>
      rw [if_pos ⟨alloc, List.mem_cons_self, hlibre⟩]
    · next hno =>
      rw [hprimero, ok_bind, hsegundo, ok_bind, ih hdatos.2 (by omega) (by omega)]
      have hiff : HayLibre x (alloc :: allocs) ↔ HayLibre x allocs := by
        simp only [HayLibre, List.mem_cons, exists_eq_or_imp, hno, false_or]
      rw [show ocupado + alloc.tamanioData + 9 + (bloques.total allocs : ℤ) =
        ocupado + bloques.total (alloc :: allocs) by omega]
      simp only [hiff]

theorem sumarAllocs_ok {ocupado : ℤ} (hdatos : ∀ a ∈ allocs, 1 ≤ a.tamanioData)
    (hocupado : 0 ≤ ocupado) (hlt : ocupado + bloques.total allocs < 2 ^ 31) :
    sumarAllocs allocs ocupado = .ok (ocupado + bloques.total allocs) := by
  induction allocs generalizing ocupado with
  | nil => simp [sumarAllocs, Blocks.total]
  | cons alloc allocs ih =>
    rw [List.forall_mem_cons] at hdatos
    have htotal := total_cons hdatos.1 allocs
    have hprimero : enInt (ocupado + alloc.tamanioData) = .ok (ocupado + alloc.tamanioData) :=
      enInt_eq_ok.2 ⟨by omega, rfl⟩
    have hsegundo : enInt (ocupado + alloc.tamanioData + 9) =
        .ok (ocupado + alloc.tamanioData + 9) := enInt_eq_ok.2 ⟨by omega, rfl⟩
    rw [sumarAllocs, hprimero, ok_bind, hsegundo, ok_bind, ih hdatos.2 (by omega) (by omega)]
    congr 1
    omega

theorem calcularCantidadPaginas_ok {libre : ℤ} (hx : -2 ^ 31 ≤ x + 9) (hx' : x + 9 < 2 ^ 31)
    (hfalta : 0 ≤ x + 9 - libre) (hlt : x + 9 - libre < 2 ^ 31) :
    calcularCantidadPaginasNecesaria cfg libre x =
      .ok ((x + 9 - libre).toNat ⌈/⌉ cfg.tamanioPagina : ℕ) := by
  have htamanio : enInt (x + 9) = .ok (x + 9) := enInt_eq_ok.2 ⟨⟨hx, hx'⟩, rfl⟩
  have hnecesario : enInt (x + 9 - libre) = .ok (x + 9 - libre) :=
    enInt_eq_ok.2 ⟨⟨by omega, hlt⟩, rfl⟩
  have hnat : aUint32 (x + 9 - libre) = (x + 9 - libre).toNat := by
    have hsi := aUint32_of_range (x := x + 9 - libre) hfalta (by omega)
    omega
  have hpocas : (x + 9 - libre).toNat ⌈/⌉ cfg.tamanioPagina ≤ (x + 9 - libre).toNat := by
    rw [ceilDiv_le_iff_le_mul cfg.pagina_pos]
    exact Nat.le_mul_of_pos_left _ cfg.pagina_pos
  have hentero := aInt_of_range
    (x := (((x + 9 - libre).toNat ⌈/⌉ cfg.tamanioPagina : ℕ) : ℤ)) (by omega) (by omega)
  unfold calcularCantidadPaginasNecesaria
  rw [htamanio, ok_bind, hnecesario, ok_bind, hnat]
  rw [ceilDiv_eq_ite cfg.pagina_pos] at hentero ⊢
  split
  · next hmod =>
    rw [if_pos hmod] at hentero
    rw [hentero]
  · next hmod =>
    rw [if_neg hmod] at hentero
    rw [hentero]

theorem ceilDiv_bounds {n d : ℕ} (hd : 0 < d) : n ≤ (n ⌈/⌉ d) * d ∧ (n ⌈/⌉ d) * d < n + d := by
  have hn := Nat.div_add_mod n d
  have hlt := Nat.mod_lt n hd
  rw [ceilDiv_eq_ite hd]
  split
  · next hmod =>
    rw [Nat.mul_comm (n / d)]
    omega
  · next hmod =>
    rw [Nat.succ_mul, Nat.mul_comm (n / d)]
    omega

end Cuentas

section Plan

variable {E : Entorno} {c : Carpincho} {s s' : Estado} {size : ℕ} {x : ℤ}
  {r : CheckAllocRespuesta}

theorem HeapMedible.espacioTotal_eq (h : HeapMedible E.config c) :
    espacioTotal E.config c.paginas.length - bloques.total c.allocs = espacioLibre E.config c := by
  have hentero := aInt_of_range (x := ((c.paginas.length * E.config.tamanioPagina : ℕ) : ℤ))
    (by omega) (by have := h.entero; omega)
  rw [espacioTotal, espacioLibre, ← Nat.cast_mul, hentero]

theorem HeapMedible.espacioLibre_bounds (h : HeapMedible E.config c) :
    0 ≤ espacioLibre E.config c ∧ espacioLibre E.config c < 2 ^ 31 := by
  have hcaben := h.caben
  have hentero := h.entero
  rw [espacioLibre, ← Nat.cast_mul]
  omega

theorem HeapMedible.checkAlloc_libre (h : HeapMedible E.config c) (hlibre : HayLibre x c.allocs) :
    checkAlloc E c x s = .ok (.allocHeap, s) := by
  have hcaben := h.caben
  have hentero := h.entero
  rw [checkAlloc, planAlloc, recorrerAllocs_ok h.datos le_rfl (by omega), ok_bind, if_pos hlibre]

theorem HeapMedible.checkAlloc_ocupado (h : HeapMedible E.config c)
    (hlibre : ¬ HayLibre x c.allocs) (hx : -2 ^ 31 ≤ x + 9) (hx' : x + 9 < 2 ^ 31) :
    checkAlloc E c x s =
      if x + 9 ≤ espacioLibre E.config c then .ok (.allocPagina, s)
      else if E.config.tipoAsignacion = .dinamica then
        solicitarPaginas E c.pid (espacioLibre E.config c) x s
      else
        enInt (aInt ((E.config.marcosPorCarpincho - c.paginas.length) * E.config.tamanioPagina) +
          espacioLibre E.config c) >>= fun disponible =>
        if x + 9 ≤ disponible then solicitarPaginas E c.pid (espacioLibre E.config c) x s
        else .ok (.allocSinEspacio, s) := by
  have hcaben := h.caben
  have hentero := h.entero
  have hmargen := h.espacioLibre_bounds
  have hespacio : enInt (espacioLibre E.config c) = .ok (espacioLibre E.config c) :=
    enInt_eq_ok.2 ⟨by omega, rfl⟩
  have hnecesario : enInt (x + 9) = .ok (x + 9) := enInt_eq_ok.2 ⟨⟨hx, hx'⟩, rfl⟩
  unfold checkAlloc planAlloc
  rw [recorrerAllocs_ok h.datos le_rfl (by omega), ok_bind]
  simp only [if_neg hlibre, zero_add, h.espacioTotal_eq, hespacio, hnecesario, ok_bind]
  cases E.config.tipoAsignacion with
  | fija => simp only [reduceCtorEq, if_false]
  | dinamica => simp only [if_true]

theorem HeapMedible.solicitarPaginas_ok (h : HeapMedible E.config c)
    (hcorto : espacioLibre E.config c < x + 9) (hx' : x + 9 < 2 ^ 31) :
    solicitarPaginas E c.pid (espacioLibre E.config c) x s =
      .ok (if E.puedeEscribirSwamp s.mensajes c.pid (paginasFaltantes E.config c x) ≠ 0
        then .allocSolicitarPagina else .allocSinEspacio,
        preguntado c.pid (paginasFaltantes E.config c x) s) := by
  have hmargen := h.espacioLibre_bounds
  have hcalcular : calcularCantidadPaginasNecesaria E.config (espacioLibre E.config c) x =
      .ok ((x + 9 - espacioLibre E.config c).toNat ⌈/⌉ E.config.tamanioPagina : ℕ) :=
    calcularCantidadPaginas_ok (by omega) hx' (by omega) (by omega)
  unfold solicitarPaginas checkSizeSwamp
  rw [hcalcular, ok_bind]
  simp only [decide_eq_true_eq]
  rfl

theorem HeapMedible.paginasQueFaltan_ok (h : HeapMedible E.config c)
    (hcorto : espacioLibre E.config c < x + 9) (hx' : x + 9 < 2 ^ 31) :
    paginasQueFaltan E.config x c = .ok (paginasFaltantes E.config c x : ℕ) := by
  have hcaben := h.caben
  have hentero := h.entero
  have hmargen := h.espacioLibre_bounds
  have hespacio : enInt (espacioLibre E.config c) = .ok (espacioLibre E.config c) :=
    enInt_eq_ok.2 ⟨by omega, rfl⟩
  unfold paginasQueFaltan
  rw [sumarAllocs_ok h.datos le_rfl (by omega), ok_bind, zero_add, h.espacioTotal_eq, hespacio,
    ok_bind]
  exact calcularCantidadPaginas_ok (by omega) hx' (by omega) (by omega)

theorem HeapMedible.checkAlloc_corto (h : HeapMedible E.config c) (hlibre : ¬ HayLibre x c.allocs)
    (hx' : x + 9 < 2 ^ 31) (hcorto : espacioLibre E.config c < x + 9)
    (hcuota : CuotaEntera E.config c) :
    checkAlloc E c x s =
      if cabeEnLaCuota E.config c x then solicitarPaginas E c.pid (espacioLibre E.config c) x s
      else .ok (.allocSinEspacio, s) := by
  have hmargen := h.espacioLibre_bounds
  rw [h.checkAlloc_ocupado hlibre (by omega) hx', if_neg (not_le.2 hcorto)]
  unfold cabeEnLaCuota
  cases htipo : E.config.tipoAsignacion with
  | dinamica => rfl
  | fija =>
    rw [if_neg TipoAsignacion.noConfusion, ← disponibleTeorico,
      enInt_eq_ok.2 ⟨hcuota htipo, rfl⟩, ok_bind]
    simp only [decide_eq_true_eq]

theorem checkAlloc_entero {ocupado : ℤ}
    (hrecorrer : recorrerAllocs x c.allocs 0 = .ok (some ocupado))
    (hcheck : checkAlloc E c x s = .ok (r, s')) : -2 ^ 31 ≤ x + 9 ∧ x + 9 < 2 ^ 31 := by
  unfold checkAlloc planAlloc at hcheck
  rw [hrecorrer, ok_bind] at hcheck
  obtain ⟨libre, -, hcheck⟩ := bind_eq_ok.1 hcheck
  obtain ⟨necesario, hnecesario, -⟩ := bind_eq_ok.1 hcheck
  exact (enInt_eq_ok.1 hnecesario).1

/-- Where `check_alloc` has no free block to answer with, its sums are `int`s. -/
theorem HeapMedible.sumas_of_checkAlloc (h : HeapMedible E.config c)
    (hlibre : ¬ HayLibre x c.allocs) (hcheck : checkAlloc E c x s = .ok (r, s')) :
    SumasEnteras E.config c x := by
  have hcaben := h.caben
  have hentero := h.entero
  have hrecorrer : recorrerAllocs x c.allocs 0 = .ok (some (0 + bloques.total c.allocs)) := by
    rw [recorrerAllocs_ok h.datos le_rfl (by omega), if_neg hlibre]
  obtain ⟨hx, hx'⟩ := checkAlloc_entero hrecorrer hcheck
  refine ⟨hx', Or.inr ?_⟩
  rcases le_or_gt (x + 9) (espacioLibre E.config c) with hcabe | hcorto
  · exact Or.inl hcabe
  · refine Or.inr fun htipo => ?_
    rw [h.checkAlloc_ocupado hlibre hx hx', if_neg (not_le.2 hcorto), htipo,
      if_neg TipoAsignacion.noConfusion] at hcheck
    obtain ⟨disponible, hdisponible, -⟩ := bind_eq_ok.1 hcheck
    exact (enInt_eq_ok.1 hdisponible).1

theorem HeapMedible.tamanioData_lt (h : HeapMedible E.config c) {a : Alloc} (ha : a ∈ c.allocs) :
    a.tamanioData + 9 < 2 ^ 31 := by
  have hstop := stop_bloques (h.datos a ha)
  have hfin := (h.seguidos.bounds ha).2
  have hcaben := h.caben
  have hentero := h.entero
  omega

theorem HeapMedible.exists_asignarEnHeapLibre (h : HeapMedible E.config c) :
    (∃ r, asignarEnHeapLibre size c.allocs = .ok r) ↔ HayLibre size c.allocs := by
  have hdatos : ∀ a ∈ c.allocs, (aUint32 a.tamanioData : ℤ) = a.tamanioData := by
    intro a ha
    have hdato := h.datos a ha
    have hentero := h.tamanioData_lt ha
    exact aUint32_of_range (by omega) (by omega)
  unfold asignarEnHeapLibre
  dsimp only
  cases hdrop : c.allocs.dropWhile fun alloc => !alloc.libreConEspacio size with
  | nil =>
    rw [List.dropWhile_eq_nil_iff] at hdrop
    refine iff_of_false (by rintro ⟨r, hr⟩; cases hr) ?_
    rintro ⟨a, ha, hlibre, hcabe⟩
    have hno := hdrop a ha
    rw [← hdatos a ha, Nat.cast_le] at hcabe
    simp [Alloc.libreConEspacio, hlibre, hcabe] at hno
  | cons alloc siguientes =>
    have hhead := List.head?_dropWhile_not (fun alloc => !alloc.libreConEspacio size) c.allocs
    rw [hdrop] at hhead
    have hlibre : alloc.libreConEspacio size = true := by simpa using hhead
    have hmem : alloc ∈ c.allocs := by
      apply (List.dropWhile_sublist _).mem
      rw [hdrop]
      exact List.mem_cons_self
    rw [Alloc.libreConEspacio, Bool.and_eq_true, decide_eq_true_iff] at hlibre
    refine iff_of_true ?_ ⟨alloc, hmem, hlibre.1, ?_⟩
    · dsimp only
      split <;> exact ⟨_, rfl⟩
    · rw [← hdatos alloc hmem, Nat.cast_le]
      exact hlibre.2

theorem HeapMedible.paginasFaltantes_bounds (h : HeapMedible E.config c)
    (hcorto : espacioLibre E.config c < x + 9) :
    bloques.total c.allocs + (x + 9) ≤
        ((c.paginas.length + paginasFaltantes E.config c x) * E.config.tamanioPagina : ℕ) ∧
      ((c.paginas.length + paginasFaltantes E.config c x) * E.config.tamanioPagina : ℕ) <
        bloques.total c.allocs + (x + 9) + E.config.tamanioPagina := by
  have hcaben := h.caben
  obtain ⟨hbastan, hjustas⟩ := ceilDiv_bounds (n := (x + 9 - espacioLibre E.config c).toNat)
    E.config.pagina_pos
  rw [← paginasFaltantes] at hbastan hjustas
  have hlibre : espacioLibre E.config c =
      (c.paginas.length * E.config.tamanioPagina : ℕ) - bloques.total c.allocs := by
    rw [espacioLibre, Nat.cast_mul]
  rw [Nat.add_mul]
  generalize c.paginas.length * E.config.tamanioPagina = espacio at *
  generalize paginasFaltantes E.config c x * E.config.tamanioPagina = pedido at *
  omega

/-- With a size and sums that are `int`s the plan can be carried out. -/
theorem HeapMedible.planEjecutable (h : HeapMedible E.config c)
    (hsumas : SumasEnteras E.config c size) : PlanEjecutable E c size s := by
  obtain ⟨hx', hsumas⟩ := hsumas
  have hcaben := h.caben
  have hentero := aInt_of_range (x := (size : ℤ)) (by omega) (by omega)
  rw [PlanEjecutable, hentero]
  by_cases hlibre : HayLibre size c.allocs
  · exact ⟨.allocHeap, s, h.checkAlloc_libre hlibre, h.exists_asignarEnHeapLibre.2 hlibre⟩
  · have hdef : espacioLibre E.config c =
        (c.paginas.length * E.config.tamanioPagina : ℕ) - bloques.total c.allocs := by
      rw [espacioLibre, Nat.cast_mul]
    rcases le_or_gt (size + 9 : ℤ) (espacioLibre E.config c) with hcabe | hcorto
    · refine ⟨.allocPagina, s, ?_, ?_⟩
      · rw [h.checkAlloc_ocupado hlibre (by omega) hx', if_pos hcabe]
      · change bloques.total c.allocs + size + 9 ≤ c.paginas.length * E.config.tamanioPagina
        omega
    · have hcuota := (hsumas.resolve_left hlibre).resolve_left (not_le.2 hcorto)
      rw [h.checkAlloc_corto hlibre hx' hcorto hcuota]
      split
      · rw [h.solicitarPaginas_ok hcorto hx']
        refine ⟨_, _, rfl, ?_⟩
        split
        · obtain ⟨hbastan, hjustas⟩ := h.paginasFaltantes_bounds hcorto
          refine ⟨paginasFaltantes E.config c size, ?_, by omega, by omega⟩
          rw [hentero]
          exact h.paginasQueFaltan_ok hcorto hx'
        · exact trivial
      · exact ⟨_, _, rfl, trivial⟩

theorem Denegada.sin_libre (hno : Denegada E c size s) : ¬ HayLibre (aInt size) c.allocs := by
  rintro ⟨a, ha, hlibre, -⟩
  rw [hno.ocupados a ha] at hlibre
  cases hlibre

/-- A larger size that is denied is answered with no plan. -/
theorem HeapMedible.planEjecutable_denegada (h : HeapMedible E.config c)
    (hsize : size < 2 ^ 32) (hlargo : 2 ^ 31 ≤ size) (hno : Denegada E c size s) :
    PlanEjecutable E c size s := by
  have hx' : aInt size + 9 < 2 ^ 31 := by
    unfold aInt
    omega
  rw [PlanEjecutable, h.checkAlloc_corto hno.sin_libre hx' hno.corto hno.cuota]
  split
  · next hcabe =>
    rcases hno.denegada with hsin | hswamp
    · rw [hcabe] at hsin
      cases hsin
    · rw [h.solicitarPaginas_ok hno.corto hx', if_neg (not_not.2 hswamp)]
      exact ⟨_, _, rfl, trivial⟩
  · exact ⟨_, _, rfl, trivial⟩

/-- With a larger size the plan cannot be carried out, unless the request is denied. -/
theorem HeapMedible.denegada_of_planEjecutable (h : HeapMedible E.config c)
    (hsize : size < 2 ^ 32) (hlargo : 2 ^ 31 ≤ size) (hplan : PlanEjecutable E c size s) :
    Denegada E c size s := by
  have hcaben := h.caben
  have hentero := h.entero
  have hmargen := h.espacioLibre_bounds
  have hnegativo : aInt size = size - 2 ^ 32 := by
    unfold aInt
    omega
  obtain ⟨r, s', hcheck, hejecutable⟩ := hplan
  have hlibre : ¬ HayLibre (aInt size) c.allocs := by
    intro hlibre
    rw [h.checkAlloc_libre hlibre] at hcheck
    cases hcheck
    obtain ⟨a, ha, -, hcabe⟩ := h.exists_asignarEnHeapLibre.1 hejecutable
    have hlt := h.tamanioData_lt ha
    omega
  have hcorto : espacioLibre E.config c < aInt size + 9 := by
    by_contra hcabe
    rw [h.checkAlloc_ocupado hlibre (by omega) (by omega), if_pos (not_lt.1 hcabe)] at hcheck
    cases hcheck
    have hno : bloques.total c.allocs + size + 9 ≤ c.paginas.length * E.config.tamanioPagina :=
      hejecutable
    omega
  have hcuota : CuotaEntera E.config c :=
    ((h.sumas_of_checkAlloc hlibre hcheck).2.resolve_left hlibre).resolve_left (not_le.2 hcorto)
  refine ⟨fun a ha => ?_, hcorto, hcuota, ?_⟩
  · cases hfree : a.isFree with
    | false => rfl
    | true =>
      have hdato := h.datos a ha
      exact absurd ⟨a, ha, hfree, by omega⟩ hlibre
  · by_contra hpermitida
    rw [not_or, Bool.not_eq_false] at hpermitida
    rw [h.checkAlloc_corto hlibre (by omega) hcorto hcuota, if_pos hpermitida.1,
      h.solicitarPaginas_ok hcorto (by omega), if_pos hpermitida.2] at hcheck
    cases hcheck
    obtain ⟨cantPag, hfaltan, hbastan, -⟩ := hejecutable
    rw [h.paginasQueFaltan_ok hcorto (by omega)] at hfaltan
    have hcantPag := Int.ofNat.inj (Except.ok.inj hfaltan)
    obtain ⟨-, hjustas⟩ := h.paginasFaltantes_bounds hcorto
    rw [hcantPag] at hjustas
    have hP := E.config.pagina_lt
    omega

/-- The plan of `check_alloc` can be carried out exactly for the sizes that are `int`s with all
the sums that they come to, and for the larger ones that are denied anyway. -/
theorem planEjecutable_iff (hsize : size < 2 ^ 32) (h : HeapMedible E.config c) :
    PlanEjecutable E c size s ↔
      SumasEnteras E.config c size ∨ 2 ^ 31 ≤ size ∧ Denegada E c size s := by
  constructor
  · intro hplan
    rcases lt_or_ge size (2 ^ 31) with hcorta | hlargo
    · left
      obtain ⟨r, s', hcheck, -⟩ := hplan
      rw [aInt_of_range (x := (size : ℤ)) (by omega) (by omega)] at hcheck
      by_cases hlibre : HayLibre size c.allocs
      · obtain ⟨a, ha, hfree, hcabe⟩ := hlibre
        have hlt := h.tamanioData_lt ha
        exact ⟨by omega, Or.inl ⟨a, ha, hfree, hcabe⟩⟩
      · exact h.sumas_of_checkAlloc hlibre hcheck
    · exact Or.inr ⟨hlargo, h.denegada_of_planEjecutable hsize hlargo hplan⟩
  · rintro (hsumas | ⟨hlargo, hno⟩)
    · exact h.planEjecutable hsumas
    · exact h.planEjecutable_denegada hsize hlargo hno

def carpinchoLibre : Carpincho where
  pid := 1
  paginas := [0]
  tlbHits := 0
  tlbMiss := 0
  allocs := [⟨0, true, 23⟩]
  algoritmStackPointer := 0

theorem carpinchoLibre_medible : HeapMedible configHeap carpinchoLibre where
  seguidos := ⟨rfl, rfl⟩
  datos := by decide
  caben := by decide
  entero := by decide

theorem planEjecutable_veinte :
    PlanEjecutable (entornoFiel configHeap) carpinchoLibre 20 estadoHeap :=
  (planEjecutable_iff (by decide) carpinchoLibre_medible).2
    (Or.inl ⟨by decide, Or.inl (by decide)⟩)

/-- The size 2^31 is negative for `check_alloc`, which answers with the free block. -/
theorem plan_sin_bloque :
    ¬ ∀ (E : Entorno) (c : Carpincho) (s : Estado) (size : ℕ), size < 2 ^ 32 →
      HeapMedible E.config c → PlanEjecutable E c size s := by
  intro hclaim
  have hplan := hclaim (entornoFiel configHeap) carpinchoLibre estadoHeap (2 ^ 31) (by decide)
    carpinchoLibre_medible
  have hno := carpinchoLibre_medible.denegada_of_planEjecutable (E := entornoFiel configHeap)
    (by decide) (by decide) hplan
  exact absurd (hno.ocupados ⟨0, true, 23⟩ (by decide)) (by decide)

end Plan

end Carpinchos.Memoria
