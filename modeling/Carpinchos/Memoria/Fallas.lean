import Carpinchos.Memoria.Aceptacion

/-!
# A page access that fails inside a call

`escribir_en_pagina` and `leer_en_pagina` say with -1 that they could not reach the page.
The loop of `memory_memwrite` does not look at that answer and goes on to the next page; the
loop of `memory_memread` copies from the pointer -1. Past the checks of the address neither
call has another way to end than EXITO.
-/

namespace Carpinchos.Memoria

open Outcome Runs Estado

variable (E : Entorno)

section Definiciones

/-- Some access of the loop of `memory_memwrite` returns -1. -/
def FallaEscritura (pagina : ℕ → Estado → Except Falla ℕ) (valor : List UInt8) :
    List PaginaAccion → ℕ → Estado → Prop
  | [], _, _ => False
  | escritura :: escrituras, sizeAnterior, s =>
    ∃ page r s', pagina escritura.pagina s = .ok page ∧
      escribirEnPagina E page ((valor.drop sizeAnterior).take escritura.direcciones.length)
        (escritura.direcciones.headD 0) s = .ok (r, s') ∧
      (r = -1 ∨ FallaEscritura pagina valor escrituras escritura.direcciones.length s')

/-- Some access of the loop of `memory_memread` returns the pointer -1. -/
def FallaLectura (pagina : ℕ → Estado → Except Falla ℕ) : List PaginaAccion → Estado → Prop
  | [], _ => False
  | lectura :: lecturas, s =>
    ∃ page r s', pagina lectura.pagina s = .ok page ∧
      leerEnPagina E page lectura.direcciones.length (lectura.direcciones.headD 0) s =
        .ok (r, s') ∧
      (r = none ∨ FallaLectura pagina lecturas s')

/-- The checks of `memory_memwrite` let the range through. -/
structure AceptaEscritura (c : Carpincho) (pos size : ℕ) : Prop where
  validada : validarDireccionLogicaEscrituraConSize E.config c.paginas.length c.allocs pos size =
    true
  alloc : ∃ alloc, obtenerAllocDeUnCarpincho c.allocs pos = some alloc ∧
    size ≤ aUint32 (aUint32 (alloc.direccion + 9 + alloc.tamanioData - 1) - pos + 1)

/-- After a failed access the call returns, and not with EXITO. -/
def AvisaFalla {α : Type} (falla : Prop) (status : α → StatusMemoryOp) (x : Except Falla α) :
    Prop :=
  falla → ∃ a, x = .ok a ∧ status a ≠ .exito

end Definiciones

section Llamadas

variable {E} {s : Estado} {pid : ℤ} {pos : ℕ} {c : Carpincho}

/-- A call that can only end with EXITO gives no notice. -/
theorem avisaFalla_iff {α : Type} {falla : Prop} {status : α → StatusMemoryOp}
    {x : Except Falla α} (h : ∀ a, x = .ok a → status a = .exito) :
    AvisaFalla falla status x ↔ ¬ falla := by
  constructor
  · intro havisa hfalla
    obtain ⟨a, ha, hno⟩ := havisa hfalla
    exact hno (h a ha)
  · intro hno hfalla
    exact absurd hfalla hno

theorem memoryMemwrite_aceptada {valor : List UInt8} (hc : getCarpincho pid s = some c)
    (hacepta : AceptaEscritura E c pos valor.length) {r : StatusMemoryOp × Estado}
    (h : memoryMemwrite E pid pos valor s = .ok r) : r.1 = .exito := by
  obtain ⟨hvalidada, alloc, halloc, hbytes⟩ := hacepta
  unfold memoryMemwrite at h
  rw [hc] at h
  dsimp only at h
  rw [if_pos hvalidada, halloc] at h
  dsimp only at h
  rw [if_neg (Nat.not_lt.2 hbytes)] at h
  obtain ⟨-, -, h⟩ := bind_eq_ok.1 h
  obtain ⟨s', -, h⟩ := bind_eq_ok.1 h
  cases h
  rfl

/-- The loop of a read follows the pointer -1 of the first access that fails. -/
theorem leerAcciones_falla {pagina : ℕ → Estado → Except Falla ℕ} {lecturas : List PaginaAccion}
    (hfalla : FallaLectura E pagina lecturas s) (sizeAnterior : ℕ) (buffer : List UInt8) :
    leerAcciones E pagina lecturas sizeAnterior buffer s = .error .punteroNulo := by
  induction lecturas generalizing s sizeAnterior buffer with
  | nil => exact absurd hfalla id
  | cons lectura lecturas ih =>
    obtain ⟨page, r, s', hpage, hleer, hresto⟩ := hfalla
    rw [leerAcciones, hpage, ok_bind, hleer, ok_bind]
    cases r with
    | none => rfl
    | some bytes =>
      have htras : FallaLectura E pagina lecturas s' := hresto.resolve_left (by simp)
      exact ih htras _ _

theorem memoryMemread_falla {buffer : List UInt8} (hc : getCarpincho pid s = some c)
    (hvalidada : validarDireccionLogicaEscrituraConSize E.config c.paginas.length c.allocs pos
      buffer.length = true) (hsize : buffer.length < 2 ^ 31)
    (hfalla : FallaLectura E (paginaPorIndice pid) (acciones E.config pos buffer.length) s) :
    memoryMemread E pid pos buffer s = .error .punteroNulo := by
  have hcontar : contarHasta buffer.length = .ok () := if_pos hsize
  unfold memoryMemread
  rw [hc]
  dsimp only
  rw [if_pos hvalidada, hcontar, ok_bind, leerAcciones_falla hfalla]
  rfl

end Llamadas

/-- The calls give notice of the failed accesses just when there are none. -/
theorem avisan_fallas_iff (s : Estado) (pid : ℤ) (pos : ℕ) (c : Carpincho)
    (hc : getCarpincho pid s = some c) :
    (∀ valor : List UInt8, AceptaEscritura E c pos valor.length →
      (AvisaFalla (FallaEscritura E (paginaPorIndice pid) valor
          (acciones E.config pos valor.length) 0 s) Prod.fst (memoryMemwrite E pid pos valor s) ↔
        ¬ FallaEscritura E (paginaPorIndice pid) valor (acciones E.config pos valor.length) 0 s)) ∧
    ∀ buffer : List UInt8, validarDireccionLogicaEscrituraConSize E.config c.paginas.length
        c.allocs pos buffer.length = true →
      (AvisaFalla (FallaLectura E (paginaPorIndice pid) (acciones E.config pos buffer.length) s)
          (fun r => r.1.1) (memoryMemread E pid pos buffer s) ↔
        ¬ FallaLectura E (paginaPorIndice pid) (acciones E.config pos buffer.length) s) :=
  ⟨fun _ hacepta => avisaFalla_iff fun _ h => memoryMemwrite_aceptada hc hacepta h,
    fun _ hvalidada => avisaFalla_iff fun _ h => memoryMemread_dentro hc hvalidada h⟩

section Ejemplos

def configUnMarco : Config where
  tamanio := 32
  tamanioPagina := 32
  tipoAsignacion := .dinamica
  algoritmoReemplazoMmu := .lru
  cantidaEntradasTlb := 1
  algoritmoReemplazoTlb := .fifo
  marcosPorCarpincho := 1
  pagina_pos := configHeap.pagina_pos
  tamanio_lt := configHeap.pagina_lt
  pagina_lt := configHeap.pagina_lt

/-- A SWAmP that gives back the first page of a carpincho and no other one. -/
def entornoSoloPrimera : Entorno :=
  { entornoFiel configUnMarco with
    leerSwamp := fun historia pid pagina =>
      if pagina = 1 then some (swampFiel 32 historia pid pagina) else none
    leerSwamp_length := by
      intro historia pid pagina contenido h
      split at h
      · rw [← Option.some.inj h]
        exact length_swampFiel _ _ _ _
      · cases h }

theorem avisan_fallas_un_bloque :
    ∃ s c, getCarpincho 1 s = some c ∧
      (AvisaFalla (FallaEscritura (entornoFiel configHeap) (paginaPorIndice 1) [65]
          (acciones configHeap 9 1) 0 s) Prod.fst
          (memoryMemwrite (entornoFiel configHeap) 1 9 [65] s) ↔
        ¬ FallaEscritura (entornoFiel configHeap) (paginaPorIndice 1) [65]
          (acciones configHeap 9 1) 0 s) := by
  have hacepta : AceptaEscritura (entornoFiel configHeap)
      { pid := 1, tlbHits := 1, tlbMiss := 0, algoritmStackPointer := 0, paginas := [0],
        allocs := [⟨0, false, 5⟩] } 9 1 :=
    ⟨by decide +kernel, ⟨0, false, 5⟩, by decide +kernel, by decide +kernel⟩
  obtain ⟨s, c, hc, hpaginas, hallocs, -⟩ := heap_un_bloque (t := fun _ => true)
    (by decide +kernel)
  refine ⟨s, c, hc, ?_⟩
  apply (avisan_fallas_iff (entornoFiel configHeap) s 1 9 c hc).1 [65]
  exact ⟨by rw [hpaginas, hallocs]; exact hacepta.validada, by rw [hallocs]; exact hacepta.alloc⟩

/-- The header of a block has taken the only frame for the first page, and a write to the
second page, which SWAmP does not give back, returns EXITO. -/
theorem escritura_fallida_con_exito :
    ∃ s c, Reaches (llamar entornoSoloPrimera) (fun _ _ => True)
        (inicializarMemoria configUnMarco fun _ => paginaNueva 0 0) [.memalloc 1 30] s ∧
      getCarpincho 1 s = some c ∧ AceptaEscritura entornoSoloPrimera c 32 1 ∧
      ¬ AvisaFalla (FallaEscritura entornoSoloPrimera (paginaPorIndice 1) [65]
          (acciones configUnMarco 32 1) 0 s) Prod.fst
        (memoryMemwrite entornoSoloPrimera 1 32 [65] s) := by
  have hcorrida : (guardedRun (llamar entornoSoloPrimera) (fun _ _ => true) [.memalloc 1 30]
      (inicializarMemoria configUnMarco fun _ => paginaNueva 0 0)).any (fun s =>
        (getCarpincho 1 s).any fun c => c.paginas = [0, 1] ∧ c.allocs = [⟨0, false, 30⟩] ∧
          returns (paginaPorIndice 1 1 s) (fun page =>
            returns (escribirEnPagina entornoSoloPrimera page [65] 0 s) fun r => r.1 = -1)) =
      true := by
    decide +kernel
  obtain ⟨s, hs, hfin⟩ := (Option.any_eq_true _ _).1 hcorrida
  obtain ⟨c, hc, hfin⟩ := (Option.any_eq_true _ _).1 hfin
  obtain ⟨hpaginas, hallocs, hfin⟩ := of_decide_eq_true hfin
  obtain ⟨page, hpage, hfin⟩ := exists_of_returns hfin
  obtain ⟨r, hr, hfalla⟩ := exists_of_returns hfin
  have hacepta : AceptaEscritura entornoSoloPrimera c 32 1 := by
    refine ⟨?_, ⟨0, false, 30⟩, ?_, ?_⟩
    · rw [hpaginas, hallocs]
      decide +kernel
    · rw [hallocs]
      decide +kernel
    · decide +kernel
  refine ⟨s, c, (reaches_of_guardedRun hs).mono fun _ _ _ => trivial, hc, hacepta, fun havisa => ?_⟩
  have hacciones : acciones configUnMarco 32 1 = [⟨1, [0]⟩] := by decide +kernel
  rw [hacciones] at havisa
  obtain ⟨a, ha, hno⟩ := havisa ⟨page, r.1, r.2, hpage, hr, Or.inl (of_decide_eq_true hfalla)⟩
  exact hno (memoryMemwrite_aceptada hc hacepta ha)

end Ejemplos

end Carpinchos.Memoria
