import Carpinchos.Memoria.Teselado

/-!
# The ranges that a write and a read accept

`memory_memwrite` and `memory_memread` look at every address of the range on its own: it has
to be one of the data of some alloc. In a tiled heap two allocs are never next to each other
without metadata in between, so a range that is not empty is accepted when it lies in the data
of a single alloc. An empty range is accepted everywhere, also where there is no alloc.
-/

namespace Carpinchos.Memoria

open Outcome Estado Runs Tiling

section Rango

variable {cfg : Config} {paginas pos size x : ℕ} {allocs : List Alloc} {alloc a b : Alloc}

/-- The range lies in the data of a single alloc. -/
def EnUnAlloc (allocs : List Alloc) (pos size : ℕ) : Prop :=
  ∃ alloc ∈ allocs, alloc.direccion + 9 ≤ pos ∧ pos + size ≤ bloques.stop alloc

def EsDato (allocs : List Alloc) (pos : ℕ) : Prop := EnUnAlloc allocs pos 1

theorem Teselado.contieneDato_iff (h : Teselado cfg paginas allocs)
    (hmenos : paginas * cfg.tamanioPagina < 2 ^ 31) (ha : alloc ∈ allocs) :
    alloc.contieneDato x = true ↔ alloc.direccion + 9 ≤ x ∧ x < bloques.stop alloc := by
  have hdato := h.datos alloc ha
  have hstop := stop_bloques hdato
  have hfin := h.stop_le ha
  have hultimo : alloc.finDato = bloques.stop alloc - 1 := by
    have hcast : ((alloc.direccion + 9 : ℕ) : ℤ) + alloc.tamanioData - 1 =
        (bloques.stop alloc - 1 : ℕ) := by omega
    rw [Alloc.finDato, h.inicioDato_eq ha, hcast]
    exact aUint32_natCast (by omega)
  rw [Alloc.contieneDato, h.inicioDato_eq ha, hultimo, Bool.and_eq_true, decide_eq_true_iff,
    decide_eq_true_iff]
  omega

theorem Teselado.stop_le_stop (h : Teselado cfg paginas allocs) (ha : a ∈ allocs)
    (hb : b ∈ allocs) (hdesde : b.direccion + 9 ≤ bloques.stop a) :
    bloques.stop b ≤ bloques.stop a := by
  have hstart : bloques.start b = b.direccion := rfl
  have hstop : bloques.stop a = bloques.start a + bloques.size a := rfl
  rcases h.seguidos.apart ha hb with rfl | hantes | hdespues
  · exact le_rfl
  · omega
  · omega

/-- A range that begins in the data of a block and leaves it meets an address that is not one
of data. -/
theorem Teselado.rango (h : Teselado cfg paginas allocs)
    (hmenos : paginas * cfg.tamanioPagina < 2 ^ 31) (ha : alloc ∈ allocs)
    (hpos : pos < bloques.stop alloc)
    (htodos : ∀ i < size, allocs.any (Alloc.contieneDato (aUint32 (pos + i))) = true) :
    pos + size ≤ bloques.stop alloc := by
  induction size with
  | zero => exact hpos.le
  | succ size ih =>
    have hmedio := ih fun i hi => htodos i (hi.trans (Nat.lt_succ_self _))
    have hfin := h.stop_le ha
    obtain ⟨b, hb, hdato⟩ := List.any_eq_true.1 (htodos size (Nat.lt_succ_self _))
    have hcast : aUint32 ((pos : ℤ) + size) = pos + size := by
      have hsuma : (pos : ℤ) + size = (pos + size : ℕ) := by push_cast; rfl
      rw [hsuma]
      exact aUint32_natCast (by omega)
    rw [hcast, h.contieneDato_iff hmenos hb] at hdato
    by_contra hlejos
    have hdentro := h.stop_le_stop ha hb (by omega)
    omega

theorem EnUnAlloc.esDato (h : EnUnAlloc allocs pos size) (hsize : 0 < size) :
    EsDato allocs pos := by
  obtain ⟨alloc, ha, hdesde, hhasta⟩ := h
  exact ⟨alloc, ha, hdesde, by omega⟩

/-- The loop over the addresses accepts the empty range and the ranges of one alloc. -/
theorem Teselado.validar_iff (h : Teselado cfg paginas allocs)
    (hmenos : paginas * cfg.tamanioPagina < 2 ^ 31) (hpos : pos < 2 ^ 32) :
    validarDireccionLogicaEscrituraConSize cfg paginas allocs pos size = true ↔
      size = 0 ∨ EnUnAlloc allocs pos size := by
  have hcuenta : paginas < 2 ^ 31 :=
    (Nat.le_mul_of_pos_right _ cfg.pagina_pos).trans_lt hmenos
  rw [validarDireccionLogicaEscrituraConSize, List.all_eq_true]
  constructor
  · intro htodos
    cases size with
    | zero => exact Or.inl rfl
    | succ size =>
      have hdatos : ∀ i < size + 1, allocs.any (Alloc.contieneDato (aUint32 (pos + i))) = true := by
        intro i hi
        have hi' := htodos i (List.mem_range.2 hi)
        rw [validarDireccionLogicaEscritura, Bool.and_eq_true] at hi'
        exact hi'.2
      obtain ⟨alloc, ha, hdato⟩ := List.any_eq_true.1 (hdatos 0 (Nat.succ_pos _))
      rw [Nat.cast_zero, add_zero, aUint32_natCast hpos, h.contieneDato_iff hmenos ha] at hdato
      exact Or.inr ⟨alloc, ha, hdato.1, h.rango hmenos ha hdato.2 hdatos⟩
  · rintro (rfl | ⟨alloc, ha, hdesde, hhasta⟩) i hi
    · exact absurd hi (by simp)
    · have hi' := List.mem_range.1 hi
      have hfin := h.stop_le ha
      have hcast : aUint32 ((pos : ℤ) + i) = pos + i := by
        have hsuma : (pos : ℤ) + i = (pos + i : ℕ) := by push_cast; rfl
        rw [hsuma]
        exact aUint32_natCast (by omega)
      rw [hcast, validarDireccionLogicaEscritura, Bool.and_eq_true, List.any_eq_true]
      refine ⟨h.direccion_valida hcuenta ha (by omega), alloc, ha, ?_⟩
      rw [h.contieneDato_iff hmenos ha]
      omega

theorem Teselado.validar_iff_de_pos (h : Teselado cfg paginas allocs)
    (hmenos : paginas * cfg.tamanioPagina < 2 ^ 31) (hpos : pos < 2 ^ 32) (hsize : 0 < size) :
    validarDireccionLogicaEscrituraConSize cfg paginas allocs pos size = true ↔
      EnUnAlloc allocs pos size := by
  rw [h.validar_iff hmenos hpos, or_iff_right hsize.ne']

theorem Teselado.obtenerAlloc (h : Teselado cfg paginas allocs)
    (hmenos : paginas * cfg.tamanioPagina < 2 ^ 31) (pos : ℕ) :
    (EsDato allocs pos ∧ ∃ alloc ∈ allocs, obtenerAllocDeUnCarpincho allocs pos = some alloc ∧
      alloc.direccion + 9 ≤ pos ∧ pos < bloques.stop alloc) ∨
    ¬ EsDato allocs pos ∧ obtenerAllocDeUnCarpincho allocs pos = none := by
  unfold obtenerAllocDeUnCarpincho
  cases halloc : allocs.find? (Alloc.contieneDato pos) with
  | none =>
    refine Or.inr ⟨?_, rfl⟩
    rintro ⟨alloc, ha, hdesde, hhasta⟩
    have hno := List.find?_eq_none.1 halloc alloc ha
    rw [h.contieneDato_iff hmenos ha] at hno
    omega
  | some alloc =>
    have ha := List.mem_of_find?_eq_some halloc
    have hdato := List.find?_some halloc
    rw [h.contieneDato_iff hmenos ha] at hdato
    exact Or.inl ⟨⟨alloc, ha, hdato.1, hdato.2⟩, alloc, ha, rfl, hdato⟩

end Rango

section Llamadas

variable {E : Entorno} {s : Estado} {pid : ℤ} {pos size : ℕ} {c : Carpincho}

def escribirRango (E : Entorno) (pid : ℤ) (pos : ℕ) (valor : List UInt8) (s : Estado) :
    Except Falla (StatusMemoryOp × Estado) := do
  let s ← escribirAcciones E (paginaPorIndice pid) valor (acciones E.config pos valor.length) 0 s
  .ok (.exito, s)

/-- The calls on a range do what it deserves: a write ends in `EXITO` or
`DIRECCION_INVALIDA`, and a range that is not empty is accepted, by both, if it lies in the
data of a single alloc. -/
structure Distingue (E : Entorno) (pid : ℤ) (pos size : ℕ) (c : Carpincho) (s : Estado) :
    Prop where
  definida : ∀ valor : List UInt8, valor.length = size →
    memoryMemwrite E pid pos valor s = .ok (.direccionInvalida, s) ∨
      memoryMemwrite E pid pos valor s = escribirRango E pid pos valor s
  escritura : 0 < size → ∀ valor : List UInt8, valor.length = size →
    (memoryMemwrite E pid pos valor s ≠ .ok (.direccionInvalida, s) ↔
      EnUnAlloc c.allocs pos size)
  lectura : 0 < size → ∀ buffer : List UInt8, buffer.length = size →
    (memoryMemread E pid pos buffer s ≠ .ok ((.direccionInvalida, buffer), s) ↔
      EnUnAlloc c.allocs pos size)

theorem escribirRango_exito {valor : List UInt8} {status : StatusMemoryOp} {s' : Estado}
    (h : escribirRango E pid pos valor s = .ok (status, s')) : status = .exito := by
  obtain ⟨s₁, -, h⟩ := bind_eq_ok.1 h
  cases h
  rfl

theorem memoryMemwrite_fuera {valor : List UInt8} (hc : getCarpincho pid s = some c)
    (hno : validarDireccionLogicaEscrituraConSize E.config c.paginas.length c.allocs pos
      valor.length = false) :
    memoryMemwrite E pid pos valor s = .ok (.direccionInvalida, s) := by
  simp [memoryMemwrite, hc, hno]

theorem memoryMemread_fuera {buffer : List UInt8} (hc : getCarpincho pid s = some c)
    (hno : validarDireccionLogicaEscrituraConSize E.config c.paginas.length c.allocs pos
      buffer.length = false) :
    memoryMemread E pid pos buffer s = .ok ((.direccionInvalida, buffer), s) := by
  simp [memoryMemread, hc, hno]

theorem memoryMemread_dentro {buffer : List UInt8} (hc : getCarpincho pid s = some c)
    (hsi : validarDireccionLogicaEscrituraConSize E.config c.paginas.length c.allocs pos
      buffer.length = true) {r : StatusMemoryOp × List UInt8} {s' : Estado}
    (h : memoryMemread E pid pos buffer s = .ok (r, s')) : r.1 = .exito := by
  unfold memoryMemread at h
  rw [hc] at h
  dsimp only at h
  rw [if_pos hsi] at h
  obtain ⟨-, -, h⟩ := bind_eq_ok.1 h
  obtain ⟨leido, -, h⟩ := bind_eq_ok.1 h
  cases h
  rfl

/-- A write of data goes through the pages: the bytes that are left in its alloc are enough. -/
theorem memoryMemwrite_dentro {valor : List UInt8} (hc : getCarpincho pid s = some c)
    (htes : Teselado E.config c.paginas.length c.allocs)
    (hmenos : c.paginas.length * E.config.tamanioPagina < 2 ^ 31) (hpos : pos < 2 ^ 32)
    (hdato : EsDato c.allocs pos)
    (hsi : validarDireccionLogicaEscrituraConSize E.config c.paginas.length c.allocs pos
      valor.length = true) :
    memoryMemwrite E pid pos valor s = escribirRango E pid pos valor s := by
  rcases htes.obtenerAlloc hmenos pos with ⟨-, alloc, ha, halloc, hdesde, hhasta⟩ | hno
  · have hrango : pos + valor.length ≤ bloques.stop alloc := by
      rcases (htes.validar_iff hmenos hpos).1 hsi with hvacio | ⟨b, hb, hbdesde, hbhasta⟩
      · omega
      · have hdentro := htes.stop_le_stop ha hb
        by_cases hlejos : b.direccion + 9 ≤ bloques.stop alloc
        · have := hdentro hlejos
          omega
        · omega
    have hstop := stop_bloques (htes.datos alloc ha)
    have hfin := htes.stop_le ha
    have hultimo : aUint32 ((alloc.direccion : ℤ) + 9 + alloc.tamanioData - 1) =
        bloques.stop alloc - 1 := by
      have hcast : (alloc.direccion : ℤ) + 9 + alloc.tamanioData - 1 =
          (bloques.stop alloc - 1 : ℕ) := by omega
      rw [hcast]
      exact aUint32_natCast (by omega)
    have hquedan : aUint32 (((bloques.stop alloc - 1 : ℕ) : ℤ) - pos + 1) =
        bloques.stop alloc - pos := by
      have hcast : ((bloques.stop alloc - 1 : ℕ) : ℤ) - pos + 1 =
          (bloques.stop alloc - pos : ℕ) := by omega
      rw [hcast]
      exact aUint32_natCast (by omega)
    have hcontar : contarHasta valor.length = .ok () := if_pos (by omega)
    unfold memoryMemwrite
    rw [hc]
    dsimp only
    rw [if_pos hsi, halloc]
    dsimp only
    rw [hultimo, hquedan, if_neg (by omega), hcontar]
    rfl
  · exact absurd hdato hno.1

/-- A write of nothing where there are no data follows the alloc that was not found. -/
theorem memoryMemwrite_sin_alloc {valor : List UInt8} (hc : getCarpincho pid s = some c)
    (htes : Teselado E.config c.paginas.length c.allocs)
    (hmenos : c.paginas.length * E.config.tamanioPagina < 2 ^ 31)
    (hno : ¬ EsDato c.allocs pos)
    (hsi : validarDireccionLogicaEscrituraConSize E.config c.paginas.length c.allocs pos
      valor.length = true) :
    memoryMemwrite E pid pos valor s = .error .punteroNulo := by
  rcases htes.obtenerAlloc hmenos pos with ⟨hdato, -⟩ | ⟨-, halloc⟩
  · exact absurd hdato hno
  · simp [memoryMemwrite, hc, hsi, halloc]

/-- The calls are in order for the ranges that are not empty, and for an empty one where an
alloc has data. -/
theorem distingue_iff (hc : getCarpincho pid s = some c)
    (htes : Teselado E.config c.paginas.length c.allocs)
    (hmenos : c.paginas.length * E.config.tamanioPagina < 2 ^ 31) (hpos : pos < 2 ^ 32) :
    Distingue E pid pos size c s ↔ 0 < size ∨ EsDato c.allocs pos := by
  constructor
  · intro h
    by_contra hno
    push Not at hno
    obtain rfl : size = 0 := by omega
    have hsi : validarDireccionLogicaEscrituraConSize E.config c.paginas.length c.allocs pos
        ([] : List UInt8).length = true := (htes.validar_iff hmenos hpos).2 (Or.inl rfl)
    have hnulo := memoryMemwrite_sin_alloc hc htes hmenos hno.2 hsi
    rcases h.definida [] rfl with hfuera | hdentro
    · rw [hnulo] at hfuera
      cases hfuera
    · rw [hnulo] at hdentro
      cases hdentro
  · intro hbien
    have hdato : ∀ n, n = size → validarDireccionLogicaEscrituraConSize E.config c.paginas.length
        c.allocs pos n = true → EsDato c.allocs pos := by
      rintro n rfl hsi
      rcases hbien with hsize | hdato
      · rcases (htes.validar_iff hmenos hpos).1 hsi with hvacio | hen
        · omega
        · exact hen.esDato hsize
      · exact hdato
    refine ⟨fun valor hlength => ?_, fun hsize valor hlength => ?_, fun hsize buffer hlength => ?_⟩
    · cases hval : validarDireccionLogicaEscrituraConSize E.config c.paginas.length c.allocs pos
          valor.length with
      | false => exact Or.inl (memoryMemwrite_fuera hc hval)
      | true =>
        exact Or.inr (memoryMemwrite_dentro hc htes hmenos hpos (hdato _ hlength hval) hval)
    · rw [← hlength, ← htes.validar_iff_de_pos hmenos hpos (by omega)]
      cases hval : validarDireccionLogicaEscrituraConSize E.config c.paginas.length c.allocs pos
          valor.length with
      | false => simp [memoryMemwrite_fuera hc hval]
      | true =>
        rw [memoryMemwrite_dentro hc htes hmenos hpos (hdato _ hlength hval) hval]
        refine iff_of_true (fun hfuera => ?_) rfl
        cases escribirRango_exito hfuera
    · rw [← hlength, ← htes.validar_iff_de_pos hmenos hpos (by omega)]
      cases hval : validarDireccionLogicaEscrituraConSize E.config c.paginas.length c.allocs pos
          buffer.length with
      | false => simp [memoryMemread_fuera hc hval]
      | true =>
        refine iff_of_true (fun hfuera => ?_) rfl
        cases memoryMemread_dentro hc hval hfuera

/-- The five bytes of a block are accepted. -/
theorem distingue_un_bloque :
    ∃ s c, getCarpincho 1 s = some c ∧ c.allocs = [⟨0, false, 5⟩] ∧
      Distingue (entornoFiel configHeap) 1 9 5 c s := by
  obtain ⟨s, c, hc, hpaginas, hallocs, htes, -⟩ := heap_un_bloque (t := fun _ => true)
    (by decide +kernel)
  refine ⟨s, c, hc, hallocs, ?_⟩
  exact (@distingue_iff (entornoFiel configHeap) s 1 9 5 c hc htes (by rw [hpaginas]; decide)
    (by decide)).2 (Or.inl (by decide))

/-- A write of nothing to the metadata of the block follows a pointer that is null. -/
theorem escritura_vacia_sin_alloc :
    ∃ s c, getCarpincho 1 s = some c ∧ Teselado configHeap c.paginas.length c.allocs ∧
      c.paginas.length * configHeap.tamanioPagina < 2 ^ 31 ∧
      memoryMemwrite (entornoFiel configHeap) 1 0 [] s = .error .punteroNulo ∧
      ¬ Distingue (entornoFiel configHeap) 1 0 0 c s := by
  obtain ⟨s, c, hc, hpaginas, -, htes, -, hnulo⟩ := heap_un_bloque
    (t := fun s => faults (memoryMemwrite (entornoFiel configHeap) 1 0 [] s) .punteroNulo)
    (by decide +kernel)
  have hnulo' := eq_of_faults hnulo
  refine ⟨s, c, hc, htes, by rw [hpaginas]; decide, hnulo', fun h => ?_⟩
  rcases h.definida [] rfl with hfuera | hdentro
  · rw [hnulo'] at hfuera
    cases hfuera
  · rw [hnulo'] at hdentro
    cases hdentro

end Llamadas

end Carpinchos.Memoria
