import Carpinchos.Memoria.Teselado
import Carpinchos.Memoria.Tope
import Carpinchos.Memoria.Pasos

/-!
# The blocks of a heap in a run

`memory_memalloc` puts a block in the first free one that is big enough, or after the last
one. A free block that is truncated leaves a new one at its right, which goes to the second
place of the list wherever the block is. So while only the first block of a list is truncated
the blocks stay in the order of their addresses, and `memory_memfree` keeps them so.
-/

namespace Carpinchos.Memoria

open Outcome Estado Runs Tiling

section Colocacion

variable {cfg : Config} {paginas size : ℕ} {allocs previos siguientes : List Alloc} {alloc : Alloc}
  {r : Asignado}

theorem Teselado.of_tiles {hi : ℕ} (h : bloques.Tiles 0 allocs hi)
    (hdatos : ∀ a ∈ allocs, 1 ≤ a.tamanioData) (hcaben : hi ≤ paginas * cfg.tamanioPagina)
    (henteros : ∀ a ∈ allocs, a.tamanioData < 2 ^ 31) (hdirecciones : hi ≤ 2 ^ 32) :
    Teselado cfg paginas allocs := by
  have htotal := h.hi_eq
  rw [Nat.zero_add] at htotal
  subst htotal
  exact ⟨h, hdatos, hcaben, henteros, hdirecciones⟩

theorem Teselado.vacio (cfg : Config) (paginas : ℕ) : Teselado cfg paginas [] :=
  have hvacia : bloques.Tiles 0 [] 0 := rfl
  .of_tiles hvacia (by simp) (Nat.zero_le _) (by simp) (Nat.zero_le _)

/-- Where a block of a size may go in the list is where it goes, if it is truncated. -/
def truncaEnOrden (size : ℕ) (allocs : List Alloc) : Bool :=
  match allocs.dropWhile fun alloc => !alloc.libreConEspacio size with
  | [] => true
  | alloc :: _ => !alloc.seTrunca size ||
      (allocs.takeWhile fun alloc => !alloc.libreConEspacio size).isEmpty

def Alloc.dado (alloc : Alloc) : Alloc := { alloc with isFree := false }

def Alloc.recortado (size : ℕ) (alloc : Alloc) : Alloc :=
  { alloc with tamanioData := aInt size, isFree := false }

/-- The first free block that is big enough is given, or cut in two. -/
inductive TomaLibre (size : ℕ) (previos : List Alloc) (alloc : Alloc) (siguientes : List Alloc) :
    List Alloc → Prop
  | entero : alloc.seTrunca size = false →
      TomaLibre size previos alloc siguientes (previos ++ alloc.dado :: siguientes)
  | cortado : alloc.seTrunca size = true →
      TomaLibre size previos alloc siguientes
        ((previos ++ alloc.recortado size :: siguientes).insertIdx 1 (alloc.sobrante size))

theorem asignarEnHeapLibre_cases (h : asignarEnHeapLibre size allocs = .ok r) :
    ∃ previos alloc siguientes, allocs = previos ++ alloc :: siguientes ∧
      alloc.libreConEspacio size = true ∧ r.direccion = aUint32 (alloc.direccion + 9) ∧
      TomaLibre size previos alloc siguientes r.allocs ∧
      (truncaEnOrden size allocs = true → alloc.seTrunca size = true → previos = []) := by
  have hunidos := List.takeWhile_append_dropWhile (p := fun alloc => !alloc.libreConEspacio size)
    (l := allocs)
  unfold asignarEnHeapLibre at h
  unfold truncaEnOrden
  dsimp only at h
  cases hdrop : allocs.dropWhile fun alloc => !alloc.libreConEspacio size with
  | nil =>
    rw [hdrop] at h
    cases h
  | cons alloc siguientes =>
    rw [hdrop] at h hunidos
    have hlibre : alloc.libreConEspacio size = true := by
      have hhead := List.head?_dropWhile_not (fun alloc => !alloc.libreConEspacio size) allocs
      rw [hdrop] at hhead
      simpa using hhead
    have hindice : (listGetIndexAlloc allocs + 1).toNat = 1 := by
      have hno : allocs ≠ [] := by
        rintro rfl
        cases hdrop
      rw [listGetIndexAlloc, if_neg hno]
      rfl
    refine ⟨_, alloc, siguientes, hunidos.symm, hlibre, ?_, ?_, fun horden htrunca => ?_⟩
    · dsimp only at h
      split at h <;> cases h <;> rfl
    · dsimp only at h
      split at h
      · next htrunca =>
        cases h
        rw [hindice]
        exact .cortado htrunca
      · next htrunca =>
        cases h
        exact .entero (Bool.eq_false_iff.2 htrunca)
    · dsimp only at horden
      rw [htrunca, Bool.not_true, Bool.false_or] at horden
      exact List.isEmpty_iff.1 horden

theorem Teselado.entero (h : Teselado cfg paginas (previos ++ alloc :: siguientes))
    (hunido : Unido (previos ++ alloc :: siguientes)) (hlibre : alloc.isFree = true) :
    Teselado cfg paginas (previos ++ alloc.dado :: siguientes) ∧
      Unido (previos ++ alloc.dado :: siguientes) := by
  have hseguidos : bloques.Tiles 0 (previos ++ alloc.dado :: siguientes) _ :=
    h.seguidos.replace rfl rfl
  have hdatos := h.datos
  have henteros := h.enteros
  rw [List.forall_mem_append, List.forall_mem_cons] at hdatos henteros
  constructor
  · apply Teselado.of_tiles hseguidos _ h.caben _ h.direcciones
    · rw [List.forall_mem_append, List.forall_mem_cons]
      exact hdatos
    · rw [List.forall_mem_append, List.forall_mem_cons]
      exact henteros
  · apply (Blocks.coalesced_middle_of_used rfl).2
    exact ((Blocks.coalesced_middle_of_free hlibre).1 hunido).1

theorem Teselado.partes (h : Teselado cfg paginas (alloc :: siguientes)) (hlt : size < 2 ^ 31)
    (htrunca : alloc.seTrunca size = true) :
    aInt size = size ∧ (alloc.sobrante size).tamanioData = alloc.tamanioData - size - 9 ∧
      1 ≤ (alloc.sobrante size).tamanioData ∧
      (alloc.sobrante size).direccion = alloc.direccion + size + 9 := by
  have hdato := h.datos alloc List.mem_cons_self
  have hentero := h.enteros alloc List.mem_cons_self
  have hstop := stop_bloques hdato
  have hfin := h.stop_le_uint32 List.mem_cons_self
  rw [Alloc.seTrunca, Bool.and_eq_true, decide_eq_true_iff, decide_eq_true_iff] at htrunca
  have htamanio := aUint32_of_range (x := alloc.tamanioData) (by omega) (by omega)
  have hresto := aUint32_of_range (x := alloc.tamanioData - size) (by omega) (by omega)
  have hsobra := aInt_of_range (x := alloc.tamanioData - size - 9) (by omega) (by omega)
  have hdir := aUint32_of_range (x := (alloc.direccion : ℤ) + size + 9) (by omega) (by omega)
  refine ⟨aInt_of_range (by omega) (by omega), hsobra, ?_, ?_⟩
  · show 1 ≤ aInt (alloc.tamanioData - size - 9)
    omega
  · show aUint32 (alloc.direccion + size + 9) = alloc.direccion + size + 9
    omega

theorem Teselado.cortado_seguidos (h : Teselado cfg paginas (alloc :: siguientes))
    (hlt : size < 2 ^ 31) (htrunca : alloc.seTrunca size = true) :
    bloques.Tiles 0 (alloc.recortado size :: alloc.sobrante size :: siguientes)
      (bloques.total (alloc :: siguientes)) := by
  obtain ⟨hentero, hsobra, hdato, hdir⟩ := h.partes hlt htrunca
  have hstop := stop_bloques (h.datos alloc List.mem_cons_self)
  have hstop' := stop_bloques hdato
  have hcorte : bloques.start (alloc.sobrante size) = bloques.stop (alloc.recortado size) := by
    show (alloc.sobrante size).direccion = alloc.direccion + (aInt size + 9).toNat
    omega
  exact @Blocks.Tiles.split _ bloques _ _ _ _ _ [] _ h.seguidos rfl hcorte (by omega)

theorem Teselado.cortado (h : Teselado cfg paginas (alloc :: siguientes))
    (hunido : Unido (alloc :: siguientes)) (hlibre : alloc.isFree = true) (hsize : 1 ≤ size)
    (hlt : size < 2 ^ 31) (htrunca : alloc.seTrunca size = true) :
    Teselado cfg paginas (alloc.recortado size :: alloc.sobrante size :: siguientes) ∧
      Unido (alloc.recortado size :: alloc.sobrante size :: siguientes) := by
  obtain ⟨hentero, hsobra, hdato, -⟩ := h.partes hlt htrunca
  have hdatos := h.datos
  have henteros := h.enteros
  rw [List.forall_mem_cons] at hdatos henteros
  constructor
  · apply Teselado.of_tiles (h.cortado_seguidos hlt htrunca) _ h.caben _ h.direcciones
    · rw [List.forall_mem_cons, List.forall_mem_cons]
      refine ⟨?_, hdato, hdatos.2⟩
      show 1 ≤ aInt size
      omega
    · rw [List.forall_mem_cons, List.forall_mem_cons]
      refine ⟨?_, ?_, henteros.2⟩
      · show aInt size < 2 ^ 31
        omega
      · omega
  · obtain ⟨hhead, hresto⟩ := Blocks.coalesced_cons.1 hunido
    apply Blocks.coalesced_cons.2
    refine ⟨fun _ _ hno => (nomatch hno), Blocks.coalesced_cons.2 ⟨fun b hb _ => ?_, hresto⟩⟩
    exact hhead b hb hlibre

theorem sumarAllocs_eq {x y : ℤ} (hdatos : ∀ a ∈ allocs, 1 ≤ a.tamanioData)
    (h : sumarAllocs allocs x = .ok y) : y = x + bloques.total allocs := by
  induction allocs generalizing x with
  | nil =>
    cases h
    simp [Blocks.total]
  | cons alloc allocs ih =>
    rw [List.forall_mem_cons] at hdatos
    obtain ⟨z, hz, h⟩ := bind_eq_ok.1 h
    obtain ⟨w, hw, h⟩ := bind_eq_ok.1 h
    obtain ⟨-, rfl⟩ := enInt_eq_ok.1 hz
    obtain ⟨-, rfl⟩ := enInt_eq_ok.1 hw
    have hresto := ih hdatos.2 h
    have htotal : bloques.total (alloc :: allocs) =
        (alloc.tamanioData + 9).toNat + bloques.total allocs := rfl
    omega

theorem Teselado.inicioDatoAlFinal_eq (h : Teselado cfg paginas allocs)
    (hlt : bloques.total allocs + 9 < 2 ^ 32) :
    inicioDatoAlFinal allocs = bloques.total allocs + 9 := by
  unfold inicioDatoAlFinal
  cases hlast : allocs.getLast? with
  | none =>
    rw [List.getLast?_eq_none_iff.1 hlast]
    rfl
  | some ultimo =>
    obtain ⟨previos, rfl⟩ := List.getLast?_eq_some_iff.1 hlast
    have hdato := h.datos ultimo (by simp)
    have hstop := stop_bloques hdato
    have hfin := (Blocks.tiles_concat.1 h.seguidos).2
    have hdir := aUint32_of_range (x := (ultimo.direccion : ℤ) + 9 + ultimo.tamanioData + 9)
      (by omega) (by omega)
    dsimp only
    omega

theorem Teselado.allocAlFinal_eq (h : Teselado cfg paginas allocs)
    (hlt : bloques.total allocs + 9 < 2 ^ 32) (hsize : size < 2 ^ 31) :
    allocAlFinal size allocs = ⟨bloques.total allocs, false, size⟩ := by
  have hdir := aUint32_natCast (n := bloques.total allocs) (by omega)
  unfold allocAlFinal crearAlloc
  rw [h.inicioDatoAlFinal_eq hlt, aInt_of_range (x := (size : ℤ)) (by omega) (by omega)]
  congr 1
  rw [← hdir]
  congr 1
  omega

theorem Teselado.alFinal_seguidos (h : Teselado cfg paginas allocs)
    (hlt : bloques.total allocs + 9 < 2 ^ 32) (hsize : size < 2 ^ 31) :
    bloques.Tiles 0 (allocs ++ [allocAlFinal size allocs]) (bloques.total allocs + size + 9) := by
  rw [h.allocAlFinal_eq hlt hsize]
  apply Blocks.tiles_concat.2
  refine ⟨h.seguidos, ?_⟩
  show bloques.total allocs + ((size : ℤ) + 9).toNat = _
  omega

theorem Teselado.alFinal (h : Teselado cfg paginas allocs) (hunido : Unido allocs) {paginas' : ℕ}
    (hdato : 1 ≤ size) (hsize : size < 2 ^ 31)
    (hcabe : bloques.total allocs + size + 9 ≤ paginas' * cfg.tamanioPagina)
    (hlt : bloques.total allocs + size + 9 < 2 ^ 32) :
    Teselado cfg paginas' (allocs ++ [allocAlFinal size allocs]) ∧
      Unido (allocs ++ [allocAlFinal size allocs]) := by
  have hseguidos := h.alFinal_seguidos (by omega) hsize
  rw [h.allocAlFinal_eq (by omega) hsize] at hseguidos ⊢
  constructor
  · apply Teselado.of_tiles hseguidos _ hcabe _ hlt.le
    · simp only [List.forall_mem_append, List.forall_mem_singleton]
      exact ⟨h.datos, by omega⟩
    · simp only [List.forall_mem_append, List.forall_mem_singleton]
      exact ⟨h.enteros, by omega⟩
  · apply (Blocks.coalesced_middle_of_used rfl).2
    exact ⟨hunido, List.IsChain.nil⟩

/-- A block without data is not found by its address. -/
theorem obtenerAlloc_vacio {hi : ℕ} (htes : bloques.Tiles 0 (previos ++ alloc :: siguientes) hi)
    (hhi : hi ≤ 2 ^ 32) (hprevios : ∀ a ∈ previos, 1 ≤ a.tamanioData)
    (hsiguientes : ∀ a ∈ siguientes, 1 ≤ a.tamanioData) (hvacio : alloc.tamanioData = 0)
    (hdir : alloc.direccion + 9 < 2 ^ 32) :
    obtenerAllocDeUnCarpincho (previos ++ alloc :: siguientes) (alloc.direccion + 9) = none := by
  obtain ⟨htprevios, htsiguientes⟩ := Blocks.tiles_middle.1 htes
  have hstop : bloques.stop alloc = alloc.direccion + 9 := by
    show alloc.direccion + (alloc.tamanioData + 9).toNat = _
    omega
  have hfin : bloques.stop alloc ≤ hi := htsiguientes.le
  have hlejos : ∀ a, 1 ≤ a.tamanioData → bloques.stop a ≤ hi →
      bloques.stop a ≤ alloc.direccion ∨ bloques.stop alloc ≤ a.direccion →
      a.contieneDato (alloc.direccion + 9) = false := by
    intro a hdato hahi hfuera
    have hastop := stop_bloques hdato
    have hinicio := aUint32_of_range (x := (a.direccion : ℤ) + 9) (by omega) (by omega)
    have hfin := aUint32_of_range (x := (a.inicioDato : ℤ) + a.tamanioData - 1)
      (by rw [Alloc.inicioDato]; omega) (by rw [Alloc.inicioDato]; omega)
    rw [← Alloc.inicioDato] at hinicio
    rw [← Alloc.finDato] at hfin
    rw [Alloc.contieneDato, Bool.and_eq_false_iff, decide_eq_false_iff_not,
      decide_eq_false_iff_not]
    omega
  apply List.find?_eq_none.2
  rw [List.forall_mem_append, List.forall_mem_cons]
  refine ⟨fun a ha => ?_, ?_, fun a ha => ?_⟩
  · obtain ⟨-, hle⟩ := htprevios.bounds ha
    have hhasta : bloques.start alloc ≤ hi := (Nat.le_add_right _ _).trans hfin
    rw [hlejos a (hprevios a ha) (hle.trans hhasta) (Or.inl hle)]
    exact Bool.false_ne_true
  · have hinicio := aUint32_of_range (x := (alloc.direccion : ℤ) + 9) (by omega) (by omega)
    have hfin := aUint32_of_range (x := (alloc.inicioDato : ℤ) + alloc.tamanioData - 1)
      (by rw [Alloc.inicioDato]; omega) (by rw [Alloc.inicioDato]; omega)
    rw [← Alloc.inicioDato] at hinicio
    rw [← Alloc.finDato] at hfin
    rw [Alloc.contieneDato, Bool.not_eq_true, Bool.and_eq_false_iff, decide_eq_false_iff_not,
      decide_eq_false_iff_not]
    omega
  · obtain ⟨hge, hle⟩ := htsiguientes.bounds ha
    rw [hlejos a (hsiguientes a ha) hle (Or.inr hge)]
    exact Bool.false_ne_true

/-- How a block is put into a heap: the pages, the allocs and the address of the data after. -/
inductive Colocacion (cfg : Config) (size paginas : ℕ) (allocs : List Alloc) :
    ℕ → List Alloc → ℕ → Prop
  | enHeapLibre {r : Asignado} : asignarEnHeapLibre size allocs = .ok r →
      Colocacion cfg size paginas allocs paginas r.allocs r.direccion
  | enPagina {ocupado : ℤ} : sumarAllocs allocs 0 = .ok ocupado →
      aInt size + 9 ≤ espacioTotal cfg paginas - ocupado →
      Colocacion cfg size paginas allocs paginas (allocs ++ [allocAlFinal size allocs])
        (inicioDatoAlFinal allocs)
  | enPaginasNuevas {ocupado cantPag : ℤ} : sumarAllocs allocs 0 = .ok ocupado →
      calcularCantidadPaginasNecesaria cfg (espacioTotal cfg paginas - ocupado) (aInt size) =
        .ok cantPag →
      espacioTotal cfg paginas - ocupado < aInt size + 9 →
      Colocacion cfg size paginas allocs (paginas + cantPag.toNat)
        (allocs ++ [allocAlFinal size allocs]) (inicioDatoAlFinal allocs)

theorem espacioTotal_le (cfg : Config) (paginas : ℕ) :
    espacioTotal cfg paginas ≤ (paginas * cfg.tamanioPagina : ℕ) ∧
      espacioTotal cfg paginas < 2 ^ 31 := by
  unfold espacioTotal
  rw [← Nat.cast_mul]
  refine ⟨aInt_le (by omega), ?_⟩
  unfold aInt
  omega

theorem caben_en_nuevas {libre size cantPag : ℤ}
    (hcantPag : calcularCantidadPaginasNecesaria cfg libre size = .ok cantPag)
    (hlibre : libre < size + 9) :
    size + 9 - libre ≤ (cantPag.toNat * cfg.tamanioPagina : ℕ) ∧ size + 9 - libre < 2 ^ 31 := by
  obtain ⟨⟨-, hlt⟩, rfl⟩ := calcularCantidadPaginas_eq hcantPag
  have hpide := aUint32_of_range (x := size + 9 - libre) (by omega) (by omega)
  generalize aUint32 (size + 9 - libre) = pide at hpide ⊢
  have hpocas : pide ⌈/⌉ cfg.tamanioPagina ≤ pide := by
    rw [ceilDiv_le_iff_le_mul cfg.pagina_pos]
    exact Nat.le_mul_of_pos_left _ cfg.pagina_pos
  have hcaben : pide ≤ cfg.tamanioPagina * (pide ⌈/⌉ cfg.tamanioPagina) := by
    rw [← ceilDiv_le_iff_le_mul cfg.pagina_pos]
  rw [aInt_of_range (by omega) (by omega), Int.toNat_natCast, Nat.mul_comm]
  omega

theorem Teselado.sin_dato_alFinal (h : Teselado cfg paginas allocs)
    (hlt : bloques.total allocs + 9 < 2 ^ 32) :
    obtenerAllocDeUnCarpincho (allocs ++ [allocAlFinal 0 allocs]) (inicioDatoAlFinal allocs) =
      none := by
  have hseguidos := @Teselado.alFinal_seguidos cfg paginas 0 allocs h hlt (by decide)
  have hbloque := @Teselado.allocAlFinal_eq cfg paginas 0 allocs h hlt (by decide)
  rw [h.inicioDatoAlFinal_eq hlt, hbloque]
  rw [hbloque] at hseguidos
  exact obtenerAlloc_vacio hseguidos (by omega) h.datos (by simp) rfl hlt

/-- Every way to put a block keeps a heap in order, if only the first block is truncated. -/
theorem Colocacion.teselado {paginas' direccion : ℕ} {allocs' : List Alloc}
    (hcol : Colocacion cfg size paginas allocs paginas' allocs' direccion)
    (h : Teselado cfg paginas allocs) (hunido : Unido allocs) (hsize : size < 2 ^ 31)
    (horden : truncaEnOrden size allocs = true)
    (hdato : (obtenerAllocDeUnCarpincho allocs' direccion).isSome = true) :
    Teselado cfg paginas' allocs' ∧ Unido allocs' := by
  have hentero := aInt_of_range (x := (size : ℤ)) (by omega) (by omega)
  cases hcol with
  | @enHeapLibre r hr =>
    obtain ⟨previos, alloc, siguientes, rfl, hlibre, hdir, htoma, hprevios⟩ :=
      asignarEnHeapLibre_cases hr
    have hfree : alloc.isFree = true := by
      rw [Alloc.libreConEspacio, Bool.and_eq_true] at hlibre
      exact hlibre.1
    generalize r.allocs = allocs' at htoma hdato ⊢
    cases htoma with
    | entero => exact h.entero hunido hfree
    | cortado htrunca =>
      obtain rfl := hprevios horden htrunca
      have hcero : alloc.direccion = 0 := h.seguidos.1
      obtain ⟨-, -, hsobra, -⟩ := h.partes hsize htrunca
      rcases Nat.eq_zero_or_pos size with rfl | hpos
      · have hresto : ∀ a ∈ alloc.sobrante 0 :: siguientes, 1 ≤ a.tamanioData := by
          rw [List.forall_mem_cons]
          exact ⟨hsobra, fun a ha => h.datos a (List.mem_cons_of_mem _ ha)⟩
        have hno := @obtenerAlloc_vacio [] _ (alloc.recortado 0) _
          (h.cortado_seguidos hsize htrunca) h.direcciones (by simp) hresto hentero
          (show alloc.direccion + 9 < 2 ^ 32 by omega)
        have hinicio : r.direccion = alloc.direccion + 9 := by
          rw [hdir]
          exact_mod_cast aUint32_natCast (n := alloc.direccion + 9) (by omega)
        have hesta : (obtenerAllocDeUnCarpincho ([] ++ alloc.recortado 0 :: alloc.sobrante 0 ::
            siguientes) ((alloc.recortado 0).direccion + 9)).isSome = true := by
          rw [hinicio] at hdato
          exact hdato
        rw [hno] at hesta
        cases hesta
      · exact h.cortado hunido hfree hpos hsize htrunca
  | @enPagina ocupado hsumar hcabe =>
    have hocupado := sumarAllocs_eq h.datos hsumar
    obtain ⟨hespacio, hlt⟩ := espacioTotal_le cfg paginas
    rcases Nat.eq_zero_or_pos size with rfl | hpos
    · rw [h.sin_dato_alFinal (by omega)] at hdato
      cases hdato
    · exact h.alFinal hunido hpos hsize (by omega) (by omega)
  | @enPaginasNuevas ocupado cantPag hsumar hcantPag hfalta =>
    have hocupado := sumarAllocs_eq h.datos hsumar
    obtain ⟨hespacio, hlt⟩ := espacioTotal_le cfg paginas
    obtain ⟨hcaben, hpide⟩ := caben_en_nuevas hcantPag hfalta
    rcases Nat.eq_zero_or_pos size with rfl | hpos
    · rw [h.sin_dato_alFinal (by omega)] at hdato
      cases hdato
    · rw [Nat.cast_mul] at hcaben hespacio
      apply h.alFinal hunido hpos hsize _ (by omega)
      rw [Nat.add_mul]
      zify
      omega

end Colocacion

section Memalloc

variable {E : Entorno} {s s' s₁ : Estado} {pid : ℤ} {c : Carpincho} {size : ℕ}

theorem setAllocs_heap (hc : getCarpincho pid s = some c) (allocs : List Alloc) :
    paginasDe pid (setAllocs pid allocs s) = c.paginas ∧
      allocsDe pid (setAllocs pid allocs s) = allocs := by
  rw [paginasDe, allocsDe, getCarpincho_setAllocs hc allocs]
  exact ⟨rfl, rfl⟩

theorem persistirDireccion_esDato {direccion : ℕ}
    (hs : persistirDireccion E pid direccion s = .ok s') :
    (obtenerAllocDeUnCarpincho (allocsDe pid s') direccion).isSome = true := by
  have hmismo := (MismoHeap.of_heaps (heaps_persistirDireccion hs) pid).eq.2
  obtain ⟨c, hc, hs⟩ := bind_eq_ok.1 hs
  rw [hmismo, allocsDe_of_some (carpinchoDe_some hc)]
  split at hs
  · cases hs
  · next h =>
    rw [h]
    rfl

def Asignada (E : Entorno) (pid : ℤ) (size : ℕ) (s s' : Estado) (direccion : ℕ) : Prop :=
  Colocacion E.config size (paginasDe pid s).length (allocsDe pid s) (paginasDe pid s').length
    (allocsDe pid s') direccion

theorem Asignada.of_heaps {direccion : ℕ} (h : Asignada E pid size s s₁ direccion)
    (heaps : s'.heaps = s₁.heaps) : Asignada E pid size s s' direccion := by
  obtain ⟨hpaginas, hallocs⟩ := (MismoHeap.of_heaps heaps pid).eq
  unfold Asignada
  rw [hpaginas, hallocs]
  exact h

theorem asignada_setAllocs (hc : getCarpincho pid s = some c) {allocs : List Alloc}
    {direccion : ℕ} (hcol : Colocacion E.config size c.paginas.length c.allocs c.paginas.length
      allocs direccion) : Asignada E pid size s (setAllocs pid allocs s) direccion := by
  obtain ⟨hpaginas, hallocs⟩ := setAllocs_heap hc allocs
  unfold Asignada
  rw [hpaginas, hallocs, paginasDe_of_some hc, allocsDe_of_some hc]
  exact hcol

theorem asignada_enHeapLibre {direccion : ℕ}
    (hs : memallocAsignarEnHeapLibre E pid size s = .ok (direccion, s')) :
    Asignada E pid size s s' direccion := by
  obtain ⟨c, hc, hs⟩ := bind_eq_ok.1 hs
  obtain ⟨r, hr, hs⟩ := bind_eq_ok.1 hs
  have hasignada : Asignada E pid size s (setAllocs pid r.allocs s) r.direccion :=
    asignada_setAllocs (carpinchoDe_some hc) (.enHeapLibre hr)
  dsimp only at hs
  split at hs
  · cases hs
    exact hasignada
  · obtain ⟨s₂, hpersistir, hs⟩ := bind_eq_ok.1 hs
    cases hs
    exact hasignada.of_heaps (heaps_persistirMetadataHeap hpersistir)

theorem planificarMemalloc_pagina (hs : planificarMemalloc E pid size s = .ok (.allocPagina, s')) :
    s' = s ∧ ∃ c ocupado, getCarpincho pid s = some c ∧ sumarAllocs c.allocs 0 = .ok ocupado ∧
      aInt size + 9 ≤ espacioTotal E.config c.paginas.length - ocupado := by
  obtain ⟨o, ho, hplanifica⟩ := consulta_of_planifica hs
  have hcheck : o = none := by
    cases o with
    | none => rfl
    | some cantPag =>
      rw [Planifica] at hplanifica
      split at hplanifica <;> cases hplanifica
  subst hcheck
  refine ⟨hplanifica.1, ?_⟩
  unfold planificarMemalloc at hs
  split at hs
  · obtain ⟨cantPag, -, hs⟩ := bind_eq_ok.1 hs
    dsimp only at hs
    split at hs <;> cases hs
  · next c hc =>
    obtain ⟨o, hrecorrer, hs⟩ := bind_eq_ok.1 hs
    cases o with
    | none => cases hs
    | some ocupado =>
      obtain ⟨libre, hlibre, hs⟩ := bind_eq_ok.1 hs
      obtain ⟨necesario, hnecesario, hs⟩ := bind_eq_ok.1 hs
      obtain ⟨-, rfl⟩ := enInt_eq_ok.1 hlibre
      obtain ⟨-, rfl⟩ := enInt_eq_ok.1 hnecesario
      split at hs
      · next hcabe =>
        exact ⟨c, ocupado, hc, sumarAllocs_of_recorrerAllocs hrecorrer, hcabe⟩
      · exfalso
        have hno : ∀ libre, solicitarPaginas E c.pid libre (aInt size) s ≠
            .ok (.allocPagina, s') := by
          intro libre hs
          obtain ⟨cantPag, -, hs⟩ := bind_eq_ok.1 hs
          dsimp only at hs
          split at hs <;> cases hs
        split at hs
        · obtain ⟨disponible, -, hs⟩ := bind_eq_ok.1 hs
          split at hs
          · exact hno _ hs
          · cases hs
        · exact hno _ hs

/-- The pages that are missing are created, and the block goes after the last one. -/
theorem asignada_solicitar {cantPag : ℤ} {direccion : ℕ} (hsize : size < 2 ^ 31)
    (hcon : Consulta E pid size s cantPag)
    (hs : memallocAsignarEnPaginasNuevas E pid size
      (createCarpincho pid (preguntado pid cantPag s)) = .ok (direccion, s')) :
    Asignada E pid size s s' direccion := by
  have hentero := aInt_of_range (x := (size : ℤ)) (by omega) (by omega)
  obtain ⟨c, hc, hfaltan⟩ := exists_paginasQueFaltan hcon
  rw [← getCarpincho_preguntado cantPag] at hc
  obtain ⟨s₁, hcrear, hfinal⟩ := asignarEnPaginasNuevas_cases hc hfaltan hs
  obtain ⟨d, hd, hlength, hallocs⟩ := getCarpincho_crearPaginas hc hcrear
  obtain ⟨d', hd', hfinal⟩ := bind_eq_ok.1 hfinal
  obtain rfl := Option.some.inj (hd.symm.trans (carpinchoDe_some hd'))
  cases hfinal
  have hantes : (paginasDe pid s).length = c.paginas.length ∧ allocsDe pid s = c.allocs ∧
      ∃ ocupado, sumarAllocs c.allocs 0 = .ok ocupado ∧
        calcularCantidadPaginasNecesaria E.config (espacioTotal E.config c.paginas.length - ocupado)
          (aInt size) = .ok cantPag ∧
        espacioTotal E.config c.paginas.length - ocupado < aInt size + 9 := by
    cases hantes : getCarpincho pid s with
    | none =>
      obtain ⟨e, he, hpaginas, hallocs⟩ := getCarpincho_createCarpincho hantes
      rw [← getCarpincho_preguntado cantPag, hc] at he
      obtain rfl := Option.some.inj he
      rw [Consulta, hantes] at hcon
      have hcantPag := map_some_eq_ok hcon
      have hcero : espacioTotal E.config c.paginas.length - 0 = 0 := by
        simp [hpaginas, espacioTotal, aInt]
      rw [paginasDe, allocsDe, hantes]
      refine ⟨by rw [hpaginas]; rfl, hallocs.symm, 0, by rw [hallocs]; rfl, ?_, by omega⟩
      rw [hcero]
      exact hcantPag
    | some e =>
      rw [getCarpincho_preguntado, createCarpincho_existente hantes, hantes] at hc
      obtain rfl := Option.some.inj hc
      rw [Consulta, hantes] at hcon
      obtain ⟨ocupado, libre, hsumar, hlibre, hcalcular, hfalta, -⟩ := pedir_cases hcon
      obtain ⟨-, rfl⟩ := enInt_eq_ok.1 hlibre
      rw [paginasDe_of_some hantes, allocsDe_of_some hantes]
      exact ⟨rfl, rfl, ocupado, hsumar, hcalcular, hfalta⟩
  obtain ⟨hpaginas, hantes, ocupado, hsumar, hcalcular, hfalta⟩ := hantes
  obtain ⟨hpaginas', hallocs'⟩ := setAllocs_heap hd (d.allocs ++ [allocAlFinal size d.allocs])
  unfold Asignada
  rw [hpaginas', hallocs', hpaginas, hantes, hallocs, hlength]
  exact .enPaginasNuevas hsumar hcalcular hfalta

theorem asignada_asignarMemalloc {checkStatus : CheckAllocRespuesta} {direccion : Option ℕ}
    (hsize : size < 2 ^ 31) (hplan : planificarMemalloc E pid size s = .ok (checkStatus, s₁))
    (hs : asignarMemalloc E pid size checkStatus s₁ = .ok (direccion, s')) :
    direccion = none ∧ s'.heaps = s.heaps ∨
      ∃ d, direccion = some d ∧ Asignada E pid size s s' d := by
  obtain ⟨o, ho, hplanifica⟩ := consulta_of_planifica hplan
  cases checkStatus with
  | allocSinEspacio =>
    cases hs
    refine Or.inl ⟨rfl, ?_⟩
    cases o with
    | none => exact congrArg Estado.heaps hplanifica.1
    | some cantPag =>
      rw [Planifica] at hplanifica
      split at hplanifica <;> cases hplanifica
      rfl
  | allocHeap =>
    obtain ⟨⟨d, s₂⟩, hheap, hs⟩ := bind_eq_ok.1 hs
    cases hs
    cases o with
    | none =>
      obtain rfl : s₁ = s := hplanifica.1
      exact Or.inr ⟨d, rfl, asignada_enHeapLibre hheap⟩
    | some cantPag =>
      rw [Planifica] at hplanifica
      split at hplanifica <;> cases hplanifica
  | allocPagina =>
    obtain ⟨⟨d, s₂⟩, hpagina, hs⟩ := bind_eq_ok.1 hs
    cases hs
    obtain ⟨rfl, c, ocupado, hc, hsumar, hcabe⟩ := planificarMemalloc_pagina hplan
    obtain ⟨c', hc', hpagina⟩ := bind_eq_ok.1 hpagina
    obtain rfl := Option.some.inj (hc.symm.trans (carpinchoDe_some hc'))
    cases hpagina
    exact Or.inr ⟨_, rfl, asignada_setAllocs hc (.enPagina hsumar hcabe)⟩
  | allocSolicitarPagina =>
    obtain ⟨⟨d, s₂⟩, hnuevas, hs⟩ := bind_eq_ok.1 hs
    cases hs
    cases o with
    | none => exact absurd rfl hplanifica.2
    | some cantPag =>
      rw [Planifica] at hplanifica
      split at hplanifica <;> cases hplanifica
      exact Or.inr ⟨d, rfl, asignada_solicitar hsize ho hnuevas⟩

/-- What a call does to the heaps: nothing, or it puts the block into one of them. -/
theorem memoryMemalloc_asignada {r : StatusMemoryOp × Option ℕ} (hsize : size < 2 ^ 31)
    (hs : memoryMemalloc E pid size s = .ok (r, s')) :
    r = (.sinEspacio, none) ∧ s'.heaps = s.heaps ∨
      ∃ direccion, r = (.exito, some direccion) ∧ Asignada E pid size s s' direccion ∧
        (obtenerAllocDeUnCarpincho (allocsDe pid s') direccion).isSome = true := by
  obtain ⟨⟨checkStatus, s₁⟩, hplan, hs⟩ := bind_eq_ok.1 hs
  obtain ⟨⟨direccion, s₂⟩, hasignar, hs⟩ := bind_eq_ok.1 hs
  rcases asignada_asignarMemalloc hsize hplan hasignar with ⟨rfl, heaps⟩ | ⟨d, rfl, hasignada⟩
  · cases hs
    exact Or.inl ⟨rfl, heaps⟩
  · obtain ⟨s₃, hpersistir, hs⟩ := bind_eq_ok.1 hs
    cases hs
    exact Or.inr ⟨d, rfl, hasignada.of_heaps (heaps_persistirDireccion hpersistir),
      persistirDireccion_esDato hpersistir⟩

end Memalloc

section Memfree

variable {E : Entorno} {s s' : Estado} {pid q : ℤ} {pos : ℕ} {c : Carpincho}
  {previos siguientes : List Alloc} {alloc : Alloc}

/-- The allocs after the loop of `compactar`: the first block goes if it is free and has page 0
for itself. -/
def compactados (cfg : Config) (allocs : List Alloc) : List Alloc :=
  if primeraLibre cfg allocs then
    allocs.tail.map (Alloc.bajar ((allocs.head?.map Alloc.tamanioData).getD 0 + 9))
  else allocs

/-- The loop takes out the first block and a page, or nothing. -/
theorem compactarMientras_compactados {fuel : ℕ} (hc : getCarpincho pid s = some c)
    (htes : Teselado E.config c.paginas.length c.allocs) (hunido : Unido c.allocs)
    (hs : compactarMientras E pid fuel s = .ok s') :
    ∃ d, getCarpincho pid s' = some d ∧ d.allocs = compactados E.config c.allocs ∧
      d.paginas.length + (if primeraLibre E.config c.allocs then 1 else 0) = c.paginas.length ∧
      Teselado E.config d.paginas.length d.allocs ∧ Unido d.allocs := by
  cases fuel with
  | zero => cases hs
  | succ fuel =>
    obtain ⟨⟨resultado, s₁⟩, hprimero, hs⟩ := bind_eq_ok.1 hs
    obtain ⟨pag, pags, hpaginas⟩ := compactar_no_vacia hc hprimero
    have hmira := hprimero
    rw [compactar_eq hc htes hunido hpaginas] at hmira
    split at hmira
    · next hcontable =>
      unfold compactados
      split at hmira
      · next hprimera =>
        obtain ⟨allocs, hallocs, hmira⟩ := bind_eq_ok.1 hmira
        obtain ⟨s₂, hquitar, hmira⟩ := bind_eq_ok.1 hmira
        cases hmira
        obtain ⟨d, hd, htes', hunido', hlength, -, -, hprimera'⟩ :=
          compactar_teselado hc htes hunido hprimero
        obtain ⟨d', hd', -, -, hdallocs⟩ :=
          quitarPagina_una (getCarpincho_setAllocs hc allocs) hquitar
        obtain rfl := Option.some.inj (hd.symm.trans hd')
        -- The second look finds the first block in use.
        have hfin : s' = s₁ := by
          cases fuel with
          | zero => cases hs
          | succ fuel =>
            obtain ⟨⟨resultado, s₂⟩, hsegundo, hfin⟩ := bind_eq_ok.1 hs
            obtain ⟨pag, pags, hpaginas⟩ := compactar_no_vacia hd hsegundo
            rw [compactar_eq hd htes' hunido' hpaginas, hprimera'] at hsegundo
            simp only [Bool.false_eq_true, if_false] at hsegundo
            split at hsegundo
            · cases hsegundo
              cases hfin
              rfl
            · cases hsegundo
        have hbajados : allocs = c.allocs.tail.map
            (Alloc.bajar ((c.allocs.head?.map Alloc.tamanioData).getD 0 + 9)) := by
          cases hlista : c.allocs with
          | nil =>
            rw [hlista] at hprimera
            cases hprimera
          | cons primero resto =>
            rw [hlista] at hprimera hallocs htes hcontable
            obtain ⟨hfiltro, -, -⟩ :=
              primeraLibre_sola htes.seguidos htes.datos hcontable hprimera
            rw [hfiltro, compactarAllocs_primera (htes.datos primero List.mem_cons_self)] at hallocs
            split at hallocs
            · cases hallocs
              rfl
            · cases hallocs
        rw [hfin, if_pos hprimera, if_pos hprimera]
        exact ⟨d, hd, hdallocs.trans hbajados, hlength, htes', hunido'⟩
      · next hprimera =>
        cases hmira
        cases hs
        rw [if_neg hprimera, if_neg hprimera]
        exact ⟨c, hc, rfl, rfl, htes, hunido⟩
    · cases hmira

structure Liberada (E : Entorno) (pid : ℤ) (pos : ℕ) (s s' : Estado) (previos : List Alloc)
    (alloc : Alloc) (siguientes : List Alloc) : Prop where
  allocs : allocsDe pid s = previos ++ alloc :: siguientes
  uso : alloc.isFree = false
  pos : pos = alloc.direccion + 9
  entero : (bloqueLiberado previos alloc siguientes).tamanioData < 2 ^ 31
  compactados : allocsDe pid s' = compactados E.config (trasLiberar previos alloc siguientes)
  paginas : (paginasDe pid s').length +
    (if primeraLibre E.config (trasLiberar previos alloc siguientes) then 1 else 0) =
      (paginasDe pid s).length
  teselado : Teselado E.config (paginasDe pid s').length (allocsDe pid s')
  unido : Unido (allocsDe pid s')

theorem memoryMemfree_liberada
    (htes : Teselado E.config (paginasDe pid s).length (allocsDe pid s))
    (hunido : Unido (allocsDe pid s)) (hs : memoryMemfree E pid pos s = .ok (.exito, s')) :
    ∃ previos alloc siguientes, Liberada E pid pos s s' previos alloc siguientes := by
  rcases memoryMemfree_cases hs with ⟨hno, -, -⟩ |
    ⟨c, allocs, unAlloc, s₁, -, hc, -, hliberar, hpersistir, hmientras⟩
  · cases hno
  · rw [paginasDe_of_some hc, allocsDe_of_some hc] at htes
    rw [allocsDe_of_some hc] at hunido
    have hesta : ∃ alloc ∈ c.allocs, alloc.isFree = false ∧ pos = alloc.direccion + 9 := by
      by_contra hno
      push Not at hno
      rw [htes.liberarAlloc_none hno] at hliberar
      cases hliberar
    obtain ⟨alloc, hmem, huso, hpos⟩ := hesta
    obtain ⟨previos, siguientes, hlista⟩ := List.append_of_mem hmem
    rw [hlista] at htes hunido hliberar
    rw [htes.liberarAlloc_eq huso hpos] at hliberar
    split at hliberar
    · next hentero =>
      cases hliberar
      obtain ⟨d, hd, hdpaginas, hdallocs⟩ := getCarpincho_persistir hc hpersistir
      obtain ⟨htes', hunido', -⟩ := htes.liberado hunido huso hentero
      rw [← hdallocs] at htes' hunido'
      rw [← hdpaginas] at htes'
      obtain ⟨e, he, heallocs, hepaginas, hetes, heunido⟩ :=
        compactarMientras_compactados hd htes' hunido' hmientras
      refine ⟨previos, alloc, siguientes, ?_, huso, hpos, hentero, ?_, ?_, ?_, ?_⟩
      · rw [allocsDe_of_some hc, hlista]
      · rw [allocsDe_of_some he, heallocs, hdallocs]
      · rw [paginasDe_of_some he, paginasDe_of_some hc, ← hdpaginas, ← hdallocs]
        exact hepaginas
      · rw [paginasDe_of_some he, allocsDe_of_some he]
        exact hetes
      · rw [allocsDe_of_some he]
        exact heunido
    · cases hliberar

end Memfree

end Carpinchos.Memoria
