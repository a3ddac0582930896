import Carpinchos.Memoria.Estado

/-!
# A SWAmP that gives back what it was sent

The assumption under which the paged memory loses nothing: a read of a page is
answered with the content last sent for it. `swampFiel` is such a SWAmP.
-/

namespace Carpinchos.Memoria

section Historia

variable {pid pagina : ℤ} {historia : List Mensaje} {contenido : List UInt8}

/-- The content last sent for a page. -/
def ultimaEscritura (pid pagina : ℤ) (historia : List Mensaje) : Option (List UInt8) :=
  historia.foldl (fun ultima m =>
    match m with
    | .escritura pid' pagina' contenido =>
      if pid' = pid ∧ pagina' = pagina then some contenido else ultima
    | _ => ultima) none

theorem ultimaEscritura_append_escritura {pid' pagina' : ℤ} :
    ultimaEscritura pid pagina (historia ++ [.escritura pid' pagina' contenido]) =
      if pid' = pid ∧ pagina' = pagina then some contenido
      else ultimaEscritura pid pagina historia := by
  rw [ultimaEscritura, List.foldl_append]
  rfl

@[simp] theorem ultimaEscritura_append_lectura {pid' pagina' : ℤ} :
    ultimaEscritura pid pagina (historia ++ [.lectura pid' pagina']) =
      ultimaEscritura pid pagina historia := by
  rw [ultimaEscritura, List.foldl_append]
  rfl

end Historia

/-- SWAmP answers a read with the content last sent for the page. -/
def Entorno.SwampFiel (E : Entorno) : Prop :=
  ∀ historia pid pagina contenido, ultimaEscritura pid pagina historia = some contenido →
    contenido.length = E.config.tamanioPagina →
      E.leerSwamp historia pid pagina = some contenido

/-- A SWAmP that keeps the last content of every page, and serves an empty page for
one that it does not have. -/
def swampFiel (tamanioPagina : ℕ) (historia : List Mensaje) (pid pagina : ℤ) : List UInt8 :=
  match ultimaEscritura pid pagina historia with
  | some contenido =>
    if contenido.length = tamanioPagina then contenido else List.replicate tamanioPagina guion
  | none => List.replicate tamanioPagina guion

theorem length_swampFiel (tamanioPagina : ℕ) (historia : List Mensaje) (pid pagina : ℤ) :
    (swampFiel tamanioPagina historia pid pagina).length = tamanioPagina := by
  unfold swampFiel
  split
  · split
    · next h => exact h
    · exact List.length_replicate
  · exact List.length_replicate

/-- Insertion sort, as a stable `list_sort`. -/
def ordenarLista {α : Type} (menor : α → α → Bool) (l : List α) : List α :=
  l.insertionSort fun a b => menor b a = false

theorem ordenarLista_sorted {α : Type} (clave : α → ℤ) (l : List α) :
    (ordenarLista (fun a b => decide (clave a < clave b)) l).Pairwise
      fun a b => clave a ≤ clave b := by
  have htotal : Std.Total fun a b : α => decide (clave b < clave a) = false :=
    ⟨fun a b => by simpa using le_total (clave a) (clave b)⟩
  have htrans : IsTrans α fun a b => decide (clave b < clave a) = false :=
    ⟨fun a b c hab hbc => by
      simp only [decide_eq_false_iff_not, not_lt] at hab hbc ⊢
      exact hab.trans hbc⟩
  exact (List.pairwise_insertionSort _ l).imp fun {a b} hab => by simpa using hab

/-- The module with this SWAmP and a given configuration. -/
def entornoFiel (cfg : Config) : Entorno where
  config := cfg
  listSort := ordenarLista
  listSort_perm := fun _ l => List.perm_insertionSort _ l
  listSort_sorted := ordenarLista_sorted
  leerSwamp := fun historia pid pagina => some (swampFiel cfg.tamanioPagina historia pid pagina)
  leerSwamp_length := by
    intro historia pid pagina contenido h
    rw [← Option.some.inj h]
    exact length_swampFiel _ _ _ _
  puedeEscribirSwamp := fun _ _ _ => 1

theorem entornoFiel_swampFiel (cfg : Config) : (entornoFiel cfg).SwampFiel := by
  intro historia pid pagina contenido hultima hlen
  have hlen' : contenido.length = cfg.tamanioPagina := hlen
  simp only [entornoFiel, swampFiel, hultima, hlen', if_true]

/-- Two frames of two bytes and a TLB of one entry. -/
def configChica (mmu : AlgoritmoMmu) (tlb : AlgoritmoTlb) : Config where
  tamanio := 4
  tamanioPagina := 2
  tipoAsignacion := .dinamica
  algoritmoReemplazoMmu := mmu
  cantidaEntradasTlb := 1
  algoritmoReemplazoTlb := tlb
  marcosPorCarpincho := 2
  pagina_pos := by decide
  tamanio_lt := by decide
  pagina_lt := by decide

/-- Eight frames of 32 bytes and a TLB of four entries. -/
def configHeap : Config where
  tamanio := 256
  tamanioPagina := 32
  tipoAsignacion := .dinamica
  algoritmoReemplazoMmu := .lru
  cantidaEntradasTlb := 4
  algoritmoReemplazoTlb := .fifo
  marcosPorCarpincho := 4
  pagina_pos := by decide
  tamanio_lt := by decide
  pagina_lt := by decide

def estadoHeap : Estado := inicializarMemoria configHeap fun _ =>
  { marco := 0, carpinchoPid := 0, pagina := 0, bitPresencia := false, bitDeUso := false,
    bitDeModificacion := false, timestamp := 0, liberada := false }

end Carpinchos.Memoria
