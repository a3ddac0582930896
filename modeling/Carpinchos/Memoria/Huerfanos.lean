import Carpinchos.Memoria.Libro

/-!
# Frames and TLB entries of pages that no longer exist

A page leaves its carpincho when `compactar_pagina` removes it and when the carpincho is
closed by `memory_memfree_all`. Neither gives back the frame of the page or clears its TLB
entry. As long as no page that is in the tables leaves, whatever the calls and whatever
SWAmP answers, every frame and every entry in use belongs to a page that exists.
-/

namespace Carpinchos.Memoria

open Outcome Estado Runs

/-- Every frame and every TLB entry in use belongs to a page of some carpincho. -/
structure SinHuerfanos (s : Estado) : Prop where
  marcos : ∀ m ∈ s.marcosList, m.isFree = false → PaginaDe s m.pid m.pagina
  tlb : ∀ t ∈ s.tlbList, t.enUso = true → PaginaDe s t.pid t.pagina

theorem Libro.sinHuerfanos {s : Estado} (h : Libro s) : SinHuerfanos s := by
  refine ⟨h.tablas.ocupados, fun t ht huso => ?_⟩
  apply h.tablas.nombre_entrada ht
  intro hmarco
  obtain ⟨hpid, -⟩ := h.tablas.vacias t ht hmarco
  simp [Tlb.enUso, hpid, hmarco] at huso

section Corrida

/-- As long as no page of the tables leaves its carpincho, no frame and no entry is left
behind; and closing a carpincho leaves no mention of it exactly when there was none. -/
theorem corrida_sinHuerfanos (E : Entorno) (basura : ℕ → Pagina) {ops : List Llamada} {s : Estado}
    (h : Reaches (llamar E) (fun s op => conservaPaginas E.config s op = true)
      (inicializarMemoria E.config basura) ops s) :
    SinHuerfanos s ∧ ∀ pid s', memoryMemfreeAll pid s = .ok (.exito, s') →
      (vacante pid s' = true ↔ conservaPaginas E.config s (.memfreeAll pid) = true) := by
  have hpaso : ∀ s op r s', LibroNumerado s → conservaPaginas E.config s op = true →
      llamar E op s = .ok (r, s') → LibroNumerado s' :=
    fun s op r s' hs hconserva hok => hs.llamar hconserva hok
  have hlibro := h.invariant hpaso (libro_inicial E.config basura)
  refine ⟨hlibro.toLibro.sinHuerfanos, fun pid s' hs => ?_⟩
  obtain ⟨c, i, hc, -, hcerrado⟩ := memoryMemfreeAll_exito hs
  obtain ⟨rfl, hmem⟩ := getCarpincho_pid hc
  rw [vacante_of_tablas hcerrado.tablas, conservaPaginas, existCarpincho_of_mem hmem]
  rfl

/-- The pages of a carpincho have all been evicted when it is closed. -/
theorem corrida_sinHuerfanos_desalojada :
    ∃ s, guardedRun (llamar (entornoFiel configHeap)) (conservaPaginas configHeap)
      [.memalloc 1 5, .memalloc 2 247, .memfreeAll 1] estadoHeap = some s ∧
      s.carpinchosList.map Carpincho.pid = [2] ∧ SinHuerfanos s := by
  have hcorrida : (guardedRun (llamar (entornoFiel configHeap)) (conservaPaginas configHeap)
      [.memalloc 1 5, .memalloc 2 247, .memfreeAll 1] estadoHeap).any
      (fun s => s.carpinchosList.map Carpincho.pid = [2]) = true := by
    decide +kernel
  obtain ⟨s, hs, hpids⟩ := (Option.any_eq_true _ _).1 hcorrida
  have hsin := (corrida_sinHuerfanos (entornoFiel configHeap) _ (reaches_of_guardedRun hs)).1
  exact ⟨s, hs, of_decide_eq_true hpids, hsin⟩

instance (s : Estado) (pid pagina : ℤ) : Decidable (PaginaDe s pid pagina) :=
  inferInstanceAs (Decidable (∃ c ∈ s.carpinchosList, c.pid = pid ∧
    ∃ p ∈ c.paginas, (s.descriptor p).nombre = (pid, pagina)))

def marcoHuerfano (s : Estado) : Bool :=
  s.marcosList.any fun m => !m.isFree && !decide (PaginaDe s m.pid m.pagina)

theorem not_sinHuerfanos_of_marcoHuerfano {s : Estado} (h : marcoHuerfano s = true) :
    ¬ SinHuerfanos s := by
  intro hsin
  obtain ⟨m, hm, hhuerfano⟩ := List.any_eq_true.1 h
  simp only [Bool.and_eq_true, Bool.not_eq_true', decide_eq_false_iff_not] at hhuerfano
  exact hhuerfano.2 (hsin.marcos m hm hhuerfano.1)

/-- The frame of a closed carpincho, and the frame of a page that compaction removes. -/
theorem huerfanos_al_cerrar_y_compactar :
    (∃ s, Reaches (llamar (entornoFiel configHeap)) (fun _ _ => True) estadoHeap
      [.memalloc 1 5, .memfreeAll 1] s ∧ ¬ SinHuerfanos s) ∧
    ∃ s, Reaches (llamar (entornoFiel configHeap)) (fun _ _ => True) estadoHeap
      [.memalloc 1 23, .memalloc 1 5, .memfree 1 9] s ∧ ¬ SinHuerfanos s := by
  have hcerrar : (guardedRun (llamar (entornoFiel configHeap)) (fun _ _ => true)
      [.memalloc 1 5, .memfreeAll 1] estadoHeap).any marcoHuerfano = true := by decide +kernel
  have hcompactar : (guardedRun (llamar (entornoFiel configHeap)) (fun _ _ => true)
      [.memalloc 1 23, .memalloc 1 5, .memfree 1 9] estadoHeap).any marcoHuerfano = true := by
    decide +kernel
  constructor
  · obtain ⟨s, hs, hhuerfano⟩ := (Option.any_eq_true _ _).1 hcerrar
    exact ⟨s, (reaches_of_guardedRun hs).mono fun _ _ _ => trivial,
      not_sinHuerfanos_of_marcoHuerfano hhuerfano⟩
  · obtain ⟨s, hs, hhuerfano⟩ := (Option.any_eq_true _ _).1 hcompactar
    exact ⟨s, (reaches_of_guardedRun hs).mono fun _ _ _ => trivial,
      not_sinHuerfanos_of_marcoHuerfano hhuerfano⟩

end Corrida

end Carpinchos.Memoria
