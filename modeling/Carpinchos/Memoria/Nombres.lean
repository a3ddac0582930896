import Carpinchos.Memoria.Numeracion
import Carpinchos.Memoria.Pasos

/-!
# The names of the pages in a run

A page keeps the name that it was created with, and a page that has been freed stays freed,
also in runs in which `compactar` takes pages out. So the pages of a carpincho are numbered by
their positions until one of them has been freed, and from then on no header of its heap can
be written.
-/

namespace Carpinchos.Memoria

open Outcome Estado Runs

variable {E : Entorno} {s s' s'' : Estado} {pid q : ℤ} {c : Carpincho}

section Nombres

/-- The tables agree with each other, and the pages of the carpinchos are numbered from one. -/
structure Nombrado (s : Estado) : Prop where
  tablas : TablasBien (fun _ _ => True) s.marcosList s.tlbList
  paginas : ∀ c ∈ s.carpinchosList, ∀ p ∈ c.paginas,
    p < s.proximoPtr ∧ (s.descriptor p).pagina ≠ 0

structure MismosNombres (s s' : Estado) : Prop where
  ptr : s.proximoPtr ≤ s'.proximoPtr
  nombres : ∀ p, p < s.proximoPtr → (s'.descriptor p).nombre = (s.descriptor p).nombre
  liberadas : ∀ p, p < s.proximoPtr → (s.descriptor p).liberada = true →
    (s'.descriptor p).liberada = true

theorem MismosNombres.refl (s : Estado) : MismosNombres s s :=
  ⟨le_rfl, fun _ _ => rfl, fun _ _ h => h⟩

theorem MismosNombres.trans (h : MismosNombres s s') (h' : MismosNombres s' s'') :
    MismosNombres s s'' where
  ptr := h.ptr.trans h'.ptr
  nombres := fun p hp => (h'.nombres p (hp.trans_le h.ptr)).trans (h.nombres p hp)
  liberadas := fun p hp hl => h'.liberadas p (hp.trans_le h.ptr) (h.liberadas p hp hl)

theorem Nombrado.huella (h : Nombrado s) :
    Huella (fun _ _ => True) (fun p => (s.descriptor p).nombre) s :=
  ⟨fun _ => rfl, h.tablas⟩

theorem Nombrado.of_huella (h : Nombrado s) (heaps : s'.heaps = s.heaps)
    (hh : Huella (fun _ _ => True) (fun p => (s.descriptor p).nombre) s') :
    Nombrado s' ∧ MismosNombres s s' := by
  have hptr := proximoPtr_of_heaps heaps
  refine ⟨⟨hh.tablas, fun c' hc' p hp => ?_⟩, ?_⟩
  · obtain ⟨c, hc, -, hpaginas⟩ := exists_duenio (duenio_of_heaps heaps) hc'
    obtain ⟨hlt, hnumero⟩ := h.paginas c hc p (hpaginas ▸ hp)
    have hnombre := congrArg Prod.snd (hh.nombres p)
    rw [hptr]
    exact ⟨hlt, fun hcero => hnumero (hnombre.symm.trans hcero)⟩
  · refine ⟨hptr.ge, fun p _ => hh.nombres p, fun p _ hl => ?_⟩
    rw [liberada_of_heaps heaps]
    exact hl

theorem Nombrado.of_carpinchos (h : Nombrado s) {l : List Carpincho}
    (hl : ∀ c' ∈ l, ∀ p ∈ c'.paginas, ∃ c ∈ s.carpinchosList, p ∈ c.paginas) :
    Nombrado { s with carpinchosList := l } ∧ MismosNombres s { s with carpinchosList := l } := by
  refine ⟨⟨h.tablas, fun c' hc' p hp => ?_⟩, ⟨le_rfl, fun _ _ => rfl, fun _ _ hl => hl⟩⟩
  obtain ⟨c, hc, hpc⟩ := hl c' hc' p hp
  exact h.paginas c hc p hpc

theorem Nombrado.setCarpincho (h : Nombrado s) {f : Carpincho → Carpincho}
    (hf : ∀ c ∈ s.carpinchosList, c.pid = pid →
      ∀ p ∈ (f c).paginas, ∃ d ∈ s.carpinchosList, p ∈ d.paginas) :
    Nombrado (s.setCarpincho pid f) ∧ MismosNombres s (s.setCarpincho pid f) := by
  apply h.of_carpinchos
  intro c' hc' p hp
  obtain ⟨c, hc, rfl⟩ := List.mem_map.1 hc'
  split at hp
  · next hpid => exact hf c hc hpid p hp
  · exact ⟨c, hc, hp⟩

theorem Nombrado.createPagina {p : ℕ} (h : Nombrado s) (hs : createPagina E pid s = .ok (p, s')) :
    Nombrado s' ∧ MismosNombres s s' := by
  obtain ⟨c, hc, rfl, heaps⟩ := heaps_createPagina hs
  have hh : Huella (fun _ _ => True) (nombresCon c s) s' :=
    Huella.createPagina hc ⟨fun _ => rfl, h.tablas⟩ trivial hs
  have hptr : s'.proximoPtr = s.proximoPtr + 1 := proximoPtr_of_heaps heaps
  refine ⟨⟨hh.tablas, fun d' hd' q hq => ?_⟩, ⟨by omega, fun q hq => ?_, fun q hq hl => ?_⟩⟩
  · obtain ⟨d, hd, -, hpaginas⟩ := exists_of_conPagina heaps hd'
    have hnombre := congrArg Prod.snd (hh.nombres q)
    rw [← hpaginas] at hq
    rcases mem_paginas_con hq with hq | ⟨-, rfl⟩
    · obtain ⟨hlt, hnumero⟩ := h.paginas d hd q hq
      rw [nombresCon_viejo c hlt] at hnombre
      exact ⟨by omega, fun hcero => hnumero (hnombre.symm.trans hcero)⟩
    · rw [nombresCon_nuevo] at hnombre
      refine ⟨by omega, fun hcero => ?_⟩
      exact Int.natCast_ne_zero.2 (Nat.succ_ne_zero _) (hnombre.symm.trans hcero)
  · exact (hh.nombres q).trans (nombresCon_viejo c hq)
  · rw [liberada_of_heaps heaps]
    simpa [conPagina, conDescriptor, Estado.setCarpincho, setPagina, Function.update_of_ne hq.ne]
      using hl

theorem Nombrado.quitarPagina {pag : ℕ} (h : Nombrado s)
    (hs : quitarPagina pid pag s = .ok s') : Nombrado s' ∧ MismosNombres s s' := by
  obtain ⟨-, -, hs⟩ := bind_eq_ok.1 hs
  obtain ⟨c, hc, hs⟩ := bind_eq_ok.1 hs
  obtain ⟨i, -, hs⟩ := bind_eq_ok.1 hs
  have hmem := (getCarpincho_pid (carpinchoDe_some hc)).2
  obtain ⟨hsin, hnombres⟩ := h.setCarpincho
    (f := fun d => { d with paginas := c.paginas.eraseIdx i.toNat })
    fun _ _ (_ : _ = pid) p hp => ⟨c, hmem, (List.eraseIdx_sublist _ _).subset hp⟩
  split at hs
  · dsimp only at hs
    split at hs
    · cases hs
      exact ⟨hsin, hnombres⟩
    · next q _ =>
      obtain ⟨-, -, hs⟩ := bind_eq_ok.1 hs
      cases hs
      have hnombre : ∀ p, (((s.setCarpincho pid fun d => { d with
          paginas := c.paginas.eraseIdx i.toNat }).setPagina q fun r =>
            { r with liberada := true }).descriptor p).nombre = (s.descriptor p).nombre := by
        intro p
        rcases eq_or_ne p q with rfl | hpq
        · simp [setPagina, Estado.setCarpincho, Pagina.nombre]
        · simp [setPagina, Estado.setCarpincho, Function.update_of_ne hpq]
      refine ⟨⟨hsin.tablas, fun d hd p hp => ?_⟩, ⟨le_rfl, fun p _ => hnombre p, ?_⟩⟩
      · obtain ⟨hlt, hnumero⟩ := hsin.paginas d hd p hp
        exact ⟨hlt, fun hcero => hnumero ((congrArg Prod.snd (hnombre p)).symm.trans hcero)⟩
      · intro p _ hl
        rcases eq_or_ne p q with rfl | hpq
        · simp [setPagina]
        · simpa [setPagina, Estado.setCarpincho, Function.update_of_ne hpq] using hl
  · cases hs

/-- Every step keeps the names. -/
theorem Nombrado.paso (h : Nombrado s) (hpaso : Paso E pid s s') :
    Nombrado s' ∧ MismosNombres s s' := by
  cases hpaso with
  | mensaje m => exact ⟨⟨h.tablas, h.paginas⟩, ⟨le_rfl, fun _ _ => rfl, fun _ _ hl => hl⟩⟩
  | carpincho =>
    unfold createCarpincho
    split
    · exact ⟨h, .refl s⟩
    · apply h.of_carpinchos
      intro c hc p hp
      rcases List.mem_append.1 hc with hc | hc
      · exact ⟨c, hc, hp⟩
      · obtain rfl := List.mem_singleton.1 hc
        cases hp
  | allocs allocs => exact h.setCarpincho fun c hc _ p hp => ⟨c, hc, hp⟩
  | pagina hs => exact h.createPagina hs
  | escritura hc hp hs =>
    have hnumero := (h.paginas _ (getCarpincho_pid hc).2 _ hp).2
    exact h.of_huella (heaps_escribirEnPagina hs) (h.huella.escribirEnPagina trivial hnumero hs)
  | lectura hc hp hs =>
    have hnumero := (h.paginas _ (getCarpincho_pid hc).2 _ hp).2
    exact h.of_huella (heaps_leerEnPagina hs) (h.huella.leerEnPagina trivial hnumero hs)
  | quita hs => exact h.quitarPagina hs

theorem Nombrado.pasos (h : Nombrado s) (hpasos : Pasos E pid s s') :
    Nombrado s' ∧ MismosNombres s s' := by
  induction hpasos with
  | refl => exact ⟨h, .refl s⟩
  | tail _ hpaso ih =>
    obtain ⟨h', hnombres⟩ := ih.1.paso hpaso
    exact ⟨h', ih.2.trans hnombres⟩

end Nombres

end Carpinchos.Memoria
