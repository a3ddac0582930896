import Carpinchos.Memoria.Libro

/-!
# The numbers of the pages

`memory_memwrite` and `memory_memread` find a page by its position in the list of the
carpincho, and the heap metadata is written to the page of a number. A page is numbered by
the length of the list when it is created, so both ways lead to one page until
`compactar_pagina` takes the first page out of the list: the rest keep their numbers, and the
descriptor that is freed is not the one that was taken out.
-/

namespace Carpinchos.Memoria

open Outcome Estado Runs

section Busqueda

variable {s : Estado} {c : Carpincho}

theorem find?_numero {l : List ℕ} (numero : ℕ → ℤ)
    (h : ∀ k p, l[k]? = some p → numero p = ((k + 1 : ℕ) : ℤ)) (k : ℕ) :
    l.find? (fun p => numero p = ((k + 1 : ℕ) : ℤ)) = l[k]? := by
  cases hk : l[k]? with
  | none =>
    rw [List.find?_eq_none]
    intro p hp hnumero
    obtain ⟨j, hj⟩ := List.mem_iff_getElem?.1 hp
    have hjk : (j + 1 : ℕ) = k + 1 := by
      exact_mod_cast (h j p hj).symm.trans (of_decide_eq_true hnumero)
    obtain rfl := Nat.succ.inj hjk
    rw [hj] at hk
    cases hk
  | some p =>
    obtain ⟨hlt, hp⟩ := List.getElem?_eq_some_iff.1 hk
    refine List.find?_eq_some_iff_getElem.2 ⟨decide_eq_true (h k p hk), k, hlt, hp, ?_⟩
    intro j hj
    rw [h j l[j] (List.getElem?_eq_getElem _), Bool.not_eq_true', decide_eq_false_iff_not]
    omega

theorem Numeradas.paginasLegibles (h : Numeradas s) (hc : c ∈ s.carpinchosList) :
    paginasLegibles c.paginas s = .ok () := by
  rw [Memoria.paginasLegibles, if_neg]
  rw [List.any_eq_true]
  rintro ⟨p, hp, hliberada⟩
  rw [h.vivas c hc p hp] at hliberada
  cases hliberada

theorem Numeradas.getPage (h : Numeradas s) (hc : c ∈ s.carpinchosList) (k : ℕ) :
    getPage c ((k + 1 : ℕ) : ℤ) s = .ok (listGet c.paginas k) := by
  have hpid : ∀ p ∈ c.paginas, (s.descriptor p).carpinchoPid = c.pid := by
    intro p hp
    obtain ⟨j, hj⟩ := List.mem_iff_getElem?.1 hp
    exact congrArg Prod.fst (h.numeros c hc j p hj)
  have hbuscar : c.paginas.find? (fun p => (s.descriptor p).carpinchoPid = c.pid ∧
      (s.descriptor p).pagina = ((k + 1 : ℕ) : ℤ)) = c.paginas[k]? := by
    rw [← find?_numero (fun p => (s.descriptor p).pagina)
      (fun j p hj => congrArg Prod.snd (h.numeros c hc j p hj)) k]
    refine List.find?_congr fun p hp => ?_
    simp [hpid p hp]
  rw [Memoria.getPage, h.paginasLegibles hc]
  simp only [Outcome.ok_bind, hbuscar, listGet, Int.natCast_nonneg, if_true, Int.toNat_natCast]

end Busqueda

section Compactacion

variable {E : Entorno} {s s' : Estado} {pid : ℤ} {c : Carpincho}

theorem compactar_no_vacia (hc : getCarpincho pid s = some c) {r : Bool × Estado}
    (hs : compactar E pid s = .ok r) : ∃ pag resto, c.paginas = pag :: resto := by
  obtain ⟨c', hc', hs⟩ := bind_eq_ok.1 hs
  obtain rfl := Option.some.inj (hc.symm.trans (carpinchoDe_some hc'))
  split at hs
  · cases hs
  · next pag resto hpaginas => exact ⟨pag, resto, hpaginas⟩

/-- Compaction takes the first page out of the list and frees the one that comes after it. -/
theorem compactar_quita (h : LibroNumerado s) (hc : getCarpincho pid s = some c) {pag : ℕ}
    {resto : List ℕ} (hpaginas : c.paginas = pag :: resto)
    (hs : compactar E pid s = .ok (true, s')) :
    ∃ d, getCarpincho pid s' = some d ∧ d.paginas = resto ∧
      ∀ q, resto.head? = some q → (s'.descriptor q).liberada = true := by
  obtain ⟨c', hc', hs⟩ := bind_eq_ok.1 hs
  obtain rfl := Option.some.inj (hc.symm.trans (carpinchoDe_some hc'))
  rw [hpaginas] at hs
  obtain ⟨deLaPagina, -, hs⟩ := bind_eq_ok.1 hs
  split at hs
  · obtain ⟨allocs, -, hs⟩ := bind_eq_ok.1 hs
    obtain ⟨s₁, hquitar, hs⟩ := bind_eq_ok.1 hs
    cases hs
    have hc₁ := getCarpincho_setAllocs hc allocs
    -- The page carries the number one, so it is the first position that is taken out.
    have hnumero : ((setAllocs pid allocs s).descriptor pag).pagina = 1 :=
      congrArg Prod.snd ((h.setAllocs allocs).numeradas.numeros _ (getCarpincho_pid hc₁).2 0 pag
        (by simp [hpaginas]))
    obtain ⟨-, -, hquitar⟩ := bind_eq_ok.1 hquitar
    obtain ⟨c₂, hc₂, hquitar⟩ := bind_eq_ok.1 hquitar
    obtain rfl := Option.some.inj (hc₁.symm.trans (carpinchoDe_some hc₂))
    obtain ⟨indicePag, hindice, hquitar⟩ := bind_eq_ok.1 hquitar
    rw [hnumero] at hindice
    obtain rfl : 0 = indicePag := by
      simpa [enInt] using hindice
    have hcon := getCarpincho_setCarpincho (f := fun d => { d with paginas := resto })
      (fun _ => rfl) hc₁
    rw [if_pos (by simp [hpaginas])] at hquitar
    simp only [hpaginas, Int.toNat_zero, List.eraseIdx_cons_zero] at hquitar
    split at hquitar
    · next hresto =>
      cases hquitar
      refine ⟨_, hcon, rfl, fun q hq => ?_⟩
      rw [List.head?_eq_getElem?, hresto] at hq
      cases hq
    · next q hresto =>
      obtain ⟨-, -, hquitar⟩ := bind_eq_ok.1 hquitar
      cases hquitar
      refine ⟨_, hcon, rfl, fun q' hq' => ?_⟩
      rw [List.head?_eq_getElem?, hresto] at hq'
      obtain rfl := Option.some.inj hq'
      simp [setPagina]
  · cases hs

/-- A carpincho whose first descriptor has been freed is not compacted again. -/
theorem compactar_liberada (hc : getCarpincho pid s = some c) {q : ℕ} {resto : List ℕ}
    (hpaginas : c.paginas = q :: resto) (hq : (s.descriptor q).liberada = true)
    {resultado : Bool} (hs : compactar E pid s = .ok (resultado, s')) : resultado = false := by
  obtain ⟨c', hc', hs⟩ := bind_eq_ok.1 hs
  obtain rfl := Option.some.inj (hc.symm.trans (carpinchoDe_some hc'))
  rw [hpaginas] at hs
  obtain ⟨deLaPagina, -, hs⟩ := bind_eq_ok.1 hs
  split at hs
  · obtain ⟨allocs, -, hs⟩ := bind_eq_ok.1 hs
    obtain ⟨s₁, hquitar, hs⟩ := bind_eq_ok.1 hs
    obtain ⟨u, hlegible, -⟩ := bind_eq_ok.1 hquitar
    simp [paginasLegibles, setAllocs, setCarpincho, hq] at hlegible
  · cases hs
    rfl

/-- A free that compacts leaves a freed descriptor in the list; with a single page it does not
come to an end. -/
theorem memfree_compacta (h : LibroNumerado s) {pos : ℕ} {status : StatusMemoryOp}
    (hcompacta : compacta E.config pid pos s = true)
    (hs : memoryMemfree E pid pos s = .ok (status, s')) : ¬ Numeradas s' := by
  rcases memoryMemfree_cases hs with ⟨-, -, hno⟩ |
    ⟨c, allocs, alloc, s₁, -, hc, hvalida, hliberar, hpersistir, hmientras⟩
  · rw [hno] at hcompacta
    cases hcompacta
  · have h₁ := LibroNumerado.persistirMetadataHeap (h.setAllocs allocs) hpersistir
    obtain ⟨d, hd, -, hallocs⟩ := getCarpincho_persistir hc hpersistir
    obtain ⟨⟨resultado, s₂⟩, hcompactar, hmientras⟩ := bind_eq_ok.1 hmientras
    obtain rfl : true = resultado :=
      hcompacta.symm.trans (compacta_eq hc hvalida hliberar hd hallocs hcompactar)
    obtain ⟨pag, resto, hpaginas⟩ := compactar_no_vacia hd hcompactar
    obtain ⟨e, he, heresto, hliberada⟩ := compactar_quita h₁ hd hpaginas hcompactar
    simp only [if_true] at hmientras
    cases hn : allocs.length with
    | zero =>
      rw [hn] at hmientras
      cases hmientras
    | succ n =>
      rw [hn] at hmientras
      obtain ⟨⟨resultado, s₃⟩, hotra, -⟩ := bind_eq_ok.1 hmientras
      obtain ⟨q, resto', hq⟩ := compactar_no_vacia he hotra
      have hlib : (s₂.descriptor q).liberada = true := by
        apply hliberada
        rw [← heresto, hq, List.head?_cons]
      obtain rfl := compactar_liberada he hq hlib hotra
      rw [compactarMientras_falso hotra hmientras]
      intro hnum
      have hviva := hnum.vivas e (getCarpincho_pid he).2 q (by simp [hq])
      rw [hlib] at hviva
      cases hviva

end Compactacion

section Corrida

/-- As long as no free compacts, the page of a number is the one at its position and no
descriptor in a list has been freed; and the first free that compacts, if it ends, breaks it. -/
theorem corrida_numerada (E : Entorno) (basura : ℕ → Pagina) {ops : List Llamada} {s : Estado}
    (h : Reaches (llamar E) (fun s op => conservaPaginas E.config s op = true)
      (inicializarMemoria E.config basura) ops s) :
    Numeradas s ∧
    (∀ c ∈ s.carpinchosList, ∀ k : ℕ,
      getPage c ((k + 1 : ℕ) : ℤ) s = .ok (listGet c.paginas k)) ∧
    ∀ pid pos status s', memoryMemfree E pid pos s = .ok (status, s') →
      (Numeradas s' ↔ conservaPaginas E.config s (.memfree pid pos) = true) := by
  have hpaso : ∀ s op r s', LibroNumerado s → conservaPaginas E.config s op = true →
      llamar E op s = .ok (r, s') → LibroNumerado s' :=
    fun s op r s' hs hconserva hok => hs.llamar hconserva hok
  have hlibro := h.invariant hpaso (libro_inicial E.config basura)
  refine ⟨hlibro.numeradas, fun c hc k => hlibro.numeradas.getPage hc k, ?_⟩
  intro pid pos status s' hs
  rw [conservaPaginas, Bool.not_eq_true']
  cases hcompacta : compacta E.config pid pos s with
  | false => exact iff_of_true (hlibro.memoryMemfree hcompacta hs).numeradas rfl
  | true => exact iff_of_false (memfree_compacta hlibro hcompacta hs) Bool.noConfusion

/-- A second block of two pages is written and freed again. -/
theorem corrida_numerada_dos_bloques :
    ∃ s, guardedRun (llamar (entornoFiel configHeap)) (conservaPaginas configHeap)
      [.memalloc 1 23, .memalloc 1 40, .memwrite 1 41 [1, 2], .memread 1 41 [0, 0],
        .memfree 1 41] estadoHeap = some s ∧
      s.carpinchosList.map (fun c => c.paginas) = [[0, 1, 2]] ∧ Numeradas s := by
  have hcorrida : (guardedRun (llamar (entornoFiel configHeap)) (conservaPaginas configHeap)
      [.memalloc 1 23, .memalloc 1 40, .memwrite 1 41 [1, 2], .memread 1 41 [0, 0],
        .memfree 1 41] estadoHeap).any
      (fun s => s.carpinchosList.map (fun c => c.paginas) = [[0, 1, 2]]) = true := by
    decide +kernel
  obtain ⟨s, hs, hpaginas⟩ := (Option.any_eq_true _ _).1 hcorrida
  have hnum := (corrida_numerada (entornoFiel configHeap) _ (reaches_of_guardedRun hs)).1
  exact ⟨s, hs, of_decide_eq_true hpaginas, hnum⟩

/-- The first page of some carpincho carries the number two and has been freed. -/
def primeraDesfasada (s : Estado) : Bool :=
  s.carpinchosList.any fun c => c.paginas.head?.any fun p =>
    decide ((s.descriptor p).pagina = 2) && (s.descriptor p).liberada

theorem not_numeradas_of_primeraDesfasada {s : Estado} (h : primeraDesfasada s = true) :
    ¬ Numeradas s := by
  intro hnum
  obtain ⟨c, hc, hprimera⟩ := List.any_eq_true.1 h
  obtain ⟨p, hp, hdesfasada⟩ := (Option.any_eq_true _ _).1 hprimera
  rw [Bool.and_eq_true] at hdesfasada
  have hviva := hnum.vivas c hc p (List.mem_of_mem_head? hp)
  rw [hdesfasada.2] at hviva
  cases hviva

/-- A block that fills the first page is freed while the second page is in use. -/
theorem numeracion_desfasada_al_compactar :
    ∃ s, Reaches (llamar (entornoFiel configHeap)) (fun _ _ => True) estadoHeap
      [.memalloc 1 23, .memalloc 1 5, .memfree 1 9] s ∧
      primeraDesfasada s = true ∧ ¬ Numeradas s := by
  have hcorrida : (guardedRun (llamar (entornoFiel configHeap)) (fun _ _ => true)
      [.memalloc 1 23, .memalloc 1 5, .memfree 1 9] estadoHeap).any primeraDesfasada = true := by
    decide +kernel
  obtain ⟨s, hs, hprimera⟩ := (Option.any_eq_true _ _).1 hcorrida
  exact ⟨s, (reaches_of_guardedRun hs).mono fun _ _ _ => trivial, hprimera,
    not_numeradas_of_primeraDesfasada hprimera⟩

end Corrida

end Carpinchos.Memoria
