import Carpinchos.Memoria.Ocupacion

/-!
# Heaps that stay in order

In a run of `memory_memalloc` and `memory_memfree` in which only first blocks are truncated
the blocks of a carpincho tile its addresses and no two neighbours are free. So the blocks in
use are apart, and which pages the compaction leaves behind can be read off the blocks.
-/

namespace Carpinchos.Memoria

open Outcome Estado Runs Tiling

variable {E : Entorno} {s s' s₀ : Estado} {pid q : ℤ} {pos : ℕ} {ops : List Llamada}

section Orden

structure EnOrden (E : Entorno) (q : ℤ) (s : Estado) : Prop where
  teselado : Teselado E.config (paginasDe q s).length (allocsDe q s)
  unido : Unido (allocsDe q s)

/-- The calls that keep the blocks of a carpincho in order: of its free blocks only the first
one of the list may be truncated. -/
def Llamada.enOrden (q : ℤ) (s : Estado) : Llamada → Bool
  | .memalloc pid size => decide (size + 9 < 2 ^ 31) &&
      (decide (pid ≠ q) || truncaEnOrden size (allocsDe pid s))
  | .memfree _ _ => true
  | _ => false

theorem EnOrden.vacio (h : allocsDe q s = []) : EnOrden E q s := by
  constructor
  · rw [h]
    exact .vacio _ _
  · rw [h]
    exact List.IsChain.nil

theorem EnOrden.of_mismo (h : EnOrden E q s) (heq : MismoHeap q s s') : EnOrden E q s' := by
  obtain ⟨hpaginas, hallocs⟩ := heq.eq
  constructor
  · rw [hpaginas, hallocs]
    exact h.teselado
  · rw [hallocs]
    exact h.unido

theorem EnOrden.memoryMemalloc {size : ℕ} {r : StatusMemoryOp × Option ℕ} (h : EnOrden E q s)
    (horden : (Llamada.memalloc pid size).enOrden q s = true)
    (hs : memoryMemalloc E pid size s = .ok (r, s')) : EnOrden E q s' := by
  rw [Llamada.enOrden, Bool.and_eq_true, decide_eq_true_iff, Bool.or_eq_true,
    decide_eq_true_iff] at horden
  obtain ⟨hsuma, horden⟩ := horden
  have hsize : size < 2 ^ 31 := by omega
  rcases memoryMemalloc_asignada hsize hs with ⟨-, heaps⟩ | ⟨direccion, -, hasignada, hdato⟩
  · exact h.of_mismo (.of_heaps heaps q)
  · rcases eq_or_ne q pid with rfl | hq
    · obtain ⟨htes, hunido⟩ := hasignada.teselado h.teselado h.unido hsize
        (horden.resolve_left fun hno => hno rfl) hdato
      exact ⟨htes, hunido⟩
    · exact h.of_mismo (.pasos hq (memoryMemalloc_pasos hs))

theorem EnOrden.memoryMemfree {status : StatusMemoryOp} (h : EnOrden E q s)
    (hs : memoryMemfree E pid pos s = .ok (status, s')) : EnOrden E q s' := by
  rcases memoryMemfree_cases hs with ⟨-, rfl, -⟩ | ⟨c, allocs, alloc, s₁, rfl, -⟩
  · exact h
  · rcases eq_or_ne q pid with rfl | hq
    · obtain ⟨previos, alloc, siguientes, hliberada⟩ :=
        memoryMemfree_liberada h.teselado h.unido hs
      exact ⟨hliberada.teselado, hliberada.unido⟩
    · exact h.of_mismo (.pasos hq (memoryMemfree_pasos hs))

theorem EnOrden.llamar {op : Llamada} {r : Respuesta} (h : EnOrden E q s)
    (horden : op.enOrden q s = true) (hs : llamar E op s = .ok (r, s')) : EnOrden E q s' := by
  cases op with
  | memalloc pid size =>
    obtain ⟨⟨r, s₁⟩, hs, hok⟩ := bind_eq_ok.1 hs
    cases hok
    exact h.memoryMemalloc horden hs
  | memfree pid pos =>
    obtain ⟨⟨r, s₁⟩, hs, hok⟩ := bind_eq_ok.1 hs
    cases hok
    exact h.memoryMemfree hs
  | memwrite pid pos valor => cases horden
  | memread pid pos buffer => cases horden
  | memfreeAll pid => cases horden

theorem EnOrden.corrida (h : EnOrden E q s₀)
    (hr : Reaches (Memoria.llamar E) (fun s op => op.enOrden q s = true) s₀ ops s) :
    EnOrden E q s :=
  hr.invariant (fun _ _ _ _ h horden hs => h.llamar horden hs) h

end Orden

section Apartados

/-- The address after the data of a block, whose length the accesses take as a `uint32_t`. -/
def Alloc.fin (alloc : Alloc) : ℕ := alloc.direccion + 9 + aUint32 alloc.tamanioData

/-- The blocks in use are apart, and none goes past the last page. -/
structure Apartados (cfg : Config) (paginas : ℕ) (allocs : List Alloc) : Prop where
  disjuntos : (bloques.used allocs).Pairwise fun a b =>
    a.fin ≤ b.direccion ∨ b.fin ≤ a.direccion
  caben : ∀ a ∈ bloques.used allocs, a.fin ≤ paginas * cfg.tamanioPagina

theorem Teselado.fin_eq {cfg : Config} {paginas : ℕ} {allocs : List Alloc} {a : Alloc}
    (h : Teselado cfg paginas allocs) (ha : a ∈ allocs) : a.fin = bloques.stop a := by
  have hdato := h.datos a ha
  have hentero := h.enteros a ha
  have hstop := stop_bloques hdato
  have htamanio := aUint32_of_range (x := a.tamanioData) (by omega) (by omega)
  rw [Alloc.fin]
  omega

theorem Teselado.apartados {cfg : Config} {paginas : ℕ} {allocs : List Alloc}
    (h : Teselado cfg paginas allocs) : Apartados cfg paginas allocs := by
  have hmem : ∀ a ∈ bloques.used allocs, a ∈ allocs := fun a ha => List.mem_of_mem_filter ha
  constructor
  · apply (h.seguidos.pairwise.sublist List.filter_sublist).imp_of_mem
    intro a b ha _ hab
    rw [h.fin_eq (hmem a ha)]
    exact Or.inl hab
  · intro a ha
    rw [h.fin_eq (hmem a ha)]
    exact h.stop_le (hmem a ha)

/-- While only first blocks are truncated the blocks in use stay apart. -/
theorem corrida_apartados (hvacio : allocsDe q s₀ = [])
    (h : Reaches (llamar E) (fun s op => op.enOrden q s = true) s₀ ops s) :
    Apartados E.config (paginasDe q s).length (allocsDe q s) :=
  ((EnOrden.vacio hvacio).corrida h).teselado.apartados

/-- A first block is truncated and its rest is taken. -/
theorem corrida_apartados_truncado :
    ∃ s, Reaches (llamar (entornoFiel configHeap)) (fun s op => op.enOrden 1 s = true) estadoHeap
        [.memalloc 1 15, .memalloc 1 40, .memfree 1 9, .memalloc 1 3, .memalloc 1 2] s ∧
      (allocsDe 1 s).length = 3 ∧ Apartados configHeap (paginasDe 1 s).length (allocsDe 1 s) := by
  have hcorrida : (guardedRun (llamar (entornoFiel configHeap)) (fun s op => op.enOrden 1 s)
      [.memalloc 1 15, .memalloc 1 40, .memfree 1 9, .memalloc 1 3, .memalloc 1 2]
      estadoHeap).any (fun s => (allocsDe 1 s).length = 3) = true := by
    decide +kernel
  obtain ⟨s, hs, hlargo⟩ := (Option.any_eq_true _ _).1 hcorrida
  have hreaches := reaches_of_guardedRun hs
  exact ⟨s, hreaches, of_decide_eq_true hlargo, @corrida_apartados (entornoFiel configHeap) _ _ _ _
    rfl hreaches⟩

/-- The rest of a truncated block goes to the second place of the list, so the next block at
the end begins where that rest does, and then the rest is given too. -/
theorem bloques_superpuestos :
    ∃ s, Reaches (llamar (entornoFiel configHeap)) (fun _ _ => True) estadoHeap
        [.memalloc 1 5, .memalloc 1 40, .memfree 1 23, .memalloc 1 10, .memalloc 1 30,
          .memalloc 1 21] s ∧
      allocsDe 1 s = [⟨0, false, 5⟩, ⟨33, false, 21⟩, ⟨14, false, 10⟩, ⟨33, false, 30⟩] ∧
      ¬ Apartados configHeap (paginasDe 1 s).length (allocsDe 1 s) := by
  have hcorrida : (guardedRun (llamar (entornoFiel configHeap)) (fun _ _ => true)
      [.memalloc 1 5, .memalloc 1 40, .memfree 1 23, .memalloc 1 10, .memalloc 1 30,
        .memalloc 1 21] estadoHeap).any (fun s => allocsDe 1 s =
          [⟨0, false, 5⟩, ⟨33, false, 21⟩, ⟨14, false, 10⟩, ⟨33, false, 30⟩]) = true := by
    decide +kernel
  obtain ⟨s, hs, hallocs⟩ := (Option.any_eq_true _ _).1 hcorrida
  have hallocs := of_decide_eq_true hallocs
  refine ⟨s, (reaches_of_guardedRun hs).mono fun _ _ _ => trivial, hallocs, fun h => ?_⟩
  have hdisjuntos := h.disjuntos
  rw [hallocs] at hdisjuntos
  revert hdisjuntos
  decide +kernel

end Apartados

section Completa

/-- No page holds allocs that are all free. -/
def Completa (cfg : Config) (paginas : ℕ) (allocs : List Alloc) : Prop :=
  ∀ i, i < paginas → ¬ ((∃ a ∈ allocs,
      bloques.Overlaps (i * cfg.tamanioPagina) ((i + 1) * cfg.tamanioPagina) a) ∧
    ∀ a ∈ allocs, bloques.Overlaps (i * cfg.tamanioPagina) ((i + 1) * cfg.tamanioPagina) a →
      a.isFree = true)

instance (cfg : Config) (paginas : ℕ) (allocs : List Alloc) :
    Decidable (Completa cfg paginas allocs) :=
  inferInstanceAs (Decidable (∀ i, i < paginas → ¬ (_ ∧ _)))

/-- What `compactar` takes out: the addresses of the first block, and a page. -/
def bytesQuitados (cfg : Config) (allocs : List Alloc) : ℕ :=
  if primeraLibre cfg allocs then (allocs.head?.map bloques.size).getD 0 else 0

def paginasQuitadas (cfg : Config) (allocs : List Alloc) : ℕ :=
  if primeraLibre cfg allocs then 1 else 0

/-- No free block fills what is allocated of a page, counting the pages from the addresses that
`compactar` takes out on. Page 0 may only be filled by a block that ends past 2^31. -/
def SinTapar (cfg : Config) (paginas : ℕ) (allocs : List Alloc) : Prop :=
  ∀ b ∈ allocs, b.isFree = true → ∀ i, 1 ≤ i ∨ 2 ^ 31 < bloques.stop b →
    i + paginasQuitadas cfg allocs < paginas →
      ¬ (b.direccion ≤ bytesQuitados cfg allocs + i * cfg.tamanioPagina ∧
        bytesQuitados cfg allocs + i * cfg.tamanioPagina < bloques.stop b ∧
        (bytesQuitados cfg allocs + (i + 1) * cfg.tamanioPagina ≤ bloques.stop b ∨
          bloques.stop b = bloques.total allocs))

variable {cfg : Config} {paginas : ℕ} {allocs : List Alloc}

/-- Whether a page holds free allocs only can be seen in one of them. -/
theorem Teselado.completa_iff (h : Teselado cfg paginas allocs) (hunido : Unido allocs)
    (n : ℕ) : Completa cfg n allocs ↔ ∀ b ∈ allocs, b.isFree = true → ∀ i, i < n →
      ¬ (b.direccion ≤ i * cfg.tamanioPagina ∧ i * cfg.tamanioPagina < bloques.stop b ∧
        ((i + 1) * cfg.tamanioPagina ≤ bloques.stop b ∨
          bloques.stop b = bloques.total allocs)) := by
  have hsize : ∀ b ∈ allocs, 0 < bloques.size b := by
    intro b hb
    have hdato := h.datos b hb
    show 0 < (b.tamanioData + 9).toNat
    omega
  have hventana : ∀ i, i * cfg.tamanioPagina < (i + 1) * cfg.tamanioPagina := fun i =>
    Nat.mul_lt_mul_of_pos_right (Nat.lt_succ_self i) cfg.pagina_pos
  have hiff : ∀ i, _ ↔ _ := fun i =>
    h.seguidos.only_free_iff hunido hsize (Nat.zero_le _) (hventana i)
  constructor
  · intro hcompleta b hb hlibre i hi hcubre
    exact hcompleta i hi ((hiff i).2 ⟨b, hb, hlibre, hcubre⟩)
  · intro hno i hi hsolo
    obtain ⟨b, hb, hlibre, hcubre⟩ := (hiff i).1 hsolo
    exact hno b hb hlibre i hi hcubre

/-- Page 0 has a block in use, if the first block ends before 2^31. -/
theorem Teselado.sin_tapar_cero (h : Teselado cfg paginas allocs) (hunido : Unido allocs)
    (hprimera : primeraLibre cfg allocs = false) {b : Alloc} (hb : b ∈ allocs)
    (hlibre : b.isFree = true) (hcero : b.direccion = 0) (hlt : bloques.stop b ≤ 2 ^ 31) :
    bloques.stop b < cfg.tamanioPagina ∧ bloques.stop b < bloques.total allocs := by
  cases allocs with
  | nil => cases hb
  | cons alloc resto =>
    have hpos : 0 < bloques.size alloc := by
      have hdato := h.datos alloc List.mem_cons_self
      show 0 < (alloc.tamanioData + 9).toNat
      omega
    have hstop : bloques.stop alloc = bloques.start alloc + bloques.size alloc := rfl
    have hinicio : bloques.start alloc = 0 := h.seguidos.1
    rcases List.mem_cons.1 hb with rfl | hb
    · cases resto with
      | nil => simp [primeraLibre, hlibre] at hprimera
      | cons next resto =>
        have htoca : next.tocaCero cfg = true := by simpa [primeraLibre, hlibre] using hprimera
        have hnext : next.direccion = 0 + bloques.size b := h.seguidos.2.1
        have hfin := (h.seguidos.bounds (List.mem_cons_of_mem b List.mem_cons_self)).2
        have hsize : 0 < bloques.size next := by
          have hdato := h.datos next (List.mem_cons_of_mem b List.mem_cons_self)
          show 0 < (next.tamanioData + 9).toNat
          omega
        have hstop' : bloques.stop next = next.direccion + bloques.size next := rfl
        have hcerca := of_decide_eq_true htoca
        omega
    · have hdespues := (h.seguidos.2.bounds hb).1
      have hstart : bloques.start b = b.direccion := rfl
      omega

theorem Teselado.compactados_completa_iff {paginas' : ℕ} (h : Teselado cfg paginas allocs)
    (hunido : Unido allocs) (h' : Teselado cfg paginas' (compactados cfg allocs))
    (hunido' : Unido (compactados cfg allocs))
    (hpaginas : paginas' + paginasQuitadas cfg allocs = paginas) :
    Completa cfg paginas' (compactados cfg allocs) ↔ SinTapar cfg paginas allocs := by
  rw [h'.completa_iff hunido']
  unfold SinTapar bytesQuitados
  cases hprimera : primeraLibre cfg allocs with
  | false =>
    have hnada : compactados cfg allocs = allocs := by simp [compactados, hprimera]
    have hcero : paginasQuitadas cfg allocs = 0 := by simp [paginasQuitadas, hprimera]
    rw [hnada, hcero]
    rw [hcero, Nat.add_zero] at hpaginas
    simp only [Bool.false_eq_true, if_false, Nat.zero_add, Nat.add_zero]
    subst hpaginas
    constructor
    · intro hno b hb hlibre i _ hi
      exact hno b hb hlibre i hi
    · intro hno b hb hlibre i hi hcubre
      by_cases hcual : 1 ≤ i ∨ 2 ^ 31 < bloques.stop b
      · exact hno b hb hlibre i hcual hi hcubre
      · obtain rfl : i = 0 := by omega
        obtain ⟨hinicio, -, hfin⟩ := hcubre
        rw [Nat.zero_mul] at hinicio
        obtain ⟨hcorto, hotro⟩ := h.sin_tapar_cero hunido hprimera hb hlibre
          (Nat.le_zero.1 hinicio) (by omega)
        omega
  | true =>
    cases allocs with
    | nil => cases hprimera
    | cons alloc resto =>
      have hdato := h.datos alloc List.mem_cons_self
      have hbajados : compactados cfg (alloc :: resto) =
          resto.map (Alloc.bajar (alloc.tamanioData + 9)) := by
        simp [compactados, hprimera]
      have huna : paginasQuitadas cfg (alloc :: resto) = 1 := by simp [paginasQuitadas, hprimera]
      have hprimera' : primeraLibre cfg (compactados cfg (alloc :: resto)) = false := by
        have hlibre : alloc.isFree = true := by
          rw [primeraLibre, Bool.and_eq_true] at hprimera
          exact hprimera.1
        rw [hbajados]
        cases resto with
        | nil => rfl
        | cons next resto =>
          have hocupado : next.isFree = false := (Blocks.coalesced_cons.1 hunido).1 next rfl hlibre
          simp [primeraLibre, Alloc.bajar, hocupado]
      rw [huna]
      rw [huna] at hpaginas
      subst hpaginas
      have htotal : bloques.total (compactados cfg (alloc :: resto)) =
          bloques.total (alloc :: resto) - bloques.size alloc := by
        have hseguidos := (bajar_seguidos h.seguidos hdato h.direcciones).hi_eq
        rw [hbajados]
        omega
      have hbajar : ∀ b ∈ resto, (b.bajar (alloc.tamanioData + 9)).direccion + bloques.size alloc =
          b.direccion ∧ bloques.stop (b.bajar (alloc.tamanioData + 9)) + bloques.size alloc =
            bloques.stop b ∧ bloques.stop b ≤ bloques.total (alloc :: resto) := by
        intro b hb
        have hbaja := bajar_direccion h.seguidos hdato h.direcciones hb
        obtain ⟨hdesde, hhasta⟩ := h.seguidos.2.bounds hb
        have hstart : bloques.start b = b.direccion := rfl
        have hstop : bloques.stop b = b.direccion + bloques.size b := rfl
        have hstop' : bloques.stop (b.bajar (alloc.tamanioData + 9)) =
          (b.bajar (alloc.tamanioData + 9)).direccion + bloques.size b := rfl
        omega
      simp only [if_true, List.head?_cons, Option.map_some, Option.getD_some]
      constructor
      · intro hno b hb hlibre i _ hi hcubre
        rcases List.mem_cons.1 hb with rfl | hb
        · have hcero : bloques.stop b = 0 + bloques.size b := by rw [← h.seguidos.1]; rfl
          omega
        · obtain ⟨hdir, hstop, hle⟩ := hbajar b hb
          have hb' : b.bajar (alloc.tamanioData + 9) ∈ compactados cfg (alloc :: resto) := by
            rw [hbajados]
            exact List.mem_map_of_mem hb
          apply hno _ hb' hlibre i (by omega)
          omega
      · intro hno b' hb' hlibre i hi hcubre
        rw [hbajados] at hb'
        obtain ⟨b, hb, rfl⟩ := List.mem_map.1 hb'
        obtain ⟨hdir, hstop, hle⟩ := hbajar b hb
        by_cases hcual : 1 ≤ i ∨ 2 ^ 31 < bloques.stop b
        · apply hno b (List.mem_cons_of_mem _ hb) hlibre i hcual (by omega)
          omega
        · obtain rfl : i = 0 := by omega
          obtain ⟨hinicio, -, hfin⟩ := hcubre
          rw [Nat.zero_mul] at hinicio
          rw [← hbajados] at hb'
          obtain ⟨hcorto, hotro⟩ := h'.sin_tapar_cero hunido' hprimera' hb' hlibre
            (Nat.le_zero.1 hinicio) (by omega)
          omega

/-- A free leaves the allocs, before the compaction, with no page filled by a free one. -/
def LiberaSinTapar (cfg : Config) (pid : ℤ) (pos : ℕ) (s : Estado) : Prop :=
  ∀ r, liberarAlloc (allocsDe pid s) pos = .ok (some r) → SinTapar cfg (paginasDe pid s).length r.1

/-- A free that ends well leaves no page with free allocs only just when no free block fills one
before the compaction, which looks at page 0 and no other. -/
theorem memfree_completa_iff (basura : ℕ → Pagina)
    (h : Reaches (llamar E) (fun s op => op.enOrden pid s = true)
      (inicializarMemoria E.config basura) ops s)
    (hs : memoryMemfree E pid pos s = .ok (.exito, s')) :
    Completa E.config (paginasDe pid s').length (allocsDe pid s') ↔
      LiberaSinTapar E.config pid pos s := by
  have horden := (@EnOrden.vacio E _ pid rfl).corrida h
  have htes := horden.teselado
  obtain ⟨previos, alloc, siguientes, hliberada⟩ :=
    memoryMemfree_liberada htes horden.unido hs
  have hunido := horden.unido
  rw [hliberada.allocs] at htes hunido
  have hliberar := htes.liberarAlloc_eq hliberada.uso hliberada.pos
  rw [if_pos hliberada.entero] at hliberar
  obtain ⟨htes', hunido', -⟩ := htes.liberado hunido hliberada.uso hliberada.entero
  have hiff := htes'.compactados_completa_iff hunido'
    (hliberada.compactados ▸ hliberada.teselado) (hliberada.compactados ▸ hliberada.unido)
    hliberada.paginas
  rw [hliberada.compactados, hiff, LiberaSinTapar, hliberada.allocs, hliberar]
  constructor
  · intro hsin r hr
    cases hr
    exact hsin
  · intro hsin
    exact hsin _ rfl

/-- The first of two blocks is freed and taken out with a page, and the other one stays. -/
theorem memfree_completa_dos :
    ∃ s s', Reaches (llamar (entornoFiel configHeap)) (fun s op => op.enOrden 1 s = true) estadoHeap
        [.memalloc 1 30, .memalloc 1 5] s ∧
      memoryMemfree (entornoFiel configHeap) 1 9 s = .ok (.exito, s') ∧
      Completa configHeap (paginasDe 1 s').length (allocsDe 1 s') ∧
      LiberaSinTapar configHeap 1 9 s := by
  have hcorrida : (guardedRun (llamar (entornoFiel configHeap)) (fun s op => op.enOrden 1 s)
      [.memalloc 1 30, .memalloc 1 5] estadoHeap).any (fun s =>
        returns (memoryMemfree (entornoFiel configHeap) 1 9 s) fun r =>
          r.1 = .exito ∧ Completa configHeap (paginasDe 1 r.2).length (allocsDe 1 r.2)) = true := by
    decide +kernel
  obtain ⟨s, hs, hfin⟩ := (Option.any_eq_true _ _).1 hcorrida
  obtain ⟨⟨status, s'⟩, hmemfree, hfin⟩ := exists_of_returns hfin
  obtain ⟨hexito, hcompleta⟩ := of_decide_eq_true hfin
  obtain rfl : status = .exito := hexito
  have hreaches := reaches_of_guardedRun hs
  exact ⟨s, s', hreaches, hmemfree, hcompleta, (@memfree_completa_iff (entornoFiel configHeap) _ _ _
    _ _ estadoHeap.descriptor hreaches hmemfree).1 hcompleta⟩

/-- The second of two blocks is freed: it covers the second page and the third, which stay. -/
theorem paginas_libres_sin_devolver :
    ∃ s s', Reaches (llamar (entornoFiel configHeap)) (fun _ _ => True) estadoHeap
        [.memalloc 1 5, .memalloc 1 60] s ∧
      memoryMemfree (entornoFiel configHeap) 1 23 s = .ok (.exito, s') ∧
      allocsDe 1 s' = [⟨0, false, 5⟩, ⟨14, true, 60⟩] ∧
      ¬ Completa configHeap (paginasDe 1 s').length (allocsDe 1 s') := by
  have hcorrida : (guardedRun (llamar (entornoFiel configHeap)) (fun _ _ => true)
      [.memalloc 1 5, .memalloc 1 60] estadoHeap).any (fun s =>
        returns (memoryMemfree (entornoFiel configHeap) 1 23 s) fun r =>
          r.1 = .exito ∧ allocsDe 1 r.2 = [⟨0, false, 5⟩, ⟨14, true, 60⟩] ∧
            ¬ Completa configHeap (paginasDe 1 r.2).length (allocsDe 1 r.2)) = true := by
    decide +kernel
  obtain ⟨s, hs, hfin⟩ := (Option.any_eq_true _ _).1 hcorrida
  obtain ⟨⟨status, s'⟩, hmemfree, hfin⟩ := exists_of_returns hfin
  obtain ⟨hexito, hallocs, hno⟩ := of_decide_eq_true hfin
  obtain rfl : status = .exito := hexito
  exact ⟨s, s', (reaches_of_guardedRun hs).mono fun _ _ _ => trivial, hmemfree, hallocs, hno⟩

end Completa

end Carpinchos.Memoria
