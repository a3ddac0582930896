import Carpinchos.Memoria.Heap
import Carpinchos.Memoria.SwampFiel
import Mathlib.Order.Interval.Set.LinearOrder

/-!
# The allocs of a page

`alloc_esta_en_pagina` counts the bytes of an alloc from its address on, but the limit of the
counter is the address of the last byte and not its distance to the first one. So the loop
goes over as many addresses more as the alloc has before it, and the alloc is reported on the
pages that begin there too. Below 2^31 that is the only thing that goes wrong; the counter is
an `int`, and the addresses are 32 bits long.
-/

namespace Carpinchos.Memoria

open Outcome

def Alloc.hasta (alloc : Alloc) : ℤ := alloc.direccion + 9 + alloc.tamanioData

def Alloc.bytes (alloc : Alloc) : Set ℤ := Set.Ico (alloc.direccion : ℤ) alloc.hasta

def Config.bytesDePagina (cfg : Config) (numPag : ℤ) : Set ℤ :=
  Set.Ico (numPag * cfg.tamanioPagina) ((numPag + 1) * cfg.tamanioPagina)

/-- The alloc has a byte of the page. -/
def Alloc.Ocupa (cfg : Config) (alloc : Alloc) (numPag : ℤ) : Prop :=
  (alloc.bytes ∩ cfg.bytesDePagina numPag).Nonempty

/-- The first address of the page that the code knows by that number. -/
def Config.desdePagina (cfg : Config) (numPag : ℤ) : ℕ := aUint32 numPag * cfg.tamanioPagina

def Alloc.visitas (alloc : Alloc) : ℕ := min (aUint32 (alloc.hasta - 1) + 1) (2 ^ 31)

/-- The page has one of these addresses: they go on at 0 after the last one of 32 bits. -/
def Alloc.Recorre (cfg : Config) (alloc : Alloc) (numPag : ℤ) : Prop :=
  (alloc.direccion < cfg.desdePagina numPag + cfg.tamanioPagina ∧
      cfg.desdePagina numPag < min (alloc.direccion + alloc.visitas) (2 ^ 32)) ∨
    cfg.desdePagina numPag + 2 ^ 32 < alloc.direccion + alloc.visitas

/-- An alloc that ends below 2^31 is well placed but on the pages that begin after it, as many
addresses on as there are before it. One without bytes, or one that ends later, is so where
the loop goes over the page if the alloc is on it, and otherwise ends without doing so. -/
def Alloc.BienUbicado (cfg : Config) (alloc : Alloc) (numPag : ℤ) : Prop :=
  if (alloc.direccion : ℤ) < alloc.hasta ∧ alloc.hasta < 2 ^ 31 then
    cfg.desdePagina numPag < alloc.hasta ∨
      alloc.direccion + alloc.hasta ≤ cfg.desdePagina numPag
  else
    (alloc.Ocupa cfg numPag ↔ alloc.Recorre cfg numPag) ∧
      (alloc.Recorre cfg numPag ∨ alloc.visitas < 2 ^ 31)

section Pagina

variable {cfg : Config} {alloc : Alloc} {allocs : List Alloc} {numPag : ℤ}

theorem ocupa_iff : alloc.Ocupa cfg numPag ↔
    (alloc.direccion : ℤ) < alloc.hasta ∧
      (alloc.direccion : ℤ) < numPag * cfg.tamanioPagina + cfg.tamanioPagina ∧
      numPag * cfg.tamanioPagina < alloc.hasta := by
  have hpagina := cfg.pagina_pos
  have hsiguiente : (numPag + 1) * (cfg.tamanioPagina : ℤ) =
      numPag * cfg.tamanioPagina + cfg.tamanioPagina := by
    rw [add_mul, one_mul]
  rw [Alloc.Ocupa, Alloc.bytes, Config.bytesDePagina, Set.Ico_inter_Ico, Set.nonempty_Ico,
    max_lt_iff, lt_min_iff, lt_min_iff, hsiguiente]
  omega

instance : Decidable (alloc.Ocupa cfg numPag) := decidable_of_iff _ ocupa_iff.symm

/-- A negative number stands for a page from 2^31 on. -/
theorem desdePagina_cases (hlo : -2 ^ 31 ≤ numPag) (hhi : numPag < 2 ^ 31) :
    (cfg.desdePagina numPag : ℤ) = numPag * cfg.tamanioPagina ∧
        0 ≤ numPag * (cfg.tamanioPagina : ℤ) ∨
      numPag * cfg.tamanioPagina + cfg.tamanioPagina ≤ 0 ∧ 2 ^ 31 ≤ cfg.desdePagina numPag := by
  have hpagina := cfg.pagina_pos
  rcases lt_or_ge numPag 0 with hneg | hpos
  · right
    have hnumero : 2 ^ 31 ≤ aUint32 numPag := by
      unfold aUint32
      omega
    constructor
    · calc numPag * (cfg.tamanioPagina : ℤ) + cfg.tamanioPagina
          = (numPag + 1) * cfg.tamanioPagina := by rw [add_mul, one_mul]
        _ ≤ 0 := mul_nonpos_of_nonpos_of_nonneg (by omega) (by omega)
    · exact hnumero.trans (Nat.le_mul_of_pos_right _ hpagina)
  · left
    have hnumero : (aUint32 numPag : ℤ) = numPag := aUint32_of_range hpos (by omega)
    refine ⟨?_, mul_nonneg hpos (by omega)⟩
    rw [Config.desdePagina, Nat.cast_mul, hnumero]

theorem pagina_eq_iff {x : ℕ} (hx : x < 2 ^ 32) (hlo : -2 ^ 31 ≤ numPag) (hhi : numPag < 2 ^ 31) :
    aInt (x / cfg.tamanioPagina : ℕ) = numPag ↔
      cfg.desdePagina numPag ≤ x ∧ x < cfg.desdePagina numPag + cfg.tamanioPagina := by
  have hcociente : x / cfg.tamanioPagina < 2 ^ 32 := (Nat.div_le_self _ _).trans_lt hx
  have hnumero : aInt (x / cfg.tamanioPagina : ℕ) = numPag ↔
      x / cfg.tamanioPagina = aUint32 numPag := by
    generalize x / cfg.tamanioPagina = cociente at hcociente
    unfold aInt aUint32
    omega
  rw [hnumero, Config.desdePagina, Nat.div_eq_iff cfg.pagina_pos]
  have hpagina := cfg.pagina_pos
  omega

theorem ventana_iff {a n lo hi : ℕ} (ha : a < 2 ^ 32) (hn : 0 < n) (hn' : n ≤ 2 ^ 32)
    (hlo : lo < hi) :
    (∃ i < n, lo ≤ (a + i) % 2 ^ 32 ∧ (a + i) % 2 ^ 32 < hi) ↔
      (a < hi ∧ lo < min (a + n) (2 ^ 32)) ∨ lo + 2 ^ 32 < a + n := by
  constructor
  · rintro ⟨i, hi, hdesde, hasta⟩
    omega
  · rintro (⟨ha', hlo'⟩ | hlo')
    · exact ⟨max a lo - a, by omega⟩
    · exact ⟨lo + 2 ^ 32 - a, by omega⟩

theorem recorre_iff (hdir : alloc.direccion < 2 ^ 32) (hlo : -2 ^ 31 ≤ numPag)
    (hhi : numPag < 2 ^ 31) :
    ((List.range alloc.visitas).any fun i : ℕ =>
        decide (aInt (aUint32 (alloc.direccion + i) / cfg.tamanioPagina : ℕ) = numPag)) = true ↔
      alloc.Recorre cfg numPag := by
  have hpagina := cfg.pagina_pos
  have hvisitas : 0 < alloc.visitas ∧ alloc.visitas ≤ 2 ^ 32 := by
    unfold Alloc.visitas
    omega
  rw [Alloc.Recorre, ← ventana_iff hdir hvisitas.1 hvisitas.2 (by omega), List.any_eq_true]
  refine exists_congr fun i => ?_
  have hvisita : aUint32 (alloc.direccion + i) = (alloc.direccion + i) % 2 ^ 32 := by
    unfold aUint32
    omega
  rw [List.mem_range, decide_eq_true_iff, pagina_eq_iff (aUint32_lt _) hlo hhi, hvisita]

theorem allocEstaEnPagina_spec (hdir : alloc.direccion < 2 ^ 32) (hlo : -2 ^ 31 ≤ numPag)
    (hhi : numPag < 2 ^ 31) :
    (alloc.Recorre cfg numPag → allocEstaEnPagina cfg alloc numPag = .ok true) ∧
      (¬ alloc.Recorre cfg numPag → allocEstaEnPagina cfg alloc numPag =
        if alloc.visitas < 2 ^ 31 then .ok false else .error .desbordamiento) := by
  have hrecorre := @recorre_iff cfg alloc numPag hdir hlo hhi
  have hvisitas : alloc.visitas = min (aUint32 (alloc.hasta - 1) + 1) (2 ^ 31) := rfl
  have htermina : alloc.visitas < 2 ^ 31 ↔ aUint32 (alloc.hasta - 1) + 1 < 2 ^ 31 := by
    omega
  unfold allocEstaEnPagina
  constructor
  · intro h
    exact if_pos (hrecorre.2 h)
  · intro h
    rw [show (if alloc.visitas < 2 ^ 31 then (.ok false : Except Falla Bool)
      else .error .desbordamiento) = _ from if_congr htermina rfl rfl]
    exact if_neg (mt hrecorre.1 h)

/-- For an alloc with some byte that ends below 2^31 the loop ends, and the pages it goes over
besides those of the alloc are the ones that begin after it. -/
theorem recorre_iff_ocupa (hbytes : (alloc.direccion : ℤ) < alloc.hasta)
    (hhasta : alloc.hasta < 2 ^ 31) (hlo : -2 ^ 31 ≤ numPag) (hhi : numPag < 2 ^ 31) :
    alloc.visitas < 2 ^ 31 ∧
      ((alloc.Ocupa cfg numPag ↔ alloc.Recorre cfg numPag) ↔
        cfg.desdePagina numPag < alloc.hasta ∨
          alloc.direccion + alloc.hasta ≤ cfg.desdePagina numPag) := by
  have hpagina := cfg.pagina_pos
  have hvisitas : (alloc.visitas : ℤ) = alloc.hasta := by
    have hlimite : (aUint32 (alloc.hasta - 1) : ℤ) = alloc.hasta - 1 :=
      aUint32_of_range (by omega) (by omega)
    unfold Alloc.visitas
    omega
  refine ⟨by omega, ?_⟩
  rw [ocupa_iff, Alloc.Recorre]
  rcases @desdePagina_cases cfg numPag hlo hhi with ⟨hdesde, hpos⟩ | ⟨hneg, hdesde⟩
  · omega
  · omega

/-- The answer is right exactly where the alloc is well placed. -/
theorem allocEstaEnPagina_eq_iff (hdir : alloc.direccion < 2 ^ 32) (hlo : -2 ^ 31 ≤ numPag)
    (hhi : numPag < 2 ^ 31) :
    allocEstaEnPagina cfg alloc numPag = .ok (decide (alloc.Ocupa cfg numPag)) ↔
      alloc.BienUbicado cfg numPag := by
  have hspec := @allocEstaEnPagina_spec cfg alloc numPag hdir hlo hhi
  have hgeneral : allocEstaEnPagina cfg alloc numPag = .ok (decide (alloc.Ocupa cfg numPag)) ↔
      (alloc.Ocupa cfg numPag ↔ alloc.Recorre cfg numPag) ∧
        (alloc.Recorre cfg numPag ∨ alloc.visitas < 2 ^ 31) := by
    by_cases hrecorre : alloc.Recorre cfg numPag
    · simp [hspec.1 hrecorre, hrecorre]
    · rw [hspec.2 hrecorre]
      split
      case isTrue hvisitas => simpa [hrecorre] using fun _ => hvisitas
      case isFalse hvisitas => simpa [hrecorre] using fun _ => le_of_not_gt hvisitas
  rw [hgeneral, Alloc.BienUbicado]
  split
  case isTrue hcomun =>
    obtain ⟨hvisitas, hiff⟩ :=
      @recorre_iff_ocupa cfg alloc numPag hcomun.1 hcomun.2 hlo hhi
    rw [hiff]
    exact and_iff_left (.inr hvisitas)
  case isFalse => rfl

/-- On page 0, the only one that `compactar` asks for, such an alloc is well placed. -/
theorem bienUbicado_cero (hbytes : (alloc.direccion : ℤ) < alloc.hasta)
    (hhasta : alloc.hasta < 2 ^ 31) : alloc.BienUbicado cfg 0 := by
  have hdesde : cfg.desdePagina 0 = 0 := by
    rw [Config.desdePagina, show aUint32 0 = 0 from aUint32_natCast (n := 0) (by decide), zero_mul]
  rw [Alloc.BienUbicado, if_pos ⟨hbytes, hhasta⟩, hdesde]
  omega

theorem allocsDePagina_eq_filter
    (h : ∀ alloc ∈ allocs,
      allocEstaEnPagina cfg alloc numPag = .ok (decide (alloc.Ocupa cfg numPag))) :
    allocsDePagina cfg numPag allocs =
      .ok (allocs.filter fun alloc => alloc.Ocupa cfg numPag) := by
  induction allocs with
  | nil => rfl
  | cons alloc allocs ih =>
    have hesta := h alloc List.mem_cons_self
    have hresto := ih fun a ha => h a (List.mem_cons_of_mem _ ha)
    rw [allocsDePagina, hesta, ok_bind, hresto, ok_bind, List.filter_cons]

/-- The answers about a page are right, and the list too, if and only if every alloc is well
placed on it. -/
theorem allocsDePagina_iff (hallocs : ∀ alloc ∈ allocs, alloc.direccion < 2 ^ 32)
    (hlo : -2 ^ 31 ≤ numPag) (hhi : numPag < 2 ^ 31) :
    (∀ alloc ∈ allocs,
        allocEstaEnPagina cfg alloc numPag = .ok (decide (alloc.Ocupa cfg numPag))) ∧
        allocsDePagina cfg numPag allocs =
          .ok (allocs.filter fun alloc => alloc.Ocupa cfg numPag) ↔
      ∀ alloc ∈ allocs, alloc.BienUbicado cfg numPag := by
  constructor
  · rintro ⟨hesta, -⟩ alloc ha
    exact (allocEstaEnPagina_eq_iff (hallocs alloc ha) hlo hhi).1 (hesta alloc ha)
  · intro h
    have hesta : ∀ alloc ∈ allocs,
        allocEstaEnPagina cfg alloc numPag = .ok (decide (alloc.Ocupa cfg numPag)) :=
      fun alloc ha => (allocEstaEnPagina_eq_iff (hallocs alloc ha) hlo hhi).2 (h alloc ha)
    exact ⟨hesta, allocsDePagina_eq_filter hesta⟩

end Pagina

section Ejemplos

def allocEnTres : Alloc := { direccion := 100, isFree := true, tamanioData := 20 }

theorem allocsDePagina_tres :
    (∀ alloc ∈ [allocEnTres], allocEstaEnPagina configHeap alloc 3 =
        .ok (decide (alloc.Ocupa configHeap 3))) ∧
      allocsDePagina configHeap 3 [allocEnTres] =
        .ok ([allocEnTres].filter fun alloc => alloc.Ocupa configHeap 3) := by
  refine (allocsDePagina_iff ?_ (by decide) (by decide)).2 ?_
  · decide
  · intro alloc ha
    rw [List.mem_singleton.1 ha, Alloc.BienUbicado, if_pos (by decide)]
    left
    decide +kernel

/-- It is reported on page 5 too, which begins at the address 160. -/
theorem reportado_de_mas :
    allocEstaEnPagina configHeap allocEnTres 5 = .ok true ∧
      allocsDePagina configHeap 5 [allocEnTres] = .ok [allocEnTres] ∧
      ¬ allocEnTres.Ocupa configHeap 5 := by
  refine ⟨?_, ?_, ?_⟩
  · decide +kernel
  · decide +kernel
  · decide +kernel

end Ejemplos

end Carpinchos.Memoria
