import Carpinchos.Library.Tiling
import Carpinchos.Memoria.Numeracion

/-!
# The blocks of a heap

The allocs of a carpincho tile its addresses from 0 on: each is nine bytes of metadata and
its data. Freeing one joins it with its free neighbours. Then `compactar` looks at the allocs
of the first page; where no two neighbours are free, the only one there is the first of the
list, and taking it out with one page leaves the rest in order.
-/

namespace Carpinchos.Memoria

open Outcome Estado Runs Tiling

/-- An alloc as a block: the metadata and the data. -/
def bloques : Blocks Alloc where
  start := Alloc.direccion
  size := fun alloc => (alloc.tamanioData + 9).toNat
  free := Alloc.isFree

/-- The blocks tile the addresses of the pages from 0 on, each with some data. The last two
fields are the types of a length and of an address. -/
structure Teselado (cfg : Config) (paginas : ℕ) (allocs : List Alloc) : Prop where
  seguidos : bloques.Tiles 0 allocs (bloques.total allocs)
  datos : ∀ alloc ∈ allocs, 1 ≤ alloc.tamanioData
  caben : bloques.total allocs ≤ paginas * cfg.tamanioPagina
  enteros : ∀ alloc ∈ allocs, alloc.tamanioData < 2 ^ 31
  direcciones : bloques.total allocs ≤ 2 ^ 32

/-- No two consecutive allocs are free. -/
def Unido (allocs : List Alloc) : Prop := bloques.Coalesced allocs

section Bloques

variable {cfg : Config} {paginas pos : ℕ} {allocs previos siguientes : List Alloc}
  {alloc a : Alloc}

theorem stop_bloques (h : 1 ≤ alloc.tamanioData) :
    (bloques.stop alloc : ℤ) = alloc.direccion + 9 + alloc.tamanioData := by
  have hsize : bloques.size alloc = (alloc.tamanioData + 9).toNat := rfl
  have hstart : bloques.start alloc = alloc.direccion := rfl
  rw [Blocks.stop, hsize, hstart]
  omega

theorem Teselado.stop_le (h : Teselado cfg paginas allocs) (ha : alloc ∈ allocs) :
    bloques.stop alloc ≤ paginas * cfg.tamanioPagina :=
  (h.seguidos.bounds ha).2.trans h.caben

theorem Teselado.stop_le_uint32 (h : Teselado cfg paginas allocs) (ha : alloc ∈ allocs) :
    bloques.stop alloc ≤ 2 ^ 32 := (h.seguidos.bounds ha).2.trans h.direcciones

theorem Teselado.inicioDato_eq (h : Teselado cfg paginas allocs)
    (ha : alloc ∈ allocs) : alloc.inicioDato = alloc.direccion + 9 := by
  have hstop := stop_bloques (h.datos alloc ha)
  have hfin := h.stop_le_uint32 ha
  have hdato := h.datos alloc ha
  have hinicio := aUint32_natCast (n := alloc.direccion + 9) (by omega)
  rw [Alloc.inicioDato]
  exact_mod_cast hinicio

theorem Teselado.inicio_lt_stop (h : Teselado cfg paginas allocs) (ha : alloc ∈ allocs) :
    alloc.direccion + 9 < bloques.stop alloc := by
  have hstop := stop_bloques (h.datos alloc ha)
  have hdato := h.datos alloc ha
  omega

theorem Teselado.direccion_valida (h : Teselado cfg paginas allocs) (hcuenta : paginas < 2 ^ 31)
    (ha : alloc ∈ allocs) (hpos : pos < bloques.stop alloc) :
    validarDireccionLogica cfg paginas pos = true := by
  have hfin := h.stop_le ha
  have hpagina := cfg.pagina_pos
  have hmod := Nat.mod_lt pos hpagina
  have hdiv : pos / cfg.tamanioPagina < paginas := by
    rw [Nat.div_lt_iff_lt_mul hpagina]
    omega
  have halguna : 0 < paginas := (Nat.zero_le _).trans_lt hdiv
  have hultima : aUint32 ((paginas : ℤ) - 1) = paginas - 1 := by
    have hcast : (paginas : ℤ) - 1 = (paginas - 1 : ℕ) := by omega
    rw [hcast]
    exact aUint32_natCast (by omega)
  rw [validarDireccionLogica, Bool.and_eq_true, decide_eq_true_iff, decide_eq_true_iff, hultima]
  omega

theorem Teselado.buscar (h : Teselado cfg paginas (previos ++ alloc :: siguientes))
    (hpos : pos = alloc.direccion + 9) :
    (previos ++ alloc :: siguientes).takeWhile (fun a => !decide (pos = a.inicioDato)) = previos ∧
      (previos ++ alloc :: siguientes).dropWhile (fun a => !decide (pos = a.inicioDato)) =
        alloc :: siguientes := by
  have hno : ∀ a ∈ previos, (!decide (pos = a.inicioDato)) = true := by
    intro a ha
    have hmem : a ∈ previos ++ alloc :: siguientes := List.mem_append_left _ ha
    have hsize : 0 < bloques.size a := by
      have hdato := h.datos a hmem
      show 0 < (a.tamanioData + 9).toNat
      omega
    have hne : a.direccion ≠ alloc.direccion := h.seguidos.start_ne ha hsize
    rw [h.inicioDato_eq hmem, hpos]
    simpa using hne.symm
  have hsi : (!decide (pos = alloc.inicioDato)) = false := by
    rw [h.inicioDato_eq (by simp), hpos]
    simp
  constructor
  · rw [List.takeWhile_append_of_pos hno, List.takeWhile_cons, hsi]
    simp
  · rw [List.dropWhile_append_of_pos hno, List.dropWhile_cons, hsi]
    simp

theorem Teselado.buscar_unico {previos' siguientes' : List Alloc} {alloc' : Alloc}
    (h : Teselado cfg paginas (previos ++ alloc :: siguientes))
    (hallocs : previos ++ alloc :: siguientes = previos' ++ alloc' :: siguientes')
    (hpos : pos = alloc.direccion + 9) (hpos' : pos = alloc'.direccion + 9) :
    previos = previos' ∧ alloc = alloc' ∧ siguientes = siguientes' := by
  obtain ⟨htake, hdrop⟩ := h.buscar hpos
  rw [hallocs] at h htake hdrop
  obtain ⟨htake', hdrop'⟩ := h.buscar hpos'
  have hresto : alloc :: siguientes = alloc' :: siguientes' := hdrop.symm.trans hdrop'
  rw [List.cons.injEq] at hresto
  exact ⟨htake.symm.trans htake', hresto⟩

end Bloques

section Liberacion

variable {cfg : Config} {paginas pos : ℕ} {allocs previos siguientes : List Alloc}
  {alloc a b p : Alloc}

def unirIzquierda (previos : List Alloc) (alloc : Alloc) : List Alloc × Alloc :=
  match previos.getLast? with
  | some allocPrev =>
    if allocPrev.isFree then
      (previos.dropLast, { alloc with
        direccion := allocPrev.direccion
        tamanioData := allocPrev.tamanioData + alloc.tamanioData + 9 })
    else (previos, alloc)
  | none => (previos, alloc)

def unirDerecha (alloc : Alloc) : List Alloc → Alloc × List Alloc
  | [] => (alloc, [])
  | allocNext :: siguientes =>
    if allocNext.isFree then
      ({ alloc with tamanioData := allocNext.tamanioData + alloc.tamanioData + 9 }, siguientes)
    else (alloc, allocNext :: siguientes)

def bloqueLiberado (previos : List Alloc) (alloc : Alloc) (siguientes : List Alloc) : Alloc :=
  (unirDerecha (unirIzquierda previos { alloc with isFree := true }).2 siguientes).1

def trasLiberar (previos : List Alloc) (alloc : Alloc) (siguientes : List Alloc) : List Alloc :=
  (unirIzquierda previos { alloc with isFree := true }).1 ++
    bloqueLiberado previos alloc siguientes ::
      (unirDerecha (unirIzquierda previos { alloc with isFree := true }).2 siguientes).2

theorem sumarTamanios {x y : ℤ} (hx : 0 ≤ x) (hy : 0 ≤ y) {β : Type} (f : ℤ → Except Falla β) :
    (do
      let t ← enInt (x + y)
      let t ← enInt (t + 9)
      f t) = if x + y + 9 < 2 ^ 31 then f (x + y + 9) else .error .desbordamiento := by
  by_cases hsuma : x + y + 9 < 2 ^ 31
  · rw [enInt_eq_ok.2 ⟨⟨by omega, by omega⟩, rfl⟩, ok_bind,
      enInt_eq_ok.2 ⟨⟨by omega, by omega⟩, rfl⟩, ok_bind, if_pos hsuma]
  · rw [if_neg hsuma]
    by_cases hxy : x + y < 2 ^ 31
    · rw [enInt_eq_ok.2 ⟨⟨by omega, hxy⟩, rfl⟩, ok_bind]
      unfold enInt
      rw [if_neg (by omega)]
      rfl
    · unfold enInt
      rw [if_neg (by omega)]
      rfl

theorem unificarIzquierda_eq (hprevios : ∀ a ∈ previos, 1 ≤ a.tamanioData)
    (ha : 1 ≤ alloc.tamanioData) (hentero : alloc.tamanioData < 2 ^ 31) :
    unificarIzquierda previos alloc =
      if (unirIzquierda previos alloc).2.tamanioData < 2 ^ 31 then
        .ok (unirIzquierda previos alloc) else .error .desbordamiento := by
  unfold unificarIzquierda unirIzquierda
  cases hlast : previos.getLast? with
  | none => exact (if_pos hentero).symm
  | some allocPrev =>
    have hprev := hprevios allocPrev (List.mem_of_getLast? hlast)
    have hcero : 0 ≤ allocPrev.tamanioData := by omega
    dsimp only
    by_cases hlibre : allocPrev.isFree = true
    · simp only [hlibre, if_true]
      apply sumarTamanios hcero
      omega
    · simp only [hlibre]
      exact (if_pos hentero).symm

theorem unificarDerecha_eq (hsiguientes : ∀ a ∈ siguientes, 1 ≤ a.tamanioData)
    (ha : 1 ≤ alloc.tamanioData) (hentero : alloc.tamanioData < 2 ^ 31) :
    unificarDerecha alloc siguientes =
      if (unirDerecha alloc siguientes).1.tamanioData < 2 ^ 31 then
        .ok (unirDerecha alloc siguientes) else .error .desbordamiento := by
  cases siguientes with
  | nil => exact (if_pos hentero).symm
  | cons allocNext siguientes =>
    have hnext := hsiguientes allocNext List.mem_cons_self
    have hcero : 0 ≤ allocNext.tamanioData := by omega
    unfold unificarDerecha unirDerecha
    by_cases hlibre : allocNext.isFree = true
    · simp only [hlibre, if_true]
      apply sumarTamanios hcero
      omega
    · simp only [hlibre]
      exact (if_pos hentero).symm

theorem unirIzquierda_cases (previos : List Alloc) (alloc : Alloc) :
    (unirIzquierda previos alloc = (previos, alloc) ∧ ∀ p ∈ previos.getLast?, p.isFree = false) ∨
    ∃ previos' p, previos = previos' ++ [p] ∧ p.isFree = true ∧ unirIzquierda previos alloc =
      (previos', { alloc with
        direccion := p.direccion, tamanioData := p.tamanioData + alloc.tamanioData + 9 }) := by
  rcases List.eq_nil_or_concat previos with rfl | ⟨previos', p, rfl⟩
  · exact Or.inl ⟨rfl, fun p hp => nomatch hp⟩
  · rw [List.concat_eq_append]
    by_cases hlibre : p.isFree = true
    · exact Or.inr ⟨previos', p, rfl, hlibre, by simp [unirIzquierda, hlibre]⟩
    · refine Or.inl ⟨by simp [unirIzquierda, hlibre], ?_⟩
      simpa using hlibre

theorem unirDerecha_cases (alloc : Alloc) (siguientes : List Alloc) :
    (unirDerecha alloc siguientes = (alloc, siguientes) ∧
      ∀ n ∈ siguientes.head?, n.isFree = false) ∨
    ∃ n siguientes', siguientes = n :: siguientes' ∧ n.isFree = true ∧
      unirDerecha alloc siguientes =
        ({ alloc with tamanioData := n.tamanioData + alloc.tamanioData + 9 }, siguientes') := by
  cases siguientes with
  | nil => exact Or.inl ⟨rfl, fun n hn => nomatch hn⟩
  | cons n siguientes =>
    by_cases hlibre : n.isFree = true
    · exact Or.inr ⟨n, siguientes, rfl, hlibre, by simp [unirDerecha, hlibre]⟩
    · refine Or.inl ⟨by simp [unirDerecha, hlibre], ?_⟩
      simpa using hlibre

theorem unirIzquierda_release {inicio : ℕ} (htes : bloques.Tiles inicio previos alloc.direccion)
    (hprevios : ∀ a ∈ previos, 1 ≤ a.tamanioData) (ha : 1 ≤ alloc.tamanioData) :
    (((unirIzquierda previos alloc).1 = previos ∧
        bloques.start (unirIzquierda previos alloc).2 = bloques.start alloc ∧
        ∀ p ∈ previos.getLast?, bloques.free p = false) ∨
      ∃ p, previos = (unirIzquierda previos alloc).1 ++ [p] ∧ bloques.free p = true ∧
        bloques.start (unirIzquierda previos alloc).2 = bloques.start p) ∧
    bloques.stop (unirIzquierda previos alloc).2 = bloques.stop alloc ∧
    (unirIzquierda previos alloc).2.isFree = alloc.isFree ∧
    1 ≤ (unirIzquierda previos alloc).2.tamanioData := by
  rcases unirIzquierda_cases previos alloc with ⟨hizq, hlast⟩ | ⟨previos', p, rfl, hp, hizq⟩
  · rw [hizq]
    exact ⟨Or.inl ⟨rfl, rfl, hlast⟩, rfl, rfl, ha⟩
  · rw [hizq]
    have hdato := hprevios p (by simp)
    have htoca : bloques.stop p = alloc.direccion := (Blocks.tiles_concat.1 htes).2
    refine ⟨Or.inr ⟨p, rfl, hp, rfl⟩, ?_, rfl, by dsimp only; omega⟩
    have hp := stop_bloques hdato
    have halloc := stop_bloques ha
    have hunion := @stop_bloques { alloc with
      direccion := p.direccion, tamanioData := p.tamanioData + alloc.tamanioData + 9 }
      (by dsimp only; omega)
    dsimp only at hunion ⊢
    omega

theorem unirDerecha_release {fin : ℕ} (htes : bloques.Tiles (bloques.stop alloc) siguientes fin)
    (hsiguientes : ∀ a ∈ siguientes, 1 ≤ a.tamanioData) (ha : 1 ≤ alloc.tamanioData) :
    (((unirDerecha alloc siguientes).2 = siguientes ∧
        bloques.stop (unirDerecha alloc siguientes).1 = bloques.stop alloc ∧
        ∀ n ∈ siguientes.head?, bloques.free n = false) ∨
      ∃ n, siguientes = n :: (unirDerecha alloc siguientes).2 ∧ bloques.free n = true ∧
        bloques.stop (unirDerecha alloc siguientes).1 = bloques.stop n) ∧
    bloques.start (unirDerecha alloc siguientes).1 = bloques.start alloc ∧
    (unirDerecha alloc siguientes).1.isFree = alloc.isFree ∧
    alloc.tamanioData ≤ (unirDerecha alloc siguientes).1.tamanioData := by
  rcases unirDerecha_cases alloc siguientes with ⟨hder, hhead⟩ | ⟨n, siguientes', rfl, hn, hder⟩
  · rw [hder]
    exact ⟨Or.inl ⟨rfl, rfl, hhead⟩, rfl, rfl, le_rfl⟩
  · rw [hder]
    have hdato := hsiguientes n List.mem_cons_self
    have htoca : n.direccion = bloques.stop alloc := htes.1
    refine ⟨Or.inr ⟨n, rfl, hn, ?_⟩, rfl, rfl, by dsimp only; omega⟩
    have hn := stop_bloques hdato
    have halloc := stop_bloques ha
    have hunion := @stop_bloques { alloc with
      tamanioData := n.tamanioData + alloc.tamanioData + 9 } (by dsimp only; omega)
    dsimp only at hunion ⊢
    omega

/-- Freeing a block is the release of a block of a tiling, and its length grows. -/
theorem Teselado.release (h : Teselado cfg paginas (previos ++ alloc :: siguientes)) :
    bloques.Release previos alloc siguientes
      (unirIzquierda previos { alloc with isFree := true }).1
      (bloqueLiberado previos alloc siguientes)
      (unirDerecha (unirIzquierda previos { alloc with isFree := true }).2 siguientes).2 ∧
    1 ≤ (unirIzquierda previos { alloc with isFree := true }).2.tamanioData ∧
    (unirIzquierda previos { alloc with isFree := true }).2.tamanioData ≤
      (bloqueLiberado previos alloc siguientes).tamanioData := by
  obtain ⟨htprevios, htsiguientes⟩ := Blocks.tiles_middle.1 h.seguidos
  have hprevios : ∀ a ∈ previos, 1 ≤ a.tamanioData := fun a ha => h.datos a (by simp [ha])
  have hsiguientes : ∀ a ∈ siguientes, 1 ≤ a.tamanioData := fun a ha => h.datos a (by simp [ha])
  have hdato : 1 ≤ ({ alloc with isFree := true } : Alloc).tamanioData := h.datos alloc (by simp)
  obtain ⟨hleft, hstop, hlibre, hdato'⟩ :=
    @unirIzquierda_release previos { alloc with isFree := true } 0 htprevios hprevios hdato
  have hmedio : bloques.stop (unirIzquierda previos { alloc with isFree := true }).2 =
      bloques.stop alloc := hstop
  rw [← hmedio] at htsiguientes
  obtain ⟨hright, hstart, hlibre', hcrece⟩ := unirDerecha_release htsiguientes hsiguientes hdato'
  refine ⟨⟨hlibre'.trans hlibre, ?_, ?_⟩, hdato', hcrece⟩
  · rw [bloqueLiberado, hstart]
    exact hleft
  · rw [hmedio] at hright
    exact hright

theorem Teselado.liberado (h : Teselado cfg paginas (previos ++ alloc :: siguientes))
    (hunido : Unido (previos ++ alloc :: siguientes)) (huso : alloc.isFree = false)
    (hentero : (bloqueLiberado previos alloc siguientes).tamanioData < 2 ^ 31) :
    Teselado cfg paginas (trasLiberar previos alloc siguientes) ∧
      Unido (trasLiberar previos alloc siguientes) ∧
      (bloques.used (trasLiberar previos alloc siguientes)).map Alloc.tamanioData =
        (bloques.used (previos ++ siguientes)).map Alloc.tamanioData := by
  obtain ⟨hrelease, hdato, hcrece⟩ := h.release
  have hseguidos := hrelease.tiles h.seguidos
  have htotal := hseguidos.hi_eq
  rw [Nat.zero_add] at htotal
  have hmem : ∀ a ∈ trasLiberar previos alloc siguientes,
      a = bloqueLiberado previos alloc siguientes ∨ a ∈ previos ++ alloc :: siguientes := by
    intro a ha
    rcases List.mem_append.1 ha with ha | ha
    · refine Or.inr (List.mem_append_left _ ?_)
      rcases hrelease.left with ⟨heq, -, -⟩ | ⟨p, heq, -, -⟩
      · rwa [heq] at ha
      · rw [heq]
        exact List.mem_append_left _ ha
    · rcases List.mem_cons.1 ha with rfl | ha
      · exact Or.inl rfl
      · refine Or.inr (List.mem_append_right _ (List.mem_cons_of_mem _ ?_))
        rcases hrelease.right with ⟨heq, -, -⟩ | ⟨n, heq, -, -⟩
        · rwa [heq] at ha
        · rw [heq]
          exact List.mem_cons_of_mem _ ha
  refine ⟨⟨?_, fun a ha => ?_, ?_, fun a ha => ?_, ?_⟩, hrelease.coalesced huso hunido,
    congrArg _ hrelease.used_eq⟩
  · exact htotal ▸ hseguidos
  · rcases hmem a ha with rfl | ha
    · exact hdato.trans hcrece
    · exact h.datos a ha
  · exact htotal ▸ h.caben
  · rcases hmem a ha with rfl | ha
    · exact hentero
    · exact h.enteros a ha
  · exact htotal ▸ h.direcciones

/-- What freeing a block leaves, if its length is an `int`. -/
theorem Teselado.liberarAlloc_eq (h : Teselado cfg paginas (previos ++ alloc :: siguientes))
    (huso : alloc.isFree = false) (hpos : pos = alloc.direccion + 9) :
    liberarAlloc (previos ++ alloc :: siguientes) pos =
      if (bloqueLiberado previos alloc siguientes).tamanioData < 2 ^ 31 then
        .ok (some (trasLiberar previos alloc siguientes, bloqueLiberado previos alloc siguientes))
      else .error .desbordamiento := by
  obtain ⟨htake, hdrop⟩ := h.buscar hpos
  obtain ⟨-, hdato, hcrece⟩ := h.release
  have hprevios : ∀ a ∈ previos, 1 ≤ a.tamanioData := fun a ha => h.datos a (by simp [ha])
  have hsiguientes : ∀ a ∈ siguientes, 1 ≤ a.tamanioData := fun a ha => h.datos a (by simp [ha])
  have hizq := @unificarIzquierda_eq previos { alloc with isFree := true } hprevios
    (h.datos alloc (by simp)) (h.enteros alloc (by simp))
  unfold liberarAlloc
  rw [htake, hdrop]
  simp only [huso, Bool.false_eq_true, if_false]
  rw [hizq]
  by_cases hentero : (unirIzquierda previos { alloc with isFree := true }).2.tamanioData < 2 ^ 31
  · rw [if_pos hentero, ok_bind, unificarDerecha_eq hsiguientes hdato hentero]
    by_cases hfin : (bloqueLiberado previos alloc siguientes).tamanioData < 2 ^ 31
    · rw [if_pos hfin]
      refine (congrArg (· >>= _) (if_pos hfin)).trans ?_
      rfl
    · rw [if_neg hfin]
      refine (congrArg (· >>= _) (if_neg hfin)).trans ?_
      rfl
  · rw [if_neg hentero, if_neg (by omega)]
    rfl

end Liberacion

section PaginaCero

variable {cfg : Config} {lo hi : ℕ} {allocs resto : List Alloc} {alloc : Alloc}

/-- `alloc_esta_en_pagina` finds the block in page 0; from 2^31 on its addresses wrap around. -/
def Alloc.tocaCero (cfg : Config) (alloc : Alloc) : Bool :=
  decide (alloc.direccion < cfg.tamanioPagina ∨ 2 ^ 31 < alloc.direccion)

/-- The counter of `alloc_esta_en_pagina` stays an `int`. -/
def Alloc.contable (cfg : Config) (alloc : Alloc) : Bool :=
  alloc.tocaCero cfg || decide (bloques.stop alloc < 2 ^ 31)

theorem aInt_eq_zero {n : ℕ} (hn : n < 2 ^ 32) : aInt n = 0 ↔ n = 0 := by
  unfold aInt
  omega

theorem paginaCero_iff (x : ℕ) :
    aInt (aUint32 x / cfg.tamanioPagina : ℕ) = 0 ↔ x % 2 ^ 32 < cfg.tamanioPagina := by
  have hpagina := cfg.pagina_pos
  have hx : aUint32 x = x % 2 ^ 32 := by
    unfold aUint32
    omega
  have hlt : aUint32 x / cfg.tamanioPagina < 2 ^ 32 :=
    (Nat.div_le_self _ _).trans_lt (aUint32_lt _)
  rw [aInt_eq_zero hlt, Nat.div_eq_zero_iff, hx]
  omega

theorem allocEstaEnPagina_cero (ha : 1 ≤ alloc.tamanioData) (hstop : bloques.stop alloc ≤ 2 ^ 32) :
    allocEstaEnPagina cfg alloc 0 =
      if alloc.contable cfg then .ok (alloc.tocaCero cfg) else .error .desbordamiento := by
  have hfin := stop_bloques ha
  have hlimite : aUint32 (alloc.direccion + 9 + alloc.tamanioData - 1) + 1 =
      bloques.stop alloc := by
    unfold aUint32
    omega
  have hany : ((List.range (min (bloques.stop alloc) (2 ^ 31))).any fun i : ℕ =>
      decide (aInt (aUint32 (alloc.direccion + i) / cfg.tamanioPagina : ℕ) = 0)) =
        alloc.tocaCero cfg := by
    rw [Bool.eq_iff_iff, List.any_eq_true, Alloc.tocaCero, decide_eq_true_iff]
    constructor
    · rintro ⟨i, hi, hcero⟩
      have hi' := List.mem_range.1 hi
      have hcero' := (paginaCero_iff (alloc.direccion + i)).1 (by
        exact_mod_cast of_decide_eq_true hcero)
      omega
    · rintro (hdir | hdir)
      · refine ⟨0, List.mem_range.2 (by omega), decide_eq_true ?_⟩
        have hcero := (@paginaCero_iff cfg (alloc.direccion + 0)).2 (by omega)
        exact_mod_cast hcero
      · refine ⟨2 ^ 32 - alloc.direccion, List.mem_range.2 (by omega), decide_eq_true ?_⟩
        have hpagina := cfg.pagina_pos
        have hcero := (@paginaCero_iff cfg (alloc.direccion + (2 ^ 32 - alloc.direccion))).2
          (by omega)
        exact_mod_cast hcero
  unfold allocEstaEnPagina
  simp only [hlimite, hany]
  unfold Alloc.contable
  cases alloc.tocaCero cfg <;> simp

theorem allocsDePagina_cero (hdatos : ∀ a ∈ allocs, 1 ≤ a.tamanioData)
    (hstop : ∀ a ∈ allocs, bloques.stop a ≤ 2 ^ 32) :
    allocsDePagina cfg 0 allocs =
      if allocs.all (Alloc.contable cfg) then .ok (allocs.filter (Alloc.tocaCero cfg))
      else .error .desbordamiento := by
  induction allocs with
  | nil => rfl
  | cons alloc allocs ih =>
    have hesta := @allocEstaEnPagina_cero cfg alloc (hdatos alloc List.mem_cons_self)
      (hstop alloc List.mem_cons_self)
    have hresto := ih (fun a ha => hdatos a (List.mem_cons_of_mem _ ha))
      (fun a ha => hstop a (List.mem_cons_of_mem _ ha))
    rw [allocsDePagina, hesta, hresto, List.all_cons, List.filter_cons]
    cases alloc.contable cfg with
    | false => rfl
    | true =>
      cases allocs.all (Alloc.contable cfg) with
      | false => rfl
      | true => rfl

theorem sin_tocaCero (htes : bloques.Tiles lo allocs hi) (hdatos : ∀ a ∈ allocs, 1 ≤ a.tamanioData)
    (hlo : cfg.tamanioPagina ≤ lo) (hlo' : lo ≤ 2 ^ 31)
    (hcontable : allocs.all (Alloc.contable cfg) = true) :
    allocs.filter (Alloc.tocaCero cfg) = [] := by
  induction allocs generalizing lo with
  | nil => rfl
  | cons alloc allocs ih =>
    obtain ⟨rfl, hresto⟩ := htes
    rw [List.all_cons, Bool.and_eq_true] at hcontable
    have hdir : bloques.start alloc = alloc.direccion := rfl
    have htoca : alloc.tocaCero cfg = false := by
      rw [Alloc.tocaCero, decide_eq_false_iff_not]
      omega
    have hfin : bloques.stop alloc < 2 ^ 31 := by
      have halloc := hcontable.1
      rw [Alloc.contable, htoca, Bool.false_or] at halloc
      exact of_decide_eq_true halloc
    rw [List.filter_cons, htoca]
    have hstop : bloques.stop alloc = bloques.start alloc + bloques.size alloc := rfl
    exact ih hresto (fun a ha => hdatos a (List.mem_cons_of_mem _ ha)) (by omega) (by omega)
      hcontable.2

/-- Page 0 has free blocks only: the first one, which covers it or is alone. -/
def primeraLibre (cfg : Config) : List Alloc → Bool
  | [] => false
  | alloc :: resto => alloc.isFree && !(resto.head?.any (Alloc.tocaCero cfg))

theorem tocaCero_primera (htes : bloques.Tiles 0 (alloc :: resto) hi) :
    alloc.tocaCero cfg = true := by
  have hcero : alloc.direccion = 0 := htes.1
  rw [Alloc.tocaCero, decide_eq_true_iff, hcero]
  exact Or.inl cfg.pagina_pos

/-- A free first block that leaves the next one out of page 0 is the only one there. -/
theorem primeraLibre_sola (htes : bloques.Tiles 0 (alloc :: resto) hi)
    (hdatos : ∀ a ∈ alloc :: resto, 1 ≤ a.tamanioData)
    (hcontable : (alloc :: resto).all (Alloc.contable cfg) = true)
    (hlibre : primeraLibre cfg (alloc :: resto) = true) :
    (alloc :: resto).filter (Alloc.tocaCero cfg) = [alloc] ∧ alloc.isFree = true ∧
      (resto = [] ∨ cfg.tamanioPagina ≤ bloques.stop alloc) := by
  rw [primeraLibre, Bool.and_eq_true] at hlibre
  rw [List.filter_cons, tocaCero_primera htes, if_pos rfl]
  cases resto with
  | nil => exact ⟨rfl, hlibre.1, Or.inl rfl⟩
  | cons next resto =>
    have htoca : next.tocaCero cfg = false := by simpa using hlibre.2
    have hlejos := of_decide_eq_false htoca
    have hdir : next.direccion = bloques.start next := rfl
    have hinicio := htes.2.1
    have hcero := htes.1
    have hstop : bloques.stop alloc = bloques.start alloc + bloques.size alloc := rfl
    rw [List.all_cons, Bool.and_eq_true] at hcontable
    have hsin := @sin_tocaCero cfg _ _ _ htes.2
      (fun a ha => hdatos a (List.mem_cons_of_mem _ ha)) (by omega) (by omega) hcontable.2
    rw [hsin]
    exact ⟨rfl, hlibre.1, Or.inr (by omega)⟩

/-- `compactar` compacts where page 0 has free blocks only. -/
theorem todosLibres_cero (htes : bloques.Tiles 0 allocs hi) (hunido : Unido allocs)
    (hdatos : ∀ a ∈ allocs, 1 ≤ a.tamanioData)
    (hcontable : allocs.all (Alloc.contable cfg) = true) :
    todosLosAllocsEstanLibres (allocs.filter (Alloc.tocaCero cfg)) = primeraLibre cfg allocs := by
  cases allocs with
  | nil => rfl
  | cons alloc resto =>
    cases hprimera : primeraLibre cfg (alloc :: resto) with
    | true =>
      obtain ⟨hfiltro, hlibre, -⟩ := primeraLibre_sola htes hdatos hcontable hprimera
      simp [hfiltro, todosLosAllocsEstanLibres, hlibre]
    | false =>
      rw [List.filter_cons, tocaCero_primera htes, if_pos rfl]
      cases hlibre : alloc.isFree with
      | false => simp [todosLosAllocsEstanLibres, hlibre]
      | true =>
        cases resto with
        | nil => simp [primeraLibre, hlibre] at hprimera
        | cons next resto =>
          have htoca : next.tocaCero cfg = true := by simpa [primeraLibre, hlibre] using hprimera
          have hocupado : next.isFree = false := (Blocks.coalesced_cons.1 hunido).1 next rfl hlibre
          simp [todosLosAllocsEstanLibres, htoca, hocupado]

def Alloc.bajar (espacio : ℤ) (alloc : Alloc) : Alloc :=
  { alloc with direccion := aUint32 (alloc.direccion - espacio) }

theorem compactarAllocs_primera (ha : 1 ≤ alloc.tamanioData) :
    compactarAllocs [alloc] (alloc :: resto) =
      if alloc.tamanioData + 9 < 2 ^ 31 then .ok (resto.map (Alloc.bajar (alloc.tamanioData + 9)))
      else .error .desbordamiento := by
  have hindice : obtenerIndiceDeAlloc (alloc :: resto) alloc.direccion = .ok 0 := by
    simp [obtenerIndiceDeAlloc, List.findIdx?_cons]
  unfold compactarAllocs borrarAllocs
  by_cases hentero : alloc.tamanioData + 9 < 2 ^ 31
  · rw [if_pos hentero, enInt_eq_ok.2 ⟨⟨by omega, hentero⟩, rfl⟩, ok_bind, hindice, ok_bind,
      borrarAllocs, ok_bind]
    have hpos : 0 < alloc.tamanioData + 9 := by omega
    simp only [hpos, if_true, List.eraseIdx_cons_zero]
    rfl
  · rw [if_neg hentero]
    unfold enInt
    rw [if_neg (by omega)]
    rfl

theorem bajar_direccion (htes : bloques.Tiles 0 (alloc :: resto) hi) (ha : 1 ≤ alloc.tamanioData)
    (hhi : hi ≤ 2 ^ 32) {b : Alloc} (hb : b ∈ resto) :
    (b.bajar (alloc.tamanioData + 9)).direccion = b.direccion - bloques.size alloc := by
  have hsize : (bloques.size alloc : ℤ) = alloc.tamanioData + 9 := by
    show ((alloc.tamanioData + 9).toNat : ℤ) = _
    omega
  obtain ⟨hinicio, hfin⟩ := htes.2.bounds hb
  have hstart : bloques.start b = b.direccion := rfl
  have hstop : bloques.stop b = bloques.start b + bloques.size b := rfl
  have hcorta : (b.direccion : ℤ) - (alloc.tamanioData + 9) =
      (b.direccion - bloques.size alloc : ℕ) := by omega
  show aUint32 (b.direccion - (alloc.tamanioData + 9)) = b.direccion - bloques.size alloc
  rw [hcorta]
  exact aUint32_natCast (by omega)

theorem bajar_seguidos (htes : bloques.Tiles 0 (alloc :: resto) hi) (ha : 1 ≤ alloc.tamanioData)
    (hhi : hi ≤ 2 ^ 32) : bloques.Tiles 0 (resto.map (Alloc.bajar (alloc.tamanioData + 9)))
      (hi - bloques.size alloc) := by
  have hresto := htes.2
  rw [Nat.zero_add] at hresto
  have hbaja := hresto.shift (f := Alloc.bajar (alloc.tamanioData + 9)) le_rfl
    (fun b hb => bajar_direccion htes ha hhi hb) (fun b _ => rfl)
  rwa [Nat.sub_self] at hbaja

end PaginaCero

section Compactacion

variable {E : Entorno} {s s' : Estado} {pid : ℤ} {c : Carpincho} {fin paginas : ℕ}
  {allocs resto : List Alloc} {alloc : Alloc}

theorem used_map_bajar (espacio : ℤ) (allocs : List Alloc) :
    (bloques.used (allocs.map (Alloc.bajar espacio))).map Alloc.tamanioData =
      (bloques.used allocs).map Alloc.tamanioData := by
  induction allocs with
  | nil => rfl
  | cons alloc allocs ih =>
    have hfree : bloques.free (alloc.bajar espacio) = bloques.free alloc := rfl
    simp only [Blocks.used, List.map_cons, List.filter_cons, hfree] at ih ⊢
    split
    · exact congrArg (alloc.tamanioData :: ·) ih
    · exact ih

theorem Teselado.compactado {n : ℕ} {allocs' : List Alloc} (h : Teselado E.config (n + 1) allocs)
    (hunido : Unido allocs)
    (hcontable : allocs.all (Alloc.contable E.config) = true)
    (hprimera : primeraLibre E.config allocs = true)
    (hs : compactarAllocs (allocs.filter (Alloc.tocaCero E.config)) allocs = .ok allocs') :
    Teselado E.config n allocs' ∧ Unido allocs' ∧ primeraLibre E.config allocs' = false ∧
      (bloques.used allocs').map Alloc.tamanioData =
        (bloques.used allocs).map Alloc.tamanioData := by
  cases allocs with
  | nil => cases hprimera
  | cons alloc resto =>
    obtain ⟨hfiltro, hlibre, hcubre⟩ := primeraLibre_sola h.seguidos h.datos hcontable hprimera
    have hdato := h.datos alloc List.mem_cons_self
    rw [hfiltro, compactarAllocs_primera hdato] at hs
    split at hs
    · cases hs
      have hcaben := h.caben
      have hseguidos := bajar_seguidos h.seguidos hdato (h.direcciones)
      have htotal := hseguidos.hi_eq
      rw [Nat.zero_add] at htotal
      obtain ⟨hhead, hresto⟩ := Blocks.coalesced_cons.1 hunido
      have hdirecciones := h.direcciones
      refine ⟨⟨htotal ▸ hseguidos, fun a ha => ?_, ?_, fun a ha => ?_, by omega⟩,
        hresto.map fun _ => rfl, ?_, ?_⟩
      · obtain ⟨b, hb, rfl⟩ := List.mem_map.1 ha
        exact h.datos b (List.mem_cons_of_mem _ hb)
      · rw [← htotal]
        rcases hcubre with rfl | hcubre
        · have hsolo : bloques.total [alloc] = bloques.size alloc := by simp [Blocks.total]
          omega
        · have hcero := h.seguidos.1
          have hstop : bloques.stop alloc = bloques.start alloc + bloques.size alloc := rfl
          rw [Nat.add_mul, Nat.one_mul] at hcaben
          omega
      · obtain ⟨b, hb, rfl⟩ := List.mem_map.1 ha
        exact h.enteros b (List.mem_cons_of_mem _ hb)
      · cases resto with
        | nil => rfl
        | cons next resto =>
          have hocupado : next.isFree = false := hhead next rfl hlibre
          simp [primeraLibre, Alloc.bajar, hocupado]
      · rw [used_map_bajar]
        have hno : bloques.used (alloc :: resto) = bloques.used resto := by
          have hfree : bloques.free alloc = true := hlibre
          simp [Blocks.used, hfree]
        rw [hno]
    · cases hs

theorem quitarPagina_una {pag : ℕ} (hc : getCarpincho pid s = some c)
    (hs : quitarPagina pid pag s = .ok s') :
    ∃ d, getCarpincho pid s' = some d ∧ d.paginas.length + 1 = c.paginas.length ∧
      d.paginas.Sublist c.paginas ∧ d.allocs = c.allocs := by
  obtain ⟨-, -, hs⟩ := bind_eq_ok.1 hs
  obtain ⟨c', hc', hs⟩ := bind_eq_ok.1 hs
  obtain rfl := Option.some.inj (hc.symm.trans (carpinchoDe_some hc'))
  obtain ⟨i, -, hs⟩ := bind_eq_ok.1 hs
  split at hs
  · next hi =>
    have hlength : (c.paginas.eraseIdx i.toNat).length + 1 = c.paginas.length := by
      rw [List.length_eraseIdx_of_lt (by omega)]
      omega
    have hcon := getCarpincho_setCarpincho
      (f := fun d => { d with paginas := c.paginas.eraseIdx i.toNat }) (fun _ => rfl) hc
    dsimp only at hs
    split at hs
    · cases hs
      exact ⟨_, hcon, hlength, List.eraseIdx_sublist _ _, rfl⟩
    · obtain ⟨-, -, hs⟩ := bind_eq_ok.1 hs
      cases hs
      exact ⟨_, hcon, hlength, List.eraseIdx_sublist _ _, rfl⟩
  · cases hs

theorem compactar_eq (hc : getCarpincho pid s = some c)
    (htes : Teselado E.config paginas c.allocs)
    (hunido : Unido c.allocs) {pag : ℕ} {pags : List ℕ} (hpaginas : c.paginas = pag :: pags) :
    compactar E pid s =
      if c.allocs.all (Alloc.contable E.config) then
        if primeraLibre E.config c.allocs then do
          let allocs ← compactarAllocs (c.allocs.filter (Alloc.tocaCero E.config)) c.allocs
          let s ← quitarPagina pid pag (setAllocs pid allocs s)
          .ok (true, s)
        else .ok (false, s)
      else .error .desbordamiento := by
  have hcarpincho : carpinchoDe pid s = .ok c := by rw [carpinchoDe, hc]
  unfold compactar
  rw [hcarpincho, ok_bind, hpaginas]
  dsimp only
  rw [allocsDePagina_cero htes.datos fun a ha => htes.stop_le_uint32 ha]
  by_cases hcontable : c.allocs.all (Alloc.contable E.config) = true
  · rw [if_pos hcontable, if_pos hcontable, ok_bind,
      todosLibres_cero htes.seguidos hunido htes.datos hcontable]
  · rw [if_neg hcontable, if_neg hcontable]
    rfl

theorem compactar_teselado (hc : getCarpincho pid s = some c)
    (htes : Teselado E.config c.paginas.length c.allocs) (hunido : Unido c.allocs)
    (hs : compactar E pid s = .ok (true, s')) :
    ∃ d, getCarpincho pid s' = some d ∧ Teselado E.config d.paginas.length d.allocs ∧
      Unido d.allocs ∧ d.paginas.length + 1 = c.paginas.length ∧ d.paginas.Sublist c.paginas ∧
      (bloques.used d.allocs).map Alloc.tamanioData =
        (bloques.used c.allocs).map Alloc.tamanioData ∧
      primeraLibre E.config d.allocs = false := by
  obtain ⟨pag, pags, hpaginas⟩ := compactar_no_vacia hc hs
  rw [compactar_eq hc htes hunido hpaginas] at hs
  split at hs
  · next hcontable =>
    split at hs
    · next hprimera =>
      obtain ⟨allocs, hallocs, hs⟩ := bind_eq_ok.1 hs
      obtain ⟨s₁, hquitar, hs⟩ := bind_eq_ok.1 hs
      cases hs
      obtain ⟨d, hd, hlength, hsub, hdallocs⟩ :=
        quitarPagina_una (getCarpincho_setAllocs hc allocs) hquitar
      dsimp only at hlength hsub hdallocs
      rw [← hlength] at htes
      obtain ⟨htes', hunido', hprimera', hused⟩ :=
        htes.compactado hunido hcontable hprimera hallocs
      refine ⟨d, hd, ?_⟩
      rw [hdallocs]
      exact ⟨htes', hunido', hlength, hsub, hused, hprimera'⟩
    · cases hs
  · cases hs

end Compactacion

section Memfree

variable (E : Entorno)

/-- `compactar`, if coming to its end without a page gives 0. -/
def compactarDefinido (pid : ℤ) (s : Estado) : Except Falla (Bool × Estado) :=
  if (getCarpincho pid s).any fun carpincho => carpincho.paginas.isEmpty then .ok (false, s)
  else compactar E pid s

def compactarMientrasDefinido (pid : ℤ) : ℕ → Estado → Except Falla Estado
  | 0, _ => .error .recursionInfinita
  | fuel + 1, s => do
    let (resultado, s) ← compactarDefinido E pid s
    if resultado then compactarMientrasDefinido pid fuel s else .ok s

/-- `memory_memfree` with this `compactar`. -/
def memoryMemfreeDefinido (pid : ℤ) (pos : ℕ) (s : Estado) :
    Except Falla (StatusMemoryOp × Estado) :=
  match getCarpincho pid s with
  | none => .ok (.direccionInvalida, s)
  | some carpincho =>
    if validarDireccionLogica E.config carpincho.paginas.length pos then do
      match ← liberarAlloc carpincho.allocs pos with
      | none => .ok (.direccionInvalida, s)
      | some (allocs, alloc) =>
        let s ← persistirMetadataHeap E pid alloc (setAllocs pid allocs s)
        let s ← compactarMientrasDefinido E pid (allocs.length + 1) s
        .ok (.exito, s)
    else .ok (.direccionInvalida, s)

variable {E} {s s' : Estado} {pid : ℤ} {pos : ℕ} {c : Carpincho} {resultado : Bool}
  {previos siguientes : List Alloc} {alloc : Alloc}

theorem compactarDefinido_cases
    (hs : compactarDefinido E pid s = .ok (resultado, s')) :
    compactar E pid s = .ok (resultado, s') ∨ resultado = false ∧ s' = s := by
  unfold compactarDefinido at hs
  split at hs
  · cases hs
    exact Or.inr ⟨rfl, rfl⟩
  · exact Or.inl hs

theorem compactarMientras_teselado {fuel : ℕ} (hc : getCarpincho pid s = some c)
    (htes : Teselado E.config c.paginas.length c.allocs) (hunido : Unido c.allocs)
    (hs : compactarMientrasDefinido E pid fuel s = .ok s') :
    ∃ d, getCarpincho pid s' = some d ∧ Teselado E.config d.paginas.length d.allocs ∧
      Unido d.allocs ∧ d.paginas.Sublist c.paginas ∧ c.paginas.length ≤ d.paginas.length + 1 ∧
      (bloques.used d.allocs).map Alloc.tamanioData =
        (bloques.used c.allocs).map Alloc.tamanioData := by
  cases fuel with
  | zero => cases hs
  | succ fuel =>
    obtain ⟨⟨resultado, s₁⟩, hprimero, hs⟩ := bind_eq_ok.1 hs
    have hquieto : s₁ = s → ∃ d, getCarpincho pid s₁ = some d ∧
        Teselado E.config d.paginas.length d.allocs ∧ Unido d.allocs ∧
        d.paginas.Sublist c.paginas ∧ c.paginas.length ≤ d.paginas.length + 1 ∧
        (bloques.used d.allocs).map Alloc.tamanioData =
          (bloques.used c.allocs).map Alloc.tamanioData := by
      rintro rfl
      exact ⟨c, hc, htes, hunido, List.Sublist.refl _, Nat.le_succ _, rfl⟩
    rcases compactarDefinido_cases hprimero with hprimero | ⟨rfl, hnada⟩
    · cases resultado with
      | false =>
        cases hs
        exact hquieto (compactar_falso hprimero)
      | true =>
        obtain ⟨d, hd, htes', hunido', hlength, hsub, hused, hprimera⟩ :=
          compactar_teselado hc htes hunido hprimero
        -- The first block is in use now, and the second look is the last.
        have hfin : s' = s₁ := by
          cases fuel with
          | zero => cases hs
          | succ fuel =>
            obtain ⟨⟨resultado, s₂⟩, hsegundo, hfin⟩ := bind_eq_ok.1 hs
            rcases compactarDefinido_cases hsegundo with hsegundo | ⟨rfl, rfl⟩
            · obtain ⟨pag, pags, hpaginas⟩ := compactar_no_vacia hd hsegundo
              rw [compactar_eq hd htes' hunido' hpaginas, hprimera] at hsegundo
              simp only [Bool.false_eq_true, if_false] at hsegundo
              split at hsegundo
              · cases hsegundo
                cases hfin
                rfl
              · cases hsegundo
            · cases hfin
              rfl
        rw [hfin]
        exact ⟨d, hd, htes', hunido', hsub, by omega, hused⟩
    · cases hs
      exact hquieto hnada

/-- Freeing a block in use leaves the heap in order, with the other blocks in use as they were
and at most one page less. -/
theorem memfree_teselado (hc : getCarpincho pid s = some c)
    (hallocs : c.allocs = previos ++ alloc :: siguientes)
    (htes : Teselado E.config c.paginas.length c.allocs) (hunido : Unido c.allocs)
    (hcuenta : c.paginas.length < 2 ^ 31) (huso : alloc.isFree = false)
    (hpos : pos = alloc.direccion + 9) {status : StatusMemoryOp}
    (hs : memoryMemfreeDefinido E pid pos s = .ok (status, s')) :
    status = .exito ∧ ∃ d, getCarpincho pid s' = some d ∧
      Teselado E.config d.paginas.length d.allocs ∧ Unido d.allocs ∧
      d.paginas.Sublist c.paginas ∧ c.paginas.length ≤ d.paginas.length + 1 ∧
      (bloques.used d.allocs).map Alloc.tamanioData =
        (bloques.used (previos ++ siguientes)).map Alloc.tamanioData := by
  have hmem : alloc ∈ c.allocs := by simp [hallocs]
  have hvalida := htes.direccion_valida hcuenta hmem (htes.inicio_lt_stop hmem)
  rw [hallocs] at htes hunido
  rw [← hpos] at hvalida
  have hliberar := htes.liberarAlloc_eq huso hpos
  unfold memoryMemfreeDefinido at hs
  rw [hc] at hs
  dsimp only at hs
  rw [if_pos hvalida, hallocs, hliberar] at hs
  split at hs
  · next hentero =>
    rw [ok_bind] at hs
    obtain ⟨s₁, hpersistir, hs⟩ := bind_eq_ok.1 hs
    obtain ⟨s₂, hcompactar, hs⟩ := bind_eq_ok.1 hs
    cases hs
    refine ⟨rfl, ?_⟩
    obtain ⟨d, hd, hdpaginas, hdallocs⟩ := getCarpincho_persistir hc hpersistir
    obtain ⟨htes', hunido', hused⟩ := htes.liberado hunido huso hentero
    rw [← hdallocs] at htes' hunido' hused
    rw [← hdpaginas] at htes' ⊢
    obtain ⟨e, he, hetes, heunido, hesub, helength, heused⟩ :=
      compactarMientras_teselado hd htes' hunido' hcompactar
    exact ⟨e, he, hetes, heunido, hesub, helength, heused.trans hused⟩
  · cases hs

theorem heap_un_bloque {t : Estado → Bool}
    (h : (guardedRun (llamar (entornoFiel configHeap)) (fun _ _ => true) [.memalloc 1 5]
      estadoHeap).any (fun s => (getCarpincho 1 s).any fun c => c.paginas.length = 1 ∧
        c.allocs = [⟨0, false, 5⟩] ∧ t s = true) = true) :
    ∃ s c, getCarpincho 1 s = some c ∧ c.paginas.length = 1 ∧ c.allocs = [⟨0, false, 5⟩] ∧
      Teselado configHeap c.paginas.length c.allocs ∧ Unido c.allocs ∧ t s = true := by
  obtain ⟨s, -, hfin⟩ := (Option.any_eq_true _ _).1 h
  obtain ⟨c, hc, hfin⟩ := (Option.any_eq_true _ _).1 hfin
  obtain ⟨hpaginas, hallocs, htest⟩ := of_decide_eq_true hfin
  refine ⟨s, c, hc, hpaginas, hallocs, ?_, ?_, htest⟩
  · rw [hpaginas, hallocs]
    exact ⟨⟨rfl, rfl⟩, by decide, by decide, by decide, by decide⟩
  · rw [hallocs]
    exact .singleton _

theorem heap_dos_bloques :
    ∃ s c, getCarpincho 1 s = some c ∧ c.paginas.length = 2 ∧
      c.allocs = [⟨0, false, 30⟩, ⟨39, false, 5⟩] ∧ Teselado configHeap c.paginas.length c.allocs ∧
      Unido c.allocs ∧ (∃ r, memoryMemfreeDefinido (entornoFiel configHeap) 1 9 s = .ok r) ∧
      ∃ r, memoryMemfree (entornoFiel configHeap) 1 9 s = .ok r := by
  have hcorrida : (guardedRun (llamar (entornoFiel configHeap)) (fun _ _ => true)
      [.memalloc 1 30, .memalloc 1 5] estadoHeap).any
      (fun s => (getCarpincho 1 s).any fun c => c.paginas.length = 2 ∧
        c.allocs = [⟨0, false, 30⟩, ⟨39, false, 5⟩] ∧
        (memoryMemfreeDefinido (entornoFiel configHeap) 1 9 s).isOk ∧
        (memoryMemfree (entornoFiel configHeap) 1 9 s).isOk) = true := by
    decide +kernel
  obtain ⟨s, -, hfin⟩ := (Option.any_eq_true _ _).1 hcorrida
  obtain ⟨c, hc, hfin⟩ := (Option.any_eq_true _ _).1 hfin
  obtain ⟨hpaginas, hallocs, hdefinido, hmemfree⟩ := of_decide_eq_true hfin
  refine ⟨s, c, hc, hpaginas, hallocs, ?_, ?_, exists_of_isOk hdefinido, exists_of_isOk hmemfree⟩
  · rw [hpaginas, hallocs]
    exact ⟨⟨rfl, rfl, rfl⟩, by decide, by decide, by decide, by decide⟩
  · rw [hallocs]
    exact .cons_cons (fun h => nomatch h) (.singleton _)

/-- The first of them is freed, and the other one goes down to the address 0. -/
theorem memfree_teselado_dos :
    ∃ s c s', getCarpincho 1 s = some c ∧ c.allocs = [⟨0, false, 30⟩, ⟨39, false, 5⟩] ∧
      memoryMemfreeDefinido (entornoFiel configHeap) 1 9 s = .ok (.exito, s') ∧
      ∃ d, getCarpincho 1 s' = some d ∧ 2 ≤ d.paginas.length + 1 ∧
        (bloques.used d.allocs).map Alloc.tamanioData = [5] := by
  obtain ⟨s, c, hc, hpaginas, hallocs, htes, hunido, ⟨⟨status, s'⟩, hs⟩, -⟩ := heap_dos_bloques
  obtain ⟨rfl, d, hd, -, -, -, hlength, hused⟩ := @memfree_teselado (entornoFiel configHeap) s s' 1
    9 c [] [⟨39, false, 5⟩] ⟨0, false, 30⟩ hc hallocs htes hunido
    (by rw [hpaginas]; decide) rfl rfl status hs
  refine ⟨s, c, s', hc, hallocs, hs, d, hd, ?_, hused⟩
  rwa [hpaginas] at hlength

end Memfree

section Terminacion

variable {E : Entorno} {s s' s₁ : Estado} {pid : ℤ} {pos : ℕ} {c : Carpincho}
  {previos siguientes : List Alloc} {alloc : Alloc}

/-- `compactar_pagina` can take the page of this pointer out of the list: neither its
descriptor nor the one that takes its place has been freed, and its number is one of the list. -/
structure PaginaQuitable (descriptor : ℕ → Pagina) (paginas : List ℕ) (pag : ℕ) : Prop where
  viva : (descriptor pag).liberada = false
  desde : 1 ≤ (descriptor pag).pagina
  hasta : (descriptor pag).pagina ≤ paginas.length
  entero : (descriptor pag).pagina ≤ 2 ^ 31
  reemplazo : ∀ q ∈ (paginas.eraseIdx ((descriptor pag).pagina - 1).toNat)[
    ((descriptor pag).pagina - 1).toNat]?, (descriptor q).liberada = false

/-- The loop of `memory_memfree` comes to its end: the counters stay in `int`, and if the
first page is taken out there is another one. -/
structure CompactacionDefinida (cfg : Config) (descriptor : ℕ → Pagina) (paginas : List ℕ)
    (allocs : List Alloc) : Prop where
  contables : allocs.all (Alloc.contable cfg) = true
  quedan : primeraLibre cfg allocs = true → 2 ≤ paginas.length ∧
    (∀ alloc ∈ allocs.head?, alloc.tamanioData + 9 < 2 ^ 31) ∧
    ∀ pag ∈ paginas.head?, PaginaQuitable descriptor paginas pag

theorem paginasLegibles_una {p : ℕ} {u : Unit} :
    paginasLegibles [p] s = .ok u ↔ (s.descriptor p).liberada = false := by
  unfold paginasLegibles
  cases hp : (s.descriptor p).liberada <;> simp [hp]

theorem quitarPagina_iff (hc : getCarpincho pid s = some c) (pag : ℕ) :
    (∃ s', quitarPagina pid pag s = .ok s') ↔
      PaginaQuitable s.descriptor c.paginas pag := by
  have hcarpincho : carpinchoDe pid s = .ok c := by rw [carpinchoDe, hc]
  constructor
  · rintro ⟨s', hs⟩
    obtain ⟨u, hviva, hs⟩ := bind_eq_ok.1 hs
    obtain ⟨c', hc', hs⟩ := bind_eq_ok.1 hs
    obtain rfl := Except.ok.inj (hcarpincho.symm.trans hc')
    obtain ⟨i, hi, hs⟩ := bind_eq_ok.1 hs
    obtain ⟨hrango, rfl⟩ := enInt_eq_ok.1 hi
    split at hs
    · next hdentro =>
      refine ⟨paginasLegibles_una.1 hviva, by omega, by omega, by omega, fun q hq => ?_⟩
      dsimp only at hs
      rw [Option.mem_def.1 hq] at hs
      obtain ⟨u', hq', -⟩ := bind_eq_ok.1 hs
      exact paginasLegibles_una.1 hq'
    · cases hs
  · rintro ⟨hviva, hdesde, hhasta, hentero, hreemplazo⟩
    have hlegible := (@paginasLegibles_una s pag ()).2 hviva
    have hindice : enInt ((s.descriptor pag).pagina - 1) = .ok ((s.descriptor pag).pagina - 1) :=
      enInt_eq_ok.2 ⟨⟨by omega, by omega⟩, rfl⟩
    have hdentro : 0 ≤ (s.descriptor pag).pagina - 1 ∧
        (s.descriptor pag).pagina - 1 < c.paginas.length := ⟨by omega, by omega⟩
    unfold quitarPagina
    rw [hlegible, ok_bind, hcarpincho, ok_bind, hindice, ok_bind, if_pos hdentro]
    dsimp only
    cases hq : (c.paginas.eraseIdx ((s.descriptor pag).pagina - 1).toNat)[
        ((s.descriptor pag).pagina - 1).toNat]? with
    | none => exact ⟨_, rfl⟩
    | some q =>
      have hlegible' := (@paginasLegibles_una (s.setCarpincho pid fun d =>
        { d with paginas := c.paginas.eraseIdx ((s.descriptor pag).pagina - 1).toNat }) q ()).2
        (hreemplazo q hq)
      dsimp only
      rw [hlegible', ok_bind]
      exact ⟨_, rfl⟩

theorem contables_bajadas {cfg : Config} {resto : List Alloc} {hi : ℕ}
    (htes : bloques.Tiles 0 (alloc :: resto) hi) (hhi : hi ≤ 2 ^ 32)
    (hdatos : ∀ a ∈ alloc :: resto, 1 ≤ a.tamanioData)
    (hcontable : (alloc :: resto).all (Alloc.contable cfg) = true)
    (hprimera : primeraLibre cfg (alloc :: resto) = true) :
    (resto.map (Alloc.bajar (alloc.tamanioData + 9))).all (Alloc.contable cfg) = true := by
  obtain ⟨hfiltro, -, -⟩ := primeraLibre_sola htes hdatos hcontable hprimera
  rw [List.filter_cons, tocaCero_primera htes, if_pos rfl, List.cons.injEq] at hfiltro
  have hdato := hdatos alloc List.mem_cons_self
  rw [List.all_eq_true]
  intro b hb
  obtain ⟨a, ha, rfl⟩ := List.mem_map.1 hb
  have hlejos : a.tocaCero cfg = false := by
    have hno := List.filter_eq_nil_iff.1 hfiltro.2 a ha
    simpa using hno
  have hstop : bloques.stop a < 2 ^ 31 := by
    have hacontable := List.all_eq_true.1 hcontable a (List.mem_cons_of_mem _ ha)
    rw [Alloc.contable, hlejos, Bool.false_or] at hacontable
    exact of_decide_eq_true hacontable
  have hbaja := bajar_direccion htes hdato hhi ha
  have hstart : bloques.start a = a.direccion := rfl
  have hfin : bloques.stop a = bloques.start a + bloques.size a := rfl
  have hfin' : bloques.stop (a.bajar (alloc.tamanioData + 9)) =
      (a.bajar (alloc.tamanioData + 9)).direccion + bloques.size a := rfl
  rw [Alloc.contable, Bool.or_eq_true]
  refine Or.inr (decide_eq_true ?_)
  omega

theorem compactar_nada (hc : getCarpincho pid s = some c)
    (htes : Teselado E.config c.paginas.length c.allocs) (hunido : Unido c.allocs)
    (hcontable : c.allocs.all (Alloc.contable E.config) = true)
    (hprimera : primeraLibre E.config c.allocs = false) (hpaginas : c.paginas ≠ []) :
    compactar E pid s = .ok (false, s) := by
  obtain ⟨pag, pags, hlista⟩ := List.exists_cons_of_ne_nil hpaginas
  rw [compactar_eq hc htes hunido hlista, if_pos hcontable, hprimera]
  rfl

theorem compactarMientras_compactado {fuel : ℕ} {d : Carpincho} (hd : getCarpincho pid s = some d)
    (htes : Teselado E.config d.paginas.length d.allocs) (hunido : Unido d.allocs)
    (hcontable : d.allocs.all (Alloc.contable E.config) = true)
    (hprimera : primeraLibre E.config d.allocs = false) :
    (∃ s', compactarMientras E pid (fuel + 1) s = .ok s') ↔ d.paginas ≠ [] := by
  constructor
  · rintro ⟨s', hs⟩ hvacia
    obtain ⟨r, hr, -⟩ := bind_eq_ok.1 hs
    obtain ⟨pag, pags, hlista⟩ := compactar_no_vacia hd hr
    rw [hvacia] at hlista
    cases hlista
  · intro hpaginas
    rw [compactarMientras, compactar_nada hd htes hunido hcontable hprimera hpaginas, ok_bind]
    exact ⟨s, rfl⟩

theorem compactarMientras_iff (hc : getCarpincho pid s = some c)
    (htes : Teselado E.config c.paginas.length c.allocs) (hunido : Unido c.allocs)
    (hpaginas : c.paginas ≠ []) (fuel : ℕ) :
    (∃ s', compactarMientras E pid (fuel + 2) s = .ok s') ↔
      CompactacionDefinida E.config s.descriptor c.paginas c.allocs := by
  obtain ⟨pag, pags, hlista⟩ := List.exists_cons_of_ne_nil hpaginas
  have hmira := compactar_eq hc htes hunido hlista
  by_cases hcontable : c.allocs.all (Alloc.contable E.config) = true
  swap
  · constructor
    · rintro ⟨s', hs⟩
      rw [compactarMientras, hmira, if_neg hcontable] at hs
      cases hs
    · exact fun h => absurd h.contables hcontable
  rw [if_pos hcontable] at hmira
  by_cases hprimera : primeraLibre E.config c.allocs = true
  swap
  · refine ⟨fun _ => ⟨hcontable, fun h => absurd h hprimera⟩, fun _ => ⟨s, ?_⟩⟩
    rw [compactarMientras, hmira, if_neg hprimera]
    rfl
  rw [if_pos hprimera] at hmira
  cases hallocs : c.allocs with
  | nil =>
    rw [hallocs] at hprimera
    cases hprimera
  | cons primero resto =>
    rw [hallocs] at hmira hcontable hprimera htes hunido
    have hdato := htes.datos primero List.mem_cons_self
    obtain ⟨hfiltro, -, -⟩ := primeraLibre_sola htes.seguidos htes.datos hcontable hprimera
    have hstop : ∀ b ∈ primero :: resto, bloques.stop b ≤ 2 ^ 32 :=
      fun b hb => htes.stop_le_uint32 hb
    have hquitar := quitarPagina_iff (getCarpincho_setAllocs hc
      (resto.map (Alloc.bajar (primero.tamanioData + 9)))) pag
    -- After the removal the second look ends the loop, if there is a page.
    have hsegundo : ∀ s₁, primero.tamanioData + 9 < 2 ^ 31 →
        quitarPagina pid pag (setAllocs pid (resto.map (Alloc.bajar (primero.tamanioData + 9))) s) =
          .ok s₁ →
        ((∃ s', compactarMientras E pid (fuel + 1) s₁ = .ok s') ↔ 2 ≤ c.paginas.length) := by
      intro s₁ hentero hs₁
      obtain ⟨d, hd, hlength, -, hdallocs⟩ := quitarPagina_una (getCarpincho_setAllocs hc
        (resto.map (Alloc.bajar (primero.tamanioData + 9)))) hs₁
      dsimp only at hlength hdallocs
      have hbajados : compactarAllocs ((primero :: resto).filter (Alloc.tocaCero E.config))
          (primero :: resto) = .ok d.allocs := by
        rw [hfiltro, compactarAllocs_primera hdato, if_pos hentero, hdallocs]
      rw [← hlength] at htes
      obtain ⟨htes', hunido', hprimera', -⟩ :=
        htes.compactado hunido hcontable hprimera hbajados
      have hcontable' := contables_bajadas htes.seguidos (htes.direcciones) htes.datos
        hcontable hprimera
      rw [← hdallocs] at hcontable'
      rw [compactarMientras_compactado hd htes' hunido' hcontable' hprimera', ← hlength,
        ← List.length_pos_iff]
      omega
    rw [hfiltro, compactarAllocs_primera hdato] at hmira
    constructor
    · rintro ⟨s', hs⟩
      obtain ⟨⟨resultado, s₁⟩, hprimero, hs⟩ := bind_eq_ok.1 hs
      rw [hmira] at hprimero
      obtain ⟨allocs, hbajados, hprimero⟩ := bind_eq_ok.1 hprimero
      obtain ⟨s₂, hs₂, hprimero⟩ := bind_eq_ok.1 hprimero
      cases hprimero
      split at hbajados
      · next hentero =>
        cases hbajados
        refine ⟨hcontable, fun _ => ⟨(hsegundo s₁ hentero hs₂).1 ⟨s', hs⟩, ?_, ?_⟩⟩
        · intro a ha
          cases ha
          exact hentero
        · intro q hq
          rw [hlista] at hq
          cases hq
          exact hquitar.1 ⟨s₁, hs₂⟩
      · cases hbajados
    · rintro ⟨-, hquedan⟩
      obtain ⟨hdos, hentero, hquitable⟩ := hquedan hprimera
      have hentero' := hentero primero rfl
      obtain ⟨s₁, hs₁⟩ := hquitar.2 (hquitable pag (by rw [hlista]; rfl))
      obtain ⟨s', hs⟩ := (hsegundo s₁ hentero' hs₁).2 hdos
      refine ⟨s', ?_⟩
      rw [compactarMientras, hmira, if_pos hentero', ok_bind, hs₁]
      exact hs

theorem Teselado.liberarAlloc_none {cfg : Config} {paginas : ℕ} {allocs : List Alloc}
    (h : Teselado cfg paginas allocs)
    (hno : ∀ alloc ∈ allocs, alloc.isFree = false → pos ≠ alloc.direccion + 9) :
    liberarAlloc allocs pos = .ok none := by
  unfold liberarAlloc
  cases hdrop : allocs.dropWhile fun a => !decide (pos = a.inicioDato) with
  | nil => rfl
  | cons alloc siguientes =>
    have hmem : alloc ∈ allocs := by
      apply (List.dropWhile_sublist fun a => !decide (pos = a.inicioDato)).subset
      rw [hdrop]
      exact List.mem_cons_self
    have hpos : pos = alloc.inicioDato := by
      have hhead := List.head?_dropWhile_not (fun a => !decide (pos = a.inicioDato)) allocs
      rw [hdrop] at hhead
      simpa using hhead
    rw [h.inicioDato_eq hmem] at hpos
    cases hlibre : alloc.isFree with
    | false => exact absurd hpos (hno alloc hmem hlibre)
    | true => simp only [hlibre, if_true]

/-- A free comes to its end exactly when the loop of `compactar` does: an address that is not
the one of a block in use is refused, and else the length that the block takes has to be an
`int`, and a page has to remain if the first one is taken out. -/
theorem memfree_termina (hc : getCarpincho pid s = some c)
    (htes : Teselado E.config c.paginas.length c.allocs) (hunido : Unido c.allocs)
    (hcuenta : c.paginas.length < 2 ^ 31) (pos : ℕ) :
    (∃ status s', memoryMemfree E pid pos s = .ok (status, s')) ↔
      ∀ previos alloc siguientes, c.allocs = previos ++ alloc :: siguientes →
        alloc.isFree = false → pos = alloc.direccion + 9 →
        (bloqueLiberado previos alloc siguientes).tamanioData < 2 ^ 31 ∧
        ∃ s₁, persistirMetadataHeap E pid (bloqueLiberado previos alloc siguientes)
            (setAllocs pid (trasLiberar previos alloc siguientes) s) = .ok s₁ ∧
          CompactacionDefinida E.config s₁.descriptor c.paginas
            (trasLiberar previos alloc siguientes) := by
  by_cases hno : ∀ alloc ∈ c.allocs, alloc.isFree = false → pos ≠ alloc.direccion + 9
  · constructor
    · intro _ previos alloc siguientes hallocs huso hpos
      exact absurd hpos (hno alloc (by simp [hallocs]) huso)
    · intro _
      refine ⟨.direccionInvalida, s, ?_⟩
      simp only [memoryMemfree, hc, htes.liberarAlloc_none hno]
      split <;> rfl
  · push Not at hno
    obtain ⟨alloc, hmem, huso, hpos⟩ := hno
    obtain ⟨previos, siguientes, hallocs⟩ := List.append_of_mem hmem
    have hvalida := htes.direccion_valida hcuenta hmem (htes.inicio_lt_stop hmem)
    rw [← hpos] at hvalida
    have hpaginas : c.paginas ≠ [] := by
      intro hvacia
      have hcaben := htes.stop_le hmem
      have hstop := stop_bloques (htes.datos alloc hmem)
      have hdato := htes.datos alloc hmem
      rw [hvacia, List.length_nil, Nat.zero_mul] at hcaben
      omega
    rw [hallocs] at htes hunido
    have hliberar := htes.liberarAlloc_eq huso hpos
    -- The loop starts with the header written, and the fuel is two looks at least.
    have hmientras : (bloqueLiberado previos alloc siguientes).tamanioData < 2 ^ 31 → ∀ s₁,
        persistirMetadataHeap E pid (bloqueLiberado previos alloc siguientes)
          (setAllocs pid (trasLiberar previos alloc siguientes) s) = .ok s₁ →
        ((∃ s', compactarMientras E pid ((trasLiberar previos alloc siguientes).length + 1) s₁ =
            .ok s') ↔
          CompactacionDefinida E.config s₁.descriptor c.paginas
            (trasLiberar previos alloc siguientes)) := by
      intro hentero s₁ hs₁
      obtain ⟨d, hd, hdpaginas, hdallocs⟩ := getCarpincho_persistir hc hs₁
      obtain ⟨htes', hunido', -⟩ := htes.liberado hunido huso hentero
      rw [← hdpaginas] at htes' hpaginas ⊢
      rw [← hdallocs] at htes' hunido' ⊢
      cases hlength : d.allocs.length with
      | zero =>
        rw [List.length_eq_zero_iff.1 hlength] at hdallocs
        simp [trasLiberar] at hdallocs
      | succ n => exact compactarMientras_iff hd htes' hunido' hpaginas n
    constructor
    · rintro ⟨status, s', hs⟩ previos' alloc' siguientes' hallocs' huso' hpos'
      obtain ⟨rfl, rfl, rfl⟩ := htes.buscar_unico (hallocs.symm.trans hallocs') hpos hpos'
      unfold memoryMemfree at hs
      rw [hc] at hs
      dsimp only at hs
      rw [if_pos hvalida, hallocs, hliberar] at hs
      split at hs
      · next hentero =>
        rw [ok_bind] at hs
        obtain ⟨s₁, hs₁, hs⟩ := bind_eq_ok.1 hs
        obtain ⟨s₂, hs₂, -⟩ := bind_eq_ok.1 hs
        exact ⟨hentero, s₁, hs₁, (hmientras hentero s₁ hs₁).1 ⟨s₂, hs₂⟩⟩
      · cases hs
    · intro hcondicion
      obtain ⟨hentero, s₁, hs₁, hdefinida⟩ := hcondicion previos alloc siguientes hallocs huso hpos
      obtain ⟨s', hs'⟩ := (hmientras hentero s₁ hs₁).2 hdefinida
      refine ⟨.exito, s', ?_⟩
      unfold memoryMemfree
      rw [hc]
      dsimp only
      rw [if_pos hvalida, hallocs, hliberar, if_pos hentero, ok_bind]
      dsimp only
      rw [hs₁, ok_bind, hs', ok_bind]

/-- The free of the first of two blocks ends, since a page remains. -/
theorem memfree_termina_dos :
    ∃ (s : Estado) (c : Carpincho) (s₁ : Estado), getCarpincho 1 s = some c ∧
      c.allocs = [⟨0, false, 30⟩, ⟨39, false, 5⟩] ∧
      (∃ r, memoryMemfree (entornoFiel configHeap) 1 9 s = .ok r) ∧
      CompactacionDefinida configHeap s₁.descriptor c.paginas [⟨0, true, 30⟩, ⟨39, false, 5⟩] := by
  obtain ⟨s, c, hc, hpaginas, hallocs, htes, hunido, -, ⟨⟨status, s'⟩, hs⟩⟩ := heap_dos_bloques
  obtain ⟨-, s₁, -, hdefinida⟩ := (@memfree_termina (entornoFiel configHeap) s 1 c hc htes hunido
    (by rw [hpaginas]; decide) 9).1 ⟨status, s', hs⟩ [] ⟨0, false, 30⟩ [⟨39, false, 5⟩] hallocs rfl
    rfl
  exact ⟨s, c, s₁, hc, hallocs, ⟨_, hs⟩, hdefinida⟩

/-- The only block of a carpincho is freed: its page is taken out, and `compactar` comes to its
end without a value. -/
theorem memfree_sin_retorno :
    ∃ s c, getCarpincho 1 s = some c ∧ c.allocs = [⟨0, false, 5⟩] ∧
      Teselado configHeap c.paginas.length c.allocs ∧ Unido c.allocs ∧
      memoryMemfree (entornoFiel configHeap) 1 9 s = .error .sinRetorno := by
  obtain ⟨s, c, hc, -, hallocs, htes, hunido, hmemfree⟩ := heap_un_bloque
    (t := fun s => faults (memoryMemfree (entornoFiel configHeap) 1 9 s) .sinRetorno)
    (by decide +kernel)
  exact ⟨s, c, hc, hallocs, htes, hunido, eq_of_faults hmemfree⟩

end Terminacion

end Carpinchos.Memoria
