import Carpinchos.Memoria.Fallas
import Carpinchos.Memoria.Residente

/-!
# A range of addresses written and read through its pages

`memory_memwrite` and `memory_memread` cut their range into one piece for each page. The piece
of the value for a page starts where the piece before it would end if it began at 0, so from
the third page on the pieces are taken from, or put at, the place of the second one.
-/

namespace Carpinchos.Memoria

open Outcome Bytes Estado Runs

section Trozos

variable {cfg : Config} {pos size i : ℕ}

/-- How much of a range lies in its first page. -/
def primerTrozo (P pos size : ℕ) : ℕ := min (P - pos % P) size

theorem div_mod_de_la_pagina {P : ℕ} (hP : 0 < P) (h : i < P - pos % P) :
    (pos + i) / P = pos / P ∧ (pos + i) % P = pos % P + i := by
  have hsum : pos + i = P * (pos / P) + (pos % P + i) := by
    have := Nat.div_add_mod pos P
    omega
  have hlt : pos % P + i < P := by omega
  rw [hsum, Nat.mul_add_div hP, Nat.mul_add_mod, Nat.div_eq_of_lt hlt, Nat.mod_eq_of_lt hlt]
  exact ⟨by simp, rfl⟩

theorem div_tras_la_pagina {P : ℕ} (hP : 0 < P) (h : P - pos % P ≤ i) :
    pos / P < (pos + i) / P := by
  rw [Nat.lt_iff_add_one_le, Nat.le_div_iff_mul_le hP, Nat.add_mul, Nat.one_mul]
  have hmod := Nat.mod_lt pos hP
  have hdiv := Nat.div_add_mod' pos P
  omega

/-- The accesses to a range, noted after others. -/
def anotarRango (P pos size : ℕ) (notadas : List PaginaAccion) : List PaginaAccion :=
  (List.range size).foldl (fun acciones i => anotar ((pos + i) / P) ((pos + i) % P) acciones)
    notadas

theorem acciones_eq (hle : pos + size ≤ 2 ^ 32) :
    acciones cfg pos size = anotarRango cfg.tamanioPagina pos size [] := by
  unfold acciones anotarRango
  rw [show (do let a ← List.range size; pure (a : ℤ)) = (List.range size).map Nat.cast from
    List.flatMap_pure_eq_map _ _, List.foldl_map]
  apply List.foldl_ext
  intro notadas i hi
  have hi' : i < size := List.mem_range.1 hi
  rw [← Nat.cast_add, aUint32_natCast (by omega)]

theorem anotarRango_succ (P pos n : ℕ) (notadas : List PaginaAccion) :
    anotarRango P pos (n + 1) notadas =
      anotar ((pos + n) / P) ((pos + n) % P) (anotarRango P pos n notadas) := by
  simp [anotarRango, List.range_succ]

theorem anotarRango_add (P pos m n : ℕ) (notadas : List PaginaAccion) :
    anotarRango P pos (m + n) notadas =
      anotarRango P (pos + m) n (anotarRango P pos m notadas) := by
  simp only [anotarRango, List.range_add, List.foldl_append, List.foldl_map, Nat.add_assoc]

theorem anotarRango_pagina {P n : ℕ} (hP : 0 < P) (hn : n + 1 ≤ P - pos % P) :
    anotarRango P pos (n + 1) [] = [⟨pos / P, List.range' (pos % P) (n + 1)⟩] := by
  induction n with
  | zero => simp [anotarRango, anotar]
  | succ n ih =>
    have hlt : n + 1 < P - pos % P := by omega
    obtain ⟨hdiv, hmod⟩ := div_mod_de_la_pagina hP hlt
    rw [anotarRango_succ, ih (by omega), hdiv, hmod, anotar, if_pos rfl,
      List.range'_concat (n := n + 1), Nat.one_mul]

theorem anotarRango_ajena {P n : ℕ} {accion : PaginaAccion} {notadas : List PaginaAccion}
    (h : ∀ i, i < n → accion.pagina ≠ (pos + i) / P) :
    anotarRango P pos n (accion :: notadas) = accion :: anotarRango P pos n notadas := by
  induction n with
  | zero => rfl
  | succ n ih =>
    rw [anotarRango_succ, anotarRango_succ, ih fun i hi => h i (by omega), anotar,
      if_neg (h n (by omega))]

theorem acciones_cons (hsize : 0 < size) (hle : pos + size ≤ 2 ^ 32) :
    acciones cfg pos size =
      ⟨pos / cfg.tamanioPagina, List.range' (pos % cfg.tamanioPagina)
        (primerTrozo cfg.tamanioPagina pos size)⟩ ::
      acciones cfg (pos + primerTrozo cfg.tamanioPagina pos size)
        (size - primerTrozo cfg.tamanioPagina pos size) := by
  have hP := cfg.pagina_pos
  have hmod := Nat.mod_lt pos hP
  have htrozo : primerTrozo cfg.tamanioPagina pos size ≤ size ∧
      primerTrozo cfg.tamanioPagina pos size ≤ cfg.tamanioPagina - pos % cfg.tamanioPagina ∧
      0 < primerTrozo cfg.tamanioPagina pos size := by
    unfold primerTrozo
    omega
  generalize hlen : primerTrozo cfg.tamanioPagina pos size = len at htrozo ⊢
  obtain ⟨n, rfl⟩ : ∃ n, len = n + 1 := ⟨len - 1, by omega⟩
  rw [acciones_eq hle, acciones_eq (by omega), show size = n + 1 + (size - (n + 1)) by omega,
    anotarRango_add, anotarRango_pagina hP htrozo.2.1, Nat.add_sub_cancel_left]
  apply anotarRango_ajena
  intro i hi
  dsimp only
  have hsigue : cfg.tamanioPagina - pos % cfg.tamanioPagina ≤ n + 1 + i := by
    unfold primerTrozo at hlen
    omega
  rw [Nat.add_assoc]
  exact (div_tras_la_pagina hP hsigue).ne

end Trozos

section Lugares

variable {P prev pos size i : ℕ}

/-- Where the loops take, or put, the byte of the address `pos + i`, when the piece of the
first page has its place at `prev`. -/
def lugarDesde (P prev pos i : ℕ) : ℕ :=
  if (pos + i) / P = pos / P then prev + i
  else if (pos + i) / P = pos / P + 1 then P - pos % P + (pos + i) % P
  else P + (pos + i) % P

/-- The place of the byte of the address `pos + i` in the value, or in the buffer. -/
def lugar (P pos i : ℕ) : ℕ := lugarDesde P 0 pos i

theorem lugarDesde_trozo (hP : 0 < P) (hi : i < primerTrozo P pos size) :
    lugarDesde P prev pos i = prev + i := by
  have hlt : i < P - pos % P := lt_of_lt_of_le hi (Nat.min_le_left _ _)
  rw [lugarDesde, if_pos (div_mod_de_la_pagina hP hlt).1]

theorem siguiente_pagina (hP : 0 < P) (hsize : primerTrozo P pos size < size) :
    primerTrozo P pos size = P - pos % P ∧
      pos + primerTrozo P pos size = P * (pos / P + 1) := by
  have htrozo : primerTrozo P pos size = P - pos % P := by
    unfold primerTrozo at hsize ⊢
    omega
  refine ⟨htrozo, ?_⟩
  have hmod := Nat.mod_lt pos hP
  have hdiv := Nat.div_add_mod pos P
  rw [htrozo, Nat.mul_add, Nat.mul_one]
  omega

theorem lugarDesde_resto (prev : ℕ) (hP : 0 < P) (hsize : primerTrozo P pos size < size) (j : ℕ) :
    lugarDesde P prev pos (primerTrozo P pos size + j) =
      lugarDesde P (primerTrozo P pos size) (pos + primerTrozo P pos size) j := by
  obtain ⟨htrozo, hpos⟩ := siguiente_pagina hP hsize
  have hdiv : (pos + primerTrozo P pos size) / P = pos / P + 1 := by
    rw [hpos, Nat.mul_div_cancel_left _ hP]
  have hmod : (pos + primerTrozo P pos size) % P = 0 := by rw [hpos, Nat.mul_mod_right]
  have hdivj : (pos + primerTrozo P pos size + j) / P = pos / P + 1 + j / P := by
    rw [hpos, Nat.mul_add_div hP]
  have hmodj : (pos + primerTrozo P pos size + j) % P = j % P := by rw [hpos, Nat.mul_add_mod]
  have hotra : pos / P + 1 + j / P ≠ pos / P := by
    generalize j / P = e
    omega
  unfold lugarDesde
  rw [← Nat.add_assoc, hdivj, hmodj, hdiv, hmod, if_neg hotra, Nat.sub_zero]
  by_cases hj : j < P
  · rw [Nat.div_eq_of_lt hj, Nat.mod_eq_of_lt hj, Nat.add_zero, if_pos rfl, if_pos rfl, htrozo]
  · have hj1 : j / P ≠ 0 := (Nat.div_pos (by omega) hP).ne'
    rw [if_neg (by omega), if_neg (by omega), ite_self]

theorem lugar_eq (hP : 0 < P) (h : (pos + i) / P ≤ pos / P + 1) : lugar P pos i = i := by
  unfold lugar lugarDesde
  split
  · exact Nat.zero_add i
  · next hne =>
    have hle : pos / P ≤ (pos + i) / P := Nat.div_le_div_right (Nat.le_add_right pos i)
    have heq : (pos + i) / P = pos / P + 1 := by omega
    rw [if_pos heq]
    have hi := Nat.div_add_mod (pos + i) P
    have hpos := Nat.div_add_mod pos P
    have hmod := Nat.mod_lt pos hP
    rw [heq, Nat.mul_add, Nat.mul_one] at hi
    omega

end Lugares

section Rango

variable {E : Entorno} {s s' : Estado} {pid : ℤ} {marco : ℕ → ℕ} {pos size : ℕ}

def EnRango (P pos size q : ℕ) : Prop := pos / P ≤ q ∧ q * P < pos + size

/-- The pages of a range are in memory, each in a frame of its own. -/
structure RangoResidente (E : Entorno) (s : Estado) (pid : ℤ) (marco : ℕ → ℕ) (pos size : ℕ) :
    Prop where
  tlb : TlbEstado E s
  paginas : ∃ c, getCarpincho pid s = some c ∧ c.paginas.length < 2 ^ 31 ∧
    ∀ q, EnRango E.config.tamanioPagina pos size q →
      ∃ p, c.paginas[q]? = some p ∧ Residente E s p (marco q)
  distintos : ∀ q q', EnRango E.config.tamanioPagina pos size q →
    EnRango E.config.tamanioPagina pos size q' → marco q = marco q' → q = q'
  rango : pos + size ≤ 2 ^ 32

instance (P pos size q : ℕ) : Decidable (EnRango P pos size q) :=
  inferInstanceAs (Decidable (pos / P ≤ q ∧ q * P < pos + size))

theorem EnRango.lt {P q : ℕ} (hP : 0 < P) (h : EnRango P pos size q) : q < pos + size :=
  lt_of_le_of_lt (Nat.le_mul_of_pos_right q hP) h.2

/-- `RangoResidente` with the pages of the range counted out. -/
def rangoEnMarcos (E : Entorno) (s : Estado) (pid : ℤ) (marco : ℕ → ℕ) (pos size : ℕ) : Prop :=
  TlbEstado E s ∧
  ((getCarpincho pid s).any fun c => c.paginas.length < 2 ^ 31 ∧
    ∀ q, q < pos + size → EnRango E.config.tamanioPagina pos size q →
      (c.paginas[q]?.any fun p => Residente E s p (marco q)) = true) = true ∧
  (∀ q, q < pos + size → EnRango E.config.tamanioPagina pos size q → ∀ q', q' < pos + size →
    EnRango E.config.tamanioPagina pos size q' → marco q = marco q' → q = q') ∧
  pos + size ≤ 2 ^ 32

instance (E : Entorno) (s : Estado) (pid : ℤ) (marco : ℕ → ℕ) (pos size : ℕ) :
    Decidable (rangoEnMarcos E s pid marco pos size) :=
  inferInstanceAs (Decidable (_ ∧ _ ∧ _ ∧ _))

theorem rangoResidente_of_enMarcos (h : rangoEnMarcos E s pid marco pos size) :
    RangoResidente E s pid marco pos size := by
  obtain ⟨htlb, hpaginas, hdistintos, hrango⟩ := h
  have hP := E.config.pagina_pos
  obtain ⟨c, hc, hfin⟩ := (Option.any_eq_true _ _).1 hpaginas
  obtain ⟨hlen, hresidentes⟩ := of_decide_eq_true hfin
  refine ⟨htlb, ⟨c, hc, hlen, fun q hq => ?_⟩,
    fun q q' hq hq' => hdistintos q (hq.lt hP) hq q' (hq'.lt hP) hq', hrango⟩
  obtain ⟨p, hp, hres⟩ := (Option.any_eq_true _ _).1 (hresidentes q (hq.lt hP) hq)
  exact ⟨p, hp, of_decide_eq_true hres⟩

/-- Where the byte of a logical address is in `CACHE`. -/
def direccionFisica (P : ℕ) (marco : ℕ → ℕ) (a : ℕ) : ℕ := marco (a / P) * P + a % P

theorem RangoResidente.quieta (h : RangoResidente E s pid marco pos size) (hq : Quieta E s s') :
    RangoResidente E s' pid marco pos size := by
  obtain ⟨c, hc, hlen, hpaginas⟩ := h.paginas
  obtain ⟨d, hd, hcd⟩ := hq.getCarpincho hc
  have hdc : d.sinConteos.paginas = c.sinConteos.paginas := by rw [hcd]
  change d.paginas = c.paginas at hdc
  refine ⟨hq.tlb, ⟨d, hd, by rw [hdc]; exact hlen, fun q hrango => ?_⟩, h.distintos, h.rango⟩
  obtain ⟨p, hp, hres⟩ := hpaginas q hrango
  exact ⟨p, by rw [hdc]; exact hp, hq.residente hres⟩

theorem RangoResidente.resto (h : RangoResidente E s pid marco pos size) {n : ℕ} (hn : n ≤ size) :
    RangoResidente E s pid marco (pos + n) (size - n) := by
  have hsub : ∀ q, EnRango E.config.tamanioPagina (pos + n) (size - n) q →
      EnRango E.config.tamanioPagina pos size q := by
    rintro q ⟨hdesde, hhasta⟩
    exact ⟨(Nat.div_le_div_right (Nat.le_add_right pos n)).trans hdesde, by omega⟩
  obtain ⟨c, hc, hlen, hpaginas⟩ := h.paginas
  refine ⟨h.tlb, ⟨c, hc, hlen, fun q hq => hpaginas q (hsub q hq)⟩,
    fun q q' hq hq' => h.distintos q q' (hsub q hq) (hsub q' hq'), ?_⟩
  have := h.rango
  omega

theorem enRango_de_direccion {P i : ℕ} (hi : i < size) : EnRango P pos size ((pos + i) / P) := by
  refine ⟨Nat.div_le_div_right (Nat.le_add_right pos i), ?_⟩
  have := Nat.div_mul_le_self (pos + i) P
  omega

/-- Different addresses of the range are in different places of `CACHE`. -/
theorem RangoResidente.direccionFisica_inj (h : RangoResidente E s pid marco pos size) {i j : ℕ}
    (hi : i < size) (hj : j < size)
    (heq : direccionFisica E.config.tamanioPagina marco (pos + i) =
      direccionFisica E.config.tamanioPagina marco (pos + j)) : i = j := by
  have hP := E.config.pagina_pos
  have hmarco : marco ((pos + i) / E.config.tamanioPagina) =
      marco ((pos + j) / E.config.tamanioPagina) := by
    by_contra hne
    exact block_ne hne (Nat.mod_lt _ hP) (Nat.mod_lt _ hP) heq
  have hpagina := h.distintos _ _ (enRango_de_direccion hi) (enRango_de_direccion hj) hmarco
  have hi' := Nat.div_add_mod (pos + i) E.config.tamanioPagina
  have hj' := Nat.div_add_mod (pos + j) E.config.tamanioPagina
  unfold direccionFisica at heq
  rw [hpagina] at heq hi'
  omega

theorem RangoResidente.primera (h : RangoResidente E s pid marco pos size) (hsize : 0 < size) :
    ∃ p, paginaPorIndice pid (pos / E.config.tamanioPagina) s = .ok p ∧
      Residente E s p (marco (pos / E.config.tamanioPagina)) := by
  obtain ⟨c, hc, hlen, hpaginas⟩ := h.paginas
  obtain ⟨p, hp, hres⟩ := hpaginas _ (enRango_de_direccion (i := 0) hsize)
  rw [Nat.add_zero] at hp hres
  generalize pos / E.config.tamanioPagina = q at hp hres ⊢
  have hlt : q < c.paginas.length := (List.getElem?_eq_some_iff.1 hp).1
  have hindice : aInt (q : ℤ) = q := aInt_of_range (by omega) (by omega)
  have hget : listGet c.paginas (q : ℤ) = some p := by
    rw [listGet, if_pos (Int.natCast_nonneg _), Int.toNat_natCast]
    exact hp
  refine ⟨p, ?_, hres⟩
  unfold paginaPorIndice carpinchoDe
  rw [hc]
  dsimp only
  rw [ok_bind, hindice, hget]

theorem primerTrozo_cabe (E : Entorno) (pos : ℕ) (hsize : 0 < size) :
    ∃ n, primerTrozo E.config.tamanioPagina pos size = n + 1 ∧ n + 1 ≤ size ∧
      pos % E.config.tamanioPagina + (n + 1) ≤ E.config.tamanioPagina := by
  have hmod := Nat.mod_lt pos E.config.pagina_pos
  refine ⟨primerTrozo E.config.tamanioPagina pos size - 1, ?_, ?_, ?_⟩ <;>
    · unfold primerTrozo
      omega

theorem direccionFisica_trozo {i : ℕ}
    (hi : i < primerTrozo E.config.tamanioPagina pos size) :
    direccionFisica E.config.tamanioPagina marco (pos + i) =
      marco (pos / E.config.tamanioPagina) * E.config.tamanioPagina +
        pos % E.config.tamanioPagina + i := by
  have hlt : i < E.config.tamanioPagina - pos % E.config.tamanioPagina :=
    lt_of_lt_of_le hi (Nat.min_le_left _ _)
  obtain ⟨hdiv, hmod⟩ := div_mod_de_la_pagina E.config.pagina_pos hlt
  rw [direccionFisica, hdiv, hmod, Nat.add_assoc]

structure Escrito (E : Entorno) (s s' : Estado) (marco : ℕ → ℕ) (pos size : ℕ)
    (byte : ℕ → Option UInt8) : Prop where
  quieta : Quieta E s s'
  bytes : ∀ i, i < size →
    byte i = some (s'.cache (direccionFisica E.config.tamanioPagina marco (pos + i)))
  otros : ∀ a, (∀ i, i < size → a ≠ direccionFisica E.config.tamanioPagina marco (pos + i)) →
    s'.cache a = s.cache a

theorem Escrito.cons {n prev : ℕ} {s₁ : Estado} {valor : List UInt8}
    (h : RangoResidente E s pid marco pos size)
    (htrozo : primerTrozo E.config.tamanioPagina pos size = n) (hn : n ≤ size)
    (hprev : prev + n ≤ valor.length) (hquieta : Quieta E s s₁)
    (hcache : s₁.cache = copy s.cache (marco (pos / E.config.tamanioPagina) *
      E.config.tamanioPagina + pos % E.config.tamanioPagina) ((valor.drop prev).take n))
    (hresto : Escrito E s₁ s' marco (pos + n) (size - n)
      fun i => valor[lugarDesde E.config.tamanioPagina n (pos + n) i]?) :
    Escrito E s s' marco pos size
      fun i => valor[lugarDesde E.config.tamanioPagina prev pos i]? := by
  have hP := E.config.pagina_pos
  have hlength : ((valor.drop prev).take n).length = n := by
    rw [List.length_take, List.length_drop]
    omega
  refine ⟨hquieta.trans hresto.quieta, fun i hi => ?_, fun a ha => ?_⟩
  · rcases Nat.lt_or_ge i n with hin | hin
    · have hdentro : i < primerTrozo E.config.tamanioPagina pos size := htrozo ▸ hin
      rw [lugarDesde_trozo hP hdentro, hresto.otros, hcache, direccionFisica_trozo hdentro,
        copy_inside _ _ _ (by omega), List.getElem_take, List.getElem_drop,
        List.getElem?_eq_getElem (by omega)]
      intro j hj heq
      rw [Nat.add_assoc] at heq
      have := h.direccionFisica_inj hi (by omega) heq
      omega
    · obtain ⟨j, rfl⟩ : ∃ j, i = n + j := ⟨i - n, by omega⟩
      have hj := hresto.bytes j (by omega)
      have hmas : primerTrozo E.config.tamanioPagina pos size < size := by omega
      have hlugar := lugarDesde_resto prev hP hmas j
      rw [htrozo] at hlugar
      rw [hlugar, hj, Nat.add_assoc]
  · rw [hresto.otros a fun j hj heq => ha (n + j) (by omega) (by rw [heq, Nat.add_assoc]), hcache]
    apply copy_outside
    rw [hlength]
    by_contra hdentro
    push Not at hdentro
    have hi : a - (marco (pos / E.config.tamanioPagina) * E.config.tamanioPagina +
        pos % E.config.tamanioPagina) < n := by omega
    apply ha _ (lt_of_lt_of_le hi hn)
    rw [direccionFisica_trozo (htrozo ▸ hi)]
    omega

/-- The loop of a write puts into each address the byte at its place in the value. -/
theorem escribirAcciones_rango {valor : List UInt8} {d prev : ℕ}
    (h : RangoResidente E s pid marco pos size) (hprev : prev ≤ d)
    (hvalor : d + size = valor.length) :
    Spec (escribirAcciones E (paginaPorIndice pid) valor (acciones E.config pos size) prev s)
      (fun s' => Escrito E s s' marco pos size
        fun i => valor[lugarDesde E.config.tamanioPagina prev pos i]?) EsDesbordamiento := by
  induction size using Nat.strong_induction_on generalizing pos prev d s with
  | _ size ih =>
    rcases Nat.eq_zero_or_pos size with rfl | hsize
    · exact ⟨.refl h.tlb, fun i hi => absurd hi (Nat.not_lt_zero i), fun _ _ => rfl⟩
    · obtain ⟨n, htrozo, hn, hcabe⟩ := primerTrozo_cabe E pos hsize
      obtain ⟨p, hp, hres⟩ := h.primera hsize
      have hlength : ((valor.drop prev).take (n + 1)).length = n + 1 := by
        rw [List.length_take, List.length_drop]
        omega
      rw [acciones_cons hsize h.rango, escribirAcciones, hp, ok_bind, htrozo, List.length_range',
        show (List.range' (pos % E.config.tamanioPagina) (n + 1)).headD 0 =
          pos % E.config.tamanioPagina from rfl]
      refine (escribirEnPagina_residente hres h.tlb (by rw [hlength]; exact hcabe)).bind
        fun r hr => ?_
      obtain ⟨result, s₁⟩ := r
      obtain ⟨-, hquieta, hcache⟩ := hr
      have hresto := (h.resto hn).quieta hquieta
      refine (ih (size - (n + 1)) (by omega) hresto (d := d + (n + 1)) (by omega)
        (by omega)).mono (fun s' hs' => ?_) fun _ he => he
      exact Escrito.cons h htrozo hn (by omega) hquieta hcache hs'

def byteDe (E : Entorno) (s : Estado) (marco : ℕ → ℕ) (a : ℕ) : UInt8 :=
  s.cache (direccionFisica E.config.tamanioPagina marco a)

theorem copiarEn_trozo {n prev : ℕ} {buffer : List UInt8}
    (htrozo : primerTrozo E.config.tamanioPagina pos size = n) (hcabe : prev + n ≤ buffer.length) :
    copiarEn buffer prev (slice s.cache (marco (pos / E.config.tamanioPagina) *
        E.config.tamanioPagina + pos % E.config.tamanioPagina) n) =
      scatter (lugarDesde E.config.tamanioPagina prev pos) (fun i => byteDe E s marco (pos + i)) n
        buffer := by
  have hP := E.config.pagina_pos
  rw [copiarEn, splice_eq_scatter (g := fun i => byteDe E s marco (pos + i))
    (by rw [length_slice]; exact hcabe) fun i hi => ?_, length_slice]
  · apply scatter_congr (fun i hi => ?_) fun _ _ => rfl
    exact (lugarDesde_trozo hP (htrozo ▸ hi)).symm
  · rw [length_slice, ← htrozo] at hi
    rw [getElem_slice, byteDe, direccionFisica_trozo hi]

/-- The pieces of the first page and of the rest make up the range. -/
theorem scatter_resto {n prev : ℕ} {buffer : List UInt8}
    (htrozo : primerTrozo E.config.tamanioPagina pos size = n) (hn : n ≤ size) :
    scatter (lugarDesde E.config.tamanioPagina n (pos + n))
      (fun i => byteDe E s marco (pos + n + i))
        (size - n) (scatter (lugarDesde E.config.tamanioPagina prev pos)
          (fun i => byteDe E s marco (pos + i)) n buffer) =
      scatter (lugarDesde E.config.tamanioPagina prev pos) (fun i => byteDe E s marco (pos + i))
        size buffer := by
  rw [← Nat.add_sub_cancel' hn, scatter_add, Nat.add_sub_cancel_left]
  apply scatter_congr
  · intro i hi
    have hmas : primerTrozo E.config.tamanioPagina pos size < size := by omega
    have hlugar := lugarDesde_resto prev E.config.pagina_pos hmas i
    rw [htrozo] at hlugar
    exact hlugar.symm
  · intro i _
    rw [Nat.add_assoc]

/-- The loop of a read puts the byte of each address at its place in the buffer. -/
theorem leerAcciones_rango {buffer : List UInt8} {d prev : ℕ}
    (h : RangoResidente E s pid marco pos size) (hprev : prev ≤ d)
    (hbuffer : d + size = buffer.length) :
    Spec (leerAcciones E (paginaPorIndice pid) (acciones E.config pos size) prev buffer s)
      (fun r => Quieta E s r.2 ∧ r.2.cache = s.cache ∧
        r.1 = scatter (lugarDesde E.config.tamanioPagina prev pos)
          (fun i => byteDe E s marco (pos + i)) size buffer) EsDesbordamiento := by
  induction size using Nat.strong_induction_on generalizing pos prev d s buffer with
  | _ size ih =>
    rcases Nat.eq_zero_or_pos size with rfl | hsize
    · exact ⟨.refl h.tlb, rfl, rfl⟩
    · obtain ⟨n, htrozo, hn, hcabe⟩ := primerTrozo_cabe E pos hsize
      obtain ⟨p, hp, hres⟩ := h.primera hsize
      rw [acciones_cons hsize h.rango, leerAcciones, hp, ok_bind, htrozo, List.length_range',
        show (List.range' (pos % E.config.tamanioPagina) (n + 1)).headD 0 =
          pos % E.config.tamanioPagina from rfl]
      refine (leerEnPagina_residente hres h.tlb hcabe).bind fun r hr => ?_
      obtain ⟨contenido, s₁⟩ := r
      obtain ⟨hcontenido, hquieta, hcache⟩ := hr
      dsimp only at hcontenido hquieta hcache ⊢
      rw [hcontenido]
      dsimp only
      rw [copiarEn_trozo htrozo (by omega)]
      have hresto := (h.resto hn).quieta hquieta
      refine (ih (size - (n + 1)) (by omega) hresto (d := d + (n + 1)) (by omega)
        (by rw [length_scatter]; omega)).mono (fun r hr => ?_) fun _ he => he
      obtain ⟨hquieta', hcache', hleido⟩ := hr
      refine ⟨hquieta.trans hquieta', hcache'.trans hcache, ?_⟩
      rw [hleido, ← scatter_resto htrozo hn]
      simp only [byteDe, hcache]

end Rango

section Llamadas

variable {E : Entorno} {s : Estado} {pid : ℤ} {c : Carpincho} {marco : ℕ → ℕ} {pos : ℕ}

theorem contarHasta_spec (size : ℕ) :
    Spec (contarHasta size) (fun _ => True) EsDesbordamiento := by
  unfold contarHasta
  split
  · trivial
  · rfl

theorem memoryMemwrite_rango (hc : getCarpincho pid s = some c) {valor : List UInt8}
    (hacepta : AceptaEscritura E c pos valor.length)
    (h : RangoResidente E s pid marco pos valor.length) :
    Spec (memoryMemwrite E pid pos valor s)
      (fun r => r.1 = .exito ∧ Escrito E s r.2 marco pos valor.length
        fun i => valor[lugar E.config.tamanioPagina pos i]?) EsDesbordamiento := by
  obtain ⟨hvalidada, alloc, halloc, hbytes⟩ := hacepta
  unfold memoryMemwrite
  rw [hc]
  dsimp only
  rw [if_pos hvalidada, halloc]
  dsimp only
  rw [if_neg (Nat.not_lt.2 hbytes)]
  refine (contarHasta_spec valor.length).bind fun _ _ => ?_
  refine (escribirAcciones_rango h le_rfl (Nat.zero_add _)).bind fun s' hs' => ?_
  exact ⟨rfl, hs'⟩

theorem memoryMemread_rango (hc : getCarpincho pid s = some c) {buffer : List UInt8}
    (hvalidada : validarDireccionLogicaEscrituraConSize E.config c.paginas.length c.allocs pos
      buffer.length = true) (h : RangoResidente E s pid marco pos buffer.length) :
    Spec (memoryMemread E pid pos buffer s)
      (fun r => r.1.1 = .exito ∧ r.1.2 = scatter (lugar E.config.tamanioPagina pos)
        (fun i => byteDe E s marco (pos + i)) buffer.length buffer) EsDesbordamiento := by
  unfold memoryMemread
  rw [hc]
  dsimp only
  rw [if_pos hvalidada]
  refine (contarHasta_spec buffer.length).bind fun _ _ => ?_
  refine (leerAcciones_rango h le_rfl (Nat.zero_add _)).bind fun r hr => ?_
  exact ⟨rfl, hr.2.2⟩

end Llamadas

/-- A write puts every byte of the value at its address, and a read gives every byte of the
range, just when the bytes at the places that the loops use are the ones wanted. -/
theorem acceso_rango_iff (E : Entorno) (s : Estado) (pid : ℤ) (pos : ℕ) (c : Carpincho)
    (marco : ℕ → ℕ) (hc : getCarpincho pid s = some c) :
    (∀ valor : List UInt8, AceptaEscritura E c pos valor.length →
      RangoResidente E s pid marco pos valor.length →
      Spec (memoryMemwrite E pid pos valor s)
        (fun r => r.1 = .exito ∧
          (Escrito E s r.2 marco pos valor.length (fun i => valor[i]?) ↔
            ∀ i, i < valor.length → valor[i]? = valor[lugar E.config.tamanioPagina pos i]?))
        EsDesbordamiento) ∧
    ∀ buffer : List UInt8, validarDireccionLogicaEscrituraConSize E.config c.paginas.length
        c.allocs pos buffer.length = true → RangoResidente E s pid marco pos buffer.length →
      Spec (memoryMemread E pid pos buffer s)
        (fun r => r.1.1 = .exito ∧
          ((∀ j, j < buffer.length → r.1.2[j]? = some (byteDe E s marco (pos + j))) ↔
            ∀ j, j < buffer.length →
              ((lastAt (lugar E.config.tamanioPagina pos) buffer.length j).map
                fun i => byteDe E s marco (pos + i)).or buffer[j]? =
                some (byteDe E s marco (pos + j))))
        EsDesbordamiento := by
  constructor
  · intro valor hacepta h
    refine (memoryMemwrite_rango hc hacepta h).mono (fun r hr => ⟨hr.1, ?_⟩) fun _ he => he
    constructor
    · intro hescrito i hi
      exact (hescrito.bytes i hi).trans (hr.2.bytes i hi).symm
    · intro hcoincide
      exact ⟨hr.2.quieta, fun i hi => (hcoincide i hi).trans (hr.2.bytes i hi), hr.2.otros⟩
  · intro buffer hvalidada h
    refine (memoryMemread_rango hc hvalidada h).mono (fun r hr => ⟨hr.1, ?_⟩) fun _ he => he
    rw [hr.2]
    refine forall_congr' fun j => forall_congr' fun hj => ?_
    rw [getElem?_scatter _ hj]

section Ejemplos

theorem lugar_dos_paginas {P pos size i : ℕ} (hP : 0 < P)
    (h : (pos + (size - 1)) / P ≤ pos / P + 1) (hi : i < size) : lugar P pos i = i :=
  lugar_eq hP ((Nat.div_le_div_right (by omega)).trans h)

theorem heap_bloque_residente (paginas : ℕ) (valor : List UInt8)
    (h : (guardedRun (llamar (entornoFiel configHeap)) (fun _ _ => true)
      [.memalloc 1 valor.length] estadoHeap).any (fun s => (getCarpincho 1 s).any fun c =>
        c.paginas.length = paginas ∧ c.allocs = [⟨0, false, valor.length⟩] ∧
        rangoEnMarcos (entornoFiel configHeap) s 1 id 9 valor.length ∧
        (memoryMemwrite (entornoFiel configHeap) 1 9 valor s).isOk) = true)
    (hvalidada : validarDireccionLogicaEscrituraConSize configHeap paginas
      [⟨0, false, valor.length⟩] 9 valor.length = true)
    (hbytes : ∃ alloc, obtenerAllocDeUnCarpincho [⟨0, false, valor.length⟩] 9 = some alloc ∧
      valor.length ≤ aUint32 (aUint32 (alloc.direccion + 9 + alloc.tamanioData - 1) - 9 + 1)) :
    ∃ s c, Reaches (llamar (entornoFiel configHeap)) (fun _ _ => True) estadoHeap
        [.memalloc 1 valor.length] s ∧ getCarpincho 1 s = some c ∧
      AceptaEscritura (entornoFiel configHeap) c 9 valor.length ∧
      RangoResidente (entornoFiel configHeap) s 1 id 9 valor.length ∧
      ∃ r, memoryMemwrite (entornoFiel configHeap) 1 9 valor s = .ok r := by
  obtain ⟨s, hs, hfin⟩ := (Option.any_eq_true _ _).1 h
  obtain ⟨c, hc, hfin⟩ := (Option.any_eq_true _ _).1 hfin
  obtain ⟨hpaginas, hallocs, hrango, hok⟩ := of_decide_eq_true hfin
  refine ⟨s, c, (reaches_of_guardedRun hs).mono fun _ _ _ => trivial, hc, ⟨?_, ?_⟩,
    rangoResidente_of_enMarcos hrango, exists_of_isOk hok⟩
  · rw [hpaginas, hallocs]
    exact hvalidada
  · rw [hallocs]
    exact hbytes

def valorDosPaginas : List UInt8 := (List.range 40).map Nat.toUInt8

def valorTresPaginas : List UInt8 := (List.range 80).map Nat.toUInt8

theorem acceso_rango_dos_paginas :
    ∃ s, Spec (memoryMemwrite (entornoFiel configHeap) 1 9 valorDosPaginas s)
      (fun r => r.1 = .exito ∧ Escrito (entornoFiel configHeap) s r.2 id 9 40
        fun i => valorDosPaginas[i]?) EsDesbordamiento := by
  obtain ⟨s, c, -, hc, hacepta, hrango, -⟩ := heap_bloque_residente 2 valorDosPaginas
    (by decide +kernel) (by decide +kernel)
    ⟨⟨0, false, 40⟩, by decide +kernel, by decide +kernel⟩
  refine ⟨s, ((acceso_rango_iff (entornoFiel configHeap) s 1 9 c id hc).1 valorDosPaginas hacepta
    hrango).mono (fun r hr => ⟨hr.1, hr.2.2 fun i hi => ?_⟩) fun _ he => he⟩
  rw [lugar_dos_paginas (entornoFiel configHeap).config.pagina_pos (by decide +kernel) hi]

/-- Of 80 bytes written at the address 9, the ones of the third page are taken from the second
one again: the address 64 gets the byte 32 and not the byte 55. -/
theorem acceso_rango_tercera_pagina :
    ∃ s c, Reaches (llamar (entornoFiel configHeap)) (fun _ _ => True) estadoHeap
        [.memalloc 1 80] s ∧ getCarpincho 1 s = some c ∧
      AceptaEscritura (entornoFiel configHeap) c 9 valorTresPaginas.length ∧
      RangoResidente (entornoFiel configHeap) s 1 id 9 valorTresPaginas.length ∧
      ∃ r, memoryMemwrite (entornoFiel configHeap) 1 9 valorTresPaginas s = .ok r ∧
        byteDe (entornoFiel configHeap) r.2 id 64 = 32 ∧
        ¬ Escrito (entornoFiel configHeap) s r.2 id 9 valorTresPaginas.length
          fun i => valorTresPaginas[i]? := by
  obtain ⟨s, c, hs, hc, hacepta, hrango, r, hr⟩ := heap_bloque_residente 3 valorTresPaginas
    (by decide +kernel) (by decide +kernel)
    ⟨⟨0, false, 80⟩, by decide +kernel, by decide +kernel⟩
  have hescrito := memoryMemwrite_rango hc hacepta hrango
  rw [hr] at hescrito
  have hbyte := hescrito.2.bytes 55 (by decide)
  rw [show valorTresPaginas[lugar (entornoFiel configHeap).config.tamanioPagina 9 55]? =
    some 32 by decide +kernel] at hbyte
  have h64 : byteDe (entornoFiel configHeap) r.2 id 64 = 32 := (Option.some.inj hbyte).symm
  refine ⟨s, c, hs, hc, hacepta, hrango, r, hr, h64, fun hbien => ?_⟩
  have hwant := hbien.bytes 55 (by decide)
  rw [show valorTresPaginas[55]? = some 55 by decide +kernel] at hwant
  rw [← hbyte] at hwant
  exact absurd hwant (by decide)

end Ejemplos

end Carpinchos.Memoria
