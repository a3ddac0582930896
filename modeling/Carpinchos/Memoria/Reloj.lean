import Carpinchos.Memoria.SimulacionVictima
import Carpinchos.Memoria.SwampFiel

/-!
# The choice of the M-CLOCK algorithm

The enhanced second-chance clock looks at all the pages in memory, in a circle that starts
at its hand. The module looks at the pages from the hand on and starts each of its four
passes there again, so the pages before the hand are never looked at. Both choose a page of
the lowest class among those that they look at.
-/

namespace Carpinchos.Memoria

open Estado Replacement

variable (E : Entorno)

section Definiciones

/-- The class of a page by its two bits, from 0 for a page neither used nor modified. -/
def clase (s : Estado) (p : ℕ) : ℕ :=
  rank (fun q => (s.descriptor q).bitDeUso) (fun q => (s.descriptor q).bitDeModificacion) p

/-- The pages in the order of their frames, in which the clock goes over them. -/
def porMarco (paginas : List ℕ) (s : Estado) : List ℕ :=
  ordenarPor E (fun p => (s.descriptor p).marco) paginas

def manecillaDe (paginas : List ℕ) (s : Estado) : Option ℕ :=
  (porMarco E paginas s).head?.bind fun page => lastPointerPosition E page s

/-- The passes of the enhanced second-chance algorithm. -/
def pasadasSegundaOportunidad : List (Bool × Bool) :=
  [(false, false), (true, true), (false, false), (true, true)]

/-- The page that the scan of all the pages in a circle from the hand on selects. -/
def victimaCircular (last : ℕ) (paginas : List ℕ) (s : Estado) : Option ℕ :=
  (search (fun q => (s.descriptor q).bitDeModificacion) ((porMarco E paginas s).rotate last) last
    pasadasSegundaOportunidad fun q => (s.descriptor q).bitDeUso).1.map Prod.fst

/-- A victim that the enhanced second-chance algorithm would choose. -/
structure SegundaOportunidad (last : ℕ) (paginas : List ℕ) (s : Estado) (v : ℕ) : Prop where
  circular : victimaCircular E last paginas s = some v
  limpia : (∃ p ∈ paginas, clase s p = 0) → clase s v = 0

end Definiciones

section Eleccion

variable {E} {s : Estado} {paginas : List ℕ} {last v : ℕ}

theorem porMarco_perm : (porMarco E paginas s).Perm paginas := E.listSort_perm _ _

/-- The algorithm returns what its passes over the pages from the hand on find. -/
theorem getProximaASwampearByMClock_iff (hlast : manecillaDe E paginas s = some last) :
    (∃ s', getProximaASwampearByMClock E paginas s = .ok (v, s')) ↔
      (search (fun q => (s.descriptor q).bitDeModificacion) ((porMarco E paginas s).drop last) last
        cuatroPasadas fun q => (s.descriptor q).bitDeUso).1.map Prod.fst = some v := by
  have hpasadas := pasadas_eq ((porMarco E paginas s).drop last) last cuatroPasadas s
    fun q => (s.descriptor q).bitDeUso
  rw [ponerUso_propio] at hpasadas
  unfold manecillaDe at hlast
  unfold getProximaASwampearByMClock
  unfold porMarco at hlast hpasadas ⊢
  cases hord : ordenarPor E (fun p => (s.descriptor p).marco) paginas with
  | nil => simp [hord] at hlast
  | cons page resto =>
    rw [hord] at hlast hpasadas
    have hpointer : lastPointerPosition E page s = some last := hlast
    simp only [hpointer]
    rw [hpasadas]
    rcases (search (fun q => (s.descriptor q).bitDeModificacion) ((page :: resto).drop last) last
      cuatroPasadas fun q => (s.descriptor q).bitDeUso).1 with _ | ⟨w, j⟩
    · simp
    · simp [eq_comm]

/-- The choice of the circular scan is of the lowest class. -/
theorem clase_victimaCircular (hnodup : paginas.Nodup)
    (hv : victimaCircular E last paginas s = some v) {p : ℕ} (hp : p ∈ paginas) :
    clase s v ≤ clase s p := by
  have hperm : ((porMarco E paginas s).rotate last).Perm paginas :=
    ((porMarco E paginas s).rotate_perm last).trans porMarco_perm
  obtain ⟨m, hm, hmin⟩ := paginas.toFinset.exists_min_image (clase s) ⟨p, by simpa using hp⟩
  simp only [List.mem_toFinset] at hm hmin
  unfold victimaCircular pasadasSegundaOportunidad at hv
  rw [search_eq_find (hperm.nodup_iff.2 hnodup) (hperm.mem_iff.2 hm)
    fun q hq => hmin q (hperm.mem_iff.1 hq)] at hv
  have hclase : clase s v = clase s m := by simpa [clase] using List.find?_some hv
  exact hclase ▸ hmin p hp

end Eleccion

/-- The algorithm chooses as the enhanced second-chance algorithm just when no page before
the hand is of a lower class than all the pages from the hand on. -/
theorem mClock_segunda_oportunidad_iff (s : Estado) (paginas : List ℕ) (last : ℕ)
    (hnodup : paginas.Nodup) (hlast : manecillaDe E paginas s = some last)
    (hlt : last < paginas.length) :
    (∃ v s', getProximaASwampearByMClock E paginas s = .ok (v, s') ∧
        SegundaOportunidad E last paginas s v) ↔
      ∀ p ∈ (porMarco E paginas s).take last, ∃ q ∈ (porMarco E paginas s).drop last,
        clase s q ≤ clase s p := by
  have hperm : (porMarco E paginas s).Perm paginas := porMarco_perm
  have hdrop : (porMarco E paginas s).drop last ≠ [] := by
    intro h
    have hlen := congrArg List.length h
    rw [List.length_drop, hperm.length_eq, List.length_nil] at hlen
    omega
  have happend : ((porMarco E paginas s).drop last ++ (porMarco E paginas s).take last).Nodup :=
    (List.perm_append_comm.trans
      ((List.take_append_drop last (porMarco E paginas s)).symm ▸ hperm)).nodup_iff.2 hnodup
  have hrotate : (porMarco E paginas s).rotate last =
      (porMarco E paginas s).drop last ++ (porMarco E paginas s).take last := by
    apply List.rotate_eq_drop_append_take
    rw [hperm.length_eq]
    exact hlt.le
  unfold clase
  rw [← search_append_iff last last false true happend hdrop, ← hrotate]
  constructor
  · rintro ⟨v, s', hv, hsegunda⟩
    exact ((getProximaASwampearByMClock_iff hlast).1 ⟨s', hv⟩).trans hsegunda.circular.symm
  · intro heq
    have hsome : (search (fun q => (s.descriptor q).bitDeModificacion)
        ((porMarco E paginas s).drop last) last cuatroPasadas
        fun q => (s.descriptor q).bitDeUso).1.isSome := search_isSome hdrop rfl
    obtain ⟨⟨v, j⟩, hv⟩ := Option.isSome_iff_exists.1 hsome
    have hvictima : (search (fun q => (s.descriptor q).bitDeModificacion)
        ((porMarco E paginas s).drop last) last cuatroPasadas
        fun q => (s.descriptor q).bitDeUso).1.map Prod.fst = some v := by rw [hv, Option.map_some]
    have hcircular : victimaCircular E last paginas s = some v := heq.symm.trans hvictima
    obtain ⟨s', hs'⟩ := (getProximaASwampearByMClock_iff hlast).2 hvictima
    refine ⟨v, s', hs', hcircular, ?_⟩
    rintro ⟨p, hp, hlimpia⟩
    have := clase_victimaCircular hnodup hcircular hp
    omega

section Ejemplos

def dosEnMarcos (usadas modificadas : ℕ → Bool) (puntero : ℕ) : Estado :=
  { inicializarMemoria (configChica .mClock .fifo) fun p =>
      { marco := p, carpinchoPid := 1, pagina := p + 1, bitPresencia := true,
        bitDeUso := usadas p, bitDeModificacion := modificadas p, timestamp := 0,
        liberada := false } with
    marcosList := [⟨0, false, 1, 1⟩, ⟨1, false, 2, 1⟩]
    carpinchosList := [⟨1, 0, 0, 0, [0, 1], []⟩]
    proximoPtr := 2
    algoritmStackPointer := puntero }

theorem mClock_segunda_oportunidad_dos :
    ∃ v s', getProximaASwampearByMClock (entornoFiel (configChica .mClock .fifo)) [0, 1]
        (dosEnMarcos (fun _ => true) (fun _ => false) 1) = .ok (v, s') ∧
      SegundaOportunidad (entornoFiel (configChica .mClock .fifo)) 1 [0, 1]
        (dosEnMarcos (fun _ => true) (fun _ => false) 1) v :=
  (mClock_segunda_oportunidad_iff (entornoFiel (configChica .mClock .fifo))
    (dosEnMarcos (fun _ => true) (fun _ => false) 1) [0, 1] 1 (by decide) (by decide +kernel)
    (by decide)).2 (by decide +kernel)

/-- With the hand on a used page, the clean and unused page before it is passed over. -/
theorem mClock_antes_del_puntero :
    ¬ ∀ (E : Entorno) (s : Estado) (paginas : List ℕ) (last : ℕ), paginas.Nodup →
      manecillaDe E paginas s = some last → last < paginas.length →
        ∃ v s', getProximaASwampearByMClock E paginas s = .ok (v, s') ∧
          SegundaOportunidad E last paginas s v := by
  intro h
  obtain ⟨v, s', hv, hsegunda⟩ := h (entornoFiel (configChica .mClock .fifo))
    (dosEnMarcos (fun p => decide (p = 1)) (fun _ => false) 1) [0, 1] 1 (by decide)
    (by decide +kernel) (by decide)
  have hcode : (getProximaASwampearByMClock (entornoFiel (configChica .mClock .fifo)) [0, 1]
      (dosEnMarcos (fun p => decide (p = 1)) (fun _ => false) 1)).toOption.map Prod.fst =
        some 1 := by
    decide +kernel
  rw [hv] at hcode
  obtain rfl : v = 1 := Option.some.inj hcode
  have hclase : clase (dosEnMarcos (fun p => decide (p = 1)) (fun _ => false) 1) 1 = 0 :=
    hsegunda.limpia (by decide +kernel)
  exact absurd hclase (by decide)

end Ejemplos

end Carpinchos.Memoria
