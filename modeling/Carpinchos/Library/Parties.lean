import Carpinchos.Library.Runs

/-!
# Machines that serve several parties

Every input of the machine comes from one party. If each step answers as a machine that knows
that party alone, then in a run each party is answered as if nobody else were there, however
the inputs of the others come in between.
-/

namespace Carpinchos.Parties

open Outcome Runs

universe u v
variable {ε ε' : Type u} {ι σ σ' τ ο κ : Type v} [DecidableEq κ] (owner : ι → κ)

section Lists

/-- The inputs of one party. -/
def inputsOf (k : κ) (is : List ι) : List ι := is.filter fun i => owner i = k

/-- The outputs of a run that go to one party. -/
def outputsTo (k : κ) : List ι → List ο → List ο
  | i :: is, o :: os => if owner i = k then o :: outputsTo k is os else outputsTo k is os
  | _, _ => []

variable {owner} {k : κ} {i : ι} {is : List ι}

theorem inputsOf_cons_self (h : owner i = k) :
    inputsOf owner k (i :: is) = i :: inputsOf owner k is := by
  simp [inputsOf, h]

theorem inputsOf_cons_other (h : owner i ≠ k) :
    inputsOf owner k (i :: is) = inputsOf owner k is := by
  simp [inputsOf, h]

theorem owner_of_inputsOf (h : i ∈ inputsOf owner k is) : owner i = k := by
  simpa using List.of_mem_filter h

end Lists

section Serving

variable {owner} {step : ι → σ → Except ε (ο × σ)} {alone : ι → τ → Except ε' (ο × τ)}
  {rel : σ → (κ → τ) → Prop} {fault : ε → Prop}

/-- Each step answers as the machine of the party does, and moves that party alone. -/
def Serves (owner : ι → κ) (step : ι → σ → Except ε (ο × σ)) (alone : ι → τ → Except ε' (ο × τ))
    (rel : σ → (κ → τ) → Prop) (fault : ε → Prop) : Prop :=
  ∀ i s f o t, rel s f → alone i (f (owner i)) = .ok (o, t) →
    Spec (step i s) (fun r => r.1 = o ∧ rel r.2 (Function.update f (owner i) t)) fault

/-- If every party alone is answered to the end, a run of all of them, in any order, gives each
one the same answers. -/
theorem Serves.spec_run (h : Serves owner step alone rel fault) (is : List ι) {s : σ} {f g : κ → τ}
    {os : κ → List ο} (hrel : rel s f)
    (halone : ∀ k, run alone (inputsOf owner k is) (f k) = .ok (os k, g k)) :
    Spec (run step is s) (fun r => (∀ k, outputsTo owner k is r.1 = os k) ∧ rel r.2 g) fault := by
  induction is generalizing s f os with
  | nil =>
    have hfin : ∀ k, [] = os k ∧ f k = g k := fun k => Prod.mk.inj (Except.ok.inj (halone k))
    refine ⟨fun k => (hfin k).1, ?_⟩
    rw [← funext fun k => (hfin k).2]
    exact hrel
  | cons i is ih =>
    have hfirst := halone (owner i)
    rw [inputsOf_cons_self rfl] at hfirst
    obtain ⟨⟨o, t⟩, hstep, hfirst⟩ := bind_eq_ok.1 hfirst
    obtain ⟨⟨rest, t'⟩, hrest, hfirst⟩ := bind_eq_ok.1 hfirst
    obtain ⟨hos, hg⟩ := Prod.mk.inj (Except.ok.inj hfirst)
    refine (h i s f o t hrel hstep).bind fun r hr => ?_
    have hothers : ∀ k, run alone (inputsOf owner k is) (Function.update f (owner i) t k) =
        .ok (Function.update os (owner i) rest k, g k) := by
      intro k
      rcases eq_or_ne k (owner i) with rfl | hk
      · rw [Function.update_self, Function.update_self, ← hg]
        exact hrest
      · rw [Function.update_of_ne hk, Function.update_of_ne hk,
          ← inputsOf_cons_other hk.symm, halone k]
    refine (ih hr.2 hothers).bind fun rs hrs => ?_
    refine ⟨fun k => ?_, hrs.2⟩
    rcases eq_or_ne k (owner i) with rfl | hk
    · rw [outputsTo, if_pos rfl, hrs.1, Function.update_self, hr.1]
      exact hos
    · rw [outputsTo, if_neg hk.symm, hrs.1, Function.update_of_ne hk]

/-- Two machines that serve a party alike answer it alike, if it asks for the same and starts
alike, whatever the rest of the two runs. -/
theorem Serves.outputs_eq {step' : ι → σ' → Except ε (ο × σ')} {alone' : ι → τ → Except ε' (ο × τ)}
    {rel' : σ' → (κ → τ) → Prop} {fault' : ε → Prop} (h : Serves owner step alone rel fault)
    (h' : Serves owner step' alone' rel' fault') {is is' : List ι} {s : σ} {s' : σ'}
    {f f' g g' : κ → τ} {os os' : κ → List ο} (hrel : rel s f) (hrel' : rel' s' f')
    (halone : ∀ k, run alone (inputsOf owner k is) (f k) = .ok (os k, g k))
    (halone' : ∀ k, run alone' (inputsOf owner k is') (f' k) = .ok (os' k, g' k)) {k : κ}
    (halike : ∀ i t, owner i = k → alone i t = alone' i t)
    (hinputs : inputsOf owner k is = inputsOf owner k is') (hstart : f k = f' k)
    {r : List ο × σ} {r' : List ο × σ'} (hr : run step is s = .ok r)
    (hr' : run step' is' s' = .ok r') :
    outputsTo owner k is r.1 = outputsTo owner k is' r'.1 := by
  have hout := ((h.spec_run is hrel halone).post_of_eq hr).1 k
  have hout' := ((h'.spec_run is' hrel' halone').post_of_eq hr').1 k
  have hsame := halone k
  rw [hinputs, hstart, run_congr fun i hi t => halike i t (owner_of_inputsOf hi),
    halone' k] at hsame
  rw [hout, hout', (Prod.mk.inj (Except.ok.inj hsame)).1]

end Serving

end Carpinchos.Parties
