import Carpinchos.Library.Outcome

/-!
# Runs of a partial step function

A machine is a step function from an input and a state to an output and a next
state, or a fault. The rules below lift what one step preserves to what a whole
run preserves: an invariant, the refinement of an abstract total machine, and the
agreement of two machines on one sequence of inputs.
-/

namespace Carpinchos.Runs

open Outcome

universe u v
variable {ε : Type u} {ι σ τ ο : Type v}

/-- Run a sequence of inputs, collecting the outputs in order. -/
def run (step : ι → σ → Except ε (ο × σ)) : List ι → σ → Except ε (List ο × σ)
  | [], s => .ok ([], s)
  | i :: is, s => do
    let r ← step i s
    let rs ← run step is r.2
    .ok (r.1 :: rs.1, rs.2)

variable {step : ι → σ → Except ε (ο × σ)} {fault : ε → Prop}

theorem run_append (is js : List ι) (s : σ) :
    run step (is ++ js) s = (do
      let r ← run step is s
      let r' ← run step js r.2
      .ok (r.1 ++ r'.1, r'.2)) := by
  induction is generalizing s with
  | nil =>
    simp only [List.nil_append, run, ok_bind]
    cases run step js s <;> rfl
  | cons i is ih =>
    simp only [List.cons_append, run, ih]
    cases step i s with
    | error e => rfl
    | ok r =>
      simp only [ok_bind]
      cases run step is r.2 with
      | error e => rfl
      | ok rs =>
        simp only [ok_bind]
        cases run step js rs.2 <;> rfl

theorem run_congr {step' : ι → σ → Except ε (ο × σ)} {is : List ι}
    (h : ∀ i ∈ is, ∀ s, step i s = step' i s) (s : σ) : run step is s = run step' is s := by
  induction is generalizing s with
  | nil => rfl
  | cons i is ih =>
    rw [run, run, h i List.mem_cons_self s]
    refine congrArg _ (funext fun r => ?_)
    rw [ih fun j hj => h j (List.mem_cons_of_mem _ hj)]

/-- A property that every admissible step keeps holds at the end of every run. -/
theorem run_invariant {inv : σ → Prop} {admissible : ι → Prop}
    (hstep : ∀ i s, admissible i → inv s → Spec (step i s) (fun r => inv r.2) fault) :
    ∀ is s, (∀ i ∈ is, admissible i) → inv s → Spec (run step is s) (fun r => inv r.2) fault := by
  intro is
  induction is with
  | nil => intro s _ hs; exact hs
  | cons i is ih =>
    intro s hadm hs
    refine (hstep i s (hadm i (by simp)) hs).bind fun r hr => ?_
    refine (ih r.2 (fun j hj => hadm j (by simp [hj])) hr).bind fun rs hrs => ?_
    exact hrs

/-- The outputs are, one by one, those that an abstract machine allows. -/
def Allowed (next : ι → τ → τ) (allows : ι → τ → ο → Prop) : List ι → τ → List ο → Prop
  | [], _, [] => True
  | i :: is, t, o :: os => allows i t o ∧ Allowed next allows is (next i t) os
  | _, _, _ => False

/-- A step-by-step refinement makes every run give outputs that the abstract machine
allows, and end in a state related to the abstract one. -/
theorem run_refines {next : ι → τ → τ} {allows : ι → τ → ο → Prop} {sim : σ → τ → Prop}
    {admissible : ι → Prop}
    (hstep : ∀ i s t, admissible i → sim s t →
      Spec (step i s) (fun r => allows i t r.1 ∧ sim r.2 (next i t)) fault) :
    ∀ is s t, (∀ i ∈ is, admissible i) → sim s t →
      Spec (run step is s)
        (fun r => Allowed next allows is t r.1 ∧ sim r.2 (is.foldl (fun t i => next i t) t))
        fault := by
  intro is
  induction is with
  | nil => intro s t _ hs; exact ⟨trivial, hs⟩
  | cons i is ih =>
    intro s t hadm hs
    refine (hstep i s t (hadm i (by simp)) hs).bind fun r hr => ?_
    refine (ih r.2 _ (fun j hj => hadm j (by simp [hj])) hr.2).bind fun rs hrs => ?_
    exact ⟨⟨hr.1, hrs.1⟩, hrs.2⟩

theorem run_agreement {step' : ι → τ → Except ε (ο × τ)} {rel : σ → τ → Prop}
    {admissible : ι → Prop} {excused excused' : ε → Prop}
    (hstep : ∀ i s t, admissible i → rel s t →
      Agree (step i s) (step' i t) (fun r r' => r.1 = r'.1 ∧ rel r.2 r'.2) excused excused') :
    ∀ is s t, (∀ i ∈ is, admissible i) → rel s t →
      Agree (run step is s) (run step' is t)
        (fun r r' => r.1 = r'.1 ∧ rel r.2 r'.2) excused excused' := by
  intro is
  induction is with
  | nil => intro s t _ hs; exact ⟨rfl, hs⟩
  | cons i is ih =>
    intro s t hadm hs
    refine (hstep i s t (hadm i (by simp)) hs).bind fun r r' hr => ?_
    refine (ih r.2 r'.2 (fun j hj => hadm j (by simp [hj])) hr.2).bind fun rs rs' hrs => ?_
    exact ⟨by simp [hr.1, hrs.1], hrs.2⟩

/-- `Reaches step guard s is s'`: the inputs `is` lead from `s` to `s'`, and every
step meets `guard` in the state it starts from. -/
inductive Reaches (step : ι → σ → Except ε (ο × σ)) (guard : σ → ι → Prop) :
    σ → List ι → σ → Prop
  | nil (s : σ) : Reaches step guard s [] s
  | cons {s : σ} {i : ι} {o : ο} {s' : σ} {is : List ι} {s'' : σ} (hg : guard s i)
      (hs : step i s = .ok (o, s')) (hr : Reaches step guard s' is s'') :
      Reaches step guard s (i :: is) s''

/-- A property kept by every guarded step holds wherever a guarded run arrives. -/
theorem Reaches.invariant {guard : σ → ι → Prop} {inv : σ → Prop}
    (hstep : ∀ s i o s', inv s → guard s i → step i s = .ok (o, s') → inv s')
    {s s' : σ} {is : List ι} (h : Reaches step guard s is s') (hs : inv s) : inv s' := by
  induction h with
  | nil s => exact hs
  | cons hg hstep' _ ih => exact ih (hstep _ _ _ _ hs hg hstep')

theorem Reaches.and_mem {guard : σ → ι → Prop} {admissible : ι → Prop} {s s' : σ} {is : List ι}
    (h : Reaches step guard s is s') (hadm : ∀ i ∈ is, admissible i) :
    Reaches step (fun s i => admissible i ∧ guard s i) s is s' := by
  induction h with
  | nil s => exact .nil s
  | cons hg hs _ ih =>
    exact .cons ⟨hadm _ List.mem_cons_self, hg⟩ hs
      (ih fun i hi => hadm i (List.mem_cons_of_mem _ hi))

/-- Run a sequence of inputs as long as an executable guard holds. -/
def guardedRun (step : ι → σ → Except ε (ο × σ)) (guard : σ → ι → Bool) : List ι → σ → Option σ
  | [], s => some s
  | i :: is, s =>
    if guard s i then
      match step i s with
      | .ok r => guardedRun step guard is r.2
      | .error _ => none
    else none

theorem reaches_of_guardedRun {guard : σ → ι → Bool} {is : List ι} {s s' : σ}
    (h : guardedRun step guard is s = some s') :
    Reaches step (fun s i => guard s i = true) s is s' := by
  induction is generalizing s with
  | nil =>
    obtain rfl : s = s' := Option.some.inj h
    exact .nil s
  | cons i is ih =>
    rw [guardedRun] at h
    split at h
    · next hg =>
      split at h
      · next r hr => exact .cons hg hr (ih h)
      · cases h
    · cases h

theorem Reaches.mono {guard guard' : σ → ι → Prop} (hg : ∀ s i, guard s i → guard' s i)
    {s s' : σ} {is : List ι} (h : Reaches step guard s is s') :
    Reaches step guard' s is s' := by
  induction h with
  | nil s => exact .nil s
  | cons h hs _ ih => exact .cons (hg _ _ h) hs ih

theorem reaches_of_run {is : List ι} {s : σ} {r : List ο × σ} (h : run step is s = .ok r) :
    Reaches step (fun _ _ => True) s is r.2 := by
  induction is generalizing s r with
  | nil =>
    cases h
    exact .nil s
  | cons i is ih =>
    obtain ⟨⟨o, s'⟩, hs, h⟩ := bind_eq_ok.1 h
    obtain ⟨rs, hrs, h⟩ := bind_eq_ok.1 h
    cases h
    exact .cons trivial hs (ih (r := rs) hrs)

/-- What the steps of a run contribute to a history, in order. -/
def history {β : Type v} (step : ι → σ → Except ε (ο × σ)) (event : σ → ι → σ → List β) :
    List ι → σ → List β
  | [], _ => []
  | i :: is, s =>
    match step i s with
    | .ok r => event s i r.2 ++ history step event is r.2
    | .error _ => []

theorem history_eq_nil {β : Type v} {event : σ → ι → σ → List β} {is : List ι}
    (h : ∀ i ∈ is, ∀ s s', event s i s' = []) (s : σ) : history step event is s = [] := by
  induction is generalizing s with
  | nil => rfl
  | cons i is ih =>
    rw [history]
    split
    · next r hr =>
      rw [h i List.mem_cons_self, ih fun j hj => h j (List.mem_cons_of_mem i hj)]
      rfl
    · rfl

theorem Reaches.history_invariant {β : Type v} {event : σ → ι → σ → List β}
    {guard : σ → ι → Prop} {inv : List β → σ → Prop}
    (hstep : ∀ hs s i o s', inv hs s → guard s i → step i s = .ok (o, s') →
      inv (hs ++ event s i s') s')
    {s s' : σ} {is : List ι} (h : Reaches step guard s is s') {hs : List β} (hinv : inv hs s) :
    inv (hs ++ history step event is s) s' := by
  induction h generalizing hs with
  | nil s =>
    rw [history, List.append_nil]
    exact hinv
  | cons hg hs' _ ih =>
    rw [history, hs', ← List.append_assoc]
    exact ih (hstep _ _ _ _ _ hinv hg hs')

/-- What is in a channel of the state and what comes in afterwards is, in order, what has gone
out and what is in it at the end. -/
theorem Reaches.flow {β : Type v} {guard : σ → ι → Prop} {inv : σ → Prop}
    {entering leaving : σ → ι → σ → List β} (held : σ → List β)
    (hinv : ∀ s i o s', inv s → guard s i → step i s = .ok (o, s') → inv s')
    (hstep : ∀ s i o s', inv s → guard s i → step i s = .ok (o, s') →
      held s ++ entering s i s' = leaving s i s' ++ held s')
    {s s' : σ} {is : List ι} (h : Reaches step guard s is s') (hs : inv s) :
    held s ++ history step entering is s = history step leaving is s ++ held s' := by
  induction h with
  | nil s => rw [history, history, List.append_nil, List.nil_append]
  | cons hg hs' _ ih =>
    rw [history, history, hs']
    dsimp only
    rw [← List.append_assoc, hstep _ _ _ _ hs hg hs', List.append_assoc,
      ih (hinv _ _ _ _ hs hg hs'), List.append_assoc]

/-- The machine that also keeps the list of all its outputs. -/
def recorded (step : ι → σ → Except ε (List ο × σ)) (i : ι) (s : σ × List ο) :
    Except ε (List ο × (σ × List ο)) := do
  let r ← step i s.1
  .ok (r.1, (r.2, s.2 ++ r.1))

theorem recorded_eq_ok {step : ι → σ → Except ε (List ο × σ)} {i : ι} {s s' : σ × List ο}
    {o : List ο} :
    recorded step i s = .ok (o, s') ↔ step i s.1 = .ok (o, s'.1) ∧ s'.2 = s.2 ++ o := by
  constructor
  · intro h
    obtain ⟨⟨o', t⟩, ht, h⟩ := bind_eq_ok.1 h
    cases h
    exact ⟨ht, rfl⟩
  · rintro ⟨h, h'⟩
    refine bind_eq_ok.2 ⟨_, h, ?_⟩
    rw [← h']

end Carpinchos.Runs
