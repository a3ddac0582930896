import Mathlib.Tactic

/-!
# Partial computations with named faults

A computation of type `Except ε α` either returns a value or stops with a fault
that says why no value exists. `Spec` is the Hoare triple of such a computation
with one postcondition for returning and one for stopping; `Agree` compares two
computations, excusing those faults that promise nothing about the other side.
-/

namespace Carpinchos.Outcome

universe u v
variable {ε : Type u} {α β γ δ : Type v}

theorem bind_eq_ok {x : Except ε α} {f : α → Except ε β} {b : β} :
    (x >>= f) = .ok b ↔ ∃ a, x = .ok a ∧ f a = .ok b := by
  cases x <;> simp [Bind.bind, Except.bind]

theorem toOption_eq_some {x : Except ε α} {a : α} : x.toOption = some a ↔ x = .ok a := by
  cases x with
  | ok b => simp [Except.toOption]
  | error e => simp [Except.toOption]

theorem exists_of_isOk {x : Except ε α} (h : x.isOk = true) : ∃ a, x = .ok a := by
  cases x with
  | ok a => exact ⟨a, rfl⟩
  | error e => cases h

@[simp] theorem ok_bind (a : α) (f : α → Except ε β) : ((.ok a : Except ε α) >>= f) = f a := rfl

@[simp] theorem error_bind (e : ε) (f : α → Except ε β) :
    ((.error e : Except ε α) >>= f) = .error e := rfl

/-- `x` returns a value that passes a test. -/
def returns (x : Except ε α) (test : α → Bool) : Bool :=
  match x with
  | .ok a => test a
  | .error _ => false

theorem exists_of_returns {x : Except ε α} {test : α → Bool} (h : returns x test = true) :
    ∃ a, x = .ok a ∧ test a = true := by
  cases x with
  | ok a => exact ⟨a, rfl, h⟩
  | error e => cases h

def faults [DecidableEq ε] (x : Except ε α) (e : ε) : Bool :=
  match x with
  | .ok _ => false
  | .error e' => decide (e' = e)

theorem eq_of_faults [DecidableEq ε] {x : Except ε α} {e : ε} (h : faults x e = true) :
    x = .error e := by
  cases x with
  | ok a => cases h
  | error e' => rw [of_decide_eq_true h]

/-- `x` returns a value satisfying `post`, or stops with a fault satisfying `fault`. -/
def Spec (x : Except ε α) (post : α → Prop) (fault : ε → Prop) : Prop :=
  match x with
  | .ok a => post a
  | .error e => fault e

@[simp] theorem spec_ok (a : α) (post : α → Prop) (fault : ε → Prop) :
    Spec (.ok a) post fault ↔ post a := Iff.rfl

@[simp] theorem spec_error (e : ε) (post : α → Prop) (fault : ε → Prop) :
    Spec (.error e : Except ε α) post fault ↔ fault e := Iff.rfl

theorem Spec.bind {x : Except ε α} {f : α → Except ε β} {mid : α → Prop}
    {post : β → Prop} {fault : ε → Prop} (hx : Spec x mid fault)
    (hf : ∀ a, mid a → Spec (f a) post fault) : Spec (x >>= f) post fault := by
  cases x with
  | ok a => exact hf a hx
  | error e => exact hx

theorem Spec.mono {x : Except ε α} {post post' : α → Prop} {fault fault' : ε → Prop}
    (hx : Spec x post fault) (hp : ∀ a, post a → post' a) (hf : ∀ e, fault e → fault' e) :
    Spec x post' fault' := by
  cases x with
  | ok a => exact hp a hx
  | error e => exact hf e hx

theorem Spec.post_of_eq {x : Except ε α} {post : α → Prop} {fault : ε → Prop} {a : α}
    (hx : Spec x post fault) (h : x = .ok a) : post a := by
  subst h
  exact hx

/-- The postcondition may speak of the value that is returned. -/
theorem Spec.self {x : Except ε α} {post : α → Prop} {fault : ε → Prop} (h : Spec x post fault) :
    Spec x (fun a => x = .ok a ∧ post a) fault := by
  cases x with
  | ok a => exact ⟨rfl, h⟩
  | error e => exact h

theorem Spec.and {x : Except ε α} {post post' : α → Prop} {fault fault' : ε → Prop}
    (h : Spec x post fault) (h' : Spec x post' fault') :
    Spec x (fun a => post a ∧ post' a) (fun e => fault e ∧ fault' e) := by
  cases x with
  | ok a => exact ⟨h, h'⟩
  | error e => exact ⟨h, h'⟩

theorem mapError_eq_ok {ε' : Type u} {x : Except ε α} {f : ε → ε'} {a : α} :
    x.mapError f = .ok a ↔ x = .ok a := by
  cases x <;> simp [Except.mapError]

theorem Spec.mapError {ε' : Type u} {x : Except ε α} {f : ε → ε'} {post : α → Prop}
    {fault : ε → Prop} {fault' : ε' → Prop} (h : Spec x post fault)
    (hf : ∀ e, fault e → fault' (f e)) : Spec (x.mapError f) post fault' := by
  cases x with
  | ok a => exact h
  | error e => exact hf e h

/-- Partial correctness is the triple that accepts every fault. -/
theorem spec_of_ok {x : Except ε α} {post : α → Prop} (h : ∀ a, x = .ok a → post a) :
    Spec x post (fun _ => True) := by
  cases x with
  | ok a => exact h a rfl
  | error e => trivial

/-- Two computations return related values or stop with the same fault. A side
that stops with a fault excused for that side releases the other from any
obligation. -/
def Agree (x : Except ε α) (y : Except ε β) (rel : α → β → Prop)
    (excusedLeft excusedRight : ε → Prop) : Prop :=
  match x, y with
  | .ok a, .ok b => rel a b
  | .ok _, .error e' => excusedRight e'
  | .error e, .ok _ => excusedLeft e
  | .error e, .error e' => e = e' ∨ excusedLeft e ∨ excusedRight e'

variable {excused excused' : ε → Prop}

@[simp] theorem agree_ok (a : α) (b : β) (rel : α → β → Prop) :
    Agree (.ok a) (.ok b) rel excused excused' ↔ rel a b := Iff.rfl

theorem agree_error (e : ε) (rel : α → β → Prop) :
    Agree (.error e : Except ε α) (.error e : Except ε β) rel excused excused' := Or.inl rfl

theorem agree_of_left {e : ε} {y : Except ε β} {rel : α → β → Prop} (he : excused e) :
    Agree (.error e : Except ε α) y rel excused excused' := by
  cases y with
  | ok b => exact he
  | error e' => exact Or.inr (Or.inl he)

theorem agree_of_right {e : ε} {x : Except ε α} {rel : α → β → Prop} (he : excused' e) :
    Agree x (.error e : Except ε β) rel excused excused' := by
  cases x with
  | ok a => exact he
  | error e' => exact Or.inr (Or.inr he)

/-- Against a right side that returns, to agree is a triple of the left side. -/
theorem agree_right_ok {x : Except ε α} {b : β} {rel : α → β → Prop} :
    Agree x (.ok b) rel excused excused' ↔ Spec x (rel · b) excused := by
  cases x <;> rfl

theorem Agree.bind {x : Except ε α} {y : Except ε β} {f : α → Except ε γ} {g : β → Except ε δ}
    {mid : α → β → Prop} {rel : γ → δ → Prop} (hxy : Agree x y mid excused excused')
    (hfg : ∀ a b, mid a b → Agree (f a) (g b) rel excused excused') :
    Agree (x >>= f) (y >>= g) rel excused excused' := by
  cases x with
  | ok a =>
    cases y with
    | ok b => exact hfg a b hxy
    | error e => exact agree_of_right hxy
  | error e =>
    cases y with
    | ok b => exact agree_of_left hxy
    | error e' => exact hxy

theorem Agree.bind_same (x : Except ε α) {f : α → Except ε γ} {g : α → Except ε δ}
    {rel : γ → δ → Prop} (hfg : ∀ a, Agree (f a) (g a) rel excused excused') :
    Agree (x >>= f) (x >>= g) rel excused excused' := by
  cases x with
  | ok a => exact hfg a
  | error e => exact agree_error e rel

/-- A computation that only one side runs may stop that side with excused faults. -/
theorem Agree.bind_left {x : Except ε α} {y : Except ε β} {f : α → Except ε γ}
    {mid : α → Prop} {rel : γ → β → Prop} (hx : Spec x mid excused)
    (hf : ∀ a, mid a → Agree (f a) y rel excused excused') :
    Agree (x >>= f) y rel excused excused' := by
  cases x with
  | ok a => exact hf a hx
  | error e => exact agree_of_left hx

theorem Agree.mono {x : Except ε α} {y : Except ε β} {rel rel' : α → β → Prop}
    (h : Agree x y rel excused excused') (hr : ∀ a b, rel a b → rel' a b) :
    Agree x y rel' excused excused' := by
  cases x <;> cases y <;> first | exact hr _ _ h | exact h

theorem Agree.and_right {x : Except ε α} {y : Except ε β} {rel : α → β → Prop} {post : β → Prop}
    {fault : ε → Prop} (h : Agree x y rel excused excused') (hy : Spec y post fault) :
    Agree x y (fun a b => rel a b ∧ post b) excused excused' := by
  cases x with
  | ok a => cases y with
    | ok b => exact ⟨h, hy⟩
    | error e => exact h
  | error e => cases y with
    | ok b => exact h
    | error e' => exact h

theorem Agree.excuse {x : Except ε α} {y : Except ε β} {rel : α → β → Prop}
    {e₁ e₂ e₁' e₂' : ε → Prop} (h : Agree x y rel e₁ e₂) (h₁ : ∀ e, e₁ e → e₁' e)
    (h₂ : ∀ e, e₂ e → e₂' e) : Agree x y rel e₁' e₂' := by
  cases x with
  | ok a => cases y with
    | ok b => exact h
    | error e => exact h₂ e h
  | error e => cases y with
    | ok b => exact h₁ e h
    | error e' => exact h.imp id (Or.imp (h₁ e) (h₂ e'))

theorem Agree.spec {x : Except ε α} {y : Except ε β} {rel : α → β → Prop} {post : β → Prop}
    {fault : ε → Prop} (h : Agree x y rel excused excused') (hy : Spec y post fault)
    (hno : ∀ e, fault e → ¬ excused' e) :
    Spec x (fun a => ∃ b, rel a b ∧ post b) (fun e => fault e ∨ excused e) := by
  cases x with
  | ok a =>
    cases y with
    | ok b => exact ⟨b, h, hy⟩
    | error e => exact absurd h (hno e hy)
  | error e =>
    cases y with
    | ok b => exact Or.inr h
    | error e' =>
      rcases h with rfl | h | h
      · exact Or.inl hy
      · exact Or.inr h
      · exact absurd h (hno e' hy)

/-- Two computations that agree with one and the same third agree with each other. -/
theorem Agree.common {x : Except ε α} {x' : Except ε γ} {y : Except ε β} {rel : α → β → Prop}
    {rel' : γ → β → Prop} (h : Agree x y rel excused excused')
    (h' : Agree x' y rel' excused excused') (hno : ∀ e, y = .error e → ¬ excused' e) :
    Agree x x' (fun a c => ∃ b, rel a b ∧ rel' c b) excused excused := by
  cases y with
  | ok b =>
    cases x with
    | ok a => cases x' with
      | ok c => exact ⟨b, h, h'⟩
      | error e => exact h'
    | error e => exact agree_of_left h
  | error e =>
    have hno' := hno e rfl
    cases x with
    | ok a => exact absurd h hno'
    | error e₁ => cases x' with
      | ok c => exact absurd h' hno'
      | error e₂ =>
        rcases h with rfl | h | h
        · rcases h' with rfl | h' | h'
          · exact Or.inl rfl
          · exact Or.inr (Or.inr h')
          · exact absurd h' hno'
        · exact Or.inr (Or.inl h)
        · exact absurd h hno'

end Carpinchos.Outcome
