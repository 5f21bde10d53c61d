import CarrierAuth.Trace

/-
  Two runs — computations that cannot be told apart from outside.

  Two runs of a computation on two secrets are alike when they log the same events and
  either both give a value or report the same fault; the values are related by what the
  steps after them may depend on. Being alike follows the structure of a computation,
  one rule for each construct.
-/
namespace CarrierAuth

variable {ε ε' α β γ : Type}

/-- Two outcomes that are values in a relation, or one fault. -/
inductive Outcome.Alike (R : α → α → Prop) : Except ε α → Except ε α → Prop where
  | ok {a b : α} (h : R a b) : Alike R (.ok a) (.ok b)
  | error (e : ε) : Alike R (.error e) (.error e)

namespace Outcome.Alike

variable {R : α → α → Prop} {x y : Except ε α}

theorem both (h : Alike R x y) :
    (∃ a b, x = .ok a ∧ y = .ok b) ∨ ∃ e, x = .error e ∧ y = .error e := by
  cases h with
  | ok _ => exact .inl ⟨_, _, rfl, rfl⟩
  | error e => exact .inr ⟨e, rfl, rfl⟩

/-- Where the wording tells faults apart, outcomes are alike that are so in words. -/
theorem of_mapError {f : ε → ε'} (hf : ∀ e e', f e = f e' → e = e')
    (h : Alike R (x.mapError f) (y.mapError f)) : Alike R x y := by
  cases x with
  | ok a =>
    cases y with
    | ok b =>
      cases h with
      | ok hab => exact .ok hab
    | error e' => cases h
  | error e =>
    cases y with
    | ok b => cases h
    | error e' =>
      obtain ⟨_, _, hvalue, -⟩ | ⟨word, hword, hword'⟩ := h.both
      · cases hvalue
      · have hwords : f e = f e' :=
          (Except.error.inj hword).trans (Except.error.inj hword').symm
        obtain rfl := hf e e' hwords
        exact .error e

end Outcome.Alike

/-- Two computations that log the same, and whose outcomes are alike. -/
structure Traced.Alike (R : α → α → Prop) (x y : Traced (Except ε α)) : Prop where
  events_eq : x.events = y.events
  value : Outcome.Alike R x.value y.value

namespace Traced.Alike

variable {R : α → α → Prop} {S : β → β → Prop}

theorem pure {x y : Except ε α} (h : Outcome.Alike R x y) :
    Alike R (Pure.pure x : Traced _) (Pure.pure y) where
  events_eq := rfl
  value := h

theorem of_error {x : Traced (Except ε α)} {e : ε} (h : x.value = .error e) : Alike R x x where
  events_eq := rfl
  value := by
    rw [h]
    exact .error e

theorem after (first : Traced γ) {f g : γ → Traced (Except ε α)}
    (h : ∀ c, Alike R (f c) (g c)) : Alike R (first >>= f) (first >>= g) where
  events_eq := by rw [events_bind, events_bind, (h first.value).events_eq]
  value := (h first.value).value

/-- Alike first steps: what follows goes on from related values or from one fault. -/
theorem bind {x y : Traced (Except ε α)} {f g : Except ε α → Traced (Except ε' β)}
    (h : Alike R x y) (hok : ∀ a b, R a b → Alike S (f (.ok a)) (g (.ok b)))
    (herror : ∀ e, Alike S (f (.error e)) (g (.error e))) : Alike S (x >>= f) (y >>= g) := by
  have hrest : Alike S (f x.value) (g y.value) := by
    have hvalue := h.value
    generalize x.value = u, y.value = v at hvalue
    cases hvalue with
    | ok hab => exact hok _ _ hab
    | error e => exact herror e
  refine ⟨?_, hrest.value⟩
  rw [events_bind, events_bind, h.events_eq, hrest.events_eq]

end Traced.Alike

end CarrierAuth
