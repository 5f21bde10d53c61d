/-
  Outcomes — when a chain of steps that may fail gives a value, and when it gives
  a fault.

  A chain is often described by conditions in an order: it gives a value when all
  of them hold, and otherwise the fault of the first that does not
  (`DecidedBy`). Such descriptions compose as the chains do (`DecidedBy.bind`).
-/
namespace CarrierAuth.Outcome

variable {ε ε' α β : Type}

theorem bind_eq_ok_iff {x : Except ε α} {f : α → Except ε β} {b : β} :
    (x >>= f) = .ok b ↔ ∃ a, x = .ok a ∧ f a = .ok b := by
  cases x <;> simp [bind, Except.bind]

theorem bind_eq_error_iff {x : Except ε α} {f : α → Except ε β} {e : ε} :
    (x >>= f) = .error e ↔ x = .error e ∨ ∃ a, x = .ok a ∧ f a = .error e := by
  cases x <;> simp [bind, Except.bind]

theorem map_eq_error_iff {x : Except ε α} {f : α → β} {e : ε} :
    x.map f = .error e ↔ x = .error e := by
  cases x <;> simp [Except.map]

theorem map_eq_ok_iff {x : Except ε α} {f : α → β} {b : β} :
    x.map f = .ok b ↔ ∃ a, x = .ok a ∧ f a = b := by
  cases x <;> simp [Except.map]

theorem exists_map_eq_ok_iff {x : Except ε α} {f : α → β} :
    (∃ b, x.map f = .ok b) ↔ ∃ a, x = .ok a := by
  cases x <;> simp [Except.map]

theorem toOption_eq_some_iff {x : Except ε α} {a : α} : x.toOption = some a ↔ x = .ok a := by
  cases x <;> simp [Except.toOption]

theorem mapError_ok (f : ε → ε') (a : α) :
    (Except.ok a : Except ε α).mapError f = .ok a := rfl

theorem mapError_error (f : ε → ε') (e : ε) :
    (Except.error e : Except ε α).mapError f = .error (f e) := rfl

theorem mapError_eq_ok_iff {x : Except ε α} {f : ε → ε'} {a : α} :
    x.mapError f = .ok a ↔ x = .ok a := by
  cases x <;> simp [mapError_ok, mapError_error]

/-! ## Conditions in order -/

/-- A condition for a value, and the faults that report that it does not hold. -/
structure Condition (ε : Type) where
  holds : Prop
  fault : ε → Prop

/-- The condition with its faults reworded. -/
def Condition.reword (f : ε → ε') (c : Condition ε) : Condition ε' :=
  ⟨c.holds, fun e => ∃ e', c.fault e' ∧ e = f e'⟩

/-- Whether a fault reports the first of the conditions that does not hold. -/
def FirstUnmet : List (Condition ε) → ε → Prop
  | [], _ => False
  | c :: rest, e => (¬ c.holds ∧ c.fault e) ∨ (c.holds ∧ FirstUnmet rest e)

/-- A step gives a value when all conditions hold, and otherwise the fault of the
first that does not. -/
structure DecidedBy (conditions : List (Condition ε)) (x : Except ε α) : Prop where
  ok_iff : (∃ a, x = .ok a) ↔ ∀ c ∈ conditions, c.holds
  error_iff : ∀ e, x = .error e ↔ FirstUnmet conditions e

theorem firstUnmet_append {cs ds : List (Condition ε)} {e : ε} :
    FirstUnmet (cs ++ ds) e ↔
      FirstUnmet cs e ∨ ((∀ c ∈ cs, c.holds) ∧ FirstUnmet ds e) := by
  induction cs with
  | nil => simp [FirstUnmet]
  | cons c cs ih =>
    simp only [List.cons_append, FirstUnmet, ih, List.forall_mem_cons]
    by_cases h : c.holds
    · simp [h]
    · simp [h]

theorem firstUnmet_reword {f : ε → ε'} {cs : List (Condition ε)} {e : ε'} :
    FirstUnmet (cs.map (.reword f)) e ↔ ∃ e', FirstUnmet cs e' ∧ e = f e' := by
  induction cs with
  | nil => simp [FirstUnmet]
  | cons c cs ih =>
    simp only [List.map_cons, FirstUnmet, ih, Condition.reword]
    by_cases h : c.holds
    · simp [h]
    · simp [h]

namespace DecidedBy

theorem pure (a : α) : DecidedBy ([] : List (Condition ε)) (.ok a) :=
  ⟨by simp, by simp [FirstUnmet]⟩

/-- One condition more in front: where it does not hold, the step gives its fault. -/
theorem cons {c : Condition ε} {cs : List (Condition ε)} {x : Except ε α}
    (hmet : c.holds → DecidedBy cs x)
    (hunmet : ¬ c.holds → ∃ e, x = .error e ∧ ∀ e', c.fault e' ↔ e' = e) :
    DecidedBy (c :: cs) x := by
  by_cases h : c.holds
  · obtain ⟨hok, herror⟩ := hmet h
    refine ⟨?_, fun e => ?_⟩
    · rw [hok, List.forall_mem_cons]
      exact ⟨fun hcs => ⟨h, hcs⟩, fun hall => hall.2⟩
    · rw [herror, FirstUnmet]
      simp only [h, not_true, false_and, true_and, false_or]
  · obtain ⟨e, hx, hfault⟩ := hunmet h
    refine ⟨?_, fun e' => ?_⟩
    · rw [hx, List.forall_mem_cons]
      simp [h]
    · rw [hx, FirstUnmet]
      simp only [h, not_false_eq_true, true_and, false_and, or_false, hfault, Except.error.injEq]
      exact eq_comm

/-- The conditions of a chain are those of its steps, one step after the other. -/
theorem bind {cs ds : List (Condition ε)} {x : Except ε α} {f : α → Except ε β}
    (hx : DecidedBy cs x) (hf : ∀ a, x = .ok a → DecidedBy ds (f a)) :
    DecidedBy (cs ++ ds) (x >>= f) := by
  cases hcase : x with
  | ok a =>
    have hcs : ∀ c ∈ cs, c.holds := hx.ok_iff.mp ⟨a, hcase⟩
    have hnone : ∀ e, ¬ FirstUnmet cs e := by
      intro e hfirst
      rw [← hx.error_iff, hcase] at hfirst
      cases hfirst
    obtain ⟨hok, herror⟩ := hf a hcase
    refine ⟨?_, fun e => ?_⟩
    · rw [List.forall_mem_append]
      exact hok.trans ⟨fun hds => ⟨hcs, hds⟩, fun hall => hall.2⟩
    · rw [firstUnmet_append]
      refine (herror e).trans ⟨fun h => Or.inr ⟨hcs, h⟩, fun h => ?_⟩
      exact (h.resolve_left (hnone e)).2
  | error e =>
    have hcs : ¬ ∀ c ∈ cs, c.holds := by
      intro hall
      obtain ⟨a, ha⟩ := hx.ok_iff.mpr hall
      rw [hcase] at ha
      cases ha
    refine ⟨?_, fun e' => ?_⟩
    · rw [List.forall_mem_append]
      refine ⟨fun ⟨b, hb⟩ => ?_, fun hall => absurd hall.1 hcs⟩
      cases hb
    · rw [firstUnmet_append, ← hx.error_iff, hcase]
      show (Except.error e : Except ε β) = .error e' ↔ _
      simp only [Except.error.injEq, hcs, false_and, or_false]

theorem mapError {cs : List (Condition ε)} {x : Except ε α} (f : ε → ε')
    (hx : DecidedBy cs x) : DecidedBy (cs.map (.reword f)) (x.mapError f) := by
  refine ⟨?_, fun e => ?_⟩
  · simp only [mapError_eq_ok_iff, hx.ok_iff, List.forall_mem_map]
    rfl
  · rw [firstUnmet_reword]
    simp only [← hx.error_iff]
    cases x with
    | ok a => simp [mapError_ok]
    | error e' => simp [mapError_error, eq_comm]

end DecidedBy

end CarrierAuth.Outcome
