import CarrierAuth.Client
import CarrierAuth.Proofs.Settings.Table
import CarrierAuth.Settings.Text

/-
  Steps of settings — carriers are set one after the other, and the last step for a
  subscription counts.

  `lastWritten` is what a sequence of steps says last of a subscription. A table is determined
  by what is found in it, so what was overwritten and the order of the steps leave no trace.

  What is proved:
    1. `find?_withCarriers` — by induction on the steps, what is found for a subscription is
       what they say last of it, or what was found before them.
    2. `mem_subscriptions_ofSteps_iff` — the subscriptions with an entry are those of the
       steps; a table has each of them once, in ascending order.
    3. `ofSteps_eq_iff` — steps from the standard settings lead to the same settings exactly
       where they say the same last.
    4. `last_write_wins` — all of it, and that the text and the client's answers are the same.
-/
namespace CarrierAuth

/-! ## Steps -/

/-- The last settings that steps give to a subscription. -/
def lastWritten (steps : List (SubscriptionId × CarrierSettings)) (id : SubscriptionId) :
    Option CarrierSettings :=
  steps.reverse.lookup id

theorem lastWritten_cons (e : SubscriptionId × CarrierSettings)
    (rest : List (SubscriptionId × CarrierSettings)) (id : SubscriptionId) :
    lastWritten (e :: rest) id =
      (lastWritten rest id).or (if id = e.1 then some e.2 else none) := by
  rw [lastWritten, List.reverse_cons, List.lookup_append, CarrierTable.lookup_cons_eq_ite]
  rfl

namespace ClientSettings

/-- The settings with those of carriers replaced, one after the other. -/
def withCarriers (s : ClientSettings) (steps : List (SubscriptionId × CarrierSettings)) :
    ClientSettings :=
  steps.foldl (fun s e => s.withCarrier e.1 e.2) s

/-- The settings that steps from the standard ones lead to. -/
def ofSteps (steps : List (SubscriptionId × CarrierSettings)) : ClientSettings :=
  withCarriers {} steps

/-- After steps the last one for a subscription is found, or what was there before. -/
theorem find?_withCarriers (s : ClientSettings)
    (steps : List (SubscriptionId × CarrierSettings)) (id : SubscriptionId) :
    (s.withCarriers steps).carriers.find? id =
      (lastWritten steps id).or (s.carriers.find? id) := by
  induction steps generalizing s with
  | nil => rfl
  | cons e rest ih =>
    have hstep : (s.withCarrier e.1 e.2).carriers.find? id =
        if id = e.1 then some e.2 else s.carriers.find? id :=
      s.carriers.find?_insert e.1 id e.2
    rw [withCarriers, List.foldl_cons, ← withCarriers, ih, hstep, lastWritten_cons]
    split <;> simp

theorem logLevel_withCarriers (s : ClientSettings)
    (steps : List (SubscriptionId × CarrierSettings)) :
    (s.withCarriers steps).logLevel = s.logLevel := by
  induction steps generalizing s with
  | nil => rfl
  | cons e rest ih => exact ih (s.withCarrier e.1 e.2)

theorem find?_ofSteps (steps : List (SubscriptionId × CarrierSettings)) (id : SubscriptionId) :
    (ofSteps steps).carriers.find? id = lastWritten steps id := by
  rw [ofSteps, find?_withCarriers]
  exact Option.or_none

/-! ## Subscriptions with an entry -/

theorem mem_subscriptions_iff {entries : List (SubscriptionId × CarrierSettings)}
    {id : SubscriptionId} : id ∈ entries.map Prod.fst ↔ (entries.lookup id).isSome := by
  rw [List.mem_map, List.lookup_isSome_iff]
  exact exists_congr fun e => and_congr_right fun _ => eq_comm.trans beq_iff_eq.symm

theorem mem_subscriptions_ofSteps_iff {steps : List (SubscriptionId × CarrierSettings)}
    {id : SubscriptionId} :
    id ∈ (ofSteps steps).carriers.entries.map Prod.fst ↔ id ∈ steps.map Prod.fst := by
  have hreverse : id ∈ steps.map Prod.fst ↔ id ∈ steps.reverse.map Prod.fst := by
    rw [List.map_reverse, List.mem_reverse]
  rw [hreverse, mem_subscriptions_iff, mem_subscriptions_iff, ← CarrierTable.find?,
    find?_ofSteps, lastWritten]

/-! ## The last step counts -/

/-- Steps lead to the same settings exactly where the last of them for each subscription
agree. -/
theorem ofSteps_eq_iff {steps steps' : List (SubscriptionId × CarrierSettings)} :
    ofSteps steps = ofSteps steps' ↔ ∀ id, lastWritten steps id = lastWritten steps' id := by
  constructor
  · intro h id
    rw [← find?_ofSteps, h, find?_ofSteps]
  · intro h
    have hcarriers : (ofSteps steps).carriers = (ofSteps steps').carriers :=
      CarrierTable.ext_find? fun id => by rw [find?_ofSteps, h, find?_ofSteps]
    have hlevel : (ofSteps steps).logLevel = (ofSteps steps').logLevel := by
      rw [ofSteps, logLevel_withCarriers, ofSteps, logLevel_withCarriers]
    calc ofSteps steps
        = ⟨(ofSteps steps).carriers, (ofSteps steps).logLevel⟩ := rfl
      _ = ⟨(ofSteps steps').carriers, (ofSteps steps').logLevel⟩ := by rw [hcarriers, hlevel]
      _ = ofSteps steps' := rfl

/-- **The last step counts.** For each subscription its carrier asks for what the last step
for it said, or for nothing where there was none, and the subscriptions with an entry are
those of the steps, each once, in ascending order. So steps that agree in what they said last,
in whatever order and whatever they overwrite, and only these, lead to the same settings; then
these are written as one text, and a client requires encryption for the same subscriptions. -/
theorem last_write_wins (steps steps' : List (SubscriptionId × CarrierSettings)) :
    (∀ id, (ofSteps steps).carrier id = (lastWritten steps id).getD ⟨false, false⟩) ∧
    (∀ id, id ∈ (ofSteps steps).carriers.entries.map Prod.fst ↔ id ∈ steps.map Prod.fst) ∧
    (((ofSteps steps).carriers.entries.map Prod.fst).Pairwise fun a b => a.value < b.value) ∧
    (ofSteps steps = ofSteps steps' ↔ ∀ id, lastWritten steps id = lastWritten steps' id) ∧
    ((∀ id, lastWritten steps id = lastWritten steps' id) →
      (ofSteps steps).toYaml = (ofSteps steps').toYaml ∧
      ∀ cipher id, Client.requiresEncryption ⟨cipher, ofSteps steps⟩ id =
        Client.requiresEncryption ⟨cipher, ofSteps steps'⟩ id) := by
  refine ⟨fun id => ?_, fun id => mem_subscriptions_ofSteps_iff,
    (ofSteps steps).carriers.ascending_subscriptions, ofSteps_eq_iff, fun h => ?_⟩
  · rw [carrier, find?_ofSteps]
  · rw [ofSteps_eq_iff.mpr h]
    exact ⟨rfl, fun _ _ => rfl⟩

/-- A step that is overwritten, and the order of the others, leave no trace; a negative number
comes first in the table. -/
theorem overwritten_step_leaves_no_trace :
    let four : SubscriptionId := { value := 4 }
    let below := SubscriptionId.invalid
    let steps := [(four, ⟨true, false⟩), (below, ⟨true, true⟩), (four, ⟨false, true⟩)]
    let steps' := [(four, ⟨false, true⟩), (below, ⟨true, true⟩)]
    (∀ id, lastWritten steps id = lastWritten steps' id) ∧
    (ofSteps steps).carriers.entries.map Prod.fst = [below, four] ∧
    (ofSteps steps).carrier four = ⟨false, true⟩ ∧
    (ofSteps steps).toYaml = (ofSteps steps').toYaml := by
  intro four below steps steps'
  have hlast : ∀ id, lastWritten steps id = lastWritten steps' id := by
    intro id
    by_cases hfour : id = four
    · rw [hfour]
      rfl
    · by_cases hbelow : id = below
      · rw [hbelow]
        rfl
      · simp [steps, steps', lastWritten_cons, hfour, hbelow]
  obtain ⟨hcarrier, -, -, -, hsame⟩ := last_write_wins steps steps'
  exact ⟨hlast, rfl, hcarrier four, (hsame hlast).1⟩

end ClientSettings

end CarrierAuth
