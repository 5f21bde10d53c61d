import CarrierAuth.Log
import CarrierAuth.Subscriber

/-
  Settings — what carriers ask for, by subscription, and the level of the log.

  The table of carriers is kept in ascending order of subscriptions with one entry
  for each (`CarrierTable.ascending`), so tables with the same entries are equal.
-/
namespace CarrierAuth

structure CarrierSettings where
  /-- Identities may only be sent encrypted. -/
  encryptionRequired : Bool := false
  /-- Anonymous identities carry the method's digit. -/
  digitEnabled : Bool := false
  deriving DecidableEq, Repr

/-- Whether entries stand in ascending order of subscriptions, each once. -/
def Ascending (entries : List (SubscriptionId × CarrierSettings)) : Prop :=
  entries.Pairwise fun a b => a.1.value < b.1.value

/-- The carriers' settings by subscription. -/
structure CarrierTable where
  entries : List (SubscriptionId × CarrierSettings)
  ascending : Ascending entries
  deriving DecidableEq

namespace CarrierTable

def empty : CarrierTable := ⟨[], List.Pairwise.nil⟩

/-- Puts an entry in its place, instead of one for the same subscription. -/
def insertEntry (id : SubscriptionId) (c : CarrierSettings) :
    List (SubscriptionId × CarrierSettings) → List (SubscriptionId × CarrierSettings)
  | [] => [(id, c)]
  | e :: rest =>
    if id.value < e.1.value then (id, c) :: e :: rest
    else if id.value = e.1.value then (id, c) :: rest
    else e :: insertEntry id c rest

theorem mem_insertEntry {id : SubscriptionId} {c : CarrierSettings}
    {entries : List (SubscriptionId × CarrierSettings)} {e : SubscriptionId × CarrierSettings}
    (h : e ∈ insertEntry id c entries) : e = (id, c) ∨ e ∈ entries := by
  induction entries with
  | nil => simpa [insertEntry] using h
  | cons d rest ih =>
    simp only [insertEntry] at h
    split at h
    · simpa using h
    · split at h
      · rcases List.mem_cons.1 h with h | h
        · exact .inl h
        · exact .inr (List.mem_cons_of_mem _ h)
      · rcases List.mem_cons.1 h with h | h
        · exact .inr (h ▸ List.mem_cons_self)
        · rcases ih h with h | h
          · exact .inl h
          · exact .inr (List.mem_cons_of_mem _ h)

theorem ascending_insertEntry (id : SubscriptionId) (c : CarrierSettings)
    {entries : List (SubscriptionId × CarrierSettings)} (h : Ascending entries) :
    Ascending (insertEntry id c entries) := by
  induction entries with
  | nil => exact List.pairwise_singleton _ _
  | cons d rest ih =>
    have hd := List.pairwise_cons.1 h
    simp only [insertEntry]
    split
    next lt =>
      refine List.pairwise_cons.2 ⟨fun e he => ?_, h⟩
      rcases List.mem_cons.1 he with rfl | he
      · exact lt
      · exact Int.lt_trans lt (hd.1 e he)
    next =>
      split
      next eq =>
        refine List.pairwise_cons.2 ⟨fun e he => ?_, hd.2⟩
        show id.value < e.1.value
        rw [eq]
        exact hd.1 e he
      next lt ne =>
        refine List.pairwise_cons.2 ⟨fun e he => ?_, ih hd.2⟩
        rcases mem_insertEntry he with rfl | he
        · show d.1.value < id.value
          omega
        · exact hd.1 e he

def insert (t : CarrierTable) (id : SubscriptionId) (c : CarrierSettings) : CarrierTable :=
  ⟨insertEntry id c t.entries, ascending_insertEntry id c t.ascending⟩

def find? (t : CarrierTable) (id : SubscriptionId) : Option CarrierSettings :=
  t.entries.lookup id

/-- The table that later entries overwrite earlier ones in. -/
def ofList (entries : List (SubscriptionId × CarrierSettings)) : CarrierTable :=
  entries.foldl (fun t e => t.insert e.1 e.2) empty

@[ext] theorem ext {s t : CarrierTable} (h : s.entries = t.entries) : s = t := by
  cases s; cases t; cases h; rfl

end CarrierTable

structure ClientSettings where
  carriers : CarrierTable := .empty
  logLevel : Level := .standard
  deriving DecidableEq

namespace ClientSettings

/-- What the carrier of a subscription asks for; nothing, unless it is in the
table. -/
def carrier (s : ClientSettings) (id : SubscriptionId) : CarrierSettings :=
  (s.carriers.find? id).getD {}

/-- The settings with those of one carrier replaced. -/
def withCarrier (s : ClientSettings) (id : SubscriptionId) (c : CarrierSettings) :
    ClientSettings :=
  { s with carriers := s.carriers.insert id c }

end ClientSettings

end CarrierAuth
