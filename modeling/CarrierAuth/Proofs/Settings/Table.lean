import CarrierAuth.Settings
import Mathlib.Data.List.Sort

/-
  Tables of carriers — a table is rebuilt from its entries, and determined by what is found
  in it.

  What is proved:
    1. `insertEntry_of_forall_lt` — an entry for a later subscription than all others is
       added at the end.
    2. `ofList_entries` — so a table is the table of its entries, by induction on those that
       are still to be added.
    3. `find?_insert` — an entry that is put in is found for its subscription, and for the
       others what was found before.
    4. `ext_find?` — tables in which the same is found are the same, since their entries are
       in ascending order.
-/
namespace CarrierAuth.CarrierTable

theorem insertEntry_of_forall_lt {id : SubscriptionId} {c : CarrierSettings}
    {entries : List (SubscriptionId × CarrierSettings)}
    (h : ∀ e ∈ entries, e.1.value < id.value) :
    insertEntry id c entries = entries ++ [(id, c)] := by
  induction entries with
  | nil => rfl
  | cons e rest ih =>
    obtain ⟨he, hrest⟩ := List.forall_mem_cons.mp h
    rw [insertEntry, if_neg (by omega), if_neg (by omega), ih hrest]
    rfl

theorem entries_foldl_insert {t : CarrierTable}
    {entries : List (SubscriptionId × CarrierSettings)} (h : Ascending (t.entries ++ entries)) :
    (entries.foldl (fun t e => t.insert e.1 e.2) t).entries = t.entries ++ entries := by
  induction entries generalizing t with
  | nil => simp
  | cons e rest ih =>
    have hlt : ∀ d ∈ t.entries, d.1.value < e.1.value := fun d hd =>
      (List.pairwise_append.mp h).2.2 d hd e List.mem_cons_self
    have hinsert : (t.insert e.1 e.2).entries = t.entries ++ [e] := insertEntry_of_forall_lt hlt
    -- The entry moves from those to be added to those of the table.
    have hsplit : t.entries ++ e :: rest = (t.insert e.1 e.2).entries ++ rest := by
      rw [hinsert, List.append_assoc]
      rfl
    rw [hsplit] at h ⊢
    exact ih h

theorem ofList_entries (t : CarrierTable) : ofList t.entries = t :=
  ext (entries_foldl_insert (t := .empty) t.ascending)

/-! ## What is found in a table -/

theorem lookup_cons_eq_ite (id : SubscriptionId) (e : SubscriptionId × CarrierSettings)
    (rest : List (SubscriptionId × CarrierSettings)) :
    List.lookup id (e :: rest) = if id = e.1 then some e.2 else rest.lookup id := by
  rw [List.lookup_cons]
  by_cases h : id = e.1
  · rw [if_pos h, beq_iff_eq.mpr h]
  · rw [if_neg h, beq_false_of_ne h]

theorem lookup_insertEntry (id id' : SubscriptionId) (c : CarrierSettings)
    (entries : List (SubscriptionId × CarrierSettings)) :
    (insertEntry id c entries).lookup id' =
      if id' = id then some c else entries.lookup id' := by
  induction entries with
  | nil => exact lookup_cons_eq_ite id' (id, c) []
  | cons e rest ih =>
    rw [insertEntry]
    split
    next => exact lookup_cons_eq_ite id' (id, c) (e :: rest)
    next =>
      split
      next hsame =>
        -- The entry that is replaced is one for this subscription, so no other is lost.
        have hid : id = e.1 := SubscriptionId.ext hsame
        rw [lookup_cons_eq_ite, lookup_cons_eq_ite, hid]
        split <;> rfl
      next hother =>
        have hid : id ≠ e.1 := fun h => hother (congrArg SubscriptionId.value h)
        rw [lookup_cons_eq_ite, lookup_cons_eq_ite, ih]
        by_cases h : id' = id
        · rw [h, if_neg hid, if_pos rfl, if_pos rfl]
        · rw [if_neg h, if_neg h]

/-- An entry that is put in changes what is found for its subscription, and nothing else. -/
theorem find?_insert (t : CarrierTable) (id id' : SubscriptionId) (c : CarrierSettings) :
    (t.insert id c).find? id' = if id' = id then some c else t.find? id' :=
  lookup_insertEntry id id' c t.entries

theorem mem_iff_lookup {entries : List (SubscriptionId × CarrierSettings)}
    (h : Ascending entries) {e : SubscriptionId × CarrierSettings} :
    e ∈ entries ↔ entries.lookup e.1 = some e.2 := by
  induction entries with
  | nil => simp
  | cons d rest ih =>
    obtain ⟨hd, hrest⟩ := List.pairwise_cons.mp h
    rw [List.mem_cons, lookup_cons_eq_ite, ih hrest]
    by_cases hid : e.1 = d.1
    · -- The entries behind are for later subscriptions.
      have hnone : rest.lookup e.1 = none := by
        refine List.lookup_eq_none_iff.mpr fun p hp => bne_iff_ne.mpr fun heq => ?_
        have hlt := hd p hp
        rw [← hid, heq] at hlt
        omega
      rw [hnone, if_pos hid, Option.some.injEq, Prod.ext_iff]
      simp only [hid, true_and, reduceCtorEq, or_false]
      exact eq_comm
    · have hne : e ≠ d := fun h => hid (congrArg Prod.fst h)
      rw [if_neg hid]
      simp only [hne, false_or]

/-- The subscriptions with an entry stand in ascending order, so each of them once. -/
theorem ascending_subscriptions (t : CarrierTable) :
    (t.entries.map Prod.fst).Pairwise fun a b => a.value < b.value :=
  List.pairwise_map.mpr t.ascending

theorem ext_find? {s t : CarrierTable} (h : ∀ id, s.find? id = t.find? id) : s = t := by
  have hirrefl : Std.Irrefl fun a b : SubscriptionId × CarrierSettings =>
      a.1.value < b.1.value := ⟨fun a => Int.lt_irrefl a.1.value⟩
  have hantisymm : Std.Antisymm fun a b : SubscriptionId × CarrierSettings =>
      a.1.value < b.1.value :=
    ⟨fun a b hab hba => absurd (Int.lt_trans hab hba) (Int.lt_irrefl a.1.value)⟩
  refine ext (List.Pairwise.eq_of_mem_iff s.ascending t.ascending fun e => ?_)
  rw [mem_iff_lookup s.ascending, mem_iff_lookup t.ascending]
  exact Eq.congr_left (h e.1)

end CarrierAuth.CarrierTable
