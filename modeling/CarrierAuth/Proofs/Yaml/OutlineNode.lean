import CarrierAuth.Proofs.Yaml.OutlineTokens
import CarrierAuth.Yaml.Format

/-
  The documents of outlines — what the readers of nodes make of an outline's tokens.

  A block without lines below its key stands for a node that is left out.

  What is proved:
    1. `readValue_leaf`, `readValue_block` — the value of an entry is read from its tokens.
    2. `readEntries_outline` — the entries are read from theirs, by induction on the outline
       and whatever follows their end; every token takes at most one unit of fuel.
    3. `document_outline` — the text of an outline is the document of its node.
    4. `entries?_node`, `fields?_node` — the node of an outline is read as its entries, and
       as its fields.
    5. `read_outline` — a value is read from the text of an outline as from its node.
-/
namespace CarrierAuth.Yaml

def Leaf.node : Leaf → Node
  | .word w => .scalar none .plain w
  | .braces => .mapping []

namespace Outline

/-- The node of a record with these entries; without any, it is left out. -/
def collect : List (Node × Node) → Node
  | [] => .empty
  | e :: es => .mapping (e :: es)

def entries : Outline → List (Node × Node)
  | nil => []
  | line key value rest => (.scalar none .plain key, value.node) :: rest.entries
  | block key inner rest => (.scalar none .plain key, collect inner.entries) :: rest.entries

def node (o : Outline) : Node := collect o.entries

theorem node_of_ne_nil {o : Outline} (h : o ≠ nil) : o.node = .mapping o.entries := by
  cases o with
  | nil => exact absurd rfl h
  | line key value rest => rfl
  | block key inner rest => rfl

theorem length_le_enclose (ts : List Token) : ts.length ≤ (enclose ts).length := by
  cases ts with
  | nil => exact Nat.le_refl _
  | cons t ts => simp [enclose]

end Outline

/-! ## Readers -/

variable {rest toks : List Token} {handles : List (List Char × Octets)} {anchors : Anchors}

theorem readNode_blockMapping {fuel : Nat} (indentless : Bool) {entries : List (Node × Node)}
    (h : readEntries fuel ⟨toks, handles, anchors⟩ = .ok (entries, ⟨rest, handles, anchors⟩)) :
    readNode (fuel + 2) true indentless ⟨.blockMapping :: toks, handles, anchors⟩ =
      .ok (.mapping entries, ⟨rest, handles, anchors⟩) := by
  show (readEntries fuel ⟨toks, handles, anchors⟩ >>= _) >>= _ = _
  rw [h]
  rfl

theorem readValue_leaf (fuel : Nat) (value : Leaf) :
    readValue (fuel + 4) ⟨.value :: (value.tokens ++ rest), handles, anchors⟩ =
      .ok (value.node, ⟨rest, handles, anchors⟩) := by
  cases value with
  | word w => rfl
  | braces => rfl

theorem readEntries_entry {fuel : Nat} (key : List Char) {value : Node}
    {entries : List (Node × Node)} {s : Source}
    (hvalue : readValue (fuel + 2) ⟨.value :: toks, handles, anchors⟩ =
      .ok (value, ⟨rest, handles, anchors⟩))
    (hentries : readEntries (fuel + 2) ⟨rest, handles, anchors⟩ = .ok (entries, s)) :
    readEntries (fuel + 3) ⟨.key :: .scalar .plain key :: .value :: toks, handles, anchors⟩ =
      .ok ((.scalar none .plain key, value) :: entries, s) := by
  show (readValue (fuel + 2) ⟨.value :: toks, handles, anchors⟩ >>= fun v =>
    readEntries (fuel + 2) v.2 >>= fun es => pure ((_, v.1) :: es.1, es.2)) = _
  rw [hvalue]
  show (readEntries (fuel + 2) ⟨rest, handles, anchors⟩ >>= _) = _
  rw [hentries]
  rfl

/-- A value with lines below its key is read by the entries of these lines; where there are
none it is left out. -/
theorem readValue_block {fuel : Nat} {o : Outline} (hrest : isEntryEmpty rest = true)
    (h : readEntries fuel ⟨o.entryTokens ++ .blockEnd :: rest, handles, anchors⟩ =
      .ok (o.entries, ⟨rest, handles, anchors⟩)) :
    readValue (fuel + 3) ⟨.value :: (o.tokens ++ rest), handles, anchors⟩ =
      .ok (o.node, ⟨rest, handles, anchors⟩) := by
  by_cases hempty : o = .nil
  · subst hempty
    show (if isEntryEmpty rest = true then _ else _) = _
    rw [if_pos hrest]
    rfl
  · have htokens : o.tokens ++ rest = .blockMapping :: (o.entryTokens ++ .blockEnd :: rest) := by
      simp [Outline.tokens_of_ne_nil hempty]
    rw [htokens, Outline.node_of_ne_nil hempty]
    exact readNode_blockMapping true h

/-- What follows a value is the next key, or the end of the block. -/
theorem isEntryEmpty_entryTokens (o : Outline) :
    isEntryEmpty (o.entryTokens ++ .blockEnd :: rest) = true := by
  cases o <;> rfl

/-- **The entries of an outline are read from their tokens.** -/
theorem readEntries_outline (o : Outline) {fuel : Nat}
    (hfuel : 2 * o.entryTokens.length + 1 ≤ fuel) :
    readEntries fuel ⟨o.entryTokens ++ .blockEnd :: rest, handles, anchors⟩ =
      .ok (o.entries, ⟨rest, handles, anchors⟩) := by
  induction o generalizing fuel rest with
  | nil =>
    obtain ⟨fuel, rfl⟩ := Nat.exists_eq_add_of_le' hfuel
    rfl
  | line key value more ih =>
    simp only [Outline.entryTokens, List.length_cons, List.length_append] at hfuel
    obtain ⟨fuel, rfl⟩ : ∃ k, fuel = k + 5 := Nat.exists_eq_add_of_le' (by omega)
    have htokens : Outline.entryTokens (.line key value more) ++ .blockEnd :: rest =
        .key :: .scalar .plain key :: .value ::
          (value.tokens ++ (more.entryTokens ++ .blockEnd :: rest)) := by
      simp [Outline.entryTokens]
    rw [htokens]
    exact readEntries_entry key (readValue_leaf _ value) (ih (by omega))
  | block key inner more ihInner ihMore =>
    simp only [Outline.entryTokens, List.length_cons, List.length_append] at hfuel
    have htokens : Outline.entryTokens (.block key inner more) ++ .blockEnd :: rest =
        .key :: .scalar .plain key :: .value ::
          (inner.tokens ++ (more.entryTokens ++ .blockEnd :: rest)) := by
      simp [Outline.entryTokens, Outline.tokens]
    have hinner := Outline.length_le_enclose inner.entryTokens
    -- The entry, its value, the node and its content take one unit of fuel each.
    obtain ⟨fuel, rfl⟩ : ∃ k, fuel = k + 4 := Nat.exists_eq_add_of_le' (by omega)
    rw [htokens]
    exact readEntries_entry key
      (readValue_block (isEntryEmpty_entryTokens more) (ihInner (by omega))) (ihMore (by omega))

theorem readDocument_blockMapping {entries : List (Node × Node)}
    (h : readEntries (4 * (toks.length + 1) + 2) ⟨toks, standardHandles, {}⟩ =
      .ok (entries, ⟨[], standardHandles, {}⟩)) :
    readDocument (.blockMapping :: toks) = .ok ⟨.mapping entries, {}⟩ := by
  have hread : readNode (4 * (toks.length + 1) + 4) true false
      ⟨.blockMapping :: toks, standardHandles, {}⟩ =
        .ok (.mapping entries, ⟨[], standardHandles, {}⟩) := readNode_blockMapping false h
  have honly : readOnlyDocument { tokens := .blockMapping :: toks, handles := standardHandles } =
      .ok ⟨.mapping entries, {}⟩ := by
    show (readNode (4 * (toks.length + 1) + 4) true false _ >>= _) = _
    rw [hread]
    rfl
  have hdirectives : readDirectives false [] (.blockMapping :: toks) =
      .ok ([], .blockMapping :: toks) := rfl
  rw [readDocument, hdirectives]
  · simpa [bind, Except.bind] using honly
  · exact List.cons_ne_nil _ _

/-- **The text of an outline is the document of its node.** -/
theorem document_outline {o : Outline} (ho : o.WellFormed) :
    document (o.text 0) = .ok ⟨o.node, {}⟩ := by
  rw [document, tokens_outline ho]
  show readDocument o.tokens = _
  by_cases hempty : o = .nil
  · subst hempty
    rfl
  · have hlen : (o.entryTokens ++ [Token.blockEnd]).length = o.entryTokens.length + 1 :=
      List.length_append
    rw [Outline.tokens_of_ne_nil hempty, Outline.node_of_ne_nil hempty, List.cons_append]
    exact readDocument_blockMapping (readEntries_outline o (by omega))

/-! ## As values -/

def Outline.fields : Outline → List (String × Node)
  | nil => []
  | line key value rest => (String.ofList key, value.node) :: rest.fields
  | block key inner rest => (String.ofList key, inner.node) :: rest.fields

theorem entries?_node (d : Document) (o : Outline) : d.entries? o.node = some o.entries := by
  cases o <;> rfl

theorem fields?_node (d : Document) (o : Outline) :
    d.fields? o.node = some (.named o.fields) := by
  have hfields : (o.entries.mapM fun e => do return (← d.text? e.1, e.2)) = some o.fields := by
    induction o with
    | nil => rfl
    | line key value rest ih =>
      rw [Outline.entries, List.mapM_cons, ih]
      rfl
    | block key inner rest ihInner ihRest =>
      rw [Outline.entries, List.mapM_cons, ihRest]
      rfl
  rw [Document.fields?, entries?_node]
  show ((o.entries.mapM fun e => do return (← d.text? e.1, e.2)) >>= fun fields =>
    some (Fields.named fields)) = _
  rw [hfields]
  rfl

theorem read_outline {α : Type} (s : Schema α) {o : Outline} (ho : o.WellFormed) :
    read s (String.ofList (o.text 0)) = s.read (Document.format ⟨o.node, {}⟩) o.node := by
  rw [read, String.toList_ofList, document_outline ho]

end CarrierAuth.Yaml
