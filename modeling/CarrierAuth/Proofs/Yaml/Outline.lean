import CarrierAuth.Proofs.Yaml.Word
import CarrierAuth.Yaml.Writer

/-
  Outlines — records of words and records, one entry a line, as the writer lays them out.

  An `Outline` has a text and has tokens, both by recursion on its lines. That the lexer
  takes the one to the other is shown apart from this; here stands what it looks at first.

  What is proved:
    1. `tokens_of_ne_nil` — a record with entries is a block of their tokens.
    2. `startsWord_text`, `margin_text_le` — the text leads to a word, or to what stands
       behind the outline, and is not indented further than asked for.
    3. `isAllowed_text` — all of its characters may stand in a YAML text.
-/
namespace CarrierAuth.Yaml

/-! ## Outlines -/

/-- What stands behind a key on its line. -/
inductive Leaf where
  | word (w : List Char)
  /-- The record without entries. -/
  | braces
  deriving DecidableEq, Repr

/-- The lines of a record, one after the other. A block without lines below its key is a
value that is left out. -/
inductive Outline where
  | nil
  | line (key : List Char) (value : Leaf) (rest : Outline)
  | block (key : List Char) (inner rest : Outline)
  deriving DecidableEq, Repr

/-- A word that is short enough for a key. -/
structure IsKey (w : List Char) : Prop extends IsWord w where
  length_le : w.length ≤ keyReach

namespace Leaf

/-- Whether a word is one. -/
def WellFormed : Leaf → Prop
  | word w => IsWord w
  | braces => True

def text : Leaf → List Char
  | word w => w
  | braces => ['\x7b', '\x7d']

def tokens : Leaf → List Token
  | word w => [.scalar .plain w]
  | braces => [.flowMapping, .flowMappingEnd]

end Leaf

namespace Outline

/-- Whether the words and keys of an outline are such. -/
def WellFormed : Outline → Prop
  | nil => True
  | line key value rest => IsKey key ∧ value.WellFormed ∧ rest.WellFormed
  | block key inner rest => IsKey key ∧ inner.WellFormed ∧ rest.WellFormed

def text : Nat → Outline → List Char
  | _, nil => []
  | indent, line key value rest =>
    List.replicate indent ' ' ++ key ++ ':' :: ' ' :: value.text ++ '\n' :: text indent rest
  | indent, block key inner rest =>
    List.replicate indent ' ' ++ key ++ ':' :: '\n' :: text (indent + step) inner
      ++ text indent rest

/-- The tokens of a record whose entries have these tokens; none where there are no
entries. -/
def enclose : List Token → List Token
  | [] => []
  | t :: ts => .blockMapping :: t :: ts ++ [.blockEnd]

def entryTokens : Outline → List Token
  | nil => []
  | line key value rest =>
    .key :: .scalar .plain key :: .value :: value.tokens ++ rest.entryTokens
  | block key inner rest =>
    .key :: .scalar .plain key :: .value :: enclose inner.entryTokens ++ rest.entryTokens

def tokens (o : Outline) : List Token := enclose o.entryTokens

theorem entryTokens_ne_nil {o : Outline} (h : o ≠ nil) : o.entryTokens ≠ [] := by
  cases o with
  | nil => exact absurd rfl h
  | line key value rest => exact List.cons_ne_nil _ _
  | block key inner rest => exact List.cons_ne_nil _ _

theorem tokens_of_ne_nil {o : Outline} (h : o ≠ nil) :
    o.tokens = .blockMapping :: o.entryTokens ++ [.blockEnd] := by
  rw [tokens]
  cases htokens : o.entryTokens with
  | nil => exact absurd htokens (entryTokens_ne_nil h)
  | cons t ts => rfl

/-! ## Its text -/

theorem startsWord_text {o : Outline} (ho : o.WellFormed) (indent : Nat) {after : List Char}
    (hafter : StartsWord after) : StartsWord (o.text indent ++ after) := by
  cases o with
  | nil => exact hafter
  | line key value rest =>
    obtain ⟨c, more, rfl, -⟩ := ho.1.start
    simp only [text, List.append_assoc, List.cons_append]
    exact startsWord_spaces indent (ho.1.chars c List.mem_cons_self) _
  | block key inner rest =>
    obtain ⟨c, more, rfl, -⟩ := ho.1.start
    simp only [text, List.append_assoc, List.cons_append]
    exact startsWord_spaces indent (ho.1.chars c List.mem_cons_self) _

theorem margin_text_le {o : Outline} (ho : o.WellFormed) {indent : Nat} {after : List Char}
    (hafter : margin after ≤ indent) : margin (o.text indent ++ after) ≤ indent := by
  cases o with
  | nil => exact hafter
  | line key value rest =>
    obtain ⟨c, more, rfl, -⟩ := ho.1.start
    simp only [text, List.append_assoc, List.cons_append]
    exact Nat.le_of_eq (margin_spaces indent (ho.1.chars c List.mem_cons_self) _)
  | block key inner rest =>
    obtain ⟨c, more, rfl, -⟩ := ho.1.start
    simp only [text, List.append_assoc, List.cons_append]
    exact Nat.le_of_eq (margin_spaces indent (ho.1.chars c List.mem_cons_self) _)

theorem isAllowed_text {o : Outline} (ho : o.WellFormed) (indent : Nat) :
    ∀ c ∈ o.text indent, isAllowed c = true := by
  have hspaces (n : Nat) : ∀ c ∈ List.replicate n ' ', isAllowed c = true := by
    intro c hc
    rw [List.eq_of_mem_replicate hc]
    rfl
  have hword {w : List Char} (hw : IsWord w) : ∀ c ∈ w, isAllowed c = true :=
    fun c hc => isAllowed_of_isWordChar (hw.chars c hc)
  induction o generalizing indent with
  | nil => simp [text]
  | line key value rest ih =>
    have hvalue : ∀ c ∈ value.text, isAllowed c = true := by
      cases value with
      | word w => exact hword ho.2.1
      | braces => exact List.all_eq_true.mp rfl
    simp only [text, List.forall_mem_append, List.forall_mem_cons]
    exact ⟨⟨⟨hspaces _, hword ho.1.toIsWord⟩, rfl, rfl, hvalue⟩, rfl, ih ho.2.2 indent⟩
  | block key inner rest ihInner ihRest =>
    simp only [text, List.forall_mem_append, List.forall_mem_cons]
    exact ⟨⟨⟨hspaces _, hword ho.1.toIsWord⟩, rfl, rfl, ihInner ho.2.1 _⟩, ihRest ho.2.2 indent⟩

end Outline

end CarrierAuth.Yaml
