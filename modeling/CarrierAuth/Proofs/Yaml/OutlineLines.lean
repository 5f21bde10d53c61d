import CarrierAuth.Proofs.Yaml.Outline

/-
  Lines left out — what a text is once some of its lines are taken from it.

  `withoutLines spare chosen text` takes from a text the lines that are chosen, by their
  number, and whose text may be spared. `Thins spare o o'` says the same of outlines: `o'`
  is `o` without some lines of one word that may be spared. A key with lines below it stays,
  and with it the place of its record, even where all of these lines go.

  What is proved:
    1. `text_eq_lines`, `newline_notMem_lines` — the text of an outline is its lines, none of
       which goes over a line break.
    2. `exists_thins` — lines that are left out leave the lines of a thinner outline, by
       induction on the outline, whatever number its first line has.
    3. `exists_withoutLines` — so a text of an outline is left the text of a thinner one.
-/
namespace CarrierAuth.Yaml

/-! ## Lines left out -/

section
variable (spare : List Char → Bool) (chosen : Nat → Bool)

/-- Lines, counted from a number on, without those that are chosen and may be spared. -/
def leaveOut : Nat → List (List Char) → List (List Char)
  | _, [] => []
  | n, l :: ls =>
    if chosen n && spare (content l) then leaveOut (n + 1) ls else l :: leaveOut (n + 1) ls

/-- A text without those of its lines that are chosen and may be spared. -/
def withoutLines (text : String) : String :=
  String.ofList (['\n'].intercalate (leaveOut spare chosen 0 (text.toList.splitOn '\n')))

theorem leaveOut_append (n : Nat) (ls more : List (List Char)) :
    leaveOut spare chosen n (ls ++ more) =
      leaveOut spare chosen n ls ++ leaveOut spare chosen (n + ls.length) more := by
  induction ls generalizing n with
  | nil => rfl
  | cons l ls ih =>
    have hcount : n + 1 + ls.length = n + (l :: ls).length := by
      rw [List.length_cons]
      omega
    rw [List.cons_append, leaveOut, leaveOut, ih, hcount]
    split <;> rfl

end

theorem intercalate_concat_nil (ls : List (List Char)) :
    ['\n'].intercalate (ls ++ [[]]) = ls.flatMap (· ++ ['\n']) := by
  induction ls with
  | nil => rfl
  | cons l ls ih =>
    have hne : ls ++ [[]] ≠ [] := by simp
    rw [List.cons_append, List.intercalate_cons_of_ne_nil hne, ih, List.flatMap_cons]

/-! ## The lines of an outline -/

namespace Outline

def lines : Nat → Outline → List (List Char)
  | _, nil => []
  | indent, line key value rest =>
    (List.replicate indent ' ' ++ (key ++ ':' :: ' ' :: value.text)) :: lines indent rest
  | indent, block key inner rest =>
    (List.replicate indent ' ' ++ (key ++ [':'])) ::
      (lines (indent + step) inner ++ lines indent rest)

theorem text_eq_lines (indent : Nat) (o : Outline) :
    o.text indent = (o.lines indent).flatMap (· ++ ['\n']) := by
  induction o generalizing indent with
  | nil => rfl
  | line key value rest ih => simp [text, lines, ih]
  | block key inner rest ihInner ihRest => simp [text, lines, ihInner, ihRest]

theorem newline_notMem_lines {o : Outline} (ho : o.WellFormed) (indent : Nat) :
    ∀ l ∈ o.lines indent, '\n' ∉ l := by
  have hword {w : List Char} (hw : IsWord w) : '\n' ∉ w := fun hmem =>
    absurd (hw.chars _ hmem) (by decide)
  induction o generalizing indent with
  | nil => exact fun _ h => nomatch h
  | line key value rest ih =>
    obtain ⟨hkey, hvalue, hrest⟩ := ho
    have htext : '\n' ∉ value.text := by
      cases value with
      | word w => exact hword hvalue
      | braces => decide
    rw [lines, List.forall_mem_cons]
    exact ⟨by simp [hword hkey.toIsWord, htext], ih hrest indent⟩
  | block key inner rest ihInner ihRest =>
    obtain ⟨hkey, hinner, hrest⟩ := ho
    rw [lines, List.forall_mem_cons, List.forall_mem_append]
    exact ⟨by simp [hword hkey.toIsWord], ihInner hinner _, ihRest hrest indent⟩

end Outline

theorem content_key {key : List Char} (hkey : IsKey key) (indent : Nat) (behind : List Char) :
    content (List.replicate indent ' ' ++ (key ++ behind)) = key ++ behind := by
  obtain ⟨c, more, rfl, -⟩ := hkey.start
  exact content_spaces indent (hkey.chars c List.mem_cons_self) _

/-! ## Thinner outlines -/

/-- An outline is another one without some of the lines that may be spared. -/
inductive Thins (spare : List Char → Bool) : Outline → Outline → Prop
  | nil : Thins spare .nil .nil
  | keep {key : List Char} {value : Leaf} {rest rest' : Outline} (hrest : Thins spare rest rest') :
    Thins spare (.line key value rest) (.line key value rest')
  | drop {key : List Char} {value : Leaf} {rest rest' : Outline}
    (hspare : spare (key ++ ':' :: ' ' :: value.text) = true) (hrest : Thins spare rest rest') :
    Thins spare (.line key value rest) rest'
  | block {key : List Char} {inner inner' rest rest' : Outline}
    (hinner : Thins spare inner inner') (hrest : Thins spare rest rest') :
    Thins spare (.block key inner rest) (.block key inner' rest')

namespace Thins

variable {spare : List Char → Bool} {o o' : Outline}

theorem refl (o : Outline) : Thins spare o o := by
  induction o with
  | nil => exact .nil
  | line key value rest ih => exact .keep ih
  | block key inner rest ihInner ihRest => exact .block ihInner ihRest

theorem wellFormed (h : Thins spare o o') (ho : o.WellFormed) : o'.WellFormed := by
  induction h with
  | nil => exact ho
  | keep hrest ih => exact ⟨ho.1, ho.2.1, ih ho.2.2⟩
  | drop hspare hrest ih => exact ih ho.2.2
  | block hinner hrest ihInner ihRest => exact ⟨ho.1, ihInner ho.2.1, ihRest ho.2.2⟩

theorem exists_block {key : List Char} {inner rest : Outline}
    (h : Thins spare (.block key inner rest) o) :
    ∃ inner' rest', o = .block key inner' rest' ∧ Thins spare inner inner' ∧
      Thins spare rest rest' := by
  cases h with
  | block hinner hrest => exact ⟨_, _, rfl, hinner, hrest⟩

end Thins

section
variable {spare : List Char → Bool}

/-- Of the lines of an outline only those of one word can be left out. -/
theorem exists_thins (hblock : ∀ l, spare (l ++ [':']) = false) (chosen : Nat → Bool)
    {o : Outline} (ho : o.WellFormed) (indent n : Nat) :
    ∃ o', Thins spare o o' ∧ o'.lines indent = leaveOut spare chosen n (o.lines indent) := by
  induction o generalizing indent n with
  | nil => exact ⟨.nil, .nil, rfl⟩
  | line key value rest ih =>
    obtain ⟨hkey, -, hrest⟩ := ho
    obtain ⟨rest', hthins, hlines⟩ := ih hrest indent (n + 1)
    rw [Outline.lines, leaveOut, content_key hkey, ← hlines]
    by_cases hout : (chosen n && spare (key ++ ':' :: ' ' :: value.text)) = true
    · rw [if_pos hout]
      exact ⟨rest', .drop (Bool.and_eq_true_iff.mp hout).2 hthins, rfl⟩
    · rw [if_neg hout]
      exact ⟨.line key value rest', .keep hthins, rfl⟩
  | block key inner rest ihInner ihRest =>
    obtain ⟨hkey, hinner, hrest⟩ := ho
    obtain ⟨inner', hinner', hlines⟩ := ihInner hinner (indent + step) (n + 1)
    obtain ⟨rest', hrest', hlines'⟩ :=
      ihRest hrest indent (n + 1 + (inner.lines (indent + step)).length)
    refine ⟨.block key inner' rest', .block hinner' hrest', ?_⟩
    rw [Outline.lines, Outline.lines, leaveOut, content_key hkey, hblock, Bool.and_false,
      leaveOut_append, hlines, hlines']
    rfl

/-- **A text of an outline with lines left out is the text of a thinner outline.** -/
theorem exists_withoutLines (hempty : spare [] = false) (hblock : ∀ l, spare (l ++ [':']) = false)
    (chosen : Nat → Bool) {o : Outline} (ho : o.WellFormed) :
    ∃ o', Thins spare o o' ∧
      withoutLines spare chosen (String.ofList (o.text 0)) = String.ofList (o'.text 0) := by
  obtain ⟨o', hthins, hlines⟩ := exists_thins hblock chosen ho 0 0
  refine ⟨o', hthins, ?_⟩
  -- The break behind the last line leaves an empty one, which stays.
  have hsplit : (o.text 0).splitOn '\n' = o.lines 0 ++ [[]] := by
    rw [o.text_eq_lines, ← intercalate_concat_nil]
    refine List.splitOn_intercalate '\n' (fun l hl => ?_) (by simp)
    rcases List.mem_append.mp hl with hl | hl
    · exact Outline.newline_notMem_lines ho 0 l hl
    · rw [List.mem_singleton.mp hl]
      exact List.not_mem_nil
  have hlast (n : Nat) : leaveOut spare chosen n [[]] = [[]] := by
    show (if chosen n && spare [] then _ else _) = _
    rw [hempty, Bool.and_false]
    rfl
  rw [withoutLines, String.toList_ofList, hsplit, leaveOut_append, hlast, ← hlines,
    intercalate_concat_nil, o'.text_eq_lines]

end

end CarrierAuth.Yaml
