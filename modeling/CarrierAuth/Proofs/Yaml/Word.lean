import CarrierAuth.Yaml.Lexer

/-
  Words and lines — how the lexer reads plain words and the white space that leads to
  the next line.

  What is proved:
    1. `isPlainChar_of_isWordChar` and its neighbours — what a character of a word is not:
       a separator, an indicator, a mark.
    2. `skipGap_line`, `plainGap_line` — both readers of white space skip the spaces a
       line starts with (`margin`) and stop at its text (`content`).
    3. `plainScalar_key`, `plainScalar_value` — a word is read up to the colon behind it,
       or up to the end of its line and from there to the next one.
    4. `lexWord_word` — no word is taken for anything else than a plain scalar.
-/
namespace CarrierAuth.Yaml

/-! ## Characters of words -/

theorem toNat_lt_of_isWordChar {c : Char} (h : isWordChar c = true) : c.toNat < 128 := by
  have hle {d : Char} (hd : c.val ≤ d.val) (hascii : d.toNat < 128) : c.toNat < 128 :=
    Nat.lt_of_le_of_lt hd hascii
  rcases Bool.or_eq_true_iff.mp h with h | h
  · rcases Bool.or_eq_true_iff.mp h with h | h
    · rcases Bool.or_eq_true_iff.mp h with h | h
      · rcases Bool.or_eq_true_iff.mp h with h | h
        · exact hle (d := 'Z') (of_decide_eq_true h).2 (by decide)
        · exact hle (d := 'z') (of_decide_eq_true (Bool.and_eq_true_iff.mp h).2) (by decide)
      · exact hle (d := '9') (of_decide_eq_true (Bool.and_eq_true_iff.mp h).2) (by decide)
    · obtain rfl := eq_of_beq h
      decide
  · obtain rfl := eq_of_beq h
    decide

theorem forall_isWordChar {p : Char → Bool}
    (h : ∀ n < 128, isWordChar (Char.ofNat n) = true → p (Char.ofNat n) = true) {c : Char}
    (hc : isWordChar c = true) : p c = true := by
  have hn := h c.toNat (toNat_lt_of_isWordChar hc)
  rw [Char.ofNat_toNat] at hn
  exact hn hc

theorem isGap_of_isWordChar {c : Char} (h : isWordChar c = true) : isGap c = false := by
  simpa using forall_isWordChar (p := fun c => !isGap c) (by decide) h

theorem isBreak_of_isWordChar {c : Char} (h : isWordChar c = true) : isBreak c = false :=
  (Bool.or_eq_false_iff.mp (isGap_of_isWordChar h)).2

theorem isBlank_of_isWordChar {c : Char} (h : isWordChar c = true) : isBlank c = false :=
  (Bool.or_eq_false_iff.mp (isGap_of_isWordChar h)).1

theorem isIndicator_of_isWordChar {c : Char} (h : isWordChar c = true) :
    isIndicator c = false := by
  simpa using forall_isWordChar (p := fun c => !isIndicator c) (by decide) h

theorem isAllowed_of_isWordChar {c : Char} (h : isWordChar c = true) : isAllowed c = true :=
  forall_isWordChar (by decide) h

theorem ne_of_isWordChar {c d : Char} (h : isWordChar c = true) (hd : isWordChar d = false) :
    c ≠ d := by
  rintro rfl
  rw [h] at hd
  contradiction

theorem isHalfBreak_of_isWordChar {c : Char} (h : isWordChar c = true) (rest : List Char) :
    isHalfBreak c rest = false := by
  simp [isHalfBreak, ne_of_isWordChar h (d := '\r') rfl]

/-- A word: letters, digits, underscores and hyphens. Where it starts with a hyphen
something else follows, so that it marks neither an entry nor a document. -/
structure IsWord (w : List Char) : Prop where
  chars : ∀ c ∈ w, isWordChar c = true
  start : ∃ c rest, w = c :: rest ∧ (c = '-' → ∃ d more, rest = d :: more ∧ d ≠ '-')

theorem isWord_of_all {w : List Char} (hchars : w.all isWordChar = true)
    (hstart : w.head?.any (· ≠ '-') = true) : IsWord w := by
  cases w with
  | nil => contradiction
  | cons c rest =>
    refine ⟨List.all_eq_true.mp hchars, c, rest, rfl, fun hc => ?_⟩
    rw [hc] at hstart
    contradiction

/-! ## The way to the next line -/

/-- The number of spaces a text starts with. -/
def margin : List Char → Nat
  | ' ' :: rest => margin rest + 1
  | _ => 0

/-- What stands behind the spaces a text starts with. -/
def content : List Char → List Char
  | ' ' :: rest => content rest
  | text => text

/-- Whether a text is at its end or starts, behind spaces, with a character of a word. -/
def StartsWord (text : List Char) : Prop := ∀ c ∈ (content text).head?, isWordChar c = true

theorem margin_spaces (n : Nat) {c : Char} (h : isWordChar c = true) (rest : List Char) :
    margin (List.replicate n ' ' ++ c :: rest) = n := by
  induction n with
  | zero =>
    have hne := ne_of_isWordChar h (d := ' ') rfl
    rw [List.replicate_zero, List.nil_append, margin]
    rintro _ ⟨⟩
    exact hne rfl
  | succ n ih => rw [List.replicate_succ, List.cons_append, margin, ih]

theorem content_spaces (n : Nat) {c : Char} (h : isWordChar c = true) (rest : List Char) :
    content (List.replicate n ' ' ++ c :: rest) = c :: rest := by
  induction n with
  | zero =>
    have hne := ne_of_isWordChar h (d := ' ') rfl
    rw [List.replicate_zero, List.nil_append, content]
    rintro _ ⟨⟩
    exact hne rfl
  | succ n ih => rw [List.replicate_succ, List.cons_append, content, ih]

theorem startsWord_spaces (n : Nat) {c : Char} (h : isWordChar c = true) (rest : List Char) :
    StartsWord (List.replicate n ' ' ++ c :: rest) := by
  intro d hd
  rw [content_spaces n h] at hd
  obtain rfl : c = d := by simpa using hd
  exact h

theorem length_content_le (text : List Char) : (content text).length ≤ text.length := by
  fun_induction content text with
  | case1 rest ih => exact Nat.le_succ_of_le ih
  | case2 text hne => exact Nat.le_refl _

theorem content_content (text : List Char) : content (content text) = content text := by
  fun_induction content text with
  | case1 rest ih => exact ih
  | case2 text hne =>
    rw [content]
    exact hne

theorem margin_content (text : List Char) : margin (content text) = 0 := by
  fun_induction content text with
  | case1 rest ih => exact ih
  | case2 text hne =>
    rw [margin]
    exact hne

theorem Mark.skip_skip (m : Mark) (i j : Nat) : (m.skip i).skip j = m.skip (i + j) := by
  simp [Mark.skip, Nat.add_assoc]

theorem skipGap_line (keyAllowed : Bool) (m : Mark) {text : List Char} (h : StartsWord text) :
    Lexer.skipGap false false keyAllowed m text =
      (⟨m.skip (margin text), content text⟩, keyAllowed) := by
  fun_induction margin text generalizing m with
  | case1 rest ih =>
    rw [Lexer.skipGap, content, ih (m.skip 1) h, Mark.skip_skip, Nat.add_comm 1]
    rfl
  | case2 text hne =>
    match text, hne with
    | [], _ => rfl
    | c :: rest, hne =>
      have hcontent : content (c :: rest) = c :: rest := by
        rw [content]
        exact hne
      have hc : isWordChar c = true := h c (by rw [hcontent]; rfl)
      rw [hcontent, Lexer.skipGap, isHalfBreak_of_isWordChar hc, isBreak_of_isWordChar hc]
      simp only [Bool.false_eq_true, if_false, ne_of_isWordChar hc (d := '#') rfl,
        ne_of_isWordChar hc (d := ' ') rfl, ne_of_isWordChar hc (d := '\t') rfl,
        ne_of_isWordChar hc (d := byteOrderMark) rfl, false_and, or_self]
      rfl

/-- Behind a line break the white space after a plain scalar ends at the text of the next
line. -/
theorem plainGap_line (indent : Int) (first : Option Char) (more : List Char) (m : Mark)
    {text : List Char} (h : StartsWord text) :
    plainGap indent (.breaks first more) m text =
      .ok (.breaks first more, ⟨m.skip (margin text), content text⟩) := by
  fun_induction margin text generalizing m with
  | case1 rest ih =>
    rw [plainGap, content]
    show plainGap indent (.breaks first more) (m.skip 1) rest = _
    rw [ih (m.skip 1) h, Mark.skip_skip, Nat.add_comm 1]
  | case2 text hne =>
    match text, hne with
    | [], _ => rfl
    | c :: rest, hne =>
      have hcontent : content (c :: rest) = c :: rest := by
        rw [content]
        exact hne
      have hc : isWordChar c = true := h c (by rw [hcontent]; rfl)
      rw [hcontent, plainGap, isHalfBreak_of_isWordChar hc, isBreak_of_isWordChar hc,
        isBlank_of_isWordChar hc]
      rfl

/-! ## Plain words -/

theorem plainRun_word {w : List Char} (hw : ∀ c ∈ w, isWordChar c = true) {behind : List Char}
    (hbehind : plainRun false behind = some ([], behind)) :
    plainRun false (w ++ behind) = some (w, behind) := by
  induction w with
  | nil => exact hbehind
  | cons c w ih =>
    obtain ⟨hc, hw⟩ := List.forall_mem_cons.mp hw
    have hcolon : (c == ':') = false := beq_false_of_ne (ne_of_isWordChar hc rfl)
    rw [List.cons_append, plainRun, isGap_of_isWordChar hc, hcolon, ih hw]
    rfl

theorem isPrefixOf_cons_of_ne {a b : Char} (h : a ≠ b) (more rest : List Char) :
    (a :: more).isPrefixOf (b :: rest) = false := by
  rw [List.isPrefixOf_cons_cons, beq_false_of_ne h, Bool.false_and]

theorem atDocumentMark_of_ne {cursor : Cursor} {c d : Char} {rest : List Char}
    (hrest : cursor.rest = d :: rest) (h : c ≠ d) : cursor.atDocumentMark c = false := by
  rw [Cursor.atDocumentMark, hrest, isPrefixOf_cons_of_ne h, Bool.and_false, Bool.false_and]

theorem atDocumentMark_word {w : List Char} (hw : IsWord w) (m : Mark) (behind : List Char) :
    Cursor.atDocumentMark '-' ⟨m, w ++ behind⟩ = false ∧
      Cursor.atDocumentMark '.' ⟨m, w ++ behind⟩ = false := by
  obtain ⟨c, rest, rfl, hstart⟩ := hw.start
  have hc := hw.chars c List.mem_cons_self
  have hdots : ['.', '.', '.'].isPrefixOf (c :: rest ++ behind) = false :=
    isPrefixOf_cons_of_ne (ne_of_isWordChar hc rfl).symm _ _
  have hhyphens : ['-', '-', '-'].isPrefixOf (c :: rest ++ behind) = false := by
    by_cases hdash : c = '-'
    · obtain ⟨d, more, rfl, hd⟩ := hstart hdash
      rw [List.cons_append, List.isPrefixOf_cons_cons, List.cons_append,
        isPrefixOf_cons_of_ne (Ne.symm hd), Bool.and_false]
    · exact isPrefixOf_cons_of_ne (Ne.symm hdash) _ _
  rw [Cursor.atDocumentMark, Cursor.atDocumentMark, hdots, hhyphens]
  simp

theorem plainRuns_word {w : List Char} (hw : IsWord w) (indent : Int) (fuel : Nat) (m : Mark)
    {behind : List Char} (hbehind : plainRun false behind = some ([], behind)) :
    plainRuns false indent (fuel + 1) .empty ⟨m, w ++ behind⟩ =
      if startsGap behind && !behind.isEmpty then do
        let (g, c) ← plainGap indent .empty (m.skip w.length) behind
        if c.mark.column < indent then return (w, g, c)
        else
          let (text, g, c) ← plainRuns false indent fuel g c
          return (w ++ text, g, c)
      else .ok (w, .empty, ⟨m.skip w.length, behind⟩) := by
  obtain ⟨hhyphens, hdots⟩ := atDocumentMark_word hw m behind
  have hrun := plainRun_word hw.chars hbehind
  obtain ⟨c, rest, rfl, -⟩ := hw.start
  have hhash : ((c :: rest ++ behind).head? == some '#') = false := by
    have hc := hw.chars c List.mem_cons_self
    simpa using ne_of_isWordChar hc (d := '#') rfl
  rw [plainRuns, Cursor.atAnyDocumentMark, hhyphens, hdots, hhash, hrun]
  simp only [Bool.or_self, Bool.false_eq_true, if_false, Bool.not_false, Bool.true_and,
    decide_eq_true_eq]
  rfl

theorem plainScalar_key {w : List Char} (hw : IsWord w) (indent : Int) (m : Mark)
    {behind : List Char} (hbehind : startsGap behind = true) :
    plainScalar false indent ⟨m, w ++ ':' :: behind⟩ =
      .ok (w, false, ⟨m.skip w.length, ':' :: behind⟩) := by
  have hrun : plainRun false (':' :: behind) = some ([], ':' :: behind) := by
    rw [plainRun, hbehind]
    rfl
  rw [plainScalar, plainRuns_word hw indent _ m hrun]
  rfl

/-- A word at the end of a line is read together with the white space in front of the next
line, where that is indented less. -/
theorem plainScalar_value {w : List Char} (hw : IsWord w) {indent : Int} (m : Mark)
    {text : List Char} (htext : StartsWord text) (hmargin : margin text < indent) :
    plainScalar false indent ⟨m, w ++ '\n' :: text⟩ =
      .ok (w, true, ⟨(m.skip w.length).newLine.skip (margin text), content text⟩) := by
  have hrun : plainRun false ('\n' :: text) = some ([], '\n' :: text) := rfl
  -- The line break makes a gap of breaks, in which the next line's spaces leave no trace.
  have hgap : plainGap indent .empty (m.skip w.length) ('\n' :: text) =
      .ok (.breaks (some '\n') [],
        ⟨(m.skip w.length).newLine.skip (margin text), content text⟩) := by
    rw [← plainGap_line indent (some '\n') [] (m.skip w.length).newLine htext]
    rfl
  have hcolumn : ((m.skip w.length).newLine.skip (margin text)).column = margin text := by
    simp [Mark.newLine, Mark.skip]
  rw [plainScalar, plainRuns_word hw indent _ m hrun, hgap]
  show (if _ < _ then _ else _) >>= _ = _
  rw [if_pos (by rw [hcolumn]; exact hmargin)]
  rfl

/-- No word is taken for anything else than a plain scalar. -/
theorem lexWord_word {l : Lexer} {c : Char} {rest behind : List Char} {m : Mark}
    (hw : IsWord (c :: rest)) (hcursor : l.cursor = ⟨m, c :: rest ++ behind⟩) :
    l.lexWord c (rest ++ behind) = l.lexPlain := by
  have hc := hw.chars c List.mem_cons_self
  have hne (d : Char) (hd : isWordChar d = false) : c ≠ d := ne_of_isWordChar hc hd
  obtain ⟨hhyphens, hdots⟩ := atDocumentMark_word hw m behind
  rw [← hcursor] at hhyphens hdots
  -- Of the characters of words only the hyphen is an indicator too, and it is none in front
  -- of another character of a word.
  have hfollows : c = '-' → ∃ d more, rest = d :: more ∧ isWordChar d = true := by
    intro hdash
    obtain ⟨_, _, heq, hstart⟩ := hw.start
    obtain ⟨rfl, rfl⟩ := List.cons.inj heq
    obtain ⟨d, more, rfl, -⟩ := hstart hdash
    exact ⟨d, more, rfl, hw.chars d (by simp)⟩
  have hentry : ¬ (c = '-' ∧ startsGap (rest ++ behind) = true) := by
    rintro ⟨hdash, hgap⟩
    obtain ⟨d, more, rfl, hd⟩ := hfollows hdash
    rw [List.cons_append, startsGap, isGap_of_isWordChar hd] at hgap
    contradiction
  have hplain : Lexer.startsPlain l.inFlow c (rest ++ behind) = true := by
    rw [Lexer.startsPlain]
    by_cases hdash : c = '-'
    · obtain ⟨d, more, rfl, hd⟩ := hfollows hdash
      rw [if_pos (beq_iff_eq.mpr hdash)]
      simp [isBlank_of_isWordChar hd]
    · simp [hdash, hne '?' rfl, hne ':' rfl, isGap_of_isWordChar hc,
        isIndicator_of_isWordChar hc]
  rw [Lexer.lexWord, hhyphens, hdots]
  simp only [hne '%' rfl, hne '[' rfl, hne '\x7b' rfl, hne ']' rfl, hne '\x7d' rfl, hne ',' rfl,
    hentry, hne '?' rfl, hne ':' rfl, hne '*' rfl, hne '&' rfl, hne '!' rfl, hne '|' rfl,
    hne '>' rfl, hne '\'' rfl, hne '"' rfl, hplain, and_false, false_and, or_self,
    Bool.false_eq_true, if_false, if_true]

end CarrierAuth.Yaml
