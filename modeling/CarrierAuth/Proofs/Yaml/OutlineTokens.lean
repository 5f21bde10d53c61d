import CarrierAuth.Proofs.Yaml.Outline

/-
  The tokens of outlines — the lexer reads the text of an outline as its tokens.

  `Faces l text tokens indent outer`: behind white space, `l` stands at the text of its
  line, has found these tokens, and has the block collections of these columns open, but
  for those that the column of the line closes. `Reaches l l'`: the lexer comes from `l` to
  `l'`, with a character for every word it reads.

  What is proved:
    1. `reaches_value` — a key and its colon are read; the first key of a block, which
       stands right of the block around it, opens it.
    2. `reaches_leaf` — a value is read up to the text of the next line.
    3. `faces_outline` — all lines of an outline are read, by induction on it: a block
       opens further right, and the line behind it closes it.
    4. `tokens_outline` — the text of an outline has its tokens.
-/
namespace CarrierAuth.Yaml

namespace Lexer

variable {l l' l₁ l₂ : Lexer} {m : Mark} {text after behind : List Char} {toks : List Token}
  {indent : Int} {outer : List Int}

/-- The lexer outside of flow collections, where a key may start. -/
def atKey (m : Mark) (rest : List Char) (toks : List Token) (indent : Int) (outer : List Int) :
    Lexer :=
  { cursor := ⟨m, rest⟩, tokens := toks, indent := indent, outer := outer }

/-- The lexer outside of flow collections, behind the colon of a key. -/
def atValue (m : Mark) (rest : List Char) (toks : List Token) (indent : Int)
    (outer : List Int) : Lexer :=
  { atKey m rest toks indent outer with keyAllowed := false }

/-! ## Open blocks -/

theorem closeTo_of_le {column : Int} (h : indent ≤ column) :
    closeTo column indent outer toks = (indent, outer, toks) := by
  cases outer with
  | nil => rfl
  | cons next outer => rw [closeTo, if_neg (Int.not_lt.mpr h)]

theorem unroll_of_le {column : Int} (h : l.indent ≤ column) : l.unroll column = l := by
  rw [unroll, closeTo_of_le h]
  exact ite_self _

theorem unroll_atKey {column next : Int} (rest : List Char) (h : column < indent) :
    (atKey m rest toks indent (next :: outer)).unroll column =
      (atKey m rest (.blockEnd :: toks) next outer).unroll column := by
  simp [unroll, atKey, inFlow, closeTo, h]

/-! ## From word to word -/

/-- The lexer comes from one state to another. -/
def Reaches (l l' : Lexer) : Prop :=
  ∃ n, n + l'.cursor.rest.length ≤ l.cursor.rest.length ∧
    ∀ fuel, run (n + fuel) l = run fuel l'

theorem Reaches.refl (l : Lexer) : Reaches l l :=
  ⟨0, by omega, fun fuel => by rw [Nat.zero_add]⟩

theorem Reaches.trans (h₁ : Reaches l l₁) (h₂ : Reaches l₁ l₂) : Reaches l l₂ := by
  obtain ⟨n₁, hlen₁, hrun₁⟩ := h₁
  obtain ⟨n₂, hlen₂, hrun₂⟩ := h₂
  refine ⟨n₁ + n₂, by omega, fun fuel => ?_⟩
  rw [Nat.add_assoc, hrun₁, hrun₂]

theorem Reaches.word {c : Char} {rest : List Char} (hnext : l.toNextWord = .ok l₁)
    (hrest : l₁.cursor.rest = c :: rest) (hword : l₁.lexWord c rest = .ok l')
    (hlen : l'.cursor.rest.length < l.cursor.rest.length) : Reaches l l' := by
  refine ⟨1, by omega, fun fuel => ?_⟩
  rw [Nat.add_comm, run, hnext]
  simp [bind, Except.bind, hrest, hword]

/-- Whether the lexer stands, behind white space, at the text of a line. -/
def Faces (l : Lexer) (text : List Char) (toks : List Token) (indent : Int)
    (outer : List Int) : Prop :=
  (content text).length ≤ l.cursor.rest.length ∧ ∃ index line,
    l.toNextWord = .ok
      ((atKey ⟨index, line, margin text⟩ (content text) toks indent outer).unroll (margin text))

theorem Faces.close {next : Int} (h : Faces l text toks indent (next :: outer))
    (hmargin : margin text < indent) : Faces l text (.blockEnd :: toks) next outer := by
  obtain ⟨hlen, index, line, hnext⟩ := h
  refine ⟨hlen, index, line, ?_⟩
  rw [hnext, unroll_atKey _ hmargin]

/-- White space is skipped, and the blocks that the column of the next word lies left of
are closed. A pending key stays as long as it is not stale. -/
theorem toNextWord_eq {cursor : Cursor} {keyAllowed : Bool} (hflow : l.flow = [])
    (hgap : skipGap false false l.keyAllowed l.cursor.mark l.cursor.rest = (cursor, keyAllowed))
    (hpending : refresh cursor.mark l.pending = .ok l.pending) :
    l.toNextWord =
      .ok ({ l with cursor := cursor, keyAllowed := keyAllowed }.unroll cursor.mark.column) := by
  cases l
  subst hflow
  rw [toNextWord, inFlow, List.isEmpty_nil, Bool.not_true, hgap]
  show dropStale _ >>= _ = _
  rw [dropStale]
  show (refresh cursor.mark _ >>= _) >>= _ = _
  rw [hpending]
  rfl

/-- The lexer stands at the spaces in front of a line, or somewhere among them. -/
theorem faces_atKey {rest : List Char} (hrest : StartsWord rest)
    (hcontent : content rest = content text) (hcolumn : m.column + margin rest = margin text) :
    Faces (atKey m rest toks indent outer) text toks indent outer := by
  refine ⟨hcontent ▸ length_content_le rest, m.index + margin rest, m.line, ?_⟩
  have hskip : skipGap false false true m rest =
      (⟨⟨m.index + margin rest, m.line, margin text⟩, content text⟩, true) := by
    rw [skipGap_line true m hrest, hcontent, ← hcolumn]
    rfl
  exact toNextWord_eq rfl hskip rfl

/-- The lexer stands at the end of the line in front of another. -/
theorem faces_newLine (h : StartsWord text) :
    Faces (atValue m ('\n' :: text) toks indent outer) text toks indent outer := by
  have hface : Faces (atKey m.newLine text toks indent outer) text toks indent outer :=
    faces_atKey h rfl (Nat.zero_add _)
  obtain ⟨-, index, line, hnext⟩ := hface
  exact ⟨Nat.le_succ_of_le (length_content_le text), index, line, hnext⟩

/-! ## Keys and values -/

/-- The tokens where a block that starts at a column is open. -/
def openedTokens (indent : Int) (column : Nat) (toks : List Token) : List Token :=
  if indent < column then .blockMapping :: toks else toks

/-- The columns of the blocks around one that starts at a column. -/
def openedOuter (indent : Int) (column : Nat) (outer : List Int) : List Int :=
  if indent < column then indent :: outer else outer

theorem openedTokens_of_lt {column : Nat} (h : indent < column) :
    openedTokens indent column toks = .blockMapping :: toks := if_pos h

theorem openedOuter_of_lt {column : Nat} (h : indent < column) :
    openedOuter indent column outer = indent :: outer := if_pos h

@[simp] theorem openedTokens_self (column : Nat) : openedTokens column column toks = toks :=
  if_neg (Int.lt_irrefl _)

@[simp] theorem openedOuter_self (column : Nat) : openedOuter column column outer = outer :=
  if_neg (Int.lt_irrefl _)

/-- The lexer behind a word that may be a key. -/
def atColon (key : PendingKey) (m : Mark) (rest : List Char) (toks : List Token) (indent : Int)
    (outer : List Int) : Lexer :=
  { atValue m rest toks indent outer with pending := some key }

theorem lexPlain_key {w : List Char} (hw : IsWord w) (hbehind : startsGap behind = true) :
    (atKey m (w ++ ':' :: behind) toks indent outer).lexPlain =
      .ok (atColon ⟨toks.length, m, indent == m.column⟩ (m.skip w.length) (':' :: behind)
        (.scalar .plain w :: toks) indent outer) := by
  show (plainScalar false (indent + 1) ⟨m, w ++ ':' :: behind⟩ >>= _) = _
  rw [plainScalar_key hw (indent + 1) m hbehind]
  rfl

/-- The colon makes the pending word a key, which opens a block where it stands right of
the block around it. -/
theorem lexValue_pending {w : List Char} {start : Mark} {required : Bool}
    (hindent : indent ≤ start.column) :
    (atColon ⟨toks.length, start, required⟩ m (':' :: behind) (.scalar .plain w :: toks) indent
        outer).lexValue =
      .ok (atValue (m.skip 1) behind
        (.value :: .scalar .plain w :: .key :: openedTokens indent start.column toks)
        start.column (openedOuter indent start.column outer)) := by
  -- A key right of the open block gets the mark of a new block in front of its own.
  rcases Int.lt_or_eq_of_le hindent with hlt | rfl
  · have hlater : toks.length + 1 + 1 - toks.length = 2 := by omega
    simp [lexValue, atColon, atValue, atKey, pushAt, roll, inFlow, pushOver, openedTokens,
      openedOuter, hlt, hlater, Cursor.skip]
  · simp [lexValue, atColon, atValue, atKey, pushAt, roll, inFlow, pushOver, openedTokens,
      openedOuter, Cursor.skip]

theorem lexWord_colon (hl : l.cursor.rest = ':' :: behind) (hbehind : startsGap behind = true) :
    l.lexWord ':' behind = l.lexValue := by
  rw [lexWord, atDocumentMark_of_ne hl (by decide), atDocumentMark_of_ne hl (by decide)]
  simp [hbehind]

theorem lexWord_openingBrace (hl : l.cursor.rest = '\x7b' :: behind) :
    l.lexWord '\x7b' behind = l.lexFlowStart .flowMapping := by
  rw [lexWord, atDocumentMark_of_ne hl (by decide), atDocumentMark_of_ne hl (by decide)]
  simp

theorem lexWord_closingBrace (hl : l.cursor.rest = '\x7d' :: behind) :
    l.lexWord '\x7d' behind = l.lexFlowEnd .flowMappingEnd := by
  rw [lexWord, atDocumentMark_of_ne hl (by decide), atDocumentMark_of_ne hl (by decide)]
  simp

theorem toNextWord_atColon {w : List Char} (hw : w.length ≤ keyReach) {key : PendingKey}
    (hindent : indent ≤ key.mark.column) :
    (atColon key (key.mark.skip w.length) (':' :: behind) toks indent outer).toNextWord =
      .ok (atColon key (key.mark.skip w.length) (':' :: behind) toks indent outer) := by
  -- No key reaches so far that it is stale at its colon.
  have hfresh : key.isStale (key.mark.skip w.length) = false :=
    Bool.or_eq_false_iff.mpr ⟨decide_eq_false (Nat.lt_irrefl _),
      decide_eq_false (Nat.not_lt.mpr (Nat.add_le_add_left hw _))⟩
  have hpending : refresh (key.mark.skip w.length) (some key) = .ok (some key) := by
    rw [refresh, hfresh]
    rfl
  have hgap (m : Mark) : skipGap false false false m (':' :: behind) =
      (⟨m, ':' :: behind⟩, false) := rfl
  refine (toNextWord_eq rfl (hgap _) hpending).trans (congrArg _ (unroll_of_le ?_))
  exact Int.le_trans hindent (Int.ofNat_le.mpr (Nat.le_add_right _ _))

theorem reaches_value {key : List Char} (hkey : IsKey key) {column : Nat}
    (hl : Faces l (List.replicate column ' ' ++ (key ++ ':' :: behind)) toks indent outer)
    (hindent : indent ≤ column) (hbehind : startsGap behind = true) :
    ∃ m : Mark, column ≤ m.column ∧
      Reaches l (atValue m behind
        (.value :: .scalar .plain key :: .key :: openedTokens indent column toks) column
        (openedOuter indent column outer)) := by
  obtain ⟨hlen, index, line, hnext⟩ := hl
  obtain ⟨c, rest, rfl, -⟩ := hkey.start
  have hc := hkey.chars c List.mem_cons_self
  rw [List.cons_append, content_spaces column hc] at hlen
  rw [List.cons_append, margin_spaces column hc, content_spaces column hc,
    unroll_of_le hindent] at hnext
  obtain ⟨start, rfl, hstart⟩ : ∃ start : Mark, start.column = column ∧
      l.toNextWord = .ok (atKey start (c :: (rest ++ ':' :: behind)) toks indent outer) :=
    ⟨_, rfl, hnext⟩
  have hword : Reaches l (atColon ⟨toks.length, start, indent == start.column⟩
      (start.skip (c :: rest).length) (':' :: behind) (.scalar .plain (c :: rest) :: toks) indent
      outer) := by
    refine .word hstart rfl ?_ ?_
    · rw [lexWord_word hkey.toIsWord rfl, ← List.cons_append,
        lexPlain_key hkey.toIsWord hbehind]
    · refine Nat.lt_of_lt_of_le ?_ hlen
      simp only [atColon, atValue, atKey, List.length_cons, List.length_append]
      omega
  refine ⟨(start.skip (c :: rest).length).skip 1, ?_, hword.trans ?_⟩
  · exact Nat.le_trans (Nat.le_add_right _ _) (Nat.le_add_right _ _)
  · refine .word (toNextWord_atColon hkey.length_le hindent) rfl ?_ (Nat.lt_succ_self _)
    rw [lexWord_colon rfl hbehind]
    exact lexValue_pending hindent

theorem reaches_word {w : List Char} (hw : IsWord w) {column : Nat} (hcolumn : column ≤ m.column)
    (hafter : StartsWord after) (hmargin : margin after ≤ column) :
    ∃ l, Reaches (atValue m (' ' :: (w ++ '\n' :: after)) toks column outer) l ∧
      Faces l after (.scalar .plain w :: toks) column outer := by
  obtain ⟨c, rest, rfl, -⟩ := hw.start
  let behind := rest ++ '\n' :: after
  let stop : Mark := (((m.skip 1).skip (c :: rest).length).newLine).skip (margin after)
  refine ⟨atKey stop (content after) (.scalar .plain (c :: rest) :: toks) column outer, ?_, ?_⟩
  · have hc := hw.chars c List.mem_cons_self
    have hgap : skipGap false false false m (' ' :: c :: behind) =
        (⟨m.skip 1, c :: behind⟩, false) := by
      have hline := skipGap_line false m (startsWord_spaces 1 hc behind)
      rwa [margin_spaces 1 hc, content_spaces 1 hc] at hline
    have hnext : (atValue m (' ' :: c :: behind) toks column outer).toNextWord =
        .ok (atValue (m.skip 1) (c :: behind) toks column outer) :=
      (toNextWord_eq rfl hgap rfl).trans
        (congrArg _ (unroll_of_le (Int.ofNat_le.mpr (Nat.le_succ_of_le hcolumn))))
    refine .word hnext rfl ?_ ?_
    · rw [lexWord_word hw rfl]
      have hless : (margin after : Int) < column + 1 :=
        Int.lt_add_one_iff.mpr (Int.ofNat_le.mpr hmargin)
      have hscalar := plainScalar_value hw (m.skip 1) hafter hless
      show (plainScalar false (column + 1) ⟨m.skip 1, c :: rest ++ '\n' :: after⟩ >>= _) = _
      rw [hscalar]
      rfl
    · have hlen := length_content_le after
      show (content after).length < (' ' :: (c :: rest ++ '\n' :: after)).length
      simp only [List.length_cons, List.length_append]
      omega
  · have hword : StartsWord (content after) := by rwa [StartsWord, content_content]
    refine faces_atKey hword (content_content after) ?_
    rw [margin_content]
    exact Nat.zero_add _

theorem reaches_braces {column : Nat} (hcolumn : column ≤ m.column) :
    Reaches (atValue m (' ' :: '\x7b' :: '\x7d' :: '\n' :: after) toks column outer)
      (atValue (((m.skip 1).skip 1).skip 1) ('\n' :: after)
        (.flowMappingEnd :: .flowMapping :: toks) column outer) := by
  let opened : Lexer :=
    { atKey ((m.skip 1).skip 1) ('\x7d' :: '\n' :: after) (.flowMapping :: toks) column outer with
      flow := [none] }
  have hopening : Reaches (atValue m (' ' :: '\x7b' :: '\x7d' :: '\n' :: after) toks column outer)
      opened := by
    have hgap : skipGap false false false m (' ' :: '\x7b' :: '\x7d' :: '\n' :: after) =
        (⟨m.skip 1, '\x7b' :: '\x7d' :: '\n' :: after⟩, false) := rfl
    have hnext := (toNextWord_eq (l := atValue m _ toks column outer) rfl hgap rfl).trans
      (congrArg _ (unroll_of_le (Int.ofNat_le.mpr (Nat.le_succ_of_le hcolumn))))
    refine .word hnext rfl ?_ (Nat.lt_succ_of_lt (Nat.lt_succ_self _))
    rw [lexWord_openingBrace rfl]
    rfl
  have hclosing : Reaches opened (atValue (((m.skip 1).skip 1).skip 1) ('\n' :: after)
      (.flowMappingEnd :: .flowMapping :: toks) column outer) := by
    have hnext : opened.toNextWord = .ok opened := rfl
    refine .word hnext rfl ?_ (Nat.lt_succ_self _)
    rw [lexWord_closingBrace rfl]
    rfl
  exact hopening.trans hclosing

theorem reaches_leaf {value : Leaf} (hvalue : value.WellFormed) {column : Nat}
    (hcolumn : column ≤ m.column) (hafter : StartsWord after) (hmargin : margin after ≤ column) :
    ∃ l, Reaches (atValue m (' ' :: (value.text ++ '\n' :: after)) toks column outer) l ∧
      Faces l after (value.tokens.reverse ++ toks) column outer := by
  cases value with
  | word w => exact reaches_word hvalue hcolumn hafter hmargin
  | braces => exact ⟨_, reaches_braces hcolumn, faces_newLine hafter⟩

/-! ## Outlines -/

theorem Faces.close_outline {o : Outline} (ho : o ≠ .nil) {column depth : Nat}
    (hdepth : column < depth) (hmargin : margin after ≤ column)
    (hl : Faces l after (o.entryTokens.reverse ++ openedTokens column depth toks) depth
      (openedOuter column depth outer)) :
    Faces l after (o.tokens.reverse ++ toks) column outer := by
  have hlt := Int.ofNat_lt.mpr hdepth
  rw [openedTokens_of_lt hlt, openedOuter_of_lt hlt] at hl
  have hclosed := hl.close (Int.ofNat_lt.mpr (Nat.lt_of_le_of_lt hmargin hdepth))
  simpa [Outline.tokens_of_ne_nil ho] using hclosed

/-- The lines of an outline are read. Where it stands right of the block around it, its
first line opens a block; otherwise the block is open. -/
theorem faces_outline {o : Outline} (ho : o.WellFormed) {column : Nat}
    (hl : Faces l (o.text column ++ after) toks indent outer) (hindent : indent ≤ column)
    (hnil : o = .nil → indent = column) (hafter : StartsWord after)
    (hmargin : margin after ≤ column) :
    ∃ l', Reaches l l' ∧
      Faces l' after (o.entryTokens.reverse ++ openedTokens indent column toks) column
        (openedOuter indent column outer) := by
  -- `indent` lies left of `column` for the first line of a block only: that line opens the
  -- block, and the lines behind it find it open.
  induction o generalizing l column indent toks outer after with
  | nil =>
    obtain rfl : indent = column := hnil rfl
    exact ⟨l, .refl l, by simpa [Outline.text, Outline.entryTokens] using hl⟩
  | line key value rest ih =>
    obtain ⟨hkey, hvalue, hrest⟩ := ho
    have hline : Outline.text column (.line key value rest) ++ after =
        List.replicate column ' ' ++
          (key ++ ':' :: ' ' :: (value.text ++ '\n' :: (rest.text column ++ after))) := by
      simp [Outline.text]
    rw [hline] at hl
    obtain ⟨m, hm, hreach⟩ := reaches_value hkey hl hindent rfl
    obtain ⟨l₁, hreach₁, hl₁⟩ := reaches_leaf hvalue hm
      (Outline.startsWord_text hrest column hafter) (Outline.margin_text_le hrest hmargin)
    obtain ⟨l₂, hreach₂, hl₂⟩ :=
      ih hrest hl₁ (Int.le_refl _) (fun _ => rfl) hafter hmargin
    refine ⟨l₂, (hreach.trans hreach₁).trans hreach₂, ?_⟩
    simpa [Outline.entryTokens, Outline.tokens] using hl₂
  | block key inner rest ihInner ihRest =>
    obtain ⟨hkey, hinner, hrest⟩ := ho
    have hline : Outline.text column (.block key inner rest) ++ after =
        List.replicate column ' ' ++ (key ++ ':' :: '\n' ::
          (inner.text (column + step) ++ (rest.text column ++ after))) := by
      simp [Outline.text]
    rw [hline] at hl
    obtain ⟨m, hm, hreach⟩ := reaches_value hkey hl hindent rfl
    have hstarts := Outline.startsWord_text hrest column hafter
    have hmarginRest := Outline.margin_text_le hrest hmargin
    -- The lines below the key are a block of their own, which the line behind them closes.
    -- Without such lines nothing is opened.
    have hblock : ∃ l₁, Reaches l l₁ ∧ Faces l₁ (rest.text column ++ after)
        (inner.tokens.reverse ++
          (.value :: .scalar .plain key :: .key :: openedTokens indent column toks))
        column (openedOuter indent column outer) := by
      have hface : Faces (atValue m ('\n' :: _) (.value :: .scalar .plain key :: .key ::
          openedTokens indent column toks) column (openedOuter indent column outer)) _ _ _ _ :=
        faces_newLine (Outline.startsWord_text hinner (column + step) hstarts)
      by_cases hempty : inner = .nil
      · subst hempty
        exact ⟨_, hreach, hface⟩
      · have hdepth : column < column + step := Nat.lt_add_of_pos_right (by decide)
        obtain ⟨l₁, hreach₁, hl₁⟩ := ihInner hinner hface (Int.ofNat_le.mpr (Nat.le_of_lt hdepth))
          (fun h => absurd h hempty) hstarts (Nat.le_trans hmarginRest (Nat.le_of_lt hdepth))
        exact ⟨l₁, hreach.trans hreach₁, hl₁.close_outline hempty hdepth hmarginRest⟩
    obtain ⟨l₁, hreach₁, hl₁⟩ := hblock
    obtain ⟨l₂, hreach₂, hl₂⟩ :=
      ihRest hrest hl₁ (Int.le_refl _) (fun _ => rfl) hafter hmargin
    refine ⟨l₂, hreach₁.trans hreach₂, ?_⟩
    simpa [Outline.entryTokens, Outline.tokens] using hl₂

theorem run_end (h : Faces l [] toks 0 [-1]) (fuel : Nat) :
    run (fuel + 1) l = .ok (toks.reverse ++ [.blockEnd]) := by
  obtain ⟨-, index, line, hnext⟩ := h
  rw [unroll_of_le (Int.le_refl 0)] at hnext
  rw [run, hnext]
  show Except.ok (Token.blockEnd :: toks).reverse = _
  rw [List.reverse_cons]

end Lexer

theorem tokens_outline {o : Outline} (ho : o.WellFormed) : tokens (o.text 0) = .ok o.tokens := by
  rw [tokens, if_pos (List.all_eq_true.mpr (Outline.isAllowed_text ho 0))]
  by_cases hempty : o = .nil
  · subst hempty
    rfl
  · have hend : StartsWord [] := fun c hc => nomatch hc
    have hstart : StartsWord (o.text 0) := by
      simpa using Outline.startsWord_text ho 0 hend
    have hface : Lexer.Faces { cursor := ⟨{}, o.text 0⟩ } (o.text 0 ++ []) [] (-1) [] := by
      rw [List.append_nil]
      exact Lexer.faces_atKey hstart rfl (Nat.zero_add _)
    obtain ⟨l, ⟨n, hlen, hrun⟩, hl⟩ := Lexer.faces_outline ho hface (by decide)
      (fun h => absurd h hempty) hend (Nat.le_refl 0)
    -- Each of the `n` words took a character, so some fuel is left for the end of the text.
    have hfuel : (o.text 0).length + 1 = n + ((o.text 0).length - n + 1) := by
      have hn : n + l.cursor.rest.length ≤ (o.text 0).length := hlen
      omega
    rw [hfuel, hrun, Lexer.run_end hl, Outline.tokens_of_ne_nil hempty]
    simp [Lexer.openedTokens]

end CarrierAuth.Yaml
