import CarrierAuth.Yaml.Word

/-
  YAML scalars — the text of plain, quoted and block scalars.

  Each reader takes the cursor at the scalar's start and gives the text and the
  cursor behind it.
-/
namespace CarrierAuth.Yaml

/-! ## Plain scalars -/

/-- The brackets, braces and the comma, which end a plain scalar in a flow
collection. -/
def isFlowIndicator (c : Char) : Bool :=
  c == ',' || c == '[' || c == ']' || c == '\x7b' || c == '\x7d'

/-- The indicators that no plain scalar starts with. -/
def isIndicator (c : Char) : Bool :=
  isFlowIndicator c || ['#', '&', '*', '!', '|', '>', '\'', '"', '%', '@', '\x60'].contains c

/-- Whether a colon may not stand before this text in a flow collection. -/
def forbidsColon : List Char → Bool
  | [] => false
  | c :: _ => isFlowIndicator c || c == '?'

/-- One run of a plain scalar, up to a separator or an indicator, and the text
behind it. -/
def plainRun (inFlow : Bool) : List Char → Option (List Char × List Char)
  | [] => some ([], [])
  | c :: rest =>
    if isGap c then some ([], c :: rest)
    else if inFlow && c == ':' && forbidsColon rest then none
    else if (c == ':' && startsGap rest) || (inFlow && isFlowIndicator c) then
      some ([], c :: rest)
    else (plainRun inFlow rest).map fun (run, after) => (c :: run, after)

/-- The white space behind a run. A tab may not indent a line of the scalar. -/
def plainGap (indent : Int) (g : Gap) (m : Mark) : List Char → Except Fault (Gap × Cursor)
  | [] => .ok (g, ⟨m, []⟩)
  | c :: rest =>
    if isHalfBreak c rest then plainGap indent g (m.skip 1) rest
    else if isBreak c then plainGap indent (g.addBreak (breakAs c)) m.newLine rest
    else if isBlank c then
      if g.hasBreak && c == '\t' && m.column < indent then .error .indentation
      else plainGap indent (g.addBlank c) (m.skip 1) rest
    else .ok (g, ⟨m, c :: rest⟩)

/-- The runs of a plain scalar behind a gap: their text, the white space left over
at the end, and the cursor. A line that is indented less ends the scalar. -/
def plainRuns (inFlow : Bool) (indent : Int) :
    Nat → Gap → Cursor → Except Fault (List Char × Gap × Cursor)
  | 0, g, c => .ok ([], g, c)
  | fuel + 1, g, c =>
    if c.atAnyDocumentMark || c.rest.head? == some '#' then .ok ([], g, c)
    else match plainRun inFlow c.rest with
      | none => .error .scalar
      | some ([], _) => .ok ([], g, c)
      | some (run, after) => do
        let m := c.mark.skip run.length
        if startsGap after && !after.isEmpty then
          let (g', c') ← plainGap indent .empty m after
          if !inFlow && c'.mark.column < indent then
            return (g.text ++ run, g', c')
          else
            let (text, g'', c'') ← plainRuns inFlow indent fuel g' c'
            return (g.text ++ run ++ text, g'', c'')
        else return (g.text ++ run, .empty, ⟨m, after⟩)

/-- A plain scalar: its text, whether line breaks follow it, and the cursor. -/
def plainScalar (inFlow : Bool) (indent : Int) (c : Cursor) :
    Except Fault (List Char × Bool × Cursor) := do
  let (text, g, c) ← plainRuns inFlow indent (c.rest.length + 1) .empty c
  return (text, g.hasBreak, c)

/-! ## Quoted scalars -/

/-- A single-quoted scalar from behind its opening quote on. -/
def singleQuoted (g : Gap) (m : Mark) : List Char → Except Fault (List Char × Cursor)
  | [] => .error .scalar
  | '\'' :: '\'' :: rest => do
    let (text, c) ← singleQuoted .empty (m.skip 2) rest
    return (g.text ++ '\'' :: text, c)
  | c :: rest =>
    if c = '\'' then .ok (g.text, ⟨m.skip 1, rest⟩)
    else if Cursor.atAnyDocumentMark ⟨m, c :: rest⟩ then .error .scalar
    else if isHalfBreak c rest then singleQuoted g (m.skip 1) rest
    else if isBreak c then singleQuoted (g.addBreak (breakAs c)) m.newLine rest
    else if isBlank c then singleQuoted (g.addBlank c) (m.skip 1) rest
    else do
      let (text, cur) ← singleQuoted .empty (m.skip 1) rest
      return (g.text ++ c :: text, cur)

/-- What stands before the next character of a double-quoted scalar: nothing of
note, a backslash, or the start of a character's code. -/
inductive Escape where
  | none
  | backslash
  | code (left value : Nat)
  deriving DecidableEq, Repr

/-- The character of a one-letter escape. -/
def escaped? (c : Char) : Option Char :=
  match c with
  | '0' => some '\x00'
  | 'a' => some '\x07'
  | 'b' => some '\x08'
  | 't' => some '\t'
  | '\t' => some '\t'
  | 'n' => some '\n'
  | 'v' => some '\x0b'
  | 'f' => some '\x0c'
  | 'r' => some '\r'
  | 'e' => some '\x1b'
  | ' ' => some ' '
  | '"' => some '"'
  | '/' => some '/'
  | '\\' => some '\\'
  | 'N' => some '\u0085'
  | '_' => some '\u00a0'
  | 'L' => some '\u2028'
  | 'P' => some '\u2029'
  | _ => none

/-- The number of digits of an escape that gives a character by its code. -/
def codeLength? (c : Char) : Option Nat :=
  match c with
  | 'x' => some 2
  | 'u' => some 4
  | 'U' => some 8
  | _ => none

def ofCode? (n : Nat) : Option Char :=
  if (0xd800 ≤ n ∧ n ≤ 0xdfff) ∨ 0x10ffff < n then none else some (Char.ofNat n)

/-- A double-quoted scalar from behind its opening quote on. -/
def doubleQuoted (e : Escape) (g : Gap) (m : Mark) :
    List Char → Except Fault (List Char × Cursor)
  | [] => .error .scalar
  | c :: rest =>
    match e with
    | .code left value =>
      match Text.digitValue? c with
      | none => .error .scalar
      | some d =>
        let value := 16 * value + d
        if left ≤ 1 then
          match ofCode? value with
          | none => .error .scalar
          | some ch => do
            let (text, cur) ← doubleQuoted .none .empty (m.skip 1) rest
            return (ch :: text, cur)
        else doubleQuoted (.code (left - 1) value) .empty (m.skip 1) rest
    | .backslash =>
      if isHalfBreak c rest then doubleQuoted .backslash .empty (m.skip 1) rest
      else if isBreak c then doubleQuoted .none (.breaks none []) m.newLine rest
      else match escaped? c, codeLength? c with
        | some ch, _ => do
          let (text, cur) ← doubleQuoted .none .empty (m.skip 1) rest
          return (ch :: text, cur)
        | none, some length => doubleQuoted (.code length 0) .empty (m.skip 1) rest
        | none, none => .error .scalar
    | .none =>
      if Cursor.atAnyDocumentMark ⟨m, c :: rest⟩ then .error .scalar
      else if c = '"' then .ok (g.text, ⟨m.skip 1, rest⟩)
      else if c = '\\' then do
        let (text, cur) ← doubleQuoted .backslash .empty (m.skip 1) rest
        return (g.text ++ text, cur)
      else if isHalfBreak c rest then doubleQuoted .none g (m.skip 1) rest
      else if isBreak c then doubleQuoted .none (g.addBreak (breakAs c)) m.newLine rest
      else if isBlank c then doubleQuoted .none (g.addBlank c) (m.skip 1) rest
      else do
        let (text, cur) ← doubleQuoted .none .empty (m.skip 1) rest
        return (g.text ++ c :: text, cur)

/-! ## Block scalars -/

/-- What becomes of the line breaks at the end of a block scalar. -/
inductive Chomp where
  | strip | clip | keep
  deriving DecidableEq, Repr

/-- The indicators of a block scalar: chomping and indentation, in either order. -/
def blockHeader (c : Cursor) : Except Fault (Chomp × Nat × Cursor) :=
  let chomp? : Char → Option Chomp := fun
    | '+' => some .keep
    | '-' => some .strip
    | _ => none
  let digit? (ch : Char) : Except Fault (Option Nat) :=
    if ch = '0' then .error .indentation
    else .ok (if ch.isDigit then some (ch.toNat - 48) else none)
  match c.rest with
  | [] => .ok (.clip, 0, c)
  | a :: rest =>
    match chomp? a with
    | some chomp =>
      match rest with
      | [] => .ok (chomp, 0, c.skip 1)
      | b :: _ => do
        match ← digit? b with
        | some n => return (chomp, n, c.skip 2)
        | none => return (chomp, 0, c.skip 1)
    | none => do
      match ← digit? a with
      | none => return (.clip, 0, c)
      | some n =>
        match rest.head?.bind chomp? with
        | some chomp => return (chomp, n, c.skip 2)
        | none => return (.clip, n, c.skip 1)

/-- The blank lines and the indentation before a line of a block scalar: the
breaks, the widest indentation seen, and the cursor. The indentation 0 is not known
yet. -/
def blockBreaks (indent widest : Nat) (m : Mark) :
    List Char → Except Fault (List Char × Nat × Cursor)
  | [] => .ok ([], max widest m.column, ⟨m, []⟩)
  | c :: rest =>
    let before := indent == 0 || m.column < indent
    if c == ' ' && before then blockBreaks indent widest (m.skip 1) rest
    else if c == '\t' && before then .error .indentation
    else if isHalfBreak c rest then blockBreaks indent (max widest m.column) (m.skip 1) rest
    else if isBreak c then do
      let (breaks, widest, cur) ← blockBreaks indent (max widest m.column) m.newLine rest
      return (breakAs c :: breaks, widest, cur)
    else .ok ([], max widest m.column, ⟨m, c :: rest⟩)

/-- The line breaks between two lines of a folded scalar. -/
def foldBreaks (first : Option Char) (more : List Char) : List Char :=
  match first, more with
  | some '\n', [] => [' ']
  | some '\n', more => more
  | first, more => first.toList ++ more

/-- The lines of a block scalar: their text, the line break behind the last one, the
ones after that, and the cursor. `first` and `more` are the line breaks before the
line, and `spaced` says whether the line before it starts with a blank. -/
def blockLines (literal : Bool) (indent : Nat) :
    Nat → Option Char → List Char → Bool → Cursor →
      Except Fault (List Char × Option Char × List Char × Cursor)
  | 0, first, more, _, c => .ok ([], first, more, c)
  | fuel + 1, first, more, spaced, c =>
    if c.mark.column ≠ indent ∨ c.rest.isEmpty then .ok ([], first, more, c)
    else do
      let spacedHere := (c.rest.head?.map isBlank).getD false
      let lead :=
        if !literal && !spaced && !spacedHere then foldBreaks first more
        else first.toList ++ more
      let (line, c) := c.span (!isBreak ·)
      let first := c.rest.head?.map breakAs
      let c := c.skipBreak
      let (more, _, c) ← blockBreaks indent 0 c.mark c.rest
      let (text, first, more, c) ← blockLines literal indent fuel first more spacedHere c
      return (lead ++ line ++ text, first, more, c)

/-- A block scalar from behind its indicator on; `parent` is the indentation of the
collection around it. -/
def blockScalar (literal : Bool) (parent : Int) (c : Cursor) :
    Except Fault (List Char × Cursor) := do
  let (chomp, increment, c) ← blockHeader c
  match c.endLine with
  | none => .error .scalar
  | some c =>
    let given := if increment = 0 then 0 else (max parent 0).toNat + increment
    let (more, widest, c) ← blockBreaks given 0 c.mark c.rest
    let indent := if given = 0 then max widest (max (parent + 1).toNat 1) else given
    let (text, first, more, c) ←
      blockLines literal indent (c.rest.length + 1) none more false c
    let tail := match chomp with
      | .strip => []
      | .clip => first.toList
      | .keep => first.toList ++ more
    return (text ++ tail, c)

end CarrierAuth.Yaml
