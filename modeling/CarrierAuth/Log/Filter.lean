import CarrierAuth.Log
import CarrierAuth.Text.Blank
import CarrierAuth.Text.Digits

/-
  Filters of the log — which events are shown.

  A filter is a list of directives. A directive is about the parts of the library
  whose path starts with its target and sets the least severe level shown for them;
  it may ask that an event has some fields. The directive with the longest target
  decides, of two with the same target and as many fields the later one. A directive
  about spans says nothing about events.
-/
namespace CarrierAuth

/-- The least severe level shown; `none` shows nothing. -/
abbrev Threshold := Option Level

namespace Threshold

def shows (t : Threshold) (level : Level) : Bool :=
  match t with
  | some least => least.severity ≤ level.severity
  | none => false

/-- The thresholds in the order of their numbers. -/
def numbered : List Threshold :=
  [none, some .error, some .warn, some .info, some .debug, some .trace]

/-- Reads a number with or without a plus sign. -/
def number? (text : List Char) : Option Nat :=
  Text.digitsValue? 10 (if text.head? = some '+' then text.tail else text)

/-- Reads a threshold: its number, the name of a level in any case, `off`, or nothing
for `error`. -/
def read? (text : List Char) : Option Threshold :=
  let name := String.ofList (text.map Char.toLower)
  match (number? text).bind (numbered[·]?) with
  | some t => some t
  | none =>
    if name = "" then some (some .error)
    else if name = "off" then some none
    else (Level.ofName? name).map some

end Threshold

/-- What is shown of the parts that a target names. -/
structure Directive where
  target : String := ""
  /-- The fields that an event must have. -/
  fields : List String := []
  threshold : Threshold
  deriving DecidableEq, Repr

namespace Directive

/-- The threshold of a directive that names none. -/
def widest : Threshold := some .trace

/-- Whether a directive is about an event. -/
def concerns (d : Directive) (e : Event) : Bool :=
  d.target.toList.isPrefixOf e.origin.path.toList
    && d.fields.all fun f => f == "message" || (e.fields.map (·.1)).contains f

/-- Whether a directive goes before another one that stands earlier in the list. -/
def overrides (d earlier : Directive) : Bool :=
  octetLength earlier.target < octetLength d.target
    || (octetLength earlier.target == octetLength d.target
      && earlier.fields.length ≤ d.fields.length)

/-- Whether a character may start a directive without a span; all characters outside
ASCII may. -/
def mayStart (c : Char) : Bool :=
  c == '-' || c == ':' || c == '_' || c.isAlphanum || 0x80 ≤ c.toNat

/-- The threshold behind the equals sign. -/
def readThreshold? (text : List Char) : Option Threshold :=
  if text.isEmpty then some widest else Threshold.read? text

/-- The threshold behind a span, where there is one. -/
def afterSpan? : List Char → Option Threshold
  | [] => some widest
  | '=' :: text => readThreshold? text
  | _ => none

/-- Reads a directive from its opening bracket on: a span's name, fields in braces, and
a threshold. The result is `none` inside where the directive is about spans. -/
def readSpan? (target : String) (text : List Char) : Option (Option Directive) := do
  let name := text.takeWhile fun c => c != ']' && c != '\x7b'
  match text.dropWhile fun c => c != ']' && c != '\x7b' with
  | ']' :: rest =>
    let _ ← afterSpan? rest
    return none
  | '\x7b' :: rest =>
    let field := rest.takeWhile (· != '\x7d')
    match rest.dropWhile (· != '\x7d') with
    | '\x7d' :: ']' :: rest =>
      let threshold ← afterSpan? rest
      if field.isEmpty then none
      else if !name.isEmpty || field.contains '=' then return none
      else return some ⟨target, [String.ofList field], threshold⟩
    | _ => none
  | _ => none

/-- Reads a directive without equals sign and span: a threshold for every part, or the
name of a part. -/
def readBare (word : List Char) : Directive :=
  match Threshold.read? word with
  | some t => { threshold := t }
  | none => ⟨String.ofList word, [], widest⟩

/-- Reads a directive. White space belongs to the name of a part; only there may it
stand in front. -/
def read? (text : List Char) : Option (Option Directive) :=
  match text.dropWhile Text.isWhiteSpace with
  | [] => none
  | c :: _ =>
    if !mayStart c && c != '[' then none
    else
      let word := text.takeWhile fun c => c != '=' && c != '['
      match text.dropWhile fun c => c != '=' && c != '[' with
      | [] => some (some (readBare word))
      | mark :: rest =>
        if word.head?.any Text.isWhiteSpace then none
        else if mark = '=' then
          (readThreshold? rest).map fun t => some ⟨String.ofList word, [], t⟩
        else readSpan? (String.ofList word) rest

end Directive

/-- A filter, its directives in order. -/
abbrev Filter := List Directive

namespace Filter

def ofLevel (level : Level) : Filter := [{ threshold := some level }]

def splitCommas : List Char → List (List Char)
  | [] => [[]]
  | ',' :: rest => [] :: splitCommas rest
  | c :: rest =>
    match splitCommas rest with
    | part :: parts => (c :: part) :: parts
    | [] => [[c]]

/-- Reads a filter; `none` where a directive cannot be read. A filter without any
directive shows errors. -/
def read? (text : String) : Option Filter := do
  let parts := (splitCommas text.toList).filter (!·.isEmpty)
  if parts.isEmpty then return ofLevel .error
  let directives ← parts.mapM Directive.read?
  return directives.filterMap id

/-- The directive that decides about an event. -/
def deciding (f : Filter) (e : Event) : Option Directive :=
  (f.filter (·.concerns e)).foldl (fun best d =>
    match best with
    | some b => if d.overrides b then some d else some b
    | none => some d) none

def shows (f : Filter) (e : Event) : Bool :=
  match f.deciding e with
  | some d => d.threshold.shows e.level
  | none => false

end Filter

end CarrierAuth
