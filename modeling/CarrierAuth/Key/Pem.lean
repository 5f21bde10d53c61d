import CarrierAuth.Key.Der
import CarrierAuth.Octets.Base64

/-
  Public keys in PEM — the textual encoding of RFC 7468 in its strict form.

  The key stands between two boundary lines. Text may precede the first boundary
  where that starts a line; one line end may follow the last. Lines of the body
  have sixty-four symbols but for the last, and the Base64 text is padded.
-/
namespace CarrierAuth.Pem

def beginMark : Octets := octets "-----BEGIN "

def endMark : Octets := octets "-----END "

def closeMark : Octets := octets "-----"

/-- The label of a public key. -/
def label : Octets := octets "PUBLIC KEY"

def lineLength : Nat := 64

def dropFront (front : Octets) (data : Octets) : Option Octets :=
  if front.isPrefixOf data then some (data.drop front.length) else none

def dropEnd (tail : Octets) (data : Octets) : Option Octets :=
  if tail.isSuffixOf data then some (data.take (data.length - tail.length)) else none

/-- Takes one line end off the front: LF, CR LF or CR. -/
def dropLineEnd : Octets → Option Octets
  | 10 :: rest => some rest
  | 13 :: 10 :: rest => some rest
  | 13 :: rest => some rest
  | _ => none

/-- Takes one line end off the end. -/
def dropFinalLineEnd (data : Octets) : Option Octets :=
  match data.reverse with
  | 10 :: 13 :: rest => some rest.reverse
  | 10 :: rest => some rest.reverse
  | 13 :: rest => some rest.reverse
  | _ => none

/-- What follows the text before the first boundary that starts a line. -/
def afterPreamble : Octets → Option Octets
  | [] => none
  | b :: rest =>
    if b = 0 then none
    else if b = 10 ∧ beginMark.isPrefixOf rest then some rest
    else afterPreamble rest

/-- The text from the first boundary on. -/
def fromBoundary (data : Octets) : Option Octets :=
  if beginMark.isPrefixOf data then some data else afterPreamble data

/-- The text between the two boundaries. -/
def body (data : Octets) : Option Octets := do
  let data ← fromBoundary data
  let data ← dropFront beginMark data
  let data ← dropFront label data
  let data ← dropFront closeMark data
  let data ← dropLineEnd data
  let data := (dropFinalLineEnd data).getD data
  let data ← dropEnd closeMark data
  let data ← dropEnd label data
  let data ← dropEnd endMark data
  dropFinalLineEnd data

/-- Joins the lines of the body; `count` bounds their number. -/
def joinLines : Nat → Octets → Option Octets
  | 0, _ => none
  | count + 1, data =>
    if data.length ≤ lineLength then some data
    else do
      let rest ← dropLineEnd (data.drop lineLength)
      let tail ← joinLines count rest
      return data.take lineLength ++ tail

/-- Reads padded Base64 text in its only form, which is not empty. -/
def readPadded (text : Octets) : Option Octets :=
  match Base64.decodeCompact text with
  | .ok data => if Base64.encodeOctets data = text ∧ ¬ text.isEmpty then some data else none
  | .error _ => none

/-- The octets that a text encodes under the label of a public key. -/
def decode (data : Octets) : Option Octets := do
  let lines ← body data
  let text ← joinLines (lines.length + 1) lines
  readPadded text

def readKey (s : String) : Option PublicKey := (decode (octets s)).bind Der.readKey

end CarrierAuth.Pem
