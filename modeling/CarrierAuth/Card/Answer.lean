import CarrierAuth.Card.Gsm
import CarrierAuth.Card.Umts

/-
  Answers for the supplicant — the text handed back for a challenge: a marker for
  the kind of answer, then the fields in hexadecimal, each behind a colon.
-/
namespace CarrierAuth

/-- The kind of an answer. -/
inductive AnswerKind where
  | gsmAuth | umtsAuth | umtsAuts
  deriving DecidableEq, Repr

namespace AnswerKind

def all : List AnswerKind := [.gsmAuth, .umtsAuth, .umtsAuts]

def name : AnswerKind → String
  | .gsmAuth => "GsmAuth"
  | .umtsAuth => "UmtsAuth"
  | .umtsAuts => "UmtsAuts"

def ofName? (s : String) : Option AnswerKind := all.find? (·.name == s)

/-- The marker in front of an answer. -/
def marker : AnswerKind → String
  | .gsmAuth => "GSM-AUTH"
  | .umtsAuth => "UMTS-AUTH"
  | .umtsAuts => "UMTS-AUTS"

end AnswerKind

/-- A challenge as the supplicant hands it over. -/
structure AnswerRequest where
  networkId : Int
  protocol : EapMethod
  ssid : String
  data : List String
  deriving DecidableEq, Repr

/-- An answer for the supplicant. -/
structure Answer where
  kind : AnswerKind
  body : String
  deriving DecidableEq, Repr

namespace Answer

def render (a : Answer) : String := a.kind.marker ++ a.body

/-- The answer of a list of GSM records. -/
def ofRecords (records : List GsmRecord) : Answer := ⟨.gsmAuth, renderRecords records⟩

end Answer

namespace UmtsResult

def kind : UmtsResult → AnswerKind
  | .success .. => .umtsAuth
  | .syncFailure _ => .umtsAuts

def answer (r : UmtsResult) : Answer := ⟨r.kind, r.render⟩

end UmtsResult

end CarrierAuth
