import CarrierAuth.Card.Session
import CarrierAuth.Text.Blank

/-
  GSM authentication — each challenge is a random number in hexadecimal text, and
  the card answers with a signed response (SRES) and a session key (Kc).

  Two layouts exist. In the counted one the challenge and both fields carry their
  length; in the fixed one the challenge is bare and the reply is four octets of
  SRES and eight of Kc. A batch leaves out challenges that are blank or no
  hexadecimal text and stops at the first reply that cannot be used.
-/
namespace CarrierAuth

/-- The card's answer to a GSM challenge. -/
structure GsmRecord where
  kc : Octets
  sres : Octets
  deriving DecidableEq, Repr

def GsmRecord.render (r : GsmRecord) : String :=
  ":" ++ Hex.encode r.kc ++ ":" ++ Hex.encode r.sres

def renderRecords (records : List GsmRecord) : String :=
  String.join (records.map GsmRecord.render)

/-- How challenges and replies are laid out. -/
inductive GsmLayout where
  | counted | fixed
  deriving DecidableEq, Repr

namespace Gsm

/-- The length of SRES in the fixed layout. -/
def sresLength : Nat := 4

/-- The length of Kc in the fixed layout. -/
def kcLength : Nat := 8

/-- Reads a reply in the counted layout: SRES, Kc, and the octets left over. -/
def readCounted (data : Octets) : Except AuthFault (GsmRecord × Octets) := do
  if data.length ≤ shortestReply then throw (.replyTooShort data.length)
  let (sres, data) ← readField .sres data
  let (kc, rest) ← readField .kc data
  return (⟨kc, sres⟩, rest)

def readFixed (data : Octets) : Except AuthFault GsmRecord :=
  if data.length = sresLength + kcLength then
    .ok ⟨data.drop sresLength, data.take sresLength⟩
  else .error (.unexpectedLength (sresLength + kcLength) data.length)

/-- The event for octets that follow Kc. -/
def trailingEvent (count : Nat) : Event :=
  { origin := .gsm, level := .debug, message := "Ignoring trailing bytes after Kc"
    fields := [("trailing", .number count)] }

/-- Decodes a reply in the counted layout; what follows Kc is logged and dropped. -/
def decodeCounted (data : Octets) : Traced (Except AuthFault GsmRecord) :=
  match readCounted data with
  | .error fault => pure (.error fault)
  | .ok (record, rest) => do
    unless rest.isEmpty do Traced.log [trailingEvent rest.length]
    return .ok record

def decode : GsmLayout → Octets → Traced (Except AuthFault GsmRecord)
  | .counted, data => decodeCounted data
  | .fixed, data => pure (readFixed data)

/-- The octets to send for a challenge. -/
def encodeChallenge : GsmLayout → String → Except CodecFault Octets
  | .counted, text => readHexField text
  | .fixed, text => readHex text

/-- The event for a challenge that is left out. -/
def skippedEvent (index : Nat) (fault : CodecFault) : Event :=
  { origin := .gsm, level := .warn, message := "Skipping malformed challenge: " ++ fault.message
    fields := [("index", .number index)] }

/-- The event for a reply that cannot be used; `what` says how. -/
def failedEvent (what : String) (app : CardApp) (index : Nat) (fault : AuthFault) : Event :=
  { origin := .gsm, level := .warn, message := what ++ ": " ++ fault.message
    fields := [("index", .number index), ("app_type", .shown app.display)] }

/-- The command for the octets of a challenge. -/
def command (app : CardApp) (data : Octets) : Command :=
  ⟨app, .eapSim, Base64.encode data⟩

/-- Reads the reply to the challenge at `index`. -/
def readReply (layout : GsmLayout) (app : CardApp) (index : Nat) (reply : Option String) :
    Traced (Except AuthFault GsmRecord) :=
  match replyOctets reply with
  | .error fault => do
    Traced.log [failedEvent "GSM authentication failed" app index fault]
    return .error fault
  | .ok data => do
    Traced.log (exchangeEvents .fromCard "GSM response" data)
    match ← decode layout data with
    | .error fault =>
      Traced.log [failedEvent "Invalid GSM response" app index fault]
      return .error fault
    | .ok record => return .ok record

/-- Puts the octets of the challenge at `index` to the card. -/
def answer {σ : Type} (card : Card σ) (layout : GsmLayout) (app : CardApp) (index : Nat)
    (data : Octets) : Session σ (Except AuthFault GsmRecord) := do
  Session.log (exchangeEvents .toCard "GSM RAND" data)
  let reply ← Session.ask card (command app data)
  Session.offline (readReply layout app index reply)

/-- Answers challenges, the first of them at `index` of the caller's list. -/
def answerFrom {σ : Type} (card : Card σ) (layout : GsmLayout) (app : CardApp) :
    Nat → List String → Session σ (Except AuthFault (List GsmRecord))
  | _, [] => return .ok []
  | index, text :: rest =>
    if Text.isBlank text then answerFrom card layout app (index + 1) rest
    else match encodeChallenge layout text with
      | .error fault => do
        Session.log [skippedEvent index fault]
        answerFrom card layout app (index + 1) rest
      | .ok data => do
        match ← answer card layout app index data with
        | .error fault => return .error fault
        | .ok record =>
          let records ← answerFrom card layout app (index + 1) rest
          return records.map (record :: ·)

def authenticate {σ : Type} (card : Card σ) (layout : GsmLayout) (app : CardApp)
    (challenges : List String) : Session σ (Except AuthFault (List GsmRecord)) :=
  answerFrom card layout app 0 challenges

end Gsm

end CarrierAuth
