import CarrierAuth.Client

/-
  Devices — a phone with any number of subscriptions, and sequences of requests to
  its client.

  A device keeps, for each subscription, what it answers about it (`Line`) and the state
  of its card. It serves the client as a provider whose states are the states of all
  cards together; a request runs on all of them, and which ones it reads or moves is for
  the client to decide.
-/
namespace CarrierAuth

inductive Request where
  | simIdentity (network : NetworkMethod)
  | anonymousIdentity (network : NetworkMethod)
  | decoratePseudonym (pseudonym : String)
  | gsm (route : GsmRoute) (challenges : List String)
  | umts (request : AnswerRequest)
  deriving DecidableEq, Repr

inductive Response where
  | identities (pair : IdentityPair)
  | identity (text : String)
  | pseudonym (text : Option String)
  | records (records : List GsmRecord)
  | umts (result : UmtsResult)
  deriving DecidableEq, Repr

variable {σ : Type}

/-- Serves one request about a subscription. -/
def Client.perform (c : Client) (provider : Provider σ) (id : SubscriptionId) :
    Request → Session σ (Except ClientFault Response)
  | .simIdentity network => do
    let pair ← Session.offline (c.simIdentity provider id network)
    return pair.map .identities
  | .anonymousIdentity network =>
    return (c.anonymousIdentity provider id network).map .identity
  | .decoratePseudonym pseudonym =>
    return (Client.decoratePseudonym provider id pseudonym).map .pseudonym
  | .gsm route challenges => do
    let records ← Client.gsm provider id route challenges
    return records.map .records
  | .umts request => do
    let result ← Client.umts provider id request
    return result.map .umts

/-- What a device has for one subscription. -/
structure Line (σ : Type) where
  subscriber : Option Subscriber
  key : Except String (Option CarrierKey)
  card : Card σ

/-- The lines of all subscriptions, and the states of their cards. -/
structure Device (σ : Type) where
  line : SubscriptionId → Line σ
  state : SubscriptionId → σ

namespace Device

/-- The states of all cards with that of one replaced. -/
def replace (states : SubscriptionId → σ) (id : SubscriptionId) (s : σ) : SubscriptionId → σ :=
  fun other => if other = id then s else states other

/-- The device with one subscription replaced. -/
def setLine (d : Device σ) (id : SubscriptionId) (line : Line σ) (s : σ) : Device σ :=
  { line := fun other => if other = id then line else d.line other
    state := replace d.state id s }

/-- The services of a device. A command to a card moves that card alone. -/
def provider (d : Device σ) : Provider (SubscriptionId → σ) where
  subscriber id := (d.line id).subscriber
  key id := (d.line id).key
  card id := fun states command =>
    let (reply, s) := (d.line id).card (states id) command
    (reply, replace states id s)

def perform (c : Client) (d : Device σ) (id : SubscriptionId) (request : Request) :
    Traced (Except ClientFault Response × Device σ) := do
  let (response, states) ← (c.perform d.provider id request).run d.state
  return (response, { d with state := states })

/-- Serves requests one after the other. -/
def run (c : Client) : Device σ → List (SubscriptionId × Request) →
    Traced (List (SubscriptionId × Except ClientFault Response) × Device σ)
  | d, [] => return ([], d)
  | d, (id, request) :: rest => do
    let (response, d) ← perform c d id request
    let (responses, d) ← run c d rest
    return ((id, response) :: responses, d)

end Device

end CarrierAuth
