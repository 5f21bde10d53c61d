import CarrierAuth.Card.Answer
import CarrierAuth.Identity.Permanent
import CarrierAuth.Identity.Temporary
import CarrierAuth.Settings

/-
  The client — identities and answers for the subscriptions of a phone.

  The phone is a `Provider` of three services, each asked for by subscription: the
  subscriber, the carrier's key and the card. An operation is given the whole provider
  and a subscription, and does the asking itself. An identity is never sent in clear
  text where the carrier requires encryption or has a key.
-/
namespace CarrierAuth

/-- Why an operation of the client fails. -/
inductive ClientFault where
  | invalidSubscription (id : SubscriptionId)
  | notReady (id : SubscriptionId)
  | missingOperator (id : SubscriptionId)
  | keyUnavailable (reason : String)
  | identity (fault : IdentityFault)
  | auth (fault : AuthFault)
  deriving DecidableEq, Repr

def ClientFault.message : ClientFault → String
  | .invalidSubscription id => "Invalid subscription: " ++ id.display
  | .notReady id => "SIM not ready for subscription " ++ id.display
  | .missingOperator id => "No operator for subscription " ++ id.display
  | .keyUnavailable reason => "IMSI encryption info unavailable: " ++ reason
  | .identity fault => "Identity error: " ++ fault.message
  | .auth fault => "Authentication error: " ++ fault.message

/-- The services of a phone. Its states are `σ`, those of all its cards taken together: a
command to the card of one subscription is free to change them in any way. -/
structure Provider (σ : Type) where
  subscriber : SubscriptionId → Option Subscriber
  /-- The carrier's key, none, or why it cannot be looked up. -/
  key : SubscriptionId → Except String (Option CarrierKey)
  card : SubscriptionId → Card σ

/-- Over which application and in which layout a batch of GSM challenges is
answered. -/
inductive GsmRoute where
  | usim | sim | simFixed
  deriving DecidableEq, Repr

namespace GsmRoute

def app : GsmRoute → CardApp
  | .usim => .usim
  | .sim | .simFixed => .sim

def layout : GsmRoute → GsmLayout
  | .usim | .sim => .counted
  | .simFixed => .fixed

end GsmRoute

/-- A client: the cipher for identities, and the settings. -/
structure Client where
  cipher : Cipher
  settings : ClientSettings := {}

namespace Client

variable {σ : Type}

def requiresEncryption (c : Client) (id : SubscriptionId) : Bool :=
  (c.settings.carrier id).encryptionRequired

/-- Whether a key can be had for encrypting identities. -/
def hasKey (provider : Provider σ) (id : SubscriptionId) : Bool :=
  match provider.key id with
  | .ok (some _) => true
  | _ => false

/-- The subscriber of a valid subscription. -/
def subscriber (provider : Provider σ) (id : SubscriptionId) :
    Except ClientFault Subscriber :=
  if id.isValid then
    match provider.subscriber id with
    | some s => .ok s
    | none => .error (.notReady id)
  else .error (.invalidSubscription id)

/-- The operator of a subscriber whose card is ready. -/
def operator (id : SubscriptionId) (s : Subscriber) : Except ClientFault Operator :=
  if ¬ s.ready then .error (.notReady id)
  else if s.operatorCode = "" then .error (.missingOperator id)
  else (Operator.ofCode s.operatorCode).mapError .identity

def event (level : Level) (id : SubscriptionId) (message : String)
    (fields : List (String × FieldValue) := []) : Event :=
  { origin := .client, level := level, message := message
    fields := ("sub_id", .shown id.display) :: fields }

/-- The permanent identity of a subscriber whose card is ready, in clear text. -/
def clearIdentity (id : SubscriptionId) (s : Subscriber) (method : EapMethod) :
    Traced (Except ClientFault String) := do
  match ← Identity.permanent method s.imsi (s.operator?.getD "") with
  | .ok identity => return .ok identity
  | .error fault =>
    Traced.log [event .error id ("Failed to build the identity: " ++ fault.message)]
    return .error (.identity fault)

/-- Completes an identity with its encrypted form, where the carrier has a key. -/
def withEncrypted (c : Client) (id : SubscriptionId) (key : Except String (Option CarrierKey))
    (method : EapMethod) (identity : String) : Traced (Except ClientFault IdentityPair) :=
  match key with
  | .error reason => do
    Traced.log [event .error id ("Failed to get IMSI encryption info: " ++ reason)]
    return .error (.keyUnavailable reason)
  | .ok none =>
    if c.requiresEncryption id then do
      Traced.log
        [event .warn id "Carrier requires IMSI encryption but no key is provisioned"]
      return .error (.keyUnavailable ("no key for subscription " ++ id.display))
    else do
      Traced.log [event .debug id "Using clear-text permanent identity"
        [("method", .shown method.display)]]
      return .ok ⟨identity, none⟩
  | .ok (some key) => do
    match ← Identity.encrypted c.cipher key identity with
    | .error fault =>
      Traced.log [event .error id ("Failed to encrypt the identity: " ++ fault.message)]
      return .error (.identity fault)
    | .ok encrypted =>
      Traced.log [event .debug id "Built encrypted permanent identity"
        [("method", .shown method.display)]]
      return .ok ⟨identity, some encrypted⟩

def simIdentity (c : Client) (provider : Provider σ) (id : SubscriptionId)
    (network : NetworkMethod) : Traced (Except ClientFault IdentityPair) :=
  match subscriber provider id with
  | .error fault => return .error fault
  | .ok s =>
    if ¬ s.ready then do
      Traced.log [event .warn id "SIM not ready, no identity can be built"]
      return .error (.notReady id)
    else do
      match ← clearIdentity id s network.cardMethod with
      | .error fault => return .error fault
      | .ok identity => withEncrypted c id (provider.key id) network.cardMethod identity

def anonymousIdentity (c : Client) (provider : Provider σ) (id : SubscriptionId)
    (network : NetworkMethod) : Except ClientFault String := do
  let s ← subscriber provider id
  let op ← operator id s
  return Identity.anonymous network.outer op (c.settings.carrier id).digitEnabled

/-- A pseudonym with the realm of the operator. A pseudonym that needs none is
returned without a look at the phone. -/
def decoratePseudonym (provider : Provider σ) (id : SubscriptionId) (pseudonym : String) :
    Except ClientFault (Option String) :=
  if pseudonym = "" then .ok none
  else if Identity.hasRealm pseudonym then .ok (some pseudonym)
  else do
    let s ← subscriber provider id
    let op ← operator id s
    return Identity.decorate? pseudonym op

def gsm (provider : Provider σ) (id : SubscriptionId) (route : GsmRoute)
    (challenges : List String) : Session σ (Except ClientFault (List GsmRecord)) :=
  if id.isValid then do
    let records ← Gsm.authenticate (provider.card id) route.layout route.app challenges
    return records.mapError .auth
  else return .error (.invalidSubscription id)

/-- The event for a UMTS challenge that was answered. -/
def umtsEvent (id : SubscriptionId) (request : AnswerRequest) (result : UmtsResult) : Event :=
  event .info id ("UMTS authentication result: " ++ result.kind.marker)
    [("network_id", .number request.networkId), ("ssid", .shown request.ssid)]

def umts (provider : Provider σ) (id : SubscriptionId) (request : AnswerRequest) :
    Session σ (Except ClientFault UmtsResult) :=
  if id.isValid then do
    match ← Umts.authenticate (provider.card id) request.data with
    | .error fault => return .error (.auth fault)
    | .ok result =>
      Session.log [umtsEvent id request result]
      return .ok result
  else return .error (.invalidSubscription id)

end Client

end CarrierAuth
