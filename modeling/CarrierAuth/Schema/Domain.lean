import CarrierAuth.Card.Answer
import CarrierAuth.Schema
import CarrierAuth.Settings

/-
  Schemas of the library's types — methods, settings, and the messages exchanged
  with the supplicant.
-/
namespace CarrierAuth.Schema

def eapMethod : Schema EapMethod := choice EapMethod.name EapMethod.ofName?

def phase2Method : Schema Phase2Method := choice Phase2Method.name Phase2Method.ofName?

def cardApp : Schema CardApp := choice CardApp.name CardApp.ofName?

def cardAlgorithm : Schema CardAlgorithm := choice CardAlgorithm.name CardAlgorithm.ofName?

def level : Schema Level := choice Level.name Level.ofName?

def answerKind : Schema AnswerKind := choice AnswerKind.name AnswerKind.ofName?

def subscription : Schema SubscriptionId :=
  ⟨fun f node => (f.integer node).bind SubscriptionId.ofInt?, fun id => .integer id.value⟩

def network : Schema NetworkMethod where
  read f node := do
    let fields ← f.record ["eap_method", "phase2_method"] node
    return {
      outer := ← eapMethod.field f "eap_method" fields
      inner := ← phase2Method.fieldOr f "phase2_method" .unset fields }
  write n := .record [
    (.name "eap_method", eapMethod.write n.outer),
    (.name "phase2_method", phase2Method.write n.inner)]

def carrier : Schema CarrierSettings where
  read f node := do
    let fields ← f.record ["imsi_encryption_required", "eap_method_prefix_enabled"] node
    return {
      encryptionRequired := ← flag.fieldOr f "imsi_encryption_required" false fields
      digitEnabled := ← flag.fieldOr f "eap_method_prefix_enabled" false fields }
  write c := .record [
    (.name "imsi_encryption_required", .flag c.encryptionRequired),
    (.name "eap_method_prefix_enabled", .flag c.digitEnabled)]

def readCarrierEntry {ν : Type} (f : Format ν) (e : Int × ν) :
    Option (SubscriptionId × CarrierSettings) := do
  return (← SubscriptionId.ofInt? e.1, ← carrier.read f e.2)

/-- The table of carriers. Of two entries for a subscription the later one counts. -/
def carriers : Schema CarrierTable where
  read f node := do
    return CarrierTable.ofList (← (← f.table node).mapM (readCarrierEntry f))
  write t := .record (t.entries.map fun e => (.number e.1.value, carrier.write e.2))

def settings : Schema ClientSettings where
  read f node := do
    let fields ← f.record ["carriers", "log_level"] node
    return {
      carriers := ← carriers.fieldOr f "carriers" .empty fields
      logLevel := ← level.fieldOr f "log_level" .standard fields }
  write s := .record [
    (.name "carriers", carriers.write s.carriers),
    (.name "log_level", level.write s.logLevel)]

def answerRequest : Schema AnswerRequest where
  read f node := do
    let fields ← f.record ["network_id", "protocol", "ssid", "data"] node
    return {
      networkId := ← word.field f "network_id" fields
      protocol := ← eapMethod.field f "protocol" fields
      ssid := ← text.field f "ssid" fields
      data := ← texts.field f "data" fields }
  write r := .record [
    (.name "network_id", .integer r.networkId),
    (.name "protocol", eapMethod.write r.protocol),
    (.name "ssid", .text r.ssid),
    (.name "data", .texts r.data)]

def answer : Schema Answer where
  read f node := do
    let fields ← f.record ["response_type", "response"] node
    return {
      kind := ← answerKind.field f "response_type" fields
      body := ← text.field f "response" fields }
  write a := .record [
    (.name "response_type", answerKind.write a.kind),
    (.name "response", .text a.body)]

end CarrierAuth.Schema
