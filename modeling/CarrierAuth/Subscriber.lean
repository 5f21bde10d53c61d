/-
  Subscriptions — their numbers, and what a phone knows of a subscriber.
-/
namespace CarrierAuth

/-- The number of a subscription, a signed number of 32 bits. -/
structure SubscriptionId where
  value : Int
  inRange : -2147483648 ≤ value ∧ value ≤ 2147483647 := by omega
  deriving DecidableEq, Repr

namespace SubscriptionId

def ofInt? (n : Int) : Option SubscriptionId :=
  if h : -2147483648 ≤ n ∧ n ≤ 2147483647 then some ⟨n, h⟩ else none

/-- The number that stands for no subscription. -/
def invalid : SubscriptionId := { value := -1 }

/-- Whether a number can be that of a subscription. -/
def isValid (id : SubscriptionId) : Bool := 0 ≤ id.value

/-- The number in decimal digits. -/
def display (id : SubscriptionId) : String := toString id.value

@[ext] theorem ext {a b : SubscriptionId} (h : a.value = b.value) : a = b := by
  cases a; cases b; cases h; rfl

theorem isValid_iff {id : SubscriptionId} : id.isValid = true ↔ 0 ≤ id.value :=
  decide_eq_true_iff

theorem ofInt?_value (id : SubscriptionId) : ofInt? id.value = some id := by
  simp [ofInt?, id.inRange]

end SubscriptionId

structure Subscriber where
  imsi : String := ""
  /-- The code of the operator in whose network the phone is at home. -/
  operatorCode : String := ""
  /-- Whether the card can be used. -/
  ready : Bool := false
  deriving DecidableEq, Repr

/-- The operator's code, where the card is ready and knows it. -/
def Subscriber.operator? (s : Subscriber) : Option String :=
  if s.ready ∧ s.operatorCode ≠ "" then some s.operatorCode else none

/-- A ready card without an operator has the empty code. -/
theorem Subscriber.operator?_getD {s : Subscriber} (h : s.ready = true) :
    s.operator?.getD "" = s.operatorCode := by
  by_cases hcode : s.operatorCode = "" <;> simp [operator?, h, hcode]

end CarrierAuth
