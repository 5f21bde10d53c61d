import CarrierAuth.Identity.Realm
import CarrierAuth.Method

/-
  Temporary identities — anonymous identities and pseudonyms, which name the
  operator but not the subscriber.
-/
namespace CarrierAuth.Identity

/-- The user part of an anonymous identity. -/
def anonymousUser : String := "anonymous"

/-- The anonymous identity, led by the method's digit where the carrier wants it
and the method has one. -/
def anonymous (method : EapMethod) (op : Operator) (withDigit : Bool) : String :=
  (if withDigit then (method.leadingDigit?.map String.singleton).getD "" else "")
    ++ anonymousUser ++ "@" ++ op.realm

/-- Whether characters are an anonymous identity, with or without one character in
front. -/
def isAnonymousChars (cs : List Char) : Bool :=
  let user := (anonymousUser ++ "@").toList
  user.isPrefixOf cs || user.isPrefixOf cs.tail

def isAnonymous (identity : String) : Bool := isAnonymousChars identity.toList

/-- Whether a pseudonym already names a realm. -/
def hasRealm (pseudonym : String) : Bool := pseudonym.toList.contains '@'

/-- A pseudonym with the operator's realm, unless it names a realm already; `none`
for the empty pseudonym. -/
def decorate? (pseudonym : String) (op : Operator) : Option String :=
  if pseudonym = "" then none
  else if hasRealm pseudonym then some pseudonym
  else some (pseudonym ++ "@" ++ op.realm)

end CarrierAuth.Identity
