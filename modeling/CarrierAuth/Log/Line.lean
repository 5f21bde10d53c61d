import CarrierAuth.Log

/-
  Lines of the log — how an event is shown: its level, where it comes from, its
  message, and its fields, texts among them in quotes.
-/
namespace CarrierAuth

def FieldValue.render : FieldValue → String
  | .number n => toString n
  | .text s => Text.quote s
  | .shown s => s

def Event.line (e : Event) : String :=
  e.level.label ++ " " ++ e.origin.path ++ ": " ++ e.message
    ++ String.join (e.fields.map fun f => " " ++ f.1 ++ "=" ++ f.2.render)

end CarrierAuth
