/-! What can go wrong while types are resolved and schemas are made, and how it is reported. -/

namespace ApiSchema

inductive Error where
  /-- No declaration was found for the reference. -/
  | unresolvable (reference : String)
  | arityMismatch (generic : String) (expected actual : Nat)
  /-- An annotation does not fit the type of its member. -/
  | annotationConflict (field message : String)
  | externalLoad (package message : String)
  /-- The text is no type. -/
  | invalidReference (reference : String)
  | manifest (message : String)
deriving DecidableEq, Repr

namespace Error

/-- The text in quotes that mark code. -/
def code (text : String) : String :=
  let mark := String.singleton (Char.ofNat 0x60)
  mark ++ text ++ mark

def message : Error → String
  | unresolvable reference => "cannot resolve type " ++ code reference
  | arityMismatch generic expected actual =>
    "generic " ++ code generic ++ " expects " ++ toString expected ++ " type argument(s), got " ++
      toString actual
  | annotationConflict field text => "field " ++ code field ++ ": " ++ text
  | externalLoad package text => "failed to load external package " ++ code package ++ ": " ++ text
  | invalidReference reference => "invalid type reference " ++ code reference
  | manifest text => "invalid operation manifest: " ++ text

end Error

end ApiSchema
