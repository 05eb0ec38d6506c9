import ApiSchema.Source.Grammar

/-! Rules for attributes. What stands in an attribute's parentheses is kept as tokens, for it need
not follow any grammar. -/

namespace ApiSchema.Source.Grammar

open Source.Parser

def startsScope (tokens : List Token) : Bool :=
  startsIdent tokens || startsOneOf ["super", "self", "Self", "crate"] tokens

/-- A path without arguments, as attributes, macro calls and visibilities write it. A rooted path
has an empty first segment. -/
def scopePath : Parser (List String) := do
  let rooted ← tryPunct "::"
  let segments ← repeating [] fun segments => do
    guard startsScope
    let name ← anyWord
    return (segments ++ [name], ← tryPunct "::")
  return if rooted then "" :: segments else segments

def attributePath : Parser (List String) := do
  if ← tryWord "unsafe" then return ["unsafe"] else scopePath

/-- A literal that is all there is up to the bracket. -/
def loneLiteral? : List Token → Option (Literal × List Token)
  | .literal value :: .closing d :: rest => some (value, .closing d :: rest)
  | _ => .none

def attributeBody (g : Grammar) : Parser AttributeBody := do
  match ← get with
  | .opening _ :: _ => return .list (← anyGroup).2
  | _ =>
    if ← tryPunct "=" then
      let tokens ← get
      match loneLiteral? tokens with
      | some (value, rest) =>
        set rest
        return .value (.literal value)
      | .none =>
        guard fun tokens => !(startsPunct "#" tokens && startsGroup .bracket (tokens.drop 1))
        return .value (← g.expr true)
    else return .word

/-- The bracketed part of an attribute. -/
def attributeRest (g : Grammar) : Parser Attribute :=
  group .bracket do
    let path ← attributePath
    let body ← attributeBody g
    return { path, body }

def outerAttributes (g : Grammar) : Parser (List Attribute) :=
  repeating [] fun found => do
    if ← tryPunct "#" then
      return (found ++ [← attributeRest g], true)
    else return (found, false)

/-- Attributes of what encloses them, marked by an exclamation point. -/
def innerAttributes (g : Grammar) : Parser (List Attribute) :=
  repeating [] fun found => do
    let tokens ← get
    if startsPunct "#" tokens && startsPunct "!" (tokens.drop 1) then
      set (tokens.drop 2)
      return (found ++ [← attributeRest g], true)
    else return (found, false)

end ApiSchema.Source.Grammar
