import ApiSchema.Source.AttributeRules
import ApiSchema.Source.TypeRules

/-! Rules for patterns. Of a pattern nothing is kept. -/

namespace ApiSchema.Source.Grammar

open Source.Parser

def startsInteger : List Token → Bool
  | .literal (.integer _) :: _ => true
  | _ => false

/-- The name or the position of a member. -/
def member : Parser Bool := do
  if ← peek startsInteger then
    skip
    return false
  let _ ← ident
  return true

/-- A pattern with alternatives. -/
def alternatives (g : Grammar) : Parser Unit := do
  let _ ← tryPunct "|"
  repeating () fun _ => do
    g.pattern
    let tokens ← get
    if startsPunct "|" tokens && !startsPunct "||" tokens && !startsPunct "|=" tokens then
      punct "|"
      return ((), true)
    else return ((), false)

def rangeMark : Parser Bool := do
  guard fun tokens => !startsPunct "..." tokens || startsPunct "..=" tokens
  if ← tryPunct "..=" then return true
  punct ".."
  return false

def patternBoundEnds (tokens : List Token) : Bool :=
  ended tokens || ["|", "=", ":", ",", ";"].any (startsPunct · tokens) || startsWord "if" tokens

/-- One end of a range of values, or a value. -/
def patternBound (g : Grammar) : Parser Unit := do
  let tokens ← get
  if startsLiteral tokens then literal
  else if startsWord "const" tokens then
    skip
    g.block
  else
    let _ ← anyPath g (bound g) true

def patternRangeEnd (g : Grammar) : Parser Unit := do
  let closed ← rangeMark
  if closed || !(← peek patternBoundEnds) then patternBound g

def fieldPattern (g : Grammar) : Parser Bool := do
  let _ ← outerAttributes g
  if ← tryPunct ".." then return false
  let boxed ← tryWord "box"
  let byReference ← tryWord "ref"
  let changing ← tryWord "mut"
  let named ← member
  let plain := !boxed && !byReference && !changing
  if (plain && (← peek (startsPunct ":"))) || !named then
    punct ":"
    alternatives g
  return true

def fieldPatterns (g : Grammar) : Parser Unit :=
  repeating () fun _ => do
    if ← peek ended then return ((), false)
    if ← fieldPattern g then
      if ← peek ended then return ((), false)
      punct ","
      return ((), true)
    else return ((), false)

def pathPattern (g : Grammar) : Parser Unit := do
  let term ← anyPath g (bound g) true
  let tokens ← get
  if startsPunct "!" tokens && !startsPunct "!=" tokens && !term.shape.applied &&
      !term.shape.qualified then
    skip
    let _ ← anyGroup
  else if startsGroup .brace tokens then group .brace (fieldPatterns g)
  else if startsGroup .paren tokens then
    let _ ← group .paren (commas (alternatives g))
  else if startsPunct ".." tokens then patternRangeEnd g

def pathPatternStarts (tokens : List Token) : Bool :=
  let next := tokens.drop 1
  (startsIdent tokens && (startsPunct "::" next || startsPunct "!" next ||
      startsGroup .brace next || startsGroup .paren next || startsPunct ".." next)) ||
    (startsWord "self" tokens && startsPunct "::" next) || startsPunct "::" tokens ||
    startsPunct "<" tokens || startsOneOf ["Self", "super", "crate"] tokens

/-- The pattern rule, for a pattern without alternatives at its top. -/
def patternRule (g : Grammar) : Parser Unit := do
  let tokens ← get
  if pathPatternStarts tokens then pathPattern g
  else if startsWord "_" tokens then skip
  else if startsWord "box" tokens then
    skip
    g.pattern
  else if startsLiteral tokens || startsWord "const" tokens then
    patternBound g
    if ← peek (startsPunct "..") then patternRangeEnd g
  else if startsOneOf ["ref", "mut", "self"] tokens || startsIdent tokens then
    let _ ← tryWord "ref"
    let _ ← tryWord "mut"
    if ← tryWord "self" then pure () else let _ ← ident
    if ← tryPunct "@" then g.pattern
  else if startsPunct "&" tokens then
    skip
    let _ ← tryWord "mut"
    g.pattern
  else if startsGroup .paren tokens then
    let _ ← group .paren (commas (alternatives g))
  else if startsGroup .bracket tokens then
    let _ ← group .bracket (commas (alternatives g))
  else
    let closed ← rangeMark
    if closed || !(← peek patternBoundEnds) then patternBound g

end ApiSchema.Source.Grammar
