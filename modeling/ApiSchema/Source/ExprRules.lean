import ApiSchema.Source.PatternRules

/-! Rules for expressions. A chain of operators is read from left to right without regard to their
strength, for only its being well formed matters. -/

namespace ApiSchema.Source.Grammar

open Source.Parser

/-- An expression that others may follow or join. -/
structure Operand where
  value : Expr := .other
  /-- It ends in a block and so needs no semicolon as a statement. -/
  blocklike : Bool := false
  /-- It is a range, which no operator follows. -/
  range : Bool := false

/-- Further branches of a condition. -/
def elseBranches (g : Grammar) : Parser Unit :=
  repeating () fun _ => do
    if ← tryWord "else" then
      if ← tryWord "if" then
        let _ ← g.expr false
        g.block
        return ((), true)
      g.block
    return ((), false)

def macroCall : Parser Delimiter := do
  punct "!"
  return (← anyGroup).1

/-- `name: value` or `name` alone, in a record expression. -/
def fieldValue (g : Grammar) : Parser Unit := do
  let _ ← outerAttributes g
  let named ← member
  if !named || (← peek (startsPunct ":")) then
    punct ":"
    let _ ← g.expr true

def recordFields (g : Grammar) : Parser Unit :=
  repeating () fun _ => do
    if ← peek ended then return ((), false)
    if ← tryPunct ".." then
      if !(← peek ended) then
        let _ ← g.expr true
      return ((), false)
    fieldValue g
    if ← peek ended then return ((), false)
    punct ","
    return ((), true)

def pathOperand (g : Grammar) (braces : Bool) : Parser Operand := do
  let term ← anyPath g (bound g) true
  let tokens ← get
  if startsPunct "!" tokens && !startsPunct "!=" tokens && !term.shape.applied &&
      !term.shape.qualified then
    let _ ← macroCall
    return {}
  if braces && startsGroup .brace tokens then
    group .brace (recordFields g)
    return {}
  return { value := .path term.segments }

def parenOperand (g : Grammar) : Parser Operand := do
  let _ ← group .paren (commas (g.expr true))
  return {}

def bracketOperand (g : Grammar) : Parser Operand :=
  group .bracket do
    if ← peek ended then return {}
    let _ ← g.expr true
    if ← tryPunct ";" then
      let _ ← g.expr true
      return {}
    if ← tryPunct "," then
      let _ ← commas (g.expr true)
    return {}

def closureParameter (g : Grammar) : Parser Unit := do
  let _ ← outerAttributes g
  g.pattern
  if ← tryPunct ":" then
    let _ ← g.type true

def closureOperand (g : Grammar) (braces : Bool) : Parser Operand := do
  let _ ← boundLifetimes (discard (outerAttributes g))
  let _ ← tryWord "const"
  let _ ← tryWord "static"
  let _ ← tryWord "async"
  let _ ← tryWord "move"
  punct "|"
  repeating () fun _ => do
    if ← peek (startsPunct "|") then return ((), false)
    closureParameter g
    return ((), ← tryPunct ",")
  punct "|"
  if ← tryPunct "->" then
    let _ ← g.type false
    g.block
  else
    let _ ← g.expr braces
  return {}

/-- What follows `=>` in an arm, up to the comma. -/
def matchArm (g : Grammar) (body : Parser Operand) : Parser Unit := do
  let _ ← outerAttributes g
  alternatives g
  if ← tryWord "if" then
    let _ ← g.expr true
  punct "=>"
  let operand ← body
  let comma ← tryPunct ","
  guard fun tokens => operand.blocklike || comma || ended tokens

def operandFollows (braces : Bool) (tokens : List Token) : Bool :=
  (startsAnyWord tokens && !startsWord "as" tokens) || startsGroup .paren tokens ||
    startsGroup .bracket tokens || (braces && startsGroup .brace tokens) ||
    startsLiteral tokens || startsLifetime tokens ||
    ["!", "-", "*", "|", "&", "..", "<", "::", "#"].any fun mark =>
      startsPunct mark tokens && !startsPunct (mark ++ "=") tokens

/-- What ends a range that has no upper end. -/
def rangeEnds (braces : Bool) (tokens : List Token) : Bool :=
  ended tokens || startsWord "as" tokens || (!braces && startsGroup .brace tokens) ||
    (startsPunct "." tokens && !startsPunct ".." tokens) ||
    [",", ";", "?", "=>", "=", "+", "/", "%", "^", ">", "<=", "!=", "-=", "*=", "&=", "|=", "<<="].any
      (startsPunct · tokens)

def rangeEnd (g : Grammar) (braces : Bool) : Parser Operand := do
  let closed ← rangeMark
  if closed || !(← peek (rangeEnds braces)) then
    let _ ← g.expr braces
  return { range := true }

def blockAfter (g : Grammar) : Parser Operand := do
  g.block
  return { blocklike := true }

def closureStarts (tokens : List Token) : Bool :=
  let next := tokens.drop 1
  startsPunct "|" tokens || startsOneOf ["move", "static"] tokens ||
    (startsWord "for" tokens && startsPunct "<" next) ||
    (startsWord "const" tokens && !startsGroup .brace next) ||
    (startsWord "async" tokens &&
      (startsPunct "|" next ||
        (startsWord "move" next && !startsGroup .brace (next.drop 1))))

def pathOperandStarts (tokens : List Token) : Bool :=
  startsScope tokens || startsPunct "::" tokens || startsPunct "<" tokens ||
    (startsWord "try" tokens && (startsPunct "!" (tokens.drop 1) || startsPunct "::" (tokens.drop 1)))

/-- Expressions that begin with a keyword. -/
def keywordOperand (g : Grammar) (braces : Bool) (arm : Parser Operand) (keyword : String) :
    Parser Operand := do
  skip
  match keyword with
  | "async" =>
    let _ ← tryWord "move"
    g.block
    return {}
  | "try" | "unsafe" | "const" | "loop" => blockAfter g
  | "break" =>
    if ← peek startsLifetime then lifetime
    if ← peek (operandFollows braces) then
      let _ ← g.expr braces
    return {}
  | "continue" =>
    if ← peek startsLifetime then lifetime
    return {}
  | "return" | "yield" | "become" =>
    if ← peek (operandFollows braces) then
      let _ ← g.expr braces
    return {}
  | "let" =>
    alternatives g
    punct "="
    let _ ← g.expr false
    return {}
  | "if" =>
    let _ ← g.expr false
    g.block
    elseBranches g
    return { blocklike := true }
  | "while" =>
    let _ ← g.expr false
    blockAfter g
  | "for" =>
    alternatives g
    word "in"
    let _ ← g.expr false
    blockAfter g
  | "match" =>
    let _ ← g.expr false
    group .brace do
      let _ ← innerAttributes g
      let _ ← toEnd (matchArm g arm)
    return { blocklike := true }
  | "_" => return {}
  | _ => failure

/-- An expression without operators around it. -/
def atom (g : Grammar) (braces : Bool) (arm : Parser Operand) : Parser Operand := do
  let tokens ← get
  match tokens with
  | .literal value :: _ =>
    skip
    return { value := .literal value }
  | .ident "true" :: _ =>
    skip
    return { value := .bool true }
  | .ident "false" :: _ =>
    skip
    return { value := .bool false }
  | .opening .paren :: _ => parenOperand g
  | .opening .bracket :: _ => bracketOperand g
  | .opening .brace :: _ => blockAfter g
  | .lifetime _ :: _ =>
    lifetime
    punct ":"
    match ← get with
    | .ident keyword :: _ =>
      guard (startsOneOf ["loop", "while", "for"])
      keywordOperand g braces arm keyword
    | _ => blockAfter g
  | _ =>
    if closureStarts tokens then closureOperand g braces
    else if pathOperandStarts tokens then pathOperand g braces
    else if startsPunct ".." tokens then rangeEnd g braces
    else
      match tokens with
      | .ident keyword :: _ => keywordOperand g braces arm keyword
      | _ => failure

def startsFloat : List Token → Bool
  | .literal (.float _) :: _ => true
  | _ => false

/-- Calls, indices, members and question marks after an operand. -/
def trailers (g : Grammar) (first : Operand) : Parser Operand :=
  repeating first fun operand => do
    let tokens ← get
    if operand.range then return (operand, false)
    else if startsGroup .paren tokens then
      let _ ← group .paren (commas (g.expr true))
      return ({}, true)
    else if startsGroup .bracket tokens then
      let _ ← group .bracket (g.expr true)
      return ({}, true)
    else if startsPunct "?" tokens then
      skip
      return ({}, true)
    else if startsPunct "." tokens && !startsPunct ".." tokens then
      skip
      if ← peek startsFloat then
        skip
        return ({}, true)
      if ← tryWord "await" then return ({}, true)
      let named ← member
      if named && (← tryPunct "::") then
        let _ ← angleArguments g (bound g)
        guard (startsGroup .paren)
      return ({}, true)
    else return (operand, false)

/-- Signs, references and attributes before an operand; the answer is the number of minus signs,
if there is nothing else. -/
def unaryMarks (g : Grammar) : Parser (Option Nat) :=
  repeating (some 0) fun signs => do
    let tokens ← get
    if startsPunct "#" tokens then
      let _ ← outerAttributes g
      return (signs, true)
    else if startsPunct "&" tokens then
      skip
      let tokens ← get
      if startsWord "raw" tokens && startsOneOf ["mut", "const"] (tokens.drop 1) then
        set (tokens.drop 2)
      else let _ ← tryWord "mut"
      return (.none, true)
    else if startsPunct "-" tokens then
      skip
      return (signs.map (· + 1), true)
    else if startsPunct "*" tokens || startsPunct "!" tokens then
      skip
      return (.none, true)
    else return (signs, false)

def unary (g : Grammar) (braces : Bool) (arm : Parser Operand) : Parser Operand := do
  let signs ← unaryMarks g
  let operand ← trailers g (← atom g braces arm)
  match signs with
  | some 0 => return operand
  | some n => return { value := n.repeat Expr.negate operand.value }
  | .none => return {}

inductive Operator where
  | assigning
  | logical
  | comparing
  | arithmetic

/-- Operators of two operands, longer marks first. -/
def operators : List (String × Operator) :=
  [("<<=", .assigning), (">>=", .assigning), ("+=", .assigning), ("-=", .assigning),
    ("*=", .assigning), ("/=", .assigning), ("%=", .assigning), ("^=", .assigning),
    ("&=", .assigning), ("|=", .assigning), ("&&", .logical), ("||", .logical),
    ("<<", .arithmetic), (">>", .arithmetic), ("==", .comparing), ("<=", .comparing),
    ("!=", .comparing), (">=", .comparing), ("+", .arithmetic), ("-", .arithmetic),
    ("*", .arithmetic), ("/", .arithmetic), ("%", .arithmetic), ("^", .arithmetic),
    ("&", .arithmetic), ("|", .arithmetic), ("<", .comparing), (">", .comparing)]

/-- The operators after a first operand. Two comparisons must not follow one another. -/
def operatorsFrom (g : Grammar) (braces : Bool) (arm : Parser Operand) (first : Operand) :
    Parser Operand := do
  let (operand, _) ← repeating (first, false) fun (operand, compared) => do
    let tokens ← get
    if operand.range then return ((operand, compared), false)
    match operators.find? fun entry => startsPunct entry.1 tokens with
    | some (mark, kind) =>
      punct mark
      let _ ← unary g braces arm
      match kind with
      | .assigning | .logical => return (({}, false), true)
      | .arithmetic => return (({}, compared), true)
      | .comparing => if compared then failure else return (({}, true), true)
    | .none =>
      if startsPunct "=" tokens && !startsPunct "=>" tokens then
        punct "="
        let _ ← unary g braces arm
        return (({}, false), true)
      else if startsPunct ".." tokens then
        return ((← rangeEnd g braces, compared), false)
      else if startsWord "as" tokens then
        skip
        let _ ← g.type false
        return (({}, compared), true)
      else return ((operand, compared), false)
  return operand

def blockStarts (tokens : List Token) : Bool :=
  let next := tokens.drop 1
  startsGroup .brace tokens || startsLifetime tokens ||
    startsOneOf ["if", "while", "loop", "match"] tokens ||
    (startsWord "for" tokens && !startsPunct "<" next) ||
    (startsOneOf ["unsafe", "const", "try"] tokens && startsGroup .brace next)

/-- An expression at the start of a statement or arm: one that ends in a block ends there, unless
a member access or a question mark follows. The arms of a match nest at most `depth` deep. -/
def armOperand (g : Grammar) : (depth : Nat) → Parser Operand
  | 0 => failure
  | depth + 1 => do
    let arm := armOperand g depth
    let _ ← outerAttributes g
    if ← peek blockStarts then
      let operand ← atom g true arm
      let tokens ← get
      if (startsPunct "." tokens && !startsPunct ".." tokens) || startsPunct "?" tokens then
        let operand ← trailers g operand
        operatorsFrom g true arm { operand with blocklike := false }
      else return operand
    else
      let operand ← unary g true arm
      let bare := operand.blocklike
      let operand ← operatorsFrom g true arm operand
      return { operand with blocklike := bare && operand.blocklike }

def arm (g : Grammar) : Parser Operand := fun tokens => armOperand g (tokens.length + 1) tokens

/-- The expression rule. -/
def exprRule (g : Grammar) (braces : Bool) : Parser Expr := do
  let operand ← unary g braces (arm g)
  return (← operatorsFrom g braces (arm g) operand).value

end ApiSchema.Source.Grammar
