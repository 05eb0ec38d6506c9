import ApiSchema.Source.ExprRules

/-! Rules for statements and items. -/

namespace ApiSchema.Source.Grammar

open Source.Parser

/-- `pub`, alone or with a scope in parentheses; the answer says whether one is written. -/
def visibility : Parser Bool := do
  if ← tryWord "pub" then
    match ← get with
    | .opening .paren :: .ident scope :: .closing .paren :: _ =>
      if ["crate", "self", "super"].contains scope then set ((← get).drop 3)
    | .opening .paren :: .ident "in" :: _ =>
      group .paren do
        skip
        let _ ← scopePath
    | _ => pure ()
    return true
  else return false

/-- Bounds after a colon, up to one of the punctuation marks, a block or `where`. -/
def boundsBefore (g : Grammar) (marks : List String) : Parser Unit :=
  boundsUntil (bound g) fun tokens =>
    ended tokens || startsGroup .brace tokens || startsWord "where" tokens ||
      marks.any fun mark => startsPunct mark tokens && !startsPunct "::" tokens

def lifetimeBounds : Parser Unit :=
  repeating () fun _ => do
    if ← peek startsLifetime then
      lifetime
      return ((), ← tryPunct "+")
    else return ((), false)

/-- A constant as a default of a parameter. -/
def constantArgument (g : Grammar) : Parser Unit := do
  let tokens ← get
  if startsLiteral tokens then literal
  else if startsGroup .brace tokens then g.block
  else let _ ← ident

/-- A parameter between angle brackets; the name of a type parameter is kept. -/
def genericParameter (g : Grammar) : Parser (Option String) := do
  let _ ← outerAttributes g
  let tokens ← get
  if startsLifetime tokens then
    lifetime
    if ← tryPunct ":" then lifetimeBounds
    return .none
  else if startsWord "const" tokens then
    skip
    let _ ← ident
    punct ":"
    let _ ← g.type true
    if ← tryPunct "=" then constantArgument g
    return .none
  else
    let name ← if startsWord "_" tokens then anyWord else ident
    if ← tryPunct ":" then boundsBefore g [",", ">", "="]
    if ← tryPunct "=" then
      let _ ← g.type true
    return some name

/-- Names of the type parameters. -/
def generics (g : Grammar) : Parser (List String) := do
  if ← tryPunct "<" then
    let names ← repeating [] fun names => do
      if ← peek (startsPunct ">") then return (names, false)
      let name ← genericParameter g
      let names := names ++ name.toList
      if ← peek (startsPunct ">") then return (names, false)
      punct ","
      return (names, true)
    punct ">"
    return names
  else return []

def predicatesEnd (tokens : List Token) : Bool :=
  ended tokens || startsGroup .brace tokens ||
    [",", ";", "="].any (startsPunct · tokens) ||
    (startsPunct ":" tokens && !startsPunct "::" tokens)

def wherePredicate (g : Grammar) : Parser Unit := do
  let tokens ← get
  if startsLifetime tokens && startsPunct ":" (tokens.drop 1) then
    set (tokens.drop 2)
    lifetimeBounds
  else
    let _ ← boundLifetimes (discard (outerAttributes g))
    let _ ← g.type true
    punct ":"
    boundsUntil (bound g) predicatesEnd

/-- Conditions on parameters, if there are any. -/
def whereClause (g : Grammar) : Parser Unit := do
  if ← tryWord "where" then
    repeating () fun _ => do
      if ← peek predicatesEnd then return ((), false)
      wherePredicate g
      return ((), ← tryPunct ",")

/-- `self` in one of its forms, as the first parameter of a function. -/
def receiverLength (tokens : List Token) : Option Nat :=
  let marks := if startsPunct "&" tokens then
      if startsLifetime (tokens.drop 1) then 2 else 1
    else 0
  let marks := if startsWord "mut" (tokens.drop marks) then marks + 1 else marks
  if startsWord "self" (tokens.drop marks) && !startsPunct "::" (tokens.drop (marks + 1)) then
    some (marks + 1)
  else .none

def functionArgument (g : Grammar) : Parser Unit := do
  let _ ← outerAttributes g
  let tokens ← get
  if startsPunct "..." tokens then punct "..."
  else
    match receiverLength tokens with
    | some length =>
      set (tokens.drop length)
      if !startsPunct "&" tokens then
        if ← tryPunct ":" then
          let _ ← g.type true
    | .none =>
      g.pattern
      punct ":"
      if startsPunct "..." (← get) then punct "..."
      else let _ ← g.type true

def signature (g : Grammar) : Parser Unit := do
  let _ ← tryWord "const"
  let _ ← tryWord "async"
  let _ ← tryWord "unsafe"
  callingConvention
  word "fn"
  let _ ← ident
  let _ ← generics g
  let _ ← group .paren (commas (functionArgument g))
  returnType g true
  whereClause g

def startsString : List Token → Bool
  | .literal (.string _) :: _ => true
  | _ => false

/-- The words before `fn`, in their order. -/
def startsSignature (tokens : List Token) : Bool :=
  let tokens := ["const", "async", "unsafe"].foldl
    (fun tokens mark => if startsWord mark tokens then tokens.drop 1 else tokens) tokens
  let tokens := if startsWord "extern" tokens then
      if startsString (tokens.drop 1) then tokens.drop 2 else tokens.drop 1
    else tokens
  startsWord "fn" tokens

/-- A function with its body, or with a semicolon in its place. -/
def function (g : Grammar) : Parser Unit := do
  signature g
  if ← tryPunct ";" then pure () else g.block

/-- A macro call as an item, with a semicolon unless it ends in a brace. -/
def macroItem : Parser Unit := do
  let _ ← scopePath
  punct "!"
  let tokens ← get
  if startsIdent tokens || startsWord "try" tokens then skip
  let (delimiter, _) ← anyGroup
  if delimiter ≠ .brace then punct ";"

def startsMacro (tokens : List Token) : Bool := startsScope tokens || startsPunct "::" tokens

def namedField (g : Grammar) : Parser FieldItem := do
  let attributes ← outerAttributes g
  let exported ← visibility
  let name ← if ← peek (startsWord "_") then anyWord else ident
  punct ":"
  let type ← g.type true
  return { attributes, name, exported, type }

def unnamedField (g : Grammar) : Parser TypeTerm := do
  let _ ← outerAttributes g
  let _ ← visibility
  g.type true

def namedFields (g : Grammar) : Parser (List FieldItem) := group .brace (commas (namedField g))

def unnamedFields (g : Grammar) : Parser (List TypeTerm) :=
  group .paren (commas (unnamedField g))

def structItem (g : Grammar) (attributes : List Attribute) : Parser Item := do
  word "struct"
  let name ← ident
  let params ← generics g
  let header : TypeHeader := { attributes, name, params }
  if ← peek (startsGroup .paren) then
    let types ← unnamedFields g
    whereClause g
    punct ";"
    return .struct header (.unnamed types)
  whereClause g
  if ← tryPunct ";" then return .struct header .unit
  return .struct header (.named (← namedFields g))

def variant (g : Grammar) : Parser VariantItem := do
  let attributes ← outerAttributes g
  let _ ← visibility
  let name ← ident
  let tokens ← get
  let fields ←
    if startsGroup .brace tokens then Fields.named <$> namedFields g
    else if startsGroup .paren tokens then Fields.unnamed <$> unnamedFields g
    else pure .unit
  let discriminant ← if ← tryPunct "=" then some <$> g.expr true else pure .none
  return { attributes, name, fields, discriminant }

def enumItem (g : Grammar) (attributes : List Attribute) : Parser Item := do
  word "enum"
  let name ← ident
  let params ← generics g
  whereClause g
  let variants ← group .brace (commas (variant g))
  return .enum { attributes, name, params } variants

/-- Where the conditions of an alias may stand. -/
structure ClausePlaces where
  beforeTarget : Bool
  afterTarget : Bool

/-- A type alias; one with bounds or without a target defines nothing. -/
def typeItem (g : Grammar) (places : ClausePlaces) (attributes : List Attribute) :
    Parser Item := do
  word "type"
  let name ← ident
  let params ← generics g
  let bounded ← tryPunct ":"
  if bounded then boundsBefore g ["=", ";"]
  if places.beforeTarget then whereClause g
  let target ← if ← tryPunct "=" then some <$> g.type true else pure .none
  if places.afterTarget then whereClause g
  punct ";"
  match target with
  | some target => return if bounded then .other else .typeAlias { attributes, name, params } target
  | .none => return .other

def constantItem (g : Grammar) : Parser Unit := do
  word "const"
  if ← peek (startsWord "_") then skip else let _ ← ident
  let _ ← generics g
  punct ":"
  let _ ← g.type true
  if ← tryPunct "=" then
    let _ ← g.expr true
  whereClause g
  punct ";"

def staticItem (g : Grammar) : Parser Unit := do
  word "static"
  let _ ← tryWord "mut"
  let _ ← ident
  if ← tryPunct ":" then
    let _ ← g.type true
    if ← tryPunct "=" then
      let _ ← g.expr true
  else
    punct "="
    let _ ← g.expr true
  punct ";"

/-- Something inside a trait, an implementation or a block of foreign items. -/
def associatedItem (g : Grammar) (places : ClausePlaces) : Parser Unit := do
  let _ ← outerAttributes g
  let visible ← visibility
  let tokens ← get
  let marked := startsWord "default" tokens && !startsPunct "!" (tokens.drop 1)
  if marked then skip
  let tokens ← get
  if startsSignature tokens then function g
  else if startsWord "const" tokens then constantItem g
  else if startsWord "static" tokens then staticItem g
  else if startsWord "type" tokens then discard (typeItem g places [])
  else if !visible && !marked && startsMacro tokens then macroItem
  else failure

/-- Items in braces after the inner attributes, which are given back. -/
def associatedItems (g : Grammar) (places : ClausePlaces) : Parser (List Attribute) :=
  group .brace do
    let attributes ← innerAttributes g
    let _ ← toEnd (associatedItem g places)
    return attributes

def traitItem (g : Grammar) (attributes : List Attribute) : Parser Item := do
  let strict ← tryWord "unsafe"
  let automatic ← tryWord "auto"
  word "trait"
  let name ← ident
  let params ← generics g
  if !strict && !automatic then
    if ← tryPunct "=" then
      boundsBefore g [";"]
      whereClause g
      punct ";"
      return .other
  if ← tryPunct ":" then boundsBefore g []
  whereClause g
  let inner ← associatedItems g ⟨true, true⟩
  return .trait { attributes := attributes ++ inner, name, params }

def hasParameters (tokens : List Token) : Bool :=
  let next := tokens.drop 1
  let second := next.drop 1
  startsPunct "<" tokens &&
    (startsPunct ">" next || startsPunct "#" next || startsWord "const" next ||
      ((startsIdent next || startsLifetime next) &&
        ([",", ">", "="].any (startsPunct · second) ||
          (startsPunct ":" second && !startsPunct "::" second))))

def implItem (g : Grammar) : Parser Unit := do
  let _ ← tryWord "default"
  let _ ← tryWord "unsafe"
  word "impl"
  if ← peek hasParameters then discard (generics g)
  let _ ← tryWord "const"
  let _ ← tryPunct "!"
  let _ ← g.type true
  if ← tryWord "for" then
    let _ ← g.type true
  whereClause g
  let _ ← associatedItems g ⟨false, true⟩

def externItem (g : Grammar) : Parser Unit := do
  let _ ← tryWord "unsafe"
  word "extern"
  if ← tryWord "crate" then
    if ← peek (startsWord "self") then skip else discard ident
    if ← tryWord "as" then
      if ← peek (startsWord "_") then skip else discard ident
    punct ";"
  else
    if ← peek startsString then skip
    let _ ← associatedItems g ⟨true, true⟩

def submoduleItem (g : Grammar) : Parser Item := do
  let _ ← tryWord "unsafe"
  word "mod"
  let name ← if ← peek (startsWord "try") then anyWord else ident
  if ← tryPunct ";" then return .submodule name .none
  let items ← group .brace do
    let _ ← innerAttributes g
    toEnd g.item
  return .submodule name (some items)

/-- The tree of an import at most `depth` deep. A branch that starts anew at the root makes the
whole import meaningless, so nothing is given back for it. -/
def useTreeAt : (depth : Nat) → (roots : Bool) → Parser (Option UseTree)
  | 0, _ => failure
  | depth + 1, roots => do
    let tokens ← get
    if startsIdent tokens || startsOneOf ["self", "super", "crate", "try"] tokens then
      let name ← anyWord
      if ← tryPunct "::" then
        match ← useTreeAt depth false with
        | some rest => return some (.path name rest)
        | .none => failure
      else if ← tryWord "as" then
        let localName ← if ← peek (startsWord "_") then anyWord else ident
        return some (.rename name localName)
      else return some (.name name)
    else if startsPunct "*" tokens then
      skip
      return some .glob
    else
      let trees ← group .brace <| commas do
        let rooted ← if roots then tryPunct "::" else pure false
        let tree ← useTreeAt depth (roots && !rooted)
        return if rooted then .none else tree
      return if trees.all Option.isSome then some (.group trees.reduceOption) else .none

def useItem : Parser Item := do
  word "use"
  let rooted ← tryPunct "::"
  let tokens ← get
  let tree ← useTreeAt (tokens.length + 1) !rooted
  punct ";"
  match tree with
  | some tree => return .imports tree
  | .none => return .other

def unionItem (g : Grammar) : Parser Unit := do
  word "union"
  let _ ← ident
  let _ ← generics g
  whereClause g
  let _ ← namedFields g

/-- A macro defined by the keyword. -/
def macroDefinition : Parser Unit := do
  word "macro"
  let _ ← ident
  if ← peek (startsGroup .paren) then discard anyGroup
  guard (startsGroup .brace)
  let _ ← anyGroup

/-- An item after its attributes. -/
def itemAfter (g : Grammar) (attributes : List Attribute) : Parser Item := do
  let visible ← visibility
  let tokens ← get
  let next := tokens.drop 1
  let other (rule : Parser Unit) : Parser Item := do
    rule
    return .other
  if startsSignature tokens then other (function g)
  else if startsWord "extern" tokens then other (externItem g)
  else if startsWord "use" tokens then useItem
  else if startsWord "static" tokens then other (staticItem g)
  else if startsWord "const" tokens then other (constantItem g)
  else if startsWord "unsafe" tokens then
    if startsOneOf ["trait", "auto"] next then traitItem g attributes
    else if startsWord "impl" next then other (implItem g)
    else if startsWord "extern" next then other (externItem g)
    else submoduleItem g
  else if startsWord "mod" tokens then submoduleItem g
  else if startsWord "type" tokens then typeItem g ⟨true, false⟩ attributes
  else if startsWord "struct" tokens then structItem g attributes
  else if startsWord "enum" tokens then enumItem g attributes
  else if startsWord "union" tokens && startsIdent next then other (unionItem g)
  else if startsWord "trait" tokens ||
      (startsWord "auto" tokens && startsWord "trait" next) then traitItem g attributes
  else if startsWord "impl" tokens ||
      (startsWord "default" tokens && !startsPunct "!" next) then other (implItem g)
  else if startsWord "macro" tokens then other macroDefinition
  else if !visible && startsMacro tokens then other macroItem
  else failure

def itemRule (g : Grammar) : Parser Item := do
  let attributes ← outerAttributes g
  itemAfter g attributes

/-- A binding statement after its keyword. -/
def localRest (g : Grammar) : Parser Unit := do
  g.pattern
  if ← tryPunct ":" then
    let _ ← g.type true
  if ← tryPunct "=" then
    let _ ← g.expr true
    if ← tryWord "else" then g.block
  punct ";"

/-- Words that begin an item among statements. -/
def statementItemStarts (tokens : List Token) : Bool :=
  let next := tokens.drop 1
  startsSignature tokens ||
    startsOneOf ["pub", "extern", "use", "fn", "mod", "type", "struct", "enum", "trait", "impl",
      "macro"] tokens ||
    (startsWord "static" tokens && (startsWord "mut" next || startsIdent next)) ||
    (startsWord "const" tokens && (startsIdent next || startsWord "_" next)) ||
    (startsWord "unsafe" tokens && !startsGroup .brace next) ||
    (startsWord "union" tokens && startsIdent next) ||
    (startsWord "auto" tokens && startsWord "trait" next) ||
    (startsWord "default" tokens && startsOneOf ["unsafe", "impl"] next)

/-- What stands after the path of a macro call. -/
inductive CallShape where
  | defining
  | braced
  | none
deriving DecidableEq

def callShape (tokens : List Token) : CallShape :=
  match scopePath tokens with
  | some (_, .punct '!' _ :: rest) =>
    if startsIdent rest || startsWord "try" rest then .defining
    else
      match anyGroup rest with
      | some ((.brace, _), after) =>
        if (startsPunct "." after && !startsPunct ".." after) || startsPunct "?" after then .none
        else .braced
      | _ => .none
  | _ => .none

/-- A statement; the answer says whether another one may follow it. -/
def statement (g : Grammar) : Parser Bool := do
  let attributes ← outerAttributes g
  let tokens ← get
  match callShape tokens with
  | .defining =>
    macroItem
    return true
  | .braced =>
    let _ ← scopePath
    let _ ← macroCall
    return true
  | .none =>
    if startsWord "let" tokens then
      skip
      localRest g
      return true
    else if statementItemStarts tokens then
      let _ ← itemAfter g attributes
      return true
    else
      let operand ← arm g
      let closed ← tryPunct ";"
      return operand.blocklike || closed

/-- The block rule. -/
def blockRule (g : Grammar) : Parser Unit :=
  group .brace do
    let _ ← innerAttributes g
    repeating () fun _ => do
      if ← tryPunct ";" then return ((), true)
      if ← peek ended then return ((), false)
      let more ← statement g
      if ← peek ended then return ((), false)
      if more then return ((), true) else failure

end ApiSchema.Source.Grammar
