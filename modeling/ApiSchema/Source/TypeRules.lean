import ApiSchema.Source.Grammar

/-! Rules for types, paths and bounds. -/

namespace ApiSchema.Source.Grammar

open Source.Parser

/-- Words that are segments of a path without arguments. -/
def scopeWords : List String := ["super", "self", "crate", "try"]

/-- A path's segments so far, with the type arguments of the last one. -/
structure PathTerm where
  shape : PathShape := {}
  segments : List String := []
  args : List TypeTerm := []

/-- Bounds joined by `+`, until a comma, an angle or one of `stops` follows. -/
def boundsUntil (bound : Parser Bool) (stops : List Token → Bool) : Parser Unit :=
  repeating () fun _ => do
    if ← peek stops then return ((), false)
    let _ ← bound
    let more ← tryPunct "+"
    return ((), more)

/-- A path that may begin with `::`, read segment by segment. -/
def segmentsFrom (segment : Parser (String × Option (List TypeTerm))) (term : PathTerm) :
    Parser PathTerm :=
  repeating term fun term => do
    let (name, args) ← segment
    let term : PathTerm :=
      { shape := { term.shape with applied := term.shape.applied || args.isSome }
        segments := term.segments ++ [name]
        args := args.getD [] }
    let tokens ← get
    let more := startsPunct "::" tokens && !startsGroup .paren (tokens.drop 2)
    if more then punct "::"
    return (term, more)

/-- One of the arguments between angle brackets; only types are kept. -/
def genericArgument (g : Grammar) (bound : Parser Bool) : Parser (Option TypeTerm) := do
  let tokens ← get
  if startsLifetime tokens && !startsPunct "+" (tokens.drop 1) then
    lifetime
    return .none
  if startsLiteral tokens then
    literal
    return .none
  if startsGroup .brace tokens then
    g.block
    return .none
  let type ← g.type true
  let plain := match type with
    | .path shape [_] _ => !shape.rooted && !shape.qualified && !shape.called
    | _ => false
  if plain then
    if ← tryPunct "=" then
      let tokens ← get
      if startsLiteral tokens then literal
      else if startsGroup .brace tokens then g.block
      else let _ ← g.type true
      return .none
    if ← tryPunct ":" then
      boundsUntil bound fun tokens => startsPunct "," tokens || startsPunct ">" tokens
      return .none
  return some type

/-- Arguments between angle brackets. -/
def angleArguments (g : Grammar) (bound : Parser Bool) : Parser (List TypeTerm) := do
  punct "<"
  let args ← repeating [] fun args => do
    if ← peek (startsPunct ">") then return (args, false)
    let arg ← genericArgument g bound
    let args := args ++ arg.toList
    if ← peek (startsPunct ">") then return (args, false)
    punct ","
    return (args, true)
  punct ">"
  return args

/-- A segment of a path. In expressions arguments need a `::` before them. -/
def segment (g : Grammar) (bound : Parser Bool) (inExpr : Bool) :
    Parser (String × Option (List TypeTerm)) := do
  if ← peek (startsOneOf scopeWords) then
    return (← anyWord, .none)
  let name ← if ← peek (startsWord "Self") then anyWord else ident
  let tokens ← get
  if !inExpr && startsPunct "<" tokens && !startsPunct "<=" tokens then
    return (name, some (← angleArguments g bound))
  if startsPunct "::" tokens && startsPunct "<" (tokens.drop 2) then
    punct "::"
    return (name, some (← angleArguments g bound))
  return (name, .none)

def plainPath (g : Grammar) (bound : Parser Bool) (inExpr : Bool) : Parser PathTerm := do
  let rooted ← tryPunct "::"
  segmentsFrom (segment g bound inExpr) { shape := { rooted } }

/-- A path, or one that starts with a type in angle brackets, whose trait's segments come
first. -/
def anyPath (g : Grammar) (bound : Parser Bool) (inExpr : Bool) : Parser PathTerm := do
  if ← tryPunct "<" then
    let _ ← g.type true
    let base ← if ← tryWord "as" then plainPath g bound false else pure {}
    punct ">"
    punct "::"
    repeating { base with shape := { base.shape with qualified := true } } fun term => do
      let (name, args) ← segment g bound inExpr
      let more ← tryPunct "::"
      return ({ term with segments := term.segments ++ [name], args := args.getD [] }, more)
  else plainPath g bound inExpr

/-- The result type of a function, if one is written. -/
def returnType (g : Grammar) (plus : Bool) : Parser Unit := do
  if ← tryPunct "->" then
    let _ ← g.type plus

/-- Argument types in parentheses and a result type. -/
def callArguments (g : Grammar) : Parser Unit := do
  let _ ← group .paren (commas (g.type true))
  returnType g false

def followedByCall (tokens : List Token) : Bool :=
  startsGroup .paren tokens || (startsPunct "::" tokens && startsGroup .paren (tokens.drop 2))

/-- Lifetimes bound by `for`, if there are any. -/
def boundLifetimes (attributes : Parser Unit) : Parser Bool := do
  if ← tryWord "for" then
    punct "<"
    repeating () fun _ => do
      if ← peek (startsPunct ">") then return ((), false)
      attributes
      lifetime
      if ← tryPunct ":" then
        repeating () fun _ => do
          if ← peek startsLifetime then
            lifetime
            return ((), ← tryPunct "+")
          else return ((), false)
      return ((), ← tryPunct ",")
    punct ">"
    return true
  else return false

/-- Arguments in parentheses after a path that has none. -/
def calledPath (g : Grammar) (bound : Parser Bool) (term : PathTerm) : Parser PathTerm :=
  repeating term fun term => do
    if !term.shape.called && term.args.isEmpty && followedByCall (← get) then
      let _ ← tryPunct "::"
      callArguments g
      if ← tryPunct "::" then
        let term ← segmentsFrom (segment g bound false) { term with args := [] }
        return ({ term with shape := { term.shape with applied := true } }, true)
      return ({ term with shape := { term.shape with applied := true, called := true } }, false)
    else return (term, false)

/-- A bound after its optional parenthesis. -/
def traitBound (g : Grammar) (bound : Parser Bool) : Parser Unit := do
  let _ ← boundLifetimes (pure ())
  let _ ← tryPunct "~"
  let _ ← tryWord "const"
  let _ ← tryPunct "?"
  let _ ← boundLifetimes (pure ())
  let term ← plainPath g bound false
  if followedByCall (← get) then
    let _ ← calledPath g bound term

/-- A bound of bounded depth; the answer says whether it is a trait and not a lifetime. -/
def boundAt (g : Grammar) : (depth : Nat) → Parser Bool
  | 0 => failure
  | depth + 1 => do
    let tokens ← get
    if startsLifetime tokens then
      lifetime
      return false
    else if startsWord "use" tokens then
      word "use"
      punct "<"
      repeating () fun _ => do
        if ← peek (startsPunct ">") then return ((), false)
        skip
        return ((), true)
      punct ">"
      return false
    else if startsGroup .paren tokens then
      group .paren (traitBound g (boundAt g depth))
      return true
    else
      traitBound g (boundAt g depth)
      return true

/-- A bound. Bounds nest through generic arguments, so the tokens at hand bound the depth. -/
def bound (g : Grammar) : Parser Bool := fun tokens => boundAt g (tokens.length + 1) tokens

def boundFollows (tokens : List Token) : Bool :=
  startsAnyWord tokens || startsPunct "::" tokens || startsPunct "?" tokens ||
    startsLifetime tokens || startsGroup .paren tokens

/-- Bounds joined by `+`; the answer says whether any is a trait. -/
def bounds (g : Grammar) (plus : Bool) : Parser Bool :=
  repeating false fun found => do
    let isTrait ← bound g
    let found := found || isTrait
    if plus then
      if ← tryPunct "+" then
        return (found, ← peek boundFollows)
    return (found, false)

/-- Bounds of which one at least is a trait. -/
def traitBounds (g : Grammar) (plus : Bool) : Parser TypeTerm := do
  if ← bounds g plus then return .other else failure

/-- `extern` and the name of a calling convention. -/
def callingConvention : Parser Unit := do
  if ← tryWord "extern" then
    match ← get with
    | .literal (.string _) :: _ => skip
    | _ => return ()

/-- A parameter of a function type: a type that may have a name. -/
def functionParameter (g : Grammar) : Parser Unit := do
  let tokens ← get
  let tokens := if startsWord "mut" tokens && startsWord "self" (tokens.drop 1) then tokens.drop 1
    else tokens
  let named := (startsIdent tokens || startsWord "_" tokens || startsWord "self" tokens) &&
    startsPunct ":" (tokens.drop 1) && !startsPunct "::" (tokens.drop 1)
  if named then set (tokens.drop 2)
  if startsPunct "..." (← get) then punct "..."
  else let _ ← g.type true

def functionType (g : Grammar) : Parser TypeTerm := do
  let _ ← tryWord "unsafe"
  callingConvention
  word "fn"
  let _ ← group .paren (commas (functionParameter g))
  returnType g false
  return .function

/-- The rest of a type that starts with a parenthesis. -/
def parenthesized (g : Grammar) (plus : Bool) : Parser TypeTerm := do
  opening .paren
  let tokens ← get
  if ended tokens then
    closing .paren
    return .other
  if startsLifetime tokens then
    let inner ← traitBounds g true
    closing .paren
    return .paren inner
  if startsPunct "?" tokens then
    let _ ← bound g
    closing .paren
    boundsUntil' g
    return .other
  let first ← g.type true
  if ← tryPunct "," then
    let _ ← commas (g.type true)
    closing .paren
    return .other
  closing .paren
  let joins := match first with
    | .path shape _ _ => !shape.qualified
    | _ => false
  if plus && joins && (← peek (startsPunct "+")) then
    boundsUntil' g
    return .other
  return .paren first
where
  /-- Further bounds, each after a `+`. -/
  boundsUntil' (g : Grammar) : Parser Unit :=
    repeating () fun _ => do
      if ← tryPunct "+" then
        let _ ← bound g
        return ((), true)
      else return ((), false)

/-- A type that is a path, a macro call, or bounds that start with a path. -/
def pathType (g : Grammar) (plus quantified : Bool) : Parser TypeTerm := do
  let term ← anyPath g (bound g) false
  let term ← calledPath g (bound g) term
  if term.shape.qualified then return .path term.shape term.segments term.args
  let tokens ← get
  if startsPunct "!" tokens && !startsPunct "!=" tokens && !term.shape.applied then
    punct "!"
    let _ ← anyGroup
    return .other
  if quantified || (plus && startsPunct "+" tokens) then
    if plus then
      repeating () fun _ => do
        if ← tryPunct "+" then
          if ← peek boundFollows then
            let _ ← bound g
            return ((), true)
        return ((), false)
    return .other
  return .path term.shape term.segments term.args

def pathStarts (tokens : List Token) : Bool :=
  startsIdent tokens || startsOneOf ["super", "self", "Self", "crate"] tokens ||
    startsPunct "::" tokens || startsPunct "<" tokens

def functionStarts (tokens : List Token) : Bool := startsOneOf ["fn", "unsafe", "extern"] tokens

/-- The type rule. -/
def typeRule (g : Grammar) (plus : Bool) : Parser TypeTerm := do
  let quantified ← boundLifetimes (pure ())
  let tokens ← get
  if startsGroup .paren tokens && !quantified then parenthesized g plus
  else if functionStarts tokens then functionType g
  else if pathStarts tokens then pathType g plus quantified
  else if quantified then failure
  else if startsWord "dyn" tokens then
    word "dyn"
    let _ ← tryPunct "*"
    traitBounds g plus
  else if startsGroup .bracket tokens then
    group .bracket do
      let element ← g.type true
      if ← tryPunct ";" then
        let _ ← g.expr true
      return .sequence element
  else if startsPunct "*" tokens then
    punct "*"
    if ← tryWord "const" then pure () else word "mut"
    let _ ← g.type false
    return .other
  else if startsPunct "&" tokens then
    punct "&"
    if ← peek startsLifetime then lifetime
    let _ ← tryWord "mut"
    return .reference (← g.type false)
  else if startsPunct "!" tokens && !startsPunct "=" (tokens.drop 1) then
    punct "!"
    return .other
  else if startsWord "impl" tokens then
    word "impl"
    traitBounds g plus
  else if startsWord "_" tokens then
    word "_"
    return .other
  else if startsLifetime tokens then traitBounds g true
  else failure

end ApiSchema.Source.Grammar
