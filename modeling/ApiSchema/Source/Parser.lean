import ApiSchema.Source.Token

/-! Parsers over tokens. The end of the tokens and a closing delimiter both end what is being
read, so a parser of a group's contents is the parser of a whole text. Loops are bounded by the
number of tokens at hand. -/

namespace ApiSchema.Source

abbrev Parser (α : Type) := StateT (List Token) Option α

namespace Parser

/-- The punctuation `text` at the front: all but its last character are joined to the next. -/
def matchPunct : List Char → List Token → Option (List Token)
  | [], rest => some rest
  | [c], .punct d _ :: rest => if c = d then some rest else none
  | c :: more, .punct d joint :: rest => if c = d && joint then matchPunct more rest else none
  | _, _ => none

def startsPunct (text : String) (tokens : List Token) : Bool :=
  (matchPunct text.toList tokens).isSome

def startsWord (word : String) : List Token → Bool
  | .ident text :: _ => text = word
  | _ => false

/-- A plain identifier, not a keyword. -/
def startsIdent : List Token → Bool
  | .ident text :: _ => !isKeyword text
  | _ => false

def startsAnyWord : List Token → Bool
  | .ident _ :: _ => true
  | _ => false

def startsLifetime : List Token → Bool
  | .lifetime _ :: _ => true
  | _ => false

def startsGroup (d : Delimiter) : List Token → Bool
  | .opening d' :: _ => d = d'
  | _ => false

def startsOneOf (words : List String) : List Token → Bool
  | .ident text :: _ => words.contains text
  | _ => false

/-- A literal, a negated number included. -/
def startsLiteral : List Token → Bool
  | .literal _ :: _ => true
  | .ident text :: _ => text = "true" || text = "false"
  | .punct '-' _ :: .literal (.integer _) :: _ => true
  | .punct '-' _ :: .literal (.float _) :: _ => true
  | _ => false

def ended : List Token → Bool
  | [] => true
  | .closing _ :: _ => true
  | _ => false

def peek (test : List Token → Bool) : Parser Bool := fun tokens => some (test tokens, tokens)

def guard (test : List Token → Bool) : Parser Unit := fun tokens =>
  if test tokens then some ((), tokens) else none

def skip : Parser Unit := fun tokens =>
  match tokens with
  | _ :: rest => some ((), rest)
  | [] => none

def punct (text : String) : Parser Unit := fun tokens =>
  (matchPunct text.toList tokens).map fun rest => ((), rest)

def word (text : String) : Parser Unit := fun tokens =>
  match tokens with
  | .ident t :: rest => if t = text then some ((), rest) else none
  | _ => none

def ident : Parser String := fun tokens =>
  match tokens with
  | .ident text :: rest => if isKeyword text then none else some (text, rest)
  | _ => none

def anyWord : Parser String := fun tokens =>
  match tokens with
  | .ident text :: rest => some (text, rest)
  | _ => none

def lifetime : Parser Unit := fun tokens =>
  match tokens with
  | .lifetime _ :: rest => some ((), rest)
  | _ => none

/-- Take the punctuation if it is there. -/
def tryPunct (text : String) : Parser Bool := fun tokens =>
  match matchPunct text.toList tokens with
  | some rest => some (true, rest)
  | none => some (false, tokens)

def tryWord (text : String) : Parser Bool := fun tokens =>
  match tokens with
  | .ident t :: rest => if t = text then some (true, rest) else some (false, tokens)
  | _ => some (false, tokens)

/-- A literal; a boolean is one too. -/
def literal : Parser Unit := fun tokens =>
  match tokens with
  | .literal _ :: rest => some ((), rest)
  | .ident text :: rest => if text = "true" || text = "false" then some ((), rest) else none
  | .punct '-' _ :: .literal (.integer _) :: rest => some ((), rest)
  | .punct '-' _ :: .literal (.float _) :: rest => some ((), rest)
  | _ => none

def opening (d : Delimiter) : Parser Unit := fun tokens =>
  match tokens with
  | .opening d' :: rest => if d = d' then some ((), rest) else none
  | _ => none

def closing (d : Delimiter) : Parser Unit := fun tokens =>
  match tokens with
  | .closing d' :: rest => if d = d' then some ((), rest) else none
  | _ => none

/-- All that `content` leaves unread in the group is an error. -/
def group (d : Delimiter) (content : Parser α) : Parser α := do
  opening d
  let result ← content
  closing d
  return result

/-- Tokens up to the delimiter that closes `depth` open ones, and what follows it. -/
def contents : (depth : Nat) → List Token → Option (List Token × List Token)
  | _, [] => none
  | depth, .opening d :: rest =>
    (contents (depth + 1) rest).map fun (inside, after) => (.opening d :: inside, after)
  | depth, .closing d :: rest =>
    match depth with
    | 0 => some ([], rest)
    | depth + 1 => (contents depth rest).map fun (inside, after) => (.closing d :: inside, after)
  | depth, token :: rest =>
    (contents depth rest).map fun (inside, after) => (token :: inside, after)

/-- The contents of a group of any kind, unread. -/
def anyGroup : Parser (Delimiter × List Token) := fun tokens =>
  match tokens with
  | .opening d :: rest => (contents 0 rest).map fun (inside, after) => ((d, inside), after)
  | _ => none

/-- Items with a separator between them, to the end; the last may be followed by one too. -/
def terminatedFrom (item : Parser α) (separator : Parser Unit) : (fuel : Nat) → Parser (List α)
  | 0 => failure
  | fuel + 1 => do
    if ← peek ended then return []
    let first ← item
    if ← peek ended then return [first]
    separator
    let rest ← terminatedFrom item separator fuel
    return first :: rest

def terminated (item : Parser α) (separator : Parser Unit) : Parser (List α) := fun tokens =>
  terminatedFrom item separator (tokens.length + 1) tokens

def commas (item : Parser α) : Parser (List α) := terminated item (punct ",")

/-- Items to the end, with nothing between them. -/
def toEnd (item : Parser α) : Parser (List α) := terminated item (pure ())

/-- Repeat `step` while it says that there is more. -/
def repeatFrom (step : α → Parser (α × Bool)) : (fuel : Nat) → α → Parser α
  | 0, _ => failure
  | fuel + 1, state => do
    let (state, more) ← step state
    if more then repeatFrom step fuel state else return state

def repeating (state : α) (step : α → Parser (α × Bool)) : Parser α := fun tokens =>
  repeatFrom step (tokens.length + 2) state tokens

end Parser

end ApiSchema.Source
