import ApiSchema.Text.Case
import ApiSchema.Text.Split

/-! Property names: the naming strategies of a run and the renaming rules a declaration may
state for its members. -/

namespace ApiSchema

inductive Naming where
  | verbatim
  | camel
  | snake
  | pascal
deriving DecidableEq, Repr, Inhabited

namespace Naming

open Text

def isSeparator (c : Char) : Bool := c = '_' || c = '-'

/-- Capitalised words run together. `started` says that a character was written already, `capital`
that the next one is to be capitalised; `upperFirst` also capitalises the first word. -/
def camelFrom (upperFirst : Bool) : (started capital : Bool) → List Char → List Char
  | _, _, [] => []
  | started, capital, c :: rest =>
    if isSeparator c then camelFrom upperFirst started (started || upperFirst) rest
    else if capital then upperChar c ++ camelFrom upperFirst true false rest
    else if started then c :: camelFrom upperFirst true false rest
    else lowerChar c ++ camelFrom upperFirst true false rest

def camelChars (upperFirst : Bool) (name : List Char) : List Char :=
  camelFrom upperFirst false upperFirst name

/-- An underscore goes before a capital that begins a word: one that follows a lower case letter
or a digit, or that follows a capital and precedes a lower case letter. -/
def beginsWord (previous next : Option Char) : Bool :=
  previous.any (fun p => isLowercase p || p.isDigit) ||
    (previous.any isUppercase && next.any isLowercase)

/-- Lower case words joined by underscores; `previous` is the character read last and `written`
the one written last. -/
def snakeFrom : (previous written : Option Char) → List Char → List Char
  | _, _, [] => []
  | previous, written, c :: rest =>
    if c = '-' then '_' :: snakeFrom (some c) (some '_') rest
    else if isUppercase c then
      let word := lowerChar c
      let out := if written ≠ some '_' && beginsWord previous rest.head? then '_' :: word else word
      out ++ snakeFrom (some c) (out.getLast?.or written) rest
    else c :: snakeFrom (some c) (some c) rest

def snakeChars (name : List Char) : List Char := snakeFrom none none name

def apply (strategy : Naming) (name : String) : String :=
  match strategy with
  | verbatim => name
  | camel => String.ofList (camelChars false name.toList)
  | pascal => String.ofList (camelChars true name.toList)
  | snake => String.ofList (snakeChars name.toList)

/-- The strategy a renaming rule stands for, for the rules that are strategies. -/
def ofRule? (rule : String) : Option Naming :=
  match rule with
  | "camelCase" => some camel
  | "snake_case" => some snake
  | "PascalCase" => some pascal
  | _ => none

/-- A name under a renaming rule; an unknown rule gives nothing. -/
def rename? (rule name : String) : Option String :=
  match ofRule? rule with
  | some strategy => some (strategy.apply name)
  | none =>
    let words := snake.apply name
    match rule with
    | "lowercase" => some (lower name)
    | "UPPERCASE" => some (upper name)
    | "SCREAMING_SNAKE_CASE" => some (upper words)
    | "kebab-case" => some (replaceChar '_' ['-'] words)
    | "SCREAMING-KEBAB-CASE" => some (upper (replaceChar '_' ['-'] words))
    | _ => none

end Naming

end ApiSchema
