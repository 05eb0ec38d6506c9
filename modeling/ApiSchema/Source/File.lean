import ApiSchema.Source.ItemRules
import ApiSchema.Source.Lexer

/-! Whole source files and single types. The rules are tied together by a grammar of as many
levels as there can be nesting in the tokens at hand. -/

namespace ApiSchema.Source

/-- The grammar that reads what nests at most `levels` deep. -/
def grammar : (levels : Nat) → Grammar
  | 0 => .none
  | levels + 1 =>
    let g := grammar levels
    { type := g.typeRule
      expr := g.exprRule
      pattern := g.patternRule
      block := g.blockRule
      item := g.itemRule }

/-- Levels enough for the tokens: each takes at least one of them. -/
def levelsFor (tokens : List Token) : Nat := 2 * tokens.length + 4

/-- Run a parser on tokens it must use up. -/
def parseAll? (rule : Grammar → Parser α) (tokens : List Token) : Option α :=
  match rule (grammar (levelsFor tokens)) tokens with
  | some (result, []) => some result
  | _ => none

/-- What follows the line that names an interpreter, if the file starts with one. -/
def dropInterpreter (cs : List Char) : List Char :=
  match cs with
  | '#' :: '!' :: rest =>
    match skipGaps (rest.length + 1) rest with
    | '[' :: _ => cs
    | _ => rest.dropWhile (· ≠ '\n')
  | _ => cs

def dropByteOrderMark (cs : List Char) : List Char :=
  match cs with
  | c :: rest => if c.toNat = 0xfeff then rest else cs
  | [] => []

/-- Items of a file. -/
def parseFile? (text : String) : Option (List Item) := do
  let tokens ← tokenize? (String.ofList (dropInterpreter (dropByteOrderMark text.toList)))
  parseAll? (fun g => do
    let _ ← g.innerAttributes
    Parser.toEnd g.item) tokens

def parseType? (text : String) : Option TypeTerm := do
  let tokens ← tokenize? text
  parseAll? (fun g => g.type true) tokens

end ApiSchema.Source
