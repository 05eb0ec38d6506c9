import ApiSchema.Source.Parser
import ApiSchema.Source.Tree

/-! The parsers that the rules of the grammar refer to one another by. A rule is written against
a `Grammar`, and each level of nesting is read by the grammar of one level less. -/

namespace ApiSchema.Source

structure Grammar where
  /-- A type; `plus` lets bounds joined by `+` be part of it. -/
  type : (plus : Bool) → Parser TypeTerm
  /-- An expression; `braces` lets a record expression follow a path. -/
  expr : (braces : Bool) → Parser Expr
  pattern : Parser Unit
  /-- Statements in braces. -/
  block : Parser Unit
  item : Parser Item

namespace Grammar

/-- The grammar of no levels reads nothing. -/
def none : Grammar where
  type _ := failure
  expr _ := failure
  pattern := failure
  block := failure
  item := failure

end Grammar

end ApiSchema.Source
