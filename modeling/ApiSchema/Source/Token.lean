/-! Tokens of Rust source text. Punctuation is one character a token, with a mark when another
punctuation character follows at once; the two halves of a delimiter are tokens of their own. -/

namespace ApiSchema.Source

inductive Delimiter where
  | paren
  | bracket
  | brace
deriving DecidableEq, Repr

inductive Literal where
  | string (value : String)
  | char (value : Char)
  /-- Decimal digits of the value. -/
  | integer (digits : String)
  /-- Digits, fraction and exponent without underscores and suffix. -/
  | float (digits : String)
  /-- Byte and C strings and bytes, whose value is of no interest. -/
  | bytes
deriving DecidableEq, Repr

inductive Token where
  | ident (text : String)
  | lifetime (name : String)
  | punct (char : Char) (joint : Bool)
  | literal (value : Literal)
  | opening (delimiter : Delimiter)
  | closing (delimiter : Delimiter)
deriving DecidableEq, Repr

/-- Words that are never plain identifiers. -/
def keywords : List String :=
  ["_", "abstract", "as", "async", "await", "become", "box", "break", "const", "continue", "crate",
    "do", "dyn", "else", "enum", "extern", "false", "final", "fn", "for", "if", "impl", "in", "let",
    "loop", "macro", "match", "mod", "move", "mut", "override", "priv", "pub", "ref", "return",
    "Self", "self", "static", "struct", "super", "trait", "true", "try", "type", "typeof", "unsafe",
    "unsized", "use", "virtual", "where", "while", "yield"]

def isKeyword (text : String) : Bool := keywords.contains text

/-- Every delimiter closes the one opened last; `opened` holds those still open. -/
def balanced : (opened : List Delimiter) → List Token → Bool
  | opened, [] => opened.isEmpty
  | opened, .opening d :: rest => balanced (d :: opened) rest
  | [], .closing _ :: _ => false
  | top :: opened, .closing d :: rest => top = d && balanced opened rest
  | opened, _ :: rest => balanced opened rest

end ApiSchema.Source
