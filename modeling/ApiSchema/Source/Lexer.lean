import ApiSchema.Number.Decimal
import ApiSchema.Source.Token
import ApiSchema.Text.Blank
import ApiSchema.Text.Identifier

/-! Cutting Rust source text into tokens. Plain comments and white space separate tokens; a doc
comment is read as the attribute it stands for. -/

namespace ApiSchema.Source

open Text

/-- White space between tokens, the two direction marks included. -/
def isGap (c : Char) : Bool := isBlank c || c.toNat = 0x200e || c.toNat = 0x200f

/-- What follows a block comment of which `depth` levels are open. -/
def closeComment : (depth : Nat) → List Char → Option (List Char)
  | depth, '/' :: '*' :: rest => closeComment (depth + 1) rest
  | depth, '*' :: '/' :: rest =>
    match depth with
    | 0 => none
    | 1 => some rest
    | depth + 1 => closeComment depth rest
  | depth, _ :: rest => closeComment depth rest
  | _, [] => none

/-- A line up to its end, and the rest from the line break on. -/
def takeLine : List Char → List Char × List Char
  | [] => ([], [])
  | '\n' :: rest => ([], '\n' :: rest)
  | '\r' :: '\n' :: rest => ([], '\r' :: '\n' :: rest)
  | c :: rest =>
    let (line, after) := takeLine rest
    (c :: line, after)

/-- Skip white space and comments that are not documentation. -/
def skipGaps : (fuel : Nat) → List Char → List Char
  | 0, cs => cs
  | fuel + 1, cs =>
    match cs with
    | '/' :: '/' :: '/' :: '/' :: rest => skipGaps fuel (takeLine rest).2
    | '/' :: '/' :: '/' :: _ | '/' :: '/' :: '!' :: _ => cs
    | '/' :: '/' :: rest => skipGaps fuel (takeLine rest).2
    | '/' :: '*' :: '*' :: '/' :: rest => skipGaps fuel rest
    | '/' :: '*' :: '*' :: '*' :: rest =>
      match closeComment 1 ('*' :: '*' :: rest) with
      | some after => skipGaps fuel after
      | none => cs
    | '/' :: '*' :: '*' :: _ | '/' :: '*' :: '!' :: _ => cs
    | '/' :: '*' :: rest =>
      match closeComment 1 rest with
      | some after => skipGaps fuel after
      | none => cs
    | c :: rest => if isGap c then skipGaps fuel rest else cs
    | [] => []

/-- No carriage return stands alone. -/
def noBareReturn : List Char → Bool
  | [] => true
  | '\r' :: '\n' :: rest => noBareReturn rest
  | '\r' :: _ => false
  | _ :: rest => noBareReturn rest

/-- The text of a doc comment, whether it is an inner one, and the rest. -/
def docText? (cs : List Char) : Option (List Char × Bool × List Char) :=
  let block (inner : Bool) (body : List Char) : Option (List Char × Bool × List Char) :=
    (closeComment 1 body).map fun after =>
      ((body.take (body.length - after.length - 2)).drop 1, inner, after)
  match cs with
  | '/' :: '/' :: '!' :: rest => let (line, after) := takeLine rest; some (line, true, after)
  | '/' :: '*' :: '!' :: rest => block true ('!' :: rest)
  | '/' :: '/' :: '/' :: '/' :: _ => none
  | '/' :: '/' :: '/' :: rest => let (line, after) := takeLine rest; some (line, false, after)
  | '/' :: '*' :: '*' :: '*' :: _ => none
  | '/' :: '*' :: '*' :: rest => block false ('*' :: rest)
  | _ => none

/-- The attribute a doc comment stands for. -/
def docTokens (text : List Char) (inner : Bool) : List Token :=
  [.punct '#' false] ++ (if inner then [.punct '!' false] else []) ++
    [.opening .bracket, .ident "doc", .punct '=' false, .literal (.string (String.ofList text)),
      .closing .bracket]

def takeWord? (cs : List Char) : Option (List Char × List Char) :=
  match cs with
  | c :: _ => if isIdentifierStart c then some (cs.span isIdentifierPart) else none
  | [] => none

/-- An identifier, raw or not; a raw one keeps its mark. -/
def identifier? (cs : List Char) : Option (String × List Char) :=
  match cs with
  | 'r' :: '#' :: rest => do
    let (word, after) ← takeWord? rest
    if ["_", "super", "self", "Self", "crate"].contains (String.ofList word) then none
    else some (String.ofList ('r' :: '#' :: word), after)
  | _ => (takeWord? cs).map fun (word, after) => (String.ofList word, after)

def skipSuffix (cs : List Char) : List Char :=
  match takeWord? cs with
  | some (_, after) => after
  | none => cs

def hexValue? (c : Char) : Option Nat :=
  if '0' ≤ c ∧ c ≤ '9' then some (c.toNat - '0'.toNat)
  else if 'a' ≤ c ∧ c ≤ 'f' then some (c.toNat - 'a'.toNat + 10)
  else if 'A' ≤ c ∧ c ≤ 'F' then some (c.toNat - 'A'.toNat + 10)
  else none

/-- A braced code point after its opening brace: up to six digits, underscores between them. -/
def codePoint? : (count value : Nat) → List Char → Option (Char × List Char)
  | _, _, [] => none
  | count, value, c :: rest =>
    if c = '_' && count > 0 then codePoint? count value rest
    else if c = '\x7d' && count > 0 then
      if value.isValidChar then some (Char.ofNat value, rest) else none
    else
      match hexValue? c with
      | some digit => if count = 6 then none else codePoint? (count + 1) (16 * value + digit) rest
      | none => none

/-- What a quoted literal may hold: text, or bytes, which are ASCII and have no code points. -/
inductive Quoted where
  | text
  | bytes
deriving DecidableEq

/-- An escape after its backslash, line continuations apart. -/
def escape? (kind : Quoted) (cs : List Char) : Option (Char × List Char) :=
  match cs with
  | 'n' :: rest => some ('\n', rest)
  | 'r' :: rest => some ('\r', rest)
  | 't' :: rest => some ('\t', rest)
  | '\\' :: rest => some ('\\', rest)
  | '0' :: rest => some (Char.ofNat 0, rest)
  | '"' :: rest => some ('"', rest)
  | 'x' :: a :: b :: rest => do
    let high ← hexValue? a
    let low ← hexValue? b
    if kind = .text && high > 7 then none else some (Char.ofNat (16 * high + low), rest)
  | 'u' :: '\x7b' :: rest => if kind = .text then codePoint? 0 0 rest else none
  | c :: rest => if c.toNat = 0x27 then some (c, rest) else none
  | [] => none

def isLineSpace (c : Char) : Bool := c = ' ' || c = '\t' || c = '\n' || c = '\r'

/-- The rest of a quoted string after its opening quote; `written` is its value so far, reversed.
A backslash at the end of a line swallows the white space that follows. -/
def cookedTail? (kind : Quoted) : (fuel : Nat) → (written : List Char) → List Char →
    Option (List Char × List Char)
  | 0, _, _ => none
  | fuel + 1, written, cs =>
    match cs with
    | [] => none
    | '"' :: rest => some (written.reverse, skipSuffix rest)
    | '\r' :: '\n' :: rest => cookedTail? kind fuel ('\n' :: written) rest
    | '\r' :: _ => none
    | '\\' :: '\n' :: rest | '\\' :: '\r' :: '\n' :: rest =>
      let (space, after) := rest.span isLineSpace
      if noBareReturn space then cookedTail? kind fuel written after else none
    | '\\' :: rest =>
      match escape? kind rest with
      | some (c, after) => cookedTail? kind fuel (c :: written) after
      | none => none
    | c :: rest =>
      if kind = .bytes && c.toNat ≥ 0x80 then none else cookedTail? kind fuel (c :: written) rest

/-- The rest of a raw string after its opening quote; it ends at a quote and as many marks. -/
def rawTail? (marks : List Char) : (written : List Char) → List Char →
    Option (List Char × List Char)
  | _, [] => none
  | written, c :: rest =>
    if c = '"' && marks.isPrefixOf rest then
      some (written.reverse, skipSuffix (rest.drop marks.length))
    else if c = '\r' && rest.head? ≠ some '\n' then none
    else rawTail? marks (c :: written) rest

/-- A raw string after its letter. -/
def raw? (cs : List Char) : Option (List Char × List Char) :=
  let (marks, rest) := cs.span (· = '#')
  match rest with
  | '"' :: rest => if marks.length > 255 then none else rawTail? marks [] rest
  | _ => none

/-- A quoted character after its opening quote. -/
def quotedChar? (kind : Quoted) (cs : List Char) : Option (Char × List Char) := do
  let (c, rest) ← match cs with
    | '\\' :: rest => escape? kind rest
    | c :: rest => some (c, rest)
    | [] => none
  match rest with
  | q :: rest => if q.toNat = 0x27 then some (c, skipSuffix rest) else none
  | [] => none

def isDigitOrGap (c : Char) : Bool := c.isDigit || c = '_'

/-- The exponent after its letter, as far as it goes; it needs a digit to count. -/
def exponentTail : (signed digits : Bool) → (taken : List Char) → List Char →
    Option (List Char × List Char)
  | _, digits, taken, [] => if digits then some (taken.reverse, []) else none
  | signed, digits, taken, c :: rest =>
    if c = '+' || c = '-' then
      if digits then some (taken.reverse, c :: rest)
      else if signed then none
      else exponentTail true digits (c :: taken) rest
    else if c.isDigit then exponentTail signed true (c :: taken) rest
    else if c = '_' then exponentTail signed digits (c :: taken) rest
    else if digits then some (taken.reverse, c :: rest)
    else none

/-- Characters of a number with a fraction or an exponent. -/
def floatChars? (cs : List Char) : Option (List Char × List Char) :=
  match cs with
  | [] => none
  | c :: rest =>
    if !c.isDigit then none
    else
      let (digits, rest) := rest.span isDigitOrGap
      let whole := c :: digits
      let mark (e : Char) (before : List Char) (rest : List Char) :=
        (exponentTail false false [] rest).map fun (tail, after) => (before ++ e :: tail, after)
      match rest with
      | '.' :: rest =>
        if rest.head?.any (fun c => c = '.' || isIdentifierStart c) then none
        else
          let (fraction, after) := rest.span isDigitOrGap
          let plain := (whole ++ '.' :: fraction, after)
          match after with
          | 'e' :: more => (mark 'e' plain.1 more).or (some plain)
          | 'E' :: more => (mark 'E' plain.1 more).or (some plain)
          | _ => some plain
      | 'e' :: more => mark 'e' whole more
      | 'E' :: more => mark 'E' whole more
      | _ => none

/-- Digits of a whole number in the given base, underscores included. -/
def baseDigits? (base : Nat) : (seen : Bool) → (taken : List Char) → List Char →
    Option (List Char × List Char)
  | seen, taken, [] => if seen then some (taken.reverse, []) else none
  | seen, taken, c :: rest =>
    if c = '_' then
      if !seen && base = 10 then none else baseDigits? base seen (c :: taken) rest
    else
      match hexValue? c with
      | some digit =>
        if digit < base then baseDigits? base true (c :: taken) rest
        else if c.isDigit then none
        else if seen then some (taken.reverse, c :: rest)
        else none
      | none => if seen then some (taken.reverse, c :: rest) else none

def integerChars? (cs : List Char) : Option (List Char × List Char) :=
  match cs with
  | '0' :: 'x' :: rest => (baseDigits? 16 false [] rest).map fun (d, r) => ('0' :: 'x' :: d, r)
  | '0' :: 'o' :: rest => (baseDigits? 8 false [] rest).map fun (d, r) => ('0' :: 'o' :: d, r)
  | '0' :: 'b' :: rest => (baseDigits? 2 false [] rest).map fun (d, r) => ('0' :: 'b' :: d, r)
  | _ => baseDigits? 10 false [] cs

/-- A number with its suffix; nothing that could continue a word may follow. -/
def withSuffix? (chars rest : List Char) : Option (List Char × List Char) :=
  let (suffix, after) := match takeWord? rest with
    | some pair => pair
    | none => ([], rest)
  if after.head?.any isIdentifierPart then none else some (chars ++ suffix, after)

/-- An exponent that makes a number a fraction follows the letter; `seen` says a digit did. -/
def exponentFollows : (seen : Bool) → List Char → Bool
  | seen, [] => seen
  | seen, c :: rest =>
    if c = '_' then exponentFollows seen rest
    else if c = '+' || c = '-' then true
    else if c.isDigit then exponentFollows true rest
    else seen && isIdentifierStart c

/-- Value of a whole number written in `base`; a decimal point or an exponent makes it none. -/
def integerValue? (base : Nat) : (seen : Bool) → (value : Nat) → List Char → Option Nat
  | seen, value, [] => if seen then some value else none
  | seen, value, c :: rest =>
    if c = '_' then integerValue? base seen value rest
    else if base = 10 && c = '.' then none
    else if base = 10 && (c = 'e' || c = 'E') && exponentFollows false rest then none
    else
      match hexValue? c with
      | some digit =>
        if c.isDigit || base > 10 then
          if digit < base then integerValue? base true (base * value + digit) rest else none
        else if seen then some value
        else none
      | none => if seen then some value else none

/-- Digits of a fraction: no underscores, a small exponent letter, no plus sign, no suffix. -/
def floatDigits : (inExponent digits : Bool) → List Char → List Char
  | _, _, [] => []
  | inExponent, digits, c :: rest =>
    if c = '_' || c = '+' then floatDigits inExponent digits rest
    else if c.isDigit then c :: floatDigits inExponent inExponent rest
    else if c = '.' || c = '-' then c :: floatDigits inExponent digits rest
    else if (c = 'e' || c = 'E') && !inExponent &&
        (rest.find? (· ≠ '_')).any (fun d => d = '-' || d = '+' || d.isDigit) then
      'e' :: floatDigits true false rest
    else []

/-- The literal a number's characters stand for. -/
def numberLiteral (chars : List Char) : Literal :=
  let whole := match chars with
    | '0' :: 'x' :: rest => integerValue? 16 false 0 rest
    | '0' :: 'o' :: rest => integerValue? 8 false 0 rest
    | '0' :: 'b' :: rest => integerValue? 2 false 0 rest
    | _ => integerValue? 10 false 0 chars
  match whole with
  | some n => .integer (Decimal.nat n)
  | none => .float (String.ofList (floatDigits false false chars))

def number? (cs : List Char) : Option (Literal × List Char) :=
  let float := (floatChars? cs).bind fun (chars, rest) => withSuffix? chars rest
  let integer := (integerChars? cs).bind fun (chars, rest) => withSuffix? chars rest
  (float.or integer).map fun (chars, rest) => (numberLiteral chars, rest)

def literal? (cs : List Char) : Option (Literal × List Char) :=
  let cooked (kind : Quoted) (rest : List Char) := cookedTail? kind (rest.length + 1) [] rest
  let ofBytes (read : Option (List Char × List Char)) : Option (Literal × List Char) :=
    read.map fun (_, after) => (.bytes, after)
  match cs with
  | '"' :: rest =>
    (cooked .text rest).map fun (value, after) => (.string (String.ofList value), after)
  | 'r' :: rest => (raw? rest).map fun (value, after) => (.string (String.ofList value), after)
  | 'b' :: '"' :: rest => ofBytes (cooked .bytes rest)
  | 'b' :: 'r' :: rest => ofBytes (raw? rest)
  | 'c' :: '"' :: rest => ofBytes (cooked .text rest)
  | 'c' :: 'r' :: rest => ofBytes (raw? rest)
  | 'b' :: q :: rest =>
    if q.toNat = 0x27 then (quotedChar? .bytes rest).map fun (_, after) => (.bytes, after) else none
  | q :: rest =>
    if q.toNat = 0x27 then (quotedChar? .text rest).map fun (c, after) => (.char c, after)
    else number? cs
  | [] => none

def isPunct (c : Char) : Bool := "~!@#$%^&*-=+|;:,<.>/?".toList.contains c || c.toNat = 0x27

/-- A punctuation character stands here, and not a comment. -/
def punctFollows (cs : List Char) : Bool :=
  match cs with
  | '/' :: '/' :: _ | '/' :: '*' :: _ => false
  | c :: _ => isPunct c
  | [] => false

/-- A quote followed by an identifier that no second quote ends. -/
def lifetime? (cs : List Char) : Option (String × List Char) := do
  let (name, after) ← identifier? cs
  let closed := after.head?.any fun c => c.toNat = 0x27 || (c = '#' && !List.isPrefixOf ['r', '#'] cs)
  if closed then none else some (name, after)

/-- A letter that begins a quoted literal does not begin an identifier. -/
def quoteLetters (cs : List Char) : Bool :=
  ["r\"", "r#\"", "r##", "b\"", "b'", "br\"", "br#", "c\"", "cr\"", "cr#"].any fun start =>
    start.toList.isPrefixOf cs

def delimiter? (c : Char) : Option Token :=
  match c with
  | '(' => some (.opening .paren)
  | '[' => some (.opening .bracket)
  | '\x7b' => some (.opening .brace)
  | ')' => some (.closing .paren)
  | ']' => some (.closing .bracket)
  | '\x7d' => some (.closing .brace)
  | _ => none

/-- The tokens at the front of a text that starts with no gap. -/
def nextTokens? (cs : List Char) : Option (List Token × List Char) :=
  match docText? cs with
  | some (text, inner, after) =>
    if noBareReturn text then some (docTokens text inner, after) else none
  | none =>
    match cs with
    | [] => none
    | c :: rest =>
      match delimiter? c with
      | some token => some ([token], rest)
      | none =>
        match literal? cs with
        | some (value, after) => some ([.literal value], after)
        | none =>
          if punctFollows cs then
            if c.toNat = 0x27 then
              (lifetime? rest).map fun (name, after) => ([.lifetime name], after)
            else some ([.punct c (punctFollows rest)], rest)
          else if quoteLetters cs then none
          else (identifier? cs).map fun (name, after) => ([.ident name], after)

def tokensFrom? : (fuel : Nat) → List Char → Option (List Token)
  | 0, _ => none
  | fuel + 1, cs =>
    match skipGaps (cs.length + 1) cs with
    | [] => some []
    | cs => do
      let (tokens, rest) ← nextTokens? cs
      let more ← tokensFrom? fuel rest
      return tokens ++ more

/-- The tokens of a text, if it is made of tokens and its delimiters match. -/
def tokenize? (text : String) : Option (List Token) := do
  let cs := match text.toList with
    | c :: rest => if c.toNat = 0xfeff then rest else c :: rest
    | [] => []
  let tokens ← tokensFrom? (cs.length + 1) cs
  if balanced [] tokens then some tokens else none

end ApiSchema.Source
