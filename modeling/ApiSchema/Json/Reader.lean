import ApiSchema.Json.Value
import ApiSchema.Number.Decimal

/-! Reading JSON text. Values nest at most 127 deep. `read?` keeps repeated members and turns a
number that is too large into an infinity; `parse?` refuses such numbers and gives the canonical
value. -/

namespace ApiSchema.Json

def isSpace (c : Char) : Bool := c = ' ' || c = '\t' || c = '\n' || c = '\r'

def skipSpace (cs : List Char) : List Char := cs.dropWhile isSpace

def hexDigit? (c : Char) : Option Nat :=
  if '0' ≤ c ∧ c ≤ '9' then some (c.toNat - '0'.toNat)
  else if 'a' ≤ c ∧ c ≤ 'f' then some (c.toNat - 'a'.toNat + 10)
  else if 'A' ≤ c ∧ c ≤ 'F' then some (c.toNat - 'A'.toNat + 10)
  else none

def hex4? (cs : List Char) : Option (Nat × List Char) :=
  match cs with
  | a :: b :: c :: d :: rest => do
    let a ← hexDigit? a
    let b ← hexDigit? b
    let c ← hexDigit? c
    let d ← hexDigit? d
    return (((a * 16 + b) * 16 + c) * 16 + d, rest)
  | _ => none

/-- The character of a `\u` escape; a leading surrogate needs its trailing one right after it. -/
def unicodeEscape? (cs : List Char) : Option (Char × List Char) := do
  let (unit, rest) ← hex4? cs
  if 0xdc00 ≤ unit ∧ unit ≤ 0xdfff then none
  else if 0xd800 ≤ unit ∧ unit ≤ 0xdbff then
    match rest with
    | '\\' :: 'u' :: more =>
      let (low, rest) ← hex4? more
      if 0xdc00 ≤ low ∧ low ≤ 0xdfff then
        some (Char.ofNat (0x10000 + (unit - 0xd800) * 0x400 + (low - 0xdc00)), rest)
      else none
    | _ => none
  else some (Char.ofNat unit, rest)

def simpleEscape? (c : Char) : Option Char :=
  match c with
  | '"' => some '"'
  | '\\' => some '\\'
  | '/' => some '/'
  | 'b' => some (Char.ofNat 8)
  | 'f' => some (Char.ofNat 12)
  | 'n' => some '\n'
  | 'r' => some '\r'
  | 't' => some '\t'
  | _ => none

/-- The rest of a string after its opening quote; `written` holds the characters so far,
reversed. -/
def stringTail? : (fuel : Nat) → (written : List Char) → List Char → Option (String × List Char)
  | 0, _, _ => none
  | fuel + 1, written, cs =>
    match cs with
    | [] => none
    | '"' :: rest => some (String.ofList written.reverse, rest)
    | '\\' :: 'u' :: rest => do
      let (c, rest) ← unicodeEscape? rest
      stringTail? fuel (c :: written) rest
    | '\\' :: c :: rest => do
      let c ← simpleEscape? c
      stringTail? fuel (c :: written) rest
    | c :: rest => if c.toNat < 0x20 then none else stringTail? fuel (c :: written) rest

/-- Leading digits of a significand that fit in 64 bits, and how many digits were left over. -/
def significand : (acc : Nat) → List Char → Nat × Nat
  | acc, [] => (acc, 0)
  | acc, c :: rest =>
    let next := 10 * acc + Decimal.digitValue c
    if next < Word.size 64 then significand next rest else (acc, rest.length + 1)

/-- `value * 10 ^ exponent` in floating arithmetic: one multiplication or division by a power of
ten, after divisions by `10 ^ 308` while the exponent is lower still. -/
def scale : (fuel : Nat) → Binary64 → Int → Binary64
  | 0, value, _ => value
  | fuel + 1, value, exponent =>
    if exponent.natAbs ≤ 308 then
      let power := Binary64.ofNat (Nat.pow 10 exponent.natAbs)
      if 0 ≤ exponent then value.mul power else value.div power
    else if value.isZero then value
    else if 0 ≤ exponent then .infinite false
    else scale fuel (value.div (Binary64.ofNat (Nat.pow 10 308))) (exponent + 308)

def scaled (negative : Bool) (significand : Nat) (exponent : Int) : Binary64 :=
  let value :=
    if exponent < -100000 then .zero false
    else scale 400 (Binary64.ofNat significand) exponent
  if negative then value.negate else value

/-- Value of the digits of a number with its fraction, if any, and its exponent. -/
def fractional (negative : Bool) (whole : List Char) (fraction : Option (List Char))
    (exponent : Int) : Binary64 :=
  let (head, spilled) := significand 0 whole
  match fraction with
  | none => scaled negative head (exponent + spilled)
  | some digits =>
    let (all, dropped) := significand head digits
    scaled negative all (exponent + spilled - (digits.length - dropped : Nat))

/-- A whole number that fits keeps its integer form; a negative zero does not have one. -/
def wholeNumber (negative : Bool) (digits : List Char) : Value :=
  let n := Decimal.ofDigits digits
  if negative then
    if n = 0 then .float (.zero true)
    else if n ≤ Word.size 63 then .integer (-(n : Int))
    else if n < Word.size 64 then .float (Binary64.ofNat n).negate
    else .float (fractional true digits none 0)
  else if n < Word.size 64 then .integer n
  else .float (fractional false digits none 0)

/-- Exponent part of a number: the exponent and what follows it. -/
def exponentPart? (cs : List Char) : Option (Int × List Char) :=
  let signed : Bool × List Char := match cs with
    | '+' :: rest => (false, rest)
    | '-' :: rest => (true, rest)
    | _ => (false, cs)
  let (digits, rest) := signed.2.span Char.isDigit
  if digits.isEmpty then none
  else
    let n : Int := Decimal.ofDigits digits
    some (if signed.1 then -n else n, rest)

/-- A number after its sign. -/
def number? (negative : Bool) (cs : List Char) : Option (Value × List Char) :=
  let (whole, rest) := cs.span Char.isDigit
  if whole.isEmpty || (whole.head? = some '0' && whole.length > 1) then none
  else
    match rest with
    | '.' :: more =>
      let (fraction, rest) := more.span Char.isDigit
      if fraction.isEmpty then none
      else
        match rest with
        | 'e' :: more | 'E' :: more => do
          let (exponent, rest) ← exponentPart? more
          return (.float (fractional negative whole (some fraction) exponent), rest)
        | _ => some (.float (fractional negative whole (some fraction) 0), rest)
    | 'e' :: more | 'E' :: more => do
      let (exponent, rest) ← exponentPart? more
      return (.float (fractional negative whole none exponent), rest)
    | _ => some (wholeNumber negative whole, rest)

mutual

/-- One value; `depth` is how many levels of nesting are still allowed. -/
def value? : (fuel depth : Nat) → List Char → Option (Value × List Char)
  | 0, _, _ => none
  | fuel + 1, depth, cs =>
    match skipSpace cs with
    | 'n' :: 'u' :: 'l' :: 'l' :: rest => some (.null, rest)
    | 't' :: 'r' :: 'u' :: 'e' :: rest => some (.bool true, rest)
    | 'f' :: 'a' :: 'l' :: 's' :: 'e' :: rest => some (.bool false, rest)
    | '"' :: rest => do
      let (text, rest) ← stringTail? (rest.length + 1) [] rest
      return (.string text, rest)
    | '-' :: rest => number? true rest
    | '[' :: rest =>
      match depth with
      | 0 => none
      | depth + 1 =>
        match skipSpace rest with
        | ']' :: rest => some (.array [], rest)
        | rest => do
          let (items, rest) ← items? fuel depth rest
          return (.array items, rest)
    | '{' :: rest =>
      match depth with
      | 0 => none
      | depth + 1 =>
        match skipSpace rest with
        | '}' :: rest => some (.object [], rest)
        | rest => do
          let (members, rest) ← members? fuel depth rest
          return (.object members, rest)
    | rest => number? false rest

/-- The values of an array up to its closing bracket. -/
def items? : (fuel depth : Nat) → List Char → Option (List Value × List Char)
  | 0, _, _ => none
  | fuel + 1, depth, cs => do
    let (item, rest) ← value? fuel depth cs
    match skipSpace rest with
    | ',' :: rest =>
      let (items, rest) ← items? fuel depth rest
      return (item :: items, rest)
    | ']' :: rest => return ([item], rest)
    | _ => none

/-- The members of an object up to its closing brace. -/
def members? : (fuel depth : Nat) → List Char → Option (List (String × Value) × List Char)
  | 0, _, _ => none
  | fuel + 1, depth, cs =>
    match skipSpace cs with
    | '"' :: rest => do
      let (key, rest) ← stringTail? (rest.length + 1) [] rest
      match skipSpace rest with
      | ':' :: rest =>
        let (value, rest) ← value? fuel depth rest
        match skipSpace rest with
        | ',' :: rest =>
          let (members, rest) ← members? fuel depth rest
          return ((key, value) :: members, rest)
        | '}' :: rest => return ([(key, value)], rest)
        | _ => none
      | _ => none
    | _ => none

end

/-- The value that is the whole text, with members as written. -/
def read? (text : String) : Option Value := do
  let cs := text.toList
  let (value, rest) ← value? (2 * cs.length + 2) 127 cs
  if (skipSpace rest).isEmpty then some value else none

def parse? (text : String) : Option Value := do
  let value ← read? text
  if value.allFinite then some value.canonical else none

end ApiSchema.Json
