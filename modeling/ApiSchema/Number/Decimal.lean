import ApiSchema.Number.Binary64

/-! Decimal text of numbers: whole numbers, the nearest binary number to a decimal, and the
fewest decimal digits that read back as a given binary number. -/

namespace ApiSchema

namespace Decimal

def digitValue (c : Char) : Nat := c.toNat - '0'.toNat

def ofDigits (digits : List Char) : Nat :=
  digits.foldl (fun acc c => 10 * acc + digitValue c) 0

/-- A non-empty run of digits. -/
def nat? (cs : List Char) : Option Nat :=
  if !cs.isEmpty && cs.all Char.isDigit then some (ofDigits cs) else none

/-- A whole number below `2 ^ 64`; a plus sign is allowed. -/
def count? (cs : List Char) : Option Nat :=
  let magnitude := match cs with
    | '+' :: rest => nat? rest
    | _ => nat? cs
  magnitude.filter (· < Word.size 64)

/-- A whole number of 64 bits with sign. -/
def integer? (cs : List Char) : Option Int :=
  let value : Option Int := match cs with
    | '+' :: rest => (nat? rest).map Int.ofNat
    | '-' :: rest => (nat? rest).map fun n => -Int.ofNat n
    | _ => (nat? cs).map Int.ofNat
  value.filter (Word.fitsSigned 64)

/-- The binary number nearest to `± significand * 10 ^ exponent`. Exponents far outside the range
of the format are settled without computing the power. -/
def nearest (negative : Bool) (significand : Nat) (exponent : Int) : Binary64 :=
  if significand = 0 then .zero negative
  else
    let top : Int := exponent + (Nat.toDigits 10 significand).length
    if top > 400 then .infinite negative
    else if top < -400 then .zero negative
    else .round negative (significand * Nat.pow 10 exponent.toNat) (Nat.pow 10 (-exponent).toNat)

/-- An exponent part `e`, sign, digits; the empty text stands for exponent zero. -/
def exponent? (cs : List Char) : Option Int :=
  match cs with
  | [] => some 0
  | c :: rest =>
    if c = 'e' || c = 'E' then
      match rest with
      | '+' :: digits => (nat? digits).map Int.ofNat
      | '-' :: digits => (nat? digits).map fun n => -Int.ofNat n
      | digits => (nat? digits).map Int.ofNat
    else none

/-- Digits, an optional fraction and an optional exponent; at least one digit. -/
def magnitude? (negative : Bool) (cs : List Char) : Option Binary64 :=
  let (whole, rest) := cs.span Char.isDigit
  let (fraction, rest) := match rest with
    | '.' :: more => more.span Char.isDigit
    | _ => ([], rest)
  if whole.isEmpty && fraction.isEmpty then none
  else (exponent? rest).map fun exponent =>
    nearest negative (ofDigits (whole ++ fraction)) (exponent - fraction.length)

/-- Magnitude or one of the words for infinity and not-a-number, in any case. -/
def unsigned? (negative : Bool) (cs : List Char) : Option Binary64 :=
  match magnitude? negative cs with
  | some value => some value
  | none =>
    let word := String.ofList (cs.map Char.toLower)
    if word = "inf" || word = "infinity" then some (.infinite negative)
    else if word = "nan" then some .nan
    else none

/-- A number as annotations write it. -/
def number? (cs : List Char) : Option Binary64 :=
  match cs with
  | '+' :: rest => unsigned? false rest
  | '-' :: rest => unsigned? true rest
  | _ => unsigned? false cs

/-- The value `digits * 10 ^ exponent`, `digits` positive. -/
structure Digits where
  digits : Nat
  exponent : Int
deriving DecidableEq, Repr

/-- The greatest `p` with `10 ^ p ≤ num / den`, searched downwards from `start`. -/
def floorLogTen (num den : Nat) : (fuel : Nat) → (start : Int) → Int
  | 0, start => start
  | fuel + 1, start =>
    if den * Nat.pow 10 start.toNat ≤ num * Nat.pow 10 (-start).toNat then start
    else floorLogTen num den fuel (start - 1)

/-- Of the two neighbours of `num / den` on the grid of `10 ^ exponent`, the nearer that `reads`
accepts; a tie goes to the even one. -/
def neighbour? (reads : Nat → Bool) (num den : Nat) : Option Nat :=
  let low := num / den
  let rest := num % den
  let lowReads := low > 0 && reads low
  let highReads := reads (low + 1)
  if lowReads && highReads then
    if 2 * rest < den || (2 * rest = den && low % 2 = 0) then some low else some (low + 1)
  else if lowReads then some low
  else if highReads then some (low + 1)
  else none

/-- Digits of `num / den` on ever finer grids until one point reads back as `value`. -/
def shortestFrom (value : Binary64) (num den : Nat) : (fuel : Nat) → (exponent : Int) → Digits
  | 0, exponent => ⟨num / den, exponent⟩
  | fuel + 1, exponent =>
    let scaledNum := num * Nat.pow 10 (-exponent).toNat
    let scaledDen := den * Nat.pow 10 exponent.toNat
    let reads := fun digits => nearest false digits exponent = value
    match neighbour? reads scaledNum scaledDen with
    | some digits => ⟨digits, exponent⟩
    | none => shortestFrom value num den fuel (exponent - 1)

/-- Drop trailing zeros of the digits, at most `fuel` of them. -/
def Digits.normalize : (fuel : Nat) → Digits → Digits
  | 0, d => d
  | fuel + 1, d =>
    if d.digits ≠ 0 ∧ d.digits % 10 = 0 then
      Digits.normalize fuel ⟨d.digits / 10, d.exponent + 1⟩
    else d

/-- The fewest digits that read back as the positive number `significand * 2 ^ exponent`. -/
def shortest (significand : Nat) (exponent : Int) : Digits :=
  let value := Binary64.pack false significand exponent
  let (num, den) := Binary64.fraction significand exponent
  let top := floorLogTen num den 700 310
  Digits.normalize 20 (shortestFrom value num den 20 top)

/-- How a format writes numbers: the sign of a positive exponent. -/
structure Layout where
  positiveSign : String

def nat (n : Nat) : String := String.ofList (Nat.toDigits 10 n)

def int (n : Int) : String := if n < 0 then "-" ++ nat n.natAbs else nat n.natAbs

def zeros (n : Nat) : String := String.ofList (List.replicate n '0')

/-- Positional from `10 ^ -5` up to `10 ^ 16`, always with a fraction; otherwise one digit, the
fraction if there is more, and an exponent. -/
def write (layout : Layout) (d : Digits) : String :=
  let digits := Nat.toDigits 10 d.digits
  let point : Int := digits.length + d.exponent
  if 0 ≤ d.exponent && point ≤ 16 then
    String.ofList digits ++ zeros d.exponent.toNat ++ ".0"
  else if 0 < point && point ≤ 16 then
    String.ofList (digits.take point.toNat) ++ "." ++ String.ofList (digits.drop point.toNat)
  else if -5 < point && point ≤ 0 then
    "0." ++ zeros (-point).toNat ++ String.ofList digits
  else
    let power := point - 1
    let tail := digits.drop 1
    let mantissa := String.ofList (digits.take 1) ++
      (if tail.isEmpty then "" else "." ++ String.ofList tail)
    mantissa ++ "e" ++ (if power < 0 then "-" else layout.positiveSign) ++ nat power.natAbs

/-- Text of a finite number. -/
def finite (layout : Layout) (negative : Bool) (significand : Nat) (exponent : Int) : String :=
  (if negative then "-" else "") ++
    (if significand = 0 then "0.0" else write layout (shortest significand exponent))

end Decimal

end ApiSchema
