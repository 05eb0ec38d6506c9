import ApiSchema.Number.Word

/-! Binary floating point numbers of 64 bits as exact values: a sign, a significand below `2 ^ 53`
and a power of two, in the one form the format has for each number. Arithmetic rounds an exact
quotient to the nearest number, ties to an even significand. -/

namespace ApiSchema

/-- The significand has its full 53 bits unless the exponent is already the least one. -/
def Binary64.Canonical (significand : Nat) (exponent : Int) : Prop :=
  significand < Word.size 53 ∧ -1074 ≤ exponent ∧ exponent ≤ 971 ∧
    (Word.size 52 ≤ significand ∨ exponent = -1074)

instance (significand : Nat) (exponent : Int) :
    Decidable (Binary64.Canonical significand exponent) :=
  inferInstanceAs (Decidable (_ ∧ _ ∧ _ ∧ (_ ∨ _)))

inductive Binary64 where
  /-- The number `± significand * 2 ^ exponent`. -/
  | finite (negative : Bool) (significand : Nat) (exponent : Int)
      (canonical : Binary64.Canonical significand exponent)
  | infinite (negative : Bool)
  | nan
deriving DecidableEq

namespace Binary64

def zero (negative : Bool) : Binary64 :=
  finite negative 0 (-1074) (by decide)

instance : Inhabited Binary64 := ⟨zero false⟩

/-- A significand past the top of its range has overflowed. -/
def pack (negative : Bool) (significand : Nat) (exponent : Int) : Binary64 :=
  if h : Canonical significand exponent then finite negative significand exponent h
  else infinite negative

/-- A quotient to the nearest whole number, ties to even. -/
def divideNearest (num den : Nat) : Nat :=
  let q := num / den
  let r := num % den
  if den < 2 * r || (2 * r = den && q % 2 = 1) then q + 1 else q

/-- Whether `2 ^ e ≤ num / den`. -/
def powerLe (e : Int) (num den : Nat) : Bool :=
  den * Word.size e.toNat ≤ num * Word.size (-e).toNat

/-- The greatest `e` with `2 ^ e ≤ num / den`, for positive `num` and `den`. -/
def floorLog (num den : Nat) : Int :=
  let guess : Int := (num.log2 : Int) - den.log2
  if powerLe guess num den then guess else guess - 1

/-- The number nearest to `± num / den`. -/
def round (negative : Bool) (num den : Nat) : Binary64 :=
  if num = 0 ∨ den = 0 then zero negative
  else
    let exponent := max (-1074) (floorLog num den - 52)
    let significand :=
      divideNearest (num * Word.size (-exponent).toNat) (den * Word.size exponent.toNat)
    if significand = Word.size 53 then pack negative (Word.size 52) (exponent + 1)
    else pack negative significand exponent

def ofNat (n : Nat) : Binary64 := round false n 1

def ofInt (n : Int) : Binary64 := round (n < 0) n.natAbs 1

/-- Numerator and denominator of a significand scaled by a power of two. -/
def fraction (significand : Nat) (exponent : Int) : Nat × Nat :=
  (significand * Word.size exponent.toNat, Word.size (-exponent).toNat)

def isFinite : Binary64 → Bool
  | finite .. => true
  | _ => false

def isZero : Binary64 → Bool
  | finite _ significand _ _ => significand = 0
  | _ => false

def negate : Binary64 → Binary64
  | finite negative significand exponent h => finite (!negative) significand exponent h
  | infinite negative => infinite !negative
  | nan => nan

/-- Product of finite numbers, rounded once. -/
def mul : Binary64 → Binary64 → Binary64
  | finite n₁ m₁ e₁ _, finite n₂ m₂ e₂ _ =>
    let (num, den) := fraction (m₁ * m₂) (e₁ + e₂)
    round (n₁ != n₂) num den
  | infinite n₁, finite n₂ m _ _ => if m = 0 then nan else infinite (n₁ != n₂)
  | finite n₁ m _ _, infinite n₂ => if m = 0 then nan else infinite (n₁ != n₂)
  | infinite n₁, infinite n₂ => infinite (n₁ != n₂)
  | nan, _ | _, nan => nan

/-- Quotient by a non-zero finite number, rounded once. -/
def div : Binary64 → Binary64 → Binary64
  | finite n₁ m₁ e₁ _, finite n₂ m₂ e₂ _ =>
    if m₂ = 0 then (if m₁ = 0 then nan else infinite (n₁ != n₂))
    else
      let (num, den) := fraction m₁ (e₁ - e₂)
      round (n₁ != n₂) num (den * m₂)
  | infinite n₁, finite n₂ _ _ _ => infinite (n₁ != n₂)
  | finite n₁ _ _ _, infinite n₂ => zero (n₁ != n₂)
  | infinite _, infinite _ => nan
  | nan, _ | _, nan => nan

/-- The integer a finite number is, if it is whole. -/
def toInt? : Binary64 → Option Int
  | finite negative significand exponent _ =>
    let (num, den) := fraction significand exponent
    if num % den = 0 then
      let n : Int := (num / den : Nat)
      some (if negative then -n else n)
    else none
  | _ => none

end Binary64

end ApiSchema
