import ApiSchema.Number.Binary64
import Mathlib.Data.Nat.Log
import Mathlib.Data.Rat.Defs
import Mathlib.Algebra.Order.Ring.Rat
import Mathlib.Tactic.Ring

/-! Whole floating point numbers and the integers they are. A number has one canonical form, so the
integer that a whole number is gives the number back; only a zero loses its sign on the way. -/

namespace ApiSchema.Binary64

def number? : Binary64 → Option ℚ
  | finite negative significand exponent _ =>
    some ((if negative then -1 else 1) * significand * 2 ^ exponent)
  | _ => none

/-- A zero without its sign; other numbers stay as they are. -/
def settle (bound : Binary64) : Binary64 := if bound.isZero then zero false else bound

theorem number?_settle (bound : Binary64) : bound.settle.number? = bound.number? := by
  cases bound with
  | infinite | nan => rfl
  | finite negative significand exponent canonical =>
    by_cases vanishes : significand = 0
    · simp [settle, isZero, number?, zero, vanishes]
    · simp [settle, isZero, vanishes]

theorem log2_mul_size {n : Nat} (positive : n ≠ 0) (k : Nat) : (n * Word.size k).log2 = n.log2 + k := by
  have scaled : n * Word.size k ≠ 0 := Nat.mul_ne_zero positive (Nat.two_pow_pos k).ne'
  obtain ⟨low, high⟩ := (Nat.log2_eq_iff positive).mp rfl
  refine (Nat.log2_eq_iff scaled).mpr ⟨?_, ?_⟩
  · rw [Nat.pow_add]
    exact Nat.mul_le_mul_right _ low
  · rw [Nat.add_right_comm, Nat.pow_add]
    exact Nat.mul_lt_mul_of_pos_right high (Nat.two_pow_pos k)

theorem floorLog_one {n : Nat} (positive : n ≠ 0) : floorLog n 1 = n.log2 := by
  have least : powerLe (n.log2 : Int) n 1 = true := by
    simpa [powerLe, Word.size] using Nat.log2_self_le positive
  have one : (1 : Nat).log2 = 0 := by decide
  simp [floorLog, one, least]

theorem divideNearest_exact (q : Nat) {den : Nat} (positive : 0 < den) : divideNearest (q * den) den = q := by
  simp [divideNearest, Nat.mul_div_cancel _ positive, positive.ne]

/-- A whole number that has a canonical form is rounded to itself. -/
theorem round_exact (negative : Bool) {n significand : Nat} {exponent : Int} (positive : n ≠ 0)
    (canonical : Canonical significand exponent)
    (same : n * Word.size (-exponent).toNat = significand * Word.size exponent.toNat) :
    round negative n 1 = finite negative significand exponent canonical := by
  obtain ⟨below, least, _, full⟩ := id canonical
  have nonzero : significand ≠ 0 := by
    rintro rfl
    rw [Nat.zero_mul] at same
    exact Nat.mul_ne_zero positive (Nat.two_pow_pos _).ne' same
  have logs : (n.log2 : Int) = significand.log2 + exponent := by
    have scaled := congrArg Nat.log2 same
    rw [log2_mul_size positive, log2_mul_size nonzero] at scaled
    omega
  -- 53 bits at most, and all of them unless the exponent is the least one
  have short : significand.log2 ≤ 52 := Nat.lt_succ_iff.mp ((Nat.log2_lt nonzero).mpr below)
  have long : Word.size 52 ≤ significand → 52 ≤ significand.log2 := (Nat.le_log2 nonzero).mpr
  have exact : max (-1074) (floorLog n 1 - 52) = exponent := by
    rw [floorLog_one positive, logs]
    rcases full with full | full
    · have := long full
      omega
    · omega
  have quotient : divideNearest (n * Word.size (-exponent).toNat) (Word.size exponent.toNat) =
      significand := by
    rw [same]
    exact divideNearest_exact _ (Nat.two_pow_pos _)
  simp [round, positive, exact, quotient, below.ne, pack, canonical]

/-- The integer that a whole number is gives back the number without the sign of a zero. -/
theorem ofInt_toInt? {bound : Binary64} {n : Int} (whole : bound.toInt? = some n) :
    ofInt n = bound.settle := by
  cases bound with
  | infinite | nan => cases whole
  | finite negative significand exponent canonical =>
    obtain ⟨divides, made⟩ := Option.ite_none_right_eq_some.mp whole
    obtain rfl := Option.some.inj made
    generalize quotient : significand * Word.size exponent.toNat / Word.size (-exponent).toNat = q
    have same : q * Word.size (-exponent).toNat = significand * Word.size exponent.toNat := by
      rw [← quotient]
      exact Nat.div_mul_cancel (Nat.dvd_of_mod_eq_zero divides)
    by_cases vanishes : significand = 0
    · have nothing : q = 0 := by simpa [vanishes, (Nat.two_pow_pos _).ne', Word.size] using same
      simp [settle, isZero, vanishes, nothing, ofInt, round]
    · have positive : q ≠ 0 := by
        rintro rfl
        rw [Nat.zero_mul] at same
        exact Nat.mul_ne_zero vanishes (Nat.two_pow_pos _).ne' same.symm
      have magnitude : (if negative = true then -(q : Int) else q).natAbs = q := by
        split <;> simp
      have sign : decide ((if negative = true then -(q : Int) else q) < 0) = negative := by
        cases negative with
        | false => simp
        | true =>
          simp only [if_true, decide_eq_true_eq]
          omega
      simp only [ofInt, magnitude, sign, settle, isZero, vanishes, decide_false, Bool.false_eq_true, if_false]
      exact round_exact negative positive canonical same

end ApiSchema.Binary64
