/-! Whole numbers that fit in a given number of bits. -/

namespace ApiSchema.Word

/-- How many values `bits` bits have. -/
def size (bits : Nat) : Nat := Nat.pow 2 bits

/-- The range of numbers with sign reaches one step further down than up. -/
def fitsSigned (bits : Nat) (n : Int) : Bool :=
  -(size (bits - 1) : Int) ≤ n && n < size (bits - 1)

/-- The number with sign that has the same low bits. -/
def wrapSigned (bits : Nat) (n : Int) : Int := Int.bmod n (size bits)

theorem fitsSigned_iff {bits : Nat} {n : Int} :
    fitsSigned bits n = true ↔ -(size (bits - 1) : Int) ≤ n ∧ n < size (bits - 1) := by
  simp [fitsSigned]

end ApiSchema.Word
