import ApiSchema.Source.Lexer
import Mathlib.Data.List.Basic

/-! Characters of identifiers. What may begin a word may also continue it, and nothing in a word is a gap,
a quote or a mark. -/

namespace ApiSchema.Text

theorem inRanges_iff {ranges : Array (Nat × Nat)} {n : Nat} :
    inRanges ranges n = true ↔ ∃ range ∈ ranges.toList, range.1 ≤ n ∧ n ≤ range.2 := by
  rw [inRanges, ← Array.any_toList, List.any_eq_true]
  simp only [Bool.and_eq_true, decide_eq_true_eq]

def rangesWithin : List (Nat × Nat) → List (Nat × Nat) → Bool
  | [], _ => true
  | inner :: rest, ranges =>
    match ranges.dropWhile fun range => range.2 < inner.2 with
    | [] => false
    | range :: more => decide (range.1 ≤ inner.1 ∧ inner.2 ≤ range.2) && rangesWithin rest (range :: more)

theorem rangesWithin_sound {inner ranges : List (Nat × Nat)} (within : rangesWithin inner ranges = true) :
    ∀ small ∈ inner, ∃ large ∈ ranges, large.1 ≤ small.1 ∧ small.2 ≤ large.2 := by
  induction inner generalizing ranges with
  | nil => simp
  | cons first rest ih =>
    rw [rangesWithin] at within
    split at within
    · cases within
    · next range more left =>
      obtain ⟨here, later⟩ := Bool.and_eq_true_iff.mp within
      have part : range :: more ⊆ ranges := left ▸ (List.dropWhile_suffix _).subset
      refine List.forall_mem_cons.mpr ⟨⟨range, part List.mem_cons_self, of_decide_eq_true here⟩, ?_⟩
      intro small member
      obtain ⟨large, inside, fits⟩ := ih later small member
      exact ⟨large, part inside, fits⟩

theorem startRanges_within :
    rangesWithin identifierStartRanges.toList identifierPartRanges.toList = true := by
  decide +kernel

theorem isIdentifierPart_of_start {c : Char} (start : isIdentifierStart c = true) :
    isIdentifierPart c = true := by
  unfold isIdentifierStart at start
  unfold isIdentifierPart
  split at start
  · rw [if_pos ‹_›]
    simp only [Bool.or_eq_true, decide_eq_true_eq, Char.isAlphanum] at start ⊢
    exact start.imp_left .inl
  · rw [if_neg ‹_›]
    obtain ⟨small, member, low, high⟩ := inRanges_iff.mp start
    obtain ⟨large, inside, below, above⟩ := rangesWithin_sound startRanges_within small member
    exact inRanges_iff.mpr ⟨large, inside, Nat.le_trans below low, Nat.le_trans high above⟩

/-- The gaps above ASCII, as ranges of code points. -/
def wideGaps : List (Nat × Nat) :=
  [(0x85, 0x85), (0xa0, 0xa0), (0x1680, 0x1680), (0x2000, 0x200a), (0x200e, 0x200f), (0x2028, 0x2029),
    (0x202f, 0x202f), (0x205f, 0x205f), (0x3000, 0x3000)]

theorem wideGaps_apart : ∀ range ∈ identifierPartRanges.toList,
    0x3000 < range.1 ∨ ∀ gap ∈ wideGaps, gap.2 < range.1 ∨ range.2 < gap.1 := by
  decide +kernel

theorem wideGap_of_isGap {c : Char} (gap : Source.isGap c = true) (wide : 0x80 ≤ c.toNat) :
    ∃ gap ∈ wideGaps, gap.1 ≤ c.toNat ∧ c.toNat ≤ gap.2 := by
  simp only [Source.isGap, isBlank, Bool.or_eq_true, Bool.and_eq_true, decide_eq_true_eq, or_assoc] at gap
  simp only [wideGaps, List.mem_cons, List.not_mem_nil, or_false, exists_eq_or_imp, exists_eq_left]
  rcases gap with h | h | h | h | h | h | h | h | h | h | h | h | h
  all_goals omega

theorem wideGaps_le : ∀ gap ∈ wideGaps, gap.2 ≤ 0x3000 := by decide

theorem lower_bounds {c : Char} (lower : c.isLower = true) : 0x61 ≤ c.toNat ∧ c.toNat ≤ 0x7a := by
  obtain ⟨least, most⟩ := Bool.and_eq_true_iff.mp lower
  exact ⟨UInt32.le_iff_toNat_le.mp (of_decide_eq_true least),
    UInt32.le_iff_toNat_le.mp (of_decide_eq_true most)⟩

theorem digit_bounds {c : Char} (digit : c.isDigit = true) : 0x30 ≤ c.toNat ∧ c.toNat ≤ 0x39 := by
  obtain ⟨least, most⟩ := Bool.and_eq_true_iff.mp digit
  exact ⟨UInt32.le_iff_toNat_le.mp (of_decide_eq_true least),
    UInt32.le_iff_toNat_le.mp (of_decide_eq_true most)⟩

theorem letter_ge {c : Char} (letter : c.isAlpha = true) : 0x41 ≤ c.toNat := by
  rcases Bool.or_eq_true_iff.mp letter with upper | lower
  · exact UInt32.le_iff_toNat_le.mp (of_decide_eq_true upper).1
  · have := lower_bounds lower
    omega

theorem start_ge {c : Char} (start : isIdentifierStart c = true) : 0x41 ≤ c.toNat := by
  unfold isIdentifierStart at start
  split at start
  · rcases Bool.or_eq_true_iff.mp start with letter | mark
    · exact letter_ge letter
    · rw [of_decide_eq_true mark]
      decide
  · omega

theorem part_ge {c : Char} (part : isIdentifierPart c = true) :
    0x30 ≤ c.toNat ∧ (c.toNat ≤ 0x39 ∨ 0x41 ≤ c.toNat) := by
  unfold isIdentifierPart at part
  split at part
  · rcases Bool.or_eq_true_iff.mp part with letterOrDigit | mark
    · rcases Bool.or_eq_true_iff.mp letterOrDigit with letter | digit
      · have := letter_ge letter
        omega
      · have := digit_bounds digit
        omega
    · rw [of_decide_eq_true mark]
      decide
  · omega

theorem isGap_of_part {c : Char} (part : isIdentifierPart c = true) : Source.isGap c = false := by
  refine Bool.eq_false_iff.mpr fun gap => ?_
  have least := part_ge part
  unfold isIdentifierPart at part
  split at part
  · next narrow =>
    simp only [Source.isGap, isBlank, Bool.or_eq_true, Bool.and_eq_true, decide_eq_true_eq, or_assoc] at gap
    rcases gap with h | h | h | h | h | h | h | h | h | h | h | h | h
    all_goals omega
  · next wide =>
    obtain ⟨range, member, low, high⟩ := inRanges_iff.mp part
    obtain ⟨gap, inside, below, above⟩ := wideGap_of_isGap gap (Nat.le_of_not_lt wide)
    have last := wideGaps_le gap inside
    rcases wideGaps_apart range member with beyond | apart
    · omega
    · have := apart gap inside
      omega

end ApiSchema.Text
