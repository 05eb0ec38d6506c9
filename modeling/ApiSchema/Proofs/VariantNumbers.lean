import ApiSchema.Proofs.Closure
import Mathlib.Data.List.Induction
import Mathlib.Tactic.ByContra
import Mathlib.Tactic.FinCases

/-! Numbers of variants. A variant has the number that is written for it, or else one more than the
variant declared before it. The schema of an enumeration counts only the variants that it lists, so its
numbers are the declared ones unless a variant without a written number comes after ones that are left
out and have moved the count. -/

namespace ApiSchema.Synthesis

open Steps

/-- The number that a variant without a written one has after these. -/
def upNext (before : List Variant) : Int :=
  before.foldl (fun next v => Word.wrapSigned 64 (v.discriminant.getD next + 1)) 0

def numberAfter (before : List Variant) (v : Variant) : Int := v.discriminant.getD (upNext before)

def numbered (before : List Variant) : List Variant → List (Variant × Int)
  | [] => []
  | v :: rest => (v, numberAfter before v) :: numbered (before ++ [v]) rest

def unskipped (variants : List Variant) : List Variant := variants.filter fun v => !v.skip

def listedNumbers (variants : List Variant) : List Int :=
  ((numbered [] variants).filter fun entry => !entry.1.skip).map Prod.snd

@[simp] theorem upNext_nil : upNext [] = 0 := rfl

/-- One more than the number of the last one. -/
@[simp] theorem upNext_snoc (before : List Variant) (v : Variant) :
    upNext (before ++ [v]) = Word.wrapSigned 64 (numberAfter before v + 1) := by
  simp [upNext, numberAfter]

/-- Counting on from some variants gives the numbers of those after them. -/
theorem discriminants_upNext (before variants : List Variant) :
    discriminants (upNext before) variants = (numbered before variants).map Prod.snd := by
  induction variants generalizing before with
  | nil => rfl
  | cons v rest ih =>
    rw [discriminants, numbered, List.map_cons, ← ih (before ++ [v]), upNext_snoc]
    rfl

@[simp] theorem unskipped_snoc (before : List Variant) (v : Variant) :
    unskipped (before ++ [v]) = unskipped before ++ if v.skip then [] else [v] := by
  cases skipped : v.skip <;> simp [unskipped, skipped]

/-- At this place the count over the listed variants is off. -/
def Miscounts (before : List Variant) (v : Variant) : Prop :=
  v.skip = false ∧ v.discriminant = none ∧ upNext (unskipped before) ≠ upNext before

/-- The numbers that are counted over the listed variants are the declared ones as long as the count is
nowhere off. -/
theorem counted_iff (before variants : List Variant) :
    (numbered (unskipped before) (unskipped variants)).map Prod.snd =
        ((numbered before variants).filter fun entry => !entry.1.skip).map Prod.snd ↔
      ∀ mid v rest, variants = mid ++ v :: rest → ¬Miscounts (before ++ mid) v := by
  induction variants generalizing before with
  | nil => simp [unskipped, numbered]
  | cons v rest ih =>
    have later : (∀ mid w tail, v :: rest = mid ++ w :: tail → ¬Miscounts (before ++ mid) w) ↔
        ¬Miscounts before v ∧
          ∀ mid w tail, rest = mid ++ w :: tail → ¬Miscounts (before ++ [v] ++ mid) w := by
      constructor
      · intro all
        refine ⟨by simpa using all [] v rest rfl, fun mid w tail split => ?_⟩
        simpa using all (v :: mid) w tail (by rw [split]; rfl)
      · rintro ⟨here, onward⟩ mid w tail split
        cases mid with
        | nil =>
          cases split
          simpa using here
        | cons first mid =>
          cases split
          simpa using onward mid w tail rfl
    rw [later, ← ih (before ++ [v])]
    cases skipped : v.skip with
    | true =>
      have here : ¬Miscounts before v := fun off => by simp [Miscounts, skipped] at off
      simp [unskipped, numbered, skipped, here]
    | false =>
      have here : ¬Miscounts before v ↔ numberAfter (unskipped before) v = numberAfter before v := by
        cases written : v.discriminant <;> simp [Miscounts, skipped, numberAfter, written]
      have first : unskipped (v :: rest) = v :: unskipped rest := by simp [unskipped, skipped]
      simp [first, numbered, skipped, here]

/-- Nothing but variants that are left out stands between the listed ones before a place and the one at
it, which has no number written. -/
structure Resumes (variants left gap : List Variant) (v : Variant) : Prop where
  split : ∃ right, variants = left ++ gap ++ v :: right
  skipped : ∀ u ∈ gap, u.skip = true
  last : ∀ u, left.getLast? = some u → u.skip = false
  shown : v.skip = false
  unwritten : v.discriminant = none

theorem unskipped_append_gap {left gap : List Variant} (skipped : ∀ u ∈ gap, u.skip = true) :
    unskipped (left ++ gap) = unskipped left := by
  have none : unskipped gap = [] := by
    simpa [unskipped, List.filter_eq_nil_iff] using skipped
  rw [unskipped, List.filter_append, ← unskipped, ← unskipped, none, List.append_nil]

/-- A listed variant has the same number wherever the count stands, or else the count is off at it. -/
theorem numberAfter_listed {before : List Variant} {v : Variant} (shown : v.skip = false)
    (right : ¬Miscounts before v) : numberAfter (unskipped before) v = numberAfter before v := by
  cases written : v.discriminant with
  | some n => simp [numberAfter, written]
  | none =>
    have same : upNext (unskipped before) = upNext before := by
      by_contra apart
      exact right ⟨shown, written, apart⟩
    rw [numberAfter, numberAfter, same]

/-- Right up to a listed variant, the count is right behind it. -/
theorem upNext_listed {variants left rest : List Variant} (split : variants = left ++ rest)
    (last : ∀ u, left.getLast? = some u → u.skip = false)
    (right : ∀ mid v rest, variants = mid ++ v :: rest → ¬Miscounts mid v) :
    upNext (unskipped left) = upNext left := by
  rcases List.eq_nil_or_concat left with rfl | ⟨before, u, rfl⟩
  · rfl
  · rw [List.concat_eq_append] at split last ⊢
    have shown : u.skip = false := last u (by simp)
    have here := right before u rest (by rw [split, List.append_assoc]; rfl)
    rw [unskipped_snoc, shown, if_neg Bool.false_ne_true, upNext_snoc, upNext_snoc, numberAfter_listed shown here]

/-- As long as no gap moves the count, the count over the listed variants is that at the last of them. -/
theorem upNext_before_gap {variants : List Variant}
    (still : ∀ left gap v, Resumes variants left gap v → upNext (left ++ gap) = upNext left)
    (before rest : List Variant) (split : variants = before ++ rest) :
    ∃ left gap, before = left ++ gap ∧ (∀ u ∈ gap, u.skip = true) ∧
      (∀ u, left.getLast? = some u → u.skip = false) ∧ upNext (unskipped before) = upNext left := by
  induction before using List.reverseRecOn generalizing rest with
  | nil => exact ⟨[], [], rfl, by simp, by simp, rfl⟩
  | append_singleton before v ih =>
    obtain ⟨left, gap, rfl, skipped, last, same⟩ := ih (v :: rest) (by rw [split, List.append_assoc]; rfl)
    cases hidden : v.skip with
    | true =>
      refine ⟨left, gap ++ [v], by rw [List.append_assoc], ?_, last, ?_⟩
      · intro u member
        rcases List.mem_append.mp member with early | own
        · exact skipped u early
        · exact List.mem_singleton.mp own ▸ hidden
      · rw [unskipped_snoc, hidden, if_pos rfl, List.append_nil, same]
    | false =>
      have right : ¬Miscounts (left ++ gap) v := by
        rintro ⟨shown, unwritten, off⟩
        refine off (same.trans (still left gap v ⟨⟨rest, ?_⟩, skipped, last, shown, unwritten⟩).symm)
        rw [split, List.append_assoc]
        rfl
      refine ⟨left ++ gap ++ [v], [], (List.append_nil _).symm, by simp, ?_, ?_⟩
      · intro u own
        obtain rfl : v = u := by simpa using own
        exact hidden
      · rw [unskipped_snoc, hidden, if_neg Bool.false_ne_true, upNext_snoc, upNext_snoc,
          numberAfter_listed hidden right]

/-- The count is nowhere off exactly if no gap before a variant without a written number has moved it. -/
theorem miscounts_iff (variants : List Variant) :
    (∀ mid v rest, variants = mid ++ v :: rest → ¬Miscounts mid v) ↔
      ∀ left gap v, Resumes variants left gap v → upNext (left ++ gap) = upNext left := by
  constructor
  · rintro right left gap v ⟨⟨rest, split⟩, skipped, last, shown, unwritten⟩
    have here := right (left ++ gap) v rest split
    have behind : upNext (unskipped left) = upNext left :=
      upNext_listed (by rw [split, List.append_assoc]) last right
    by_contra moved
    refine here ⟨shown, unwritten, ?_⟩
    rw [unskipped_append_gap skipped, behind]
    exact Ne.symm moved
  · rintro still mid v rest split ⟨shown, unwritten, off⟩
    obtain ⟨left, gap, rfl, skipped, last, same⟩ := upNext_before_gap still mid (v :: rest) split
    exact off (same.trans (still left gap v ⟨⟨rest, split⟩, skipped, last, shown, unwritten⟩).symm)

/-- An enumeration of which some listed variant has a written number, and none a payload, is a list of
integers with the names of the variants beside them, one for each listed variant in the order of their
declaration. The numbers are counted over the listed variants. They are the declared ones exactly if, at
every variant without a written number that follows ones that are left out, these have not moved the
count. -/
theorem enumSchema_numbers (config : Config) (synth : DeclId → Synth Schema) (d : Declaration)
    (variants : List Variant) (g : Generator) (plain : ∀ v ∈ variants, v.skip = false → v.payload = none)
    (written : ∃ v ∈ variants, v.skip = false ∧ v.discriminant ≠ none) :
    ∃ s numbers, after (enumSchema config synth d variants) g = (.ok s, g) ∧ s.type = some "integer" ∧
      s.enumValues = some (numbers.map .integer) ∧
      s.extensions = .singleton "x-enum-varnames"
        (.array ((unskipped variants).map fun v => .string (variantName d.tags.renameAll v))) ∧
      numbers = (numbered [] (unskipped variants)).map Prod.snd ∧
      (numbers = listedNumbers variants ↔
        ∀ left gap v, Resumes variants left gap v → upNext (left ++ gap) = upNext left) := by
  have bare : ((unskipped variants).all fun v => v.payload.isNone) = true := by
    refine List.all_eq_true.mpr fun v member => ?_
    obtain ⟨declared, shown⟩ := List.mem_filter.mp member
    rw [plain v declared (by simpa using shown)]
    rfl
  have numeric : ((unskipped variants).any fun v => v.discriminant.isSome) = true := by
    obtain ⟨v, declared, shown, number⟩ := written
    refine List.any_eq_true.mpr ⟨v, List.mem_filter.mpr ⟨declared, by simp [shown]⟩, ?_⟩
    exact Option.isSome_iff_ne_none.mpr number
  have made : after (enumSchema config synth d variants) g =
      (.ok (plainEnumSchema d.tags.renameAll (unskipped variants)), g) := by
    unfold enumSchema
    simp only [unskipped] at bare
    simp only [bare, if_true]
    rfl
  refine ⟨_, (numbered [] (unskipped variants)).map Prod.snd, made, ?_⟩
  rw [plainEnumSchema, if_pos numeric, ← discriminants_upNext [] (unskipped variants), upNext_nil]
  refine ⟨rfl, rfl, rfl, rfl, ?_⟩
  rw [← miscounts_iff, ← upNext_nil, discriminants_upNext]
  exact counted_iff [] variants

def bareVariant (name : String) (discriminant : Option Int) (skip : Bool) : Variant :=
  { name, rename := none, discriminant, payload := none, skip, doc := none }

def edges : List Variant :=
  [bareVariant "Off" none true, bareVariant "Max" (some 9223372036854775807) false, bareVariant "After" none false]

theorem enumSchema_numbers_edges :
    (∀ v ∈ edges, v.skip = false → v.payload = none) ∧ (∃ v ∈ edges, v.skip = false ∧ v.discriminant ≠ none) ∧
      ∃ s, after (enumSchema {} (synthesizeWith {} 0) (Builder.declared "Edge" (.enum edges)) edges) {} =
          (.ok s, {}) ∧
        s.enumValues = some [.integer 9223372036854775807, .integer (-9223372036854775808)] := by
  have plain : ∀ v ∈ edges, v.skip = false → v.payload = none := by
    intro v member _
    fin_cases member <;> rfl
  have written : ∃ v ∈ edges, v.skip = false ∧ v.discriminant ≠ none :=
    ⟨bareVariant "Max" (some 9223372036854775807) false, by simp [edges], rfl, by simp [bareVariant]⟩
  obtain ⟨s, numbers, run, _, values, _, counted, _⟩ :=
    enumSchema_numbers {} (synthesizeWith {} 0) (Builder.declared "Edge" (.enum edges)) edges {} plain written
  refine ⟨plain, written, s, run, ?_⟩
  rw [values, counted]
  decide

def levels : List Variant :=
  [bareVariant "Off" (some 5) true, bareVariant "Low" none false, bareVariant "High" (some 9) false]

/-- The schema lists zero for it. -/
theorem levels_miscounted :
    (∀ v ∈ levels, v.skip = false → v.payload = none) ∧ (∃ v ∈ levels, v.skip = false ∧ v.discriminant ≠ none) ∧
      listedNumbers levels = [6, 9] ∧
      ∃ s, after (enumSchema {} (synthesizeWith {} 0) (Builder.declared "Level" (.enum levels)) levels) {} =
          (.ok s, {}) ∧
        s.enumValues = some [.integer 0, .integer 9] := by
  have written : ∃ v ∈ levels, v.skip = false ∧ v.discriminant ≠ none :=
    ⟨bareVariant "High" (some 9) false, by simp [levels], rfl, by simp [bareVariant]⟩
  refine ⟨fun v member _ => ?_, written, by decide, _, rfl, by decide⟩
  fin_cases member <;> rfl

end ApiSchema.Synthesis
