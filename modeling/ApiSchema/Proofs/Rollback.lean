import ApiSchema.Proofs.SynthesisSteps
import ApiSchema.Proofs.References

/-! What undoing a failed declaration removes. The loop takes entries off the recent part of the
journal until none that is left refers to a dropped name. Each round takes at least one, so the
length of the journal is enough fuel, and at the end memo and definitions have lost exactly what
belongs to the entries that were taken. -/

namespace ApiSchema.Generator

/-- A memo entry made while others were under way, with the name of its definition. -/
abbrev Entry := DeclId × Option String

structure Undone (gone : List Entry) (g g' : Generator) : Prop where
  memo : ∀ id, g'.memo.lookup id = if id ∈ gone.map Prod.fst then none else g.memo.lookup id
  definitions : ∀ name, g'.definitions.get? name =
    if some name ∈ gone.map Prod.snd then none else g.definitions.get? name

theorem lookup_filter_ne (memo : List (DeclId × Schema)) (gone id : DeclId) :
    (memo.filter fun m => m.1 ≠ gone).lookup id = if id = gone then none else memo.lookup id := by
  induction memo with
  | nil => simp
  | cons entry rest ih =>
    obtain ⟨key, s⟩ := entry
    by_cases dropped : key = gone
    · subst dropped
      by_cases same : id = key
      · subst same
        simpa using ih
      · have differs : (id == key) = false := by simpa using same
        simpa [same, List.lookup_cons, differs] using ih
    · by_cases same : id = key
      · subst same
        simp [dropped]
      · have differs : (id == key) = false := by simpa using same
        simpa [dropped, List.lookup_cons, differs] using ih

namespace Undone

variable {g g' g'' : Generator} {first second : List Entry}

theorem refl (g : Generator) : Undone [] g g := ⟨by simp, by simp⟩

theorem trans (left : Undone first g g') (right : Undone second g' g'') :
    Undone (first ++ second) g g'' where
  memo id := by
    rw [right.memo, left.memo, List.map_append]
    by_cases early : id ∈ first.map Prod.fst <;> by_cases late : id ∈ second.map Prod.fst <;>
      simp [early, late]
  definitions name := by
    rw [right.definitions, left.definitions, List.map_append]
    by_cases early : some name ∈ first.map Prod.snd <;> by_cases late : some name ∈ second.map Prod.snd <;>
      simp [early, late]

end Undone

theorem forget_undone (entry : Entry) (g : Generator) : Undone [entry] g (g.forget entry) where
  memo id := by
    rw [forget, lookup_filter_ne]
    simp
  definitions name := by
    obtain ⟨id, definition⟩ := entry
    cases definition with
    | none => simp [forget]
    | some made =>
      by_cases same : made = name
      · subst same
        simp [forget]
      · simp [forget, same, Ne.symm same]

theorem forgetAll_undone (entries : List Entry) (g : Generator) :
    Undone entries g (entries.foldl forget g) := by
  induction entries generalizing g with
  | nil => exact .refl g
  | cons entry rest ih => exact (forget_undone entry g).trans (ih (g.forget entry))

def Refers (g : Generator) (entry : Entry) (name : String) : Prop :=
  (∃ s, g.memo.lookup entry.1 = some s ∧ name ∈ s.refs) ∨
  (∃ key s, entry.2 = some key ∧ g.definitions.get? key = some s ∧ name ∈ s.refs)

theorem refersTo_iff {g : Generator} {names : List String} {entry : Entry} :
    g.refersTo names entry = true ↔ ∃ name ∈ names, g.Refers entry name := by
  have used : ∀ name, name ∈ ((g.memo.lookup entry.1).map Schema.refs).getD [] ↔
      ∃ s, g.memo.lookup entry.1 = some s ∧ name ∈ s.refs := by
    intro name
    cases g.memo.lookup entry.1 <;> simp
  have made : ∀ name, name ∈ ((entry.2.bind g.definitions.get?).map Schema.refs).getD [] ↔
      ∃ key s, entry.2 = some key ∧ g.definitions.get? key = some s ∧ name ∈ s.refs := by
    intro name
    cases entry.2 with
    | none => simp
    | some key => cases found : g.definitions.get? key <;> simp [found]
  simp only [refersTo, List.any_eq_true, List.mem_append, List.contains_iff_mem, used, made]
  constructor
  · rintro ⟨name, place, member⟩
    exact ⟨name, member, place⟩
  · rintro ⟨name, member, place⟩
    exact ⟨name, place, member⟩

/-- The journal's entries are kept or gone. What belongs to those that are gone is undone, and
none that is kept refers to a dropped name or to the definition of one that is gone. -/
structure RolledBack (dropped : List String) (recent kept gone : List Entry) (g g' : Generator) : Prop where
  sublist : kept.Sublist recent
  parted : ∀ entry, entry ∈ gone ↔ entry ∈ recent ∧ entry ∉ kept
  undone : Undone gone g g'
  clean : ∀ entry ∈ kept, ∀ name, name ∈ dropped ∨ some name ∈ gone.map Prod.snd →
    ¬g'.Refers entry name

theorem settle_rolledBack {fuel : Nat} {dropped : List String} {recent : List Entry} (g : Generator)
    (enough : recent.length < fuel) : ∃ gone,
    RolledBack dropped recent (settle fuel dropped recent g).1 gone g (settle fuel dropped recent g).2 := by
  induction fuel generalizing dropped recent g with
  | zero => omega
  | succ fuel ih =>
    simp only [settle]
    split
    · next none =>
      have none := List.filter_eq_nil_iff.mp (List.isEmpty_iff.mp none)
      refine ⟨[], List.Sublist.refl _, by simp, .refl g, ?_⟩
      intro entry member name dropped refers
      have dropped := dropped.resolve_right (by simp)
      exact none entry member (refersTo_iff.mpr ⟨name, dropped, refers⟩)
    · next some =>
      have fewer : (recent.filter fun entry => !g.refersTo dropped entry).length < recent.length := by
        refine List.length_filter_lt_length_iff_exists.mpr ?_
        simpa using some
      obtain ⟨gone, rolled⟩ := @ih ((recent.filter (g.refersTo dropped)).filterMap Prod.snd ++ dropped)
        (recent.filter fun entry => !g.refersTo dropped entry)
        ((recent.filter (g.refersTo dropped)).foldl forget g)
        (Nat.lt_of_lt_of_le fewer (Nat.le_of_lt_succ enough))
      refine ⟨recent.filter (g.refersTo dropped) ++ gone,
        rolled.sublist.trans List.filter_sublist, ?_, (forgetAll_undone _ g).trans rolled.undone, ?_⟩
      · intro entry
        have inside := fun kept => List.mem_filter.mp (rolled.sublist.subset (a := entry) kept)
        simp only [List.mem_append, List.mem_filter, rolled.parted]
        cases refers : g.refersTo dropped entry <;> simp_all
      · intro entry member name place
        apply rolled.clean entry member name
        simp only [List.mem_append, List.map_append, List.mem_filterMap, List.mem_map] at place ⊢
        rcases place with old | tainted | later
        · exact .inl (.inr old)
        · exact .inl (.inl tainted)
        · exact .inr later

/-- Undoing a failed declaration leaves no entry made since `mark` that refers to it. -/
theorem rollback_rolledBack (mark : Nat) (failed : String) (g : Generator) : ∃ kept gone,
    (g.rollback mark failed).journal = g.journal.take mark ++ kept ∧
    RolledBack [failed] (g.journal.drop mark) kept gone g (g.rollback mark failed) := by
  obtain ⟨gone, rolled⟩ := @settle_rolledBack _ [failed] (g.journal.drop mark) g (Nat.lt_succ_self _)
  refine ⟨_, gone, rfl, rolled.sublist, rolled.parted, ?_, ?_⟩
  · exact ⟨rolled.undone.memo, rolled.undone.definitions⟩
  · exact rolled.clean

end ApiSchema.Generator
