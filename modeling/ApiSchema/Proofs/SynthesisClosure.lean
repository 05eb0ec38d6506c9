import ApiSchema.Proofs.Consistency

/-! Synthesis keeps every reference accounted for. Schemas are built from accounted names only, a
declaration that succeeds is entered under its name before it goes off the stack, and one that
fails is undone or given up. -/

namespace ApiSchema.Synthesis

open Steps
open Registry (Grows)
open Generator (Backed Consistent Advances Ready givenUp)

def MembersIn (P : String → Prop) (m : Members) : Prop :=
  (∀ entry ∈ m.properties.entries, ∀ name ∈ entry.2.refs, P name) ∧
    ∀ s, m.additional = some s → ∀ name ∈ s.refs, P name

theorem splice_in {P : String → Prop} {m : Members} {body : Schema} (fits : MembersIn P m)
    (good : ∀ name ∈ body.refs, P name) : MembersIn P (m.splice body) := by
  constructor
  · intro entry member name inside
    rcases Table.mem_insertAll member with new | old
    · cases place : body.properties with
      | none => simp [place] at new
      | some table =>
        refine good name (Schema.mem_refs_iff_part.mpr (.inr ⟨entry.2, ?_, inside⟩))
        exact .property place (by simpa [place] using new)
    · exact fits.1 entry old name inside
  · intro s place name inside
    simp only [Members.splice] at place
    cases own : body.additionalProperties with
    | none =>
      rw [own] at place
      exact fits.2 s place name inside
    | some t =>
      rw [own] at place
      obtain rfl : t = s := by simpa using place
      exact good name (Schema.mem_refs_iff_part.mpr (.inr ⟨t, .additional own, inside⟩))

theorem add_in {P : String → Prop} {m : Members} {s : Schema} (key : String) (required : Bool)
    (fits : MembersIn P m) (good : ∀ name ∈ s.refs, P name) : MembersIn P (m.add key s required) := by
  refine ⟨?_, fits.2⟩
  intro entry member
  rcases Table.mem_insertEntry member with rfl | old
  · exact good
  · exact fits.1 entry old

theorem refs_in {P : String → Prop} {s t : Schema} (same : t.refs = s.refs)
    (good : ∀ name ∈ s.refs, P name) : ∀ name ∈ t.refs, P name := same ▸ good

theorem none_in {P : String → Prop} {s : Schema} (none : s.refs = []) : ∀ name ∈ s.refs, P name := by
  simp [none]

/-- A schema that is no reference itself mentions what its parts mention. -/
theorem parts_in {P : String → Prop} {s : Schema} (plain : s.refName? = none)
    (parts : ∀ t, Schema.Part t s → ∀ name ∈ t.refs, P name) : ∀ name ∈ s.refs, P name := by
  intro name member
  rcases Schema.mem_refs_iff_part.mp member with here | ⟨t, part, inside⟩
  · rw [plain] at here
    cases here
  · exact parts t part name inside

/-- Every way of building a schema mentions only what its parts mention. -/
theorem refs_building (P : String → Prop) :
    Building (fun s => ∀ name ∈ s.refs, P name) (MembersIn P) where
  blank := none_in Schema.refs_blank
  object doc := none_in ((Schema.refs_keywords .object _ rfl).trans Schema.refs_object)
  primitive p := none_in (Schema.refs_ofPrimitive p)
  array {s} good := refs_in (Schema.refs_array s) good
  map {s} good := refs_in (Schema.refs_map s) good
  described {s} doc good := refs_in (Schema.refs_keywords s _ rfl) good
  complement {s t} field good done := by
    have layered := Field.complement_yields field s
    rw [done] at layered
    have same : t.refs = _ := layered
    rw [same]
    split
    · simp
    · exact good
  none := ⟨by simp, by simp⟩
  splice := splice_in
  add key required := add_in key required
  toSchema {m} fits := by
    refine parts_in rfl ?_
    intro t part name inside
    cases part with
    | property place member =>
      obtain rfl : m.properties = _ := by simpa [Members.toSchema] using place
      exact fits.1 _ member name inside
    | additional place => exact fits.2 t place name inside
    | items place | negated place => cases place
    | allOf place | oneOf place | anyOf place => cases place
    | definition place => cases place
  tuple {s} length good :=
    refs_in ((Schema.refs_keywords (.array s) _ rfl).trans (Schema.refs_array s)) good
  plainEnum rule variants := by
    unfold plainEnumSchema
    dsimp only
    split
    · exact none_in ((Schema.refs_keywords (.ofType "integer") _ rfl).trans (Schema.refs_ofType _))
    · exact none_in ((Schema.refs_keywords (.ofType "string") _ rfl).trans (Schema.refs_ofType _))
  unitVariant key doc :=
    none_in ((Schema.refs_keywords (.ofType "string") _ rfl).trans (Schema.refs_ofType _))
  variant key doc good := by
    refine parts_in rfl ?_
    intro t part name inside
    cases part with
    | property place member =>
      cases place
      obtain ⟨_, rfl⟩ : _ = key ∧ t = _ := by simpa [Table.singleton] using member
      exact good name inside
    | additional place | items place | negated place => cases place
    | allOf place | oneOf place | anyOf place => cases place
    | definition place => cases place
  branches good := by
    refine parts_in rfl ?_
    intro t part name inside
    cases part with
    | oneOf place member =>
      cases place
      exact good t member name inside
    | additional place | items place | negated place => cases place
    | allOf place | anyOf place => cases place
    | property place | definition place => cases place

def Accounted (lost : DeclId → Prop) (s : Schema) (g : Generator) : Prop :=
  ∀ name ∈ s.refs, Backed lost g name

/-- Between steps every reference is accounted for. A failure gives up what it leaves forced. -/
def accounting (lost : DeclId → Prop) : Contract Failure Generator where
  holds := Consistent lost
  moves := Advances
  fails e g g' := Fatal e ∧ Consistent (givenUp lost g') g' ∧ Advances g g'
  refl := .refl
  trans first second := first.trans second
  fails_after first failed := ⟨failed.1, failed.2.1, first.trans failed.2.2⟩

theorem accounting_law (config : Config) (lost : DeclId → Prop) :
    Law config (accounting lost) (Accounted lost) (fun m g => MembersIn (Backed lost g) m) where
  builds g := refs_building (Backed lost g)
  stable _ _ _ _ advances good name member := advances.backed (good name member)
  stableMembers _ _ _ _ advances fits :=
    ⟨fun entry member name inside => advances.backed (fits.1 entry member name inside),
      fun s place name inside => advances.backed (fits.2 s place name inside)⟩
  fatal failed := failed.1
  conflict _ _ consistent := ⟨trivial, consistent.mono fun _ => .inl, .refl _⟩
  resolves _ _ := resolving_of_grows fun _ _ consistent grows =>
    ⟨consistent.grows grows, Generator.advances_of_grows grows⟩
  defined consistent found := consistent.definitions _ _ found

theorem ref_accounted (lost : DeclId → Prop) {id : DeclId} {name : String} {x body : Schema}
    {t u : Generator} (finished : Generator.Finished id name x (some body) t u) :
    Accounted lost (.ref name) u := by
  intro other member
  obtain rfl : other = name := by simpa using member
  refine .inr (.inl ?_)
  rw [finished.definitions]
  simp

theorem accounting_cases (lost : DeclId → Prop) :
    EachCaseKeeps (accounting lost) (accounting lost) (Accounted lost) where
  memo consistent found := consistent.memo _ _ found
  naming id g consistent := by
    have grows : Grows g.registry (g.naming id).registry := Registry.definitionName_grows _ _
    exact ⟨consistent.grows grows, Generator.advances_of_grows grows⟩
  cycle {id name g} consistent named busy := by
    have advances := Generator.advances_force id g
    refine ⟨consistent.force busy, advances, ?_⟩
    intro other member
    obtain rfl : other = name := by simpa using member
    refine .inr (.inr ⟨id, advances.grows.named named, .inr ⟨?_, Generator.mem_force.mpr (.inl rfl)⟩⟩)
    rw [advances.inProgress]
    exact busy
  begun within := within.holds.begun within.ready within.begun
  defined within later advances result finished := by
    obtain ⟨recent, inner⟩ := within.begun.inner advances
    have used := ref_accounted lost finished
    refine ⟨?_, finished.advances within.ready inner later (by simp) within.holds, used⟩
    exact finished.consistent within.ready inner later (by simp) used
      fun b same => Option.some.inj same ▸ result
  inlined within later advances result unforced finished := by
    obtain ⟨recent, inner⟩ := within.begun.inner advances
    have used : Accounted lost _ _ := fun other member =>
      finished.backed within.ready inner (fun _ => ⟨rfl, unforced⟩) (result other member)
    refine ⟨?_, finished.advances within.ready inner later (fun _ => ⟨rfl, unforced⟩) within.holds, used⟩
    exact finished.consistent within.ready inner later (fun _ => ⟨rfl, unforced⟩) used (by simp)
  undone within failed := by
    obtain ⟨fatal, later, advances⟩ := failed
    obtain ⟨recent, inner⟩ := within.begun.inner advances
    obtain ⟨kept, gone, failed⟩ := Generator.failed_rollback inner.journal
    exact ⟨fatal, failed.consistent within.ready inner within.holds later,
      failed.advances within.ready inner within.holds later⟩
  abandoned within failed := by
    obtain ⟨fatal, later, advances⟩ := failed
    obtain ⟨recent, inner⟩ := within.begun.inner advances
    exact ⟨fatal, Generator.abandon_consistent within.ready inner within.holds later,
      Generator.abandon_advances within.ready inner⟩

/-- Any request, whatever fuel it has, keeps references accounted for. -/
theorem synthesizeWith_accounted (config : Config) (lost : DeclId → Prop) (fuel : Nat) (id : DeclId) :
    Meets (accounting lost) (synthesizeWith config fuel id) (Accounted lost) :=
  synthesizeWith_meets (accounting_law config lost) (accounting_cases lost)
    (fun consistent => ⟨trivial, consistent.mono fun _ => .inl, .refl _⟩) fuel id

end ApiSchema.Synthesis
