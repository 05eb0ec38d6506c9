import ApiSchema.Proofs.StoredSchemas

/-! Required names are properties. Names are required of an object as its members are collected,
those of flattened members with the properties that are spliced in, so at every depth a schema
requires each name once and has a property for it. This holds of the definitions and of what the
memo has, placeholders included, hence also of bodies that are read back from them. -/

namespace ApiSchema

namespace Schema

structure RequiredListed (s : Schema) : Prop where
  nodup {names : List String} : s.required = some names → names.Nodup
  property {names : List String} {name : String} : s.required = some names → name ∈ names →
    ∃ table, s.properties = some table ∧ table.contains name = true

def RequiredCovered (s : Schema) : Prop := ∀ t, Occurs t s → RequiredListed t

theorem RequiredListed.of_none {s : Schema} (none : s.required = none) : RequiredListed s where
  nodup listed := by simp [none] at listed
  property listed := by simp [none] at listed

namespace RequiredCovered

variable {s : Schema}

theorem here (covered : s.RequiredCovered) : RequiredListed s := Throughout.here covered

theorem inside {t : Schema} (covered : s.RequiredCovered) (part : Part t s) : t.RequiredCovered :=
  Throughout.inside covered part

theorem intro (here : RequiredListed s) (inside : ∀ t, Part t s → t.RequiredCovered) : s.RequiredCovered :=
  Throughout.intro here inside

/-- Keywords other than the required names do not matter. -/
theorem of_keywords {keywords : Keywords} (covered : s.RequiredCovered) (same : keywords.required = s.required) :
    ({ s with toKeywords := keywords } : Schema).RequiredCovered :=
  Throughout.of_keywords covered ⟨fun listed => covered.here.nodup (same ▸ listed),
    fun listed => covered.here.property (same ▸ listed)⟩

/-- A schema without parts that requires nothing. -/
theorem plain {keywords : Keywords} (none : keywords.required = none) :
    ({ toKeywords := keywords } : Schema).RequiredCovered := Throughout.leaf (.of_none none)

theorem array (covered : s.RequiredCovered) : (Schema.array s).RequiredCovered :=
  Throughout.array (.of_none rfl) covered

theorem map (covered : s.RequiredCovered) : (Schema.map s).RequiredCovered := Throughout.map (.of_none rfl) covered

theorem allOf {branches : List Schema} (description : Option String)
    (each : ∀ t ∈ branches, t.RequiredCovered) :
    ({ description, allOf := some branches } : Schema).RequiredCovered := Throughout.allOf (.of_none rfl) each

theorem oneOf {branches : List Schema} (each : ∀ t ∈ branches, t.RequiredCovered) :
    ({ oneOf := some branches } : Schema).RequiredCovered := by
  refine .intro (.of_none rfl) fun t part => ?_
  cases part with
  | oneOf place member =>
    cases place
    exact each t member
  | items place | additional place | negated place => cases place
  | allOf place | anyOf place => cases place
  | property place | definition place => cases place

/-- An object covers its required names by its properties, and below by those of its members. -/
theorem object {keywords : Keywords} {properties : Table Schema} {additionalProperties : Option Schema}
    (nodup : ∀ names, keywords.required = some names → names.Nodup)
    (property : ∀ names, keywords.required = some names → ∀ name ∈ names,
      properties.contains name = true)
    (each : ∀ entry ∈ properties.entries, entry.2.RequiredCovered)
    (rest : ∀ t, additionalProperties = some t → t.RequiredCovered) :
    ({ toKeywords := keywords, properties, additionalProperties } : Schema).RequiredCovered := by
  refine .intro ⟨fun listed => nodup _ listed, fun listed member => ?_⟩ fun t part => ?_
  · exact ⟨properties, rfl, property _ listed _ member⟩
  · cases part with
    | property place member =>
      cases place
      exact each _ member
    | additional place => exact rest t place
    | items place | negated place => cases place
    | allOf place | oneOf place | anyOf place => cases place
    | definition place => cases place

/-- The items may be replaced by others that are covered. -/
theorem of_items {new : Schema} (covered : s.RequiredCovered) (fresh : new.RequiredCovered) :
    ({ s with items := some new } : Schema).RequiredCovered :=
  have here : RequiredListed { s with items := some new } :=
    ⟨fun listed => covered.here.nodup listed, fun listed => covered.here.property listed⟩
  Throughout.of_items covered here fresh

end RequiredCovered

end Schema

theorem Field.untouched_requiredCovered : Field.Untouched Schema.RequiredCovered where
  keywords covered _ required := covered.of_keywords required
  items covered place _ required := covered.of_items ((covered.inside (.items place)).of_keywords required)
  branch description readOnly covered := by
    refine .allOf description fun t member => ?_
    rcases List.mem_cons.mp member with rfl | marks
    · exact covered
    · cases readOnly with
      | false => cases marks
      | true =>
        obtain rfl := List.mem_singleton.mp marks
        exact .plain rfl

theorem Field.replaceType_requiredCovered (field : Field) {s : Schema} (covered : s.RequiredCovered) :
    Annotation.Yields (field.replaceType s) Schema.RequiredCovered :=
  field.replaceType_made s covered (fun _ _ => .plain rfl) fun _ covered => covered.array

namespace Synthesis

open Steps

/-- A name is required of the members collected so far only once, and only if there is a member for it. -/
structure Members.RequiredCovered (m : Members) : Prop where
  nodup : m.required.Nodup
  property : ∀ name ∈ m.required, m.properties.contains name = true
  each : ∀ entry ∈ m.properties.entries, entry.2.RequiredCovered
  additional : ∀ s, m.additional = some s → s.RequiredCovered

namespace Members.RequiredCovered

variable {m : Members}

/-- Names that are required are collected without repetitions. -/
theorem collected (names extra : List String) (nodup : names.Nodup) :
    let all := extra.foldl (fun names name => if names.contains name then names else names ++ [name])
      names
    all.Nodup ∧ ∀ name ∈ all, name ∈ names ∨ name ∈ extra := by
  induction extra generalizing names with
  | nil => exact ⟨nodup, fun _ => .inl⟩
  | cons first rest ih =>
    rw [List.foldl_cons]
    split
    · obtain ⟨distinct, known⟩ := ih names nodup
      exact ⟨distinct, fun name member => (known name member).imp_right (List.mem_cons_of_mem _)⟩
    · next fresh =>
      have apart : first ∉ names := fun member => fresh (List.contains_iff_mem.mpr member)
      obtain ⟨distinct, known⟩ := ih (names ++ [first])
        (List.nodup_append.mpr ⟨nodup, List.nodup_singleton first, by
          rintro a member _ one rfl
          exact apart (List.mem_singleton.mp one ▸ member)⟩)
      refine ⟨distinct, fun name member => ?_⟩
      rcases known name member with old | later
      · rcases List.mem_append.mp old with old | new
        · exact .inl old
        · exact .inr (List.mem_singleton.mp new ▸ List.mem_cons_self)
      · exact .inr (List.mem_cons_of_mem _ later)

theorem splice {body : Schema} (covered : m.RequiredCovered) (inner : body.RequiredCovered) :
    (m.splice body).RequiredCovered := by
  obtain ⟨distinct, known⟩ := collected m.required (body.required.getD []) covered.nodup
  refine ⟨distinct, fun name member => ?_, fun entry member => ?_, fun s place => ?_⟩
  · refine Table.contains_union.mpr ?_
    rcases known name member with old | new
    · exact .inr (covered.property name old)
    · cases listed : body.required with
      | none => simp [listed] at new
      | some names =>
        rw [listed, Option.getD_some] at new
        obtain ⟨table, place, found⟩ := inner.here.property listed new
        exact .inl (by simpa [place] using found)
  · rcases Table.mem_insertAll member with new | old
    · cases place : body.properties with
      | none => simp [place] at new
      | some table => exact inner.inside (.property place (by simpa [place] using new))
    · exact covered.each entry old
  · simp only [Members.splice] at place
    rcases Option.or_eq_some_iff.mp place with own | ⟨_, old⟩
    · exact inner.inside (.additional own)
    · exact covered.additional s old

theorem add {s : Schema} (key : String) (required : Bool) (covered : m.RequiredCovered) (inner : s.RequiredCovered) :
    (m.add key s required).RequiredCovered := by
  have others : ∀ name ∈ m.required.filter (· ≠ key), name ∈ m.required ∧ name ≠ key := by
    simp
  refine ⟨?_, fun name member => ?_, fun entry member => ?_, covered.additional⟩
  · have kept := covered.nodup.filter (· ≠ key)
    cases required with
    | false => simpa [Members.add] using kept
    | true =>
      refine List.nodup_append.mpr ⟨kept, List.nodup_singleton key, ?_⟩
      rintro a member _ one rfl
      exact (others a member).2 (List.mem_singleton.mp one)
  · refine Table.contains_insert.mpr ?_
    rcases List.mem_append.mp member with old | new
    · exact .inr (covered.property name (others name old).1)
    · cases required with
      | false => cases new
      | true => exact .inl (List.mem_singleton.mp new)
  · rcases Table.mem_insertEntry member with rfl | old
    · exact inner
    · exact covered.each entry old

theorem toSchema (covered : m.RequiredCovered) : m.toSchema.RequiredCovered := by
  have same {names : List String}
      (listed : (if m.required.isEmpty then none else some m.required) = some names) :
      m.required = names := by
    split at listed
    · cases listed
    · exact Option.some.inj listed
  refine .object (fun names listed => ?_) (fun names listed name member => ?_) covered.each covered.additional
  · exact same listed ▸ covered.nodup
  · exact covered.property name (same listed ▸ member)

end Members.RequiredCovered

/-- Every way of building a schema requires only names that it has. -/
theorem requiredCovered_building : Building Schema.RequiredCovered Members.RequiredCovered where
  blank := .plain rfl
  object _ := .plain rfl
  primitive p := by cases p <;> exact .plain rfl
  array covered := covered.array
  map covered := covered.map
  described _ covered := covered.of_keywords rfl
  complement {s t} field covered done := by
    have replaced := field.replaceType_requiredCovered covered
    have layered := Field.complement_keeps field s Field.untouched_requiredCovered replaced
    rw [done] at layered
    exact layered
  none := ⟨List.nodup_nil, by simp, by simp, by simp⟩
  splice := .splice
  add key required := .add key required
  toSchema covered := covered.toSchema
  tuple _ covered := covered.array.of_keywords rfl
  plainEnum rule variants := by
    unfold plainEnumSchema
    dsimp only
    split
    · exact .plain rfl
    · exact .plain rfl
  unitVariant _ _ := .plain rfl
  variant {s} key doc covered := by
    refine .object ?_ ?_ ?_ (by simp [Schema.object, Schema.ofType])
    · rintro names ⟨⟩
      exact List.nodup_singleton key
    · rintro names ⟨⟩ name member
      obtain rfl := List.mem_singleton.mp member
      simp [Table.contains, Table.get?, Table.singleton]
    · intro entry member
      obtain rfl : entry = (key, s) := by simpa [Table.singleton] using member
      exact covered
  branches each := .oneOf each

/-- If all schemas of a state are covered, so are those that a request leaves and the one it comes to. -/
theorem serve_requiredCovered (config : Config) (fuel : Nat) (request : Request) :
    Meets (lenient (storing Schema.RequiredCovered)) (request.serve config fuel) fun s _ => s.RequiredCovered :=
  serve_stores requiredCovered_building (fun _ => .plain rfl) config fuel request

theorem Reached.covered {config : Config} {g : Generator} (reached : Reached config g) :
    g.Stores Schema.RequiredCovered := reached.stores requiredCovered_building fun _ => .plain rfl

/-- Between requests, whatever these were and however they ended, a schema that occurs in a
definition, or in the answer to one more request, lists each required name once and has a property
for it. -/
theorem required_are_properties {config : Config} {g : Generator} (reached : Reached config g)
    {s : Schema}
    (made : (∃ name, g.definitions.get? name = some s) ∨
      ∃ fuel request g', after (Request.serve config fuel request) g = (.ok s, g'))
    {t : Schema} (occurs : Schema.Occurs t s) {names : List String} (listed : t.required = some names) :
    names.Nodup ∧ ∀ name ∈ names, ∃ table, t.properties = some table ∧ name ∈ table.keys := by
  have covered : s.RequiredCovered := by
    rcases made with ⟨name, found⟩ | ⟨fuel, request, g', run⟩
    · exact reached.covered.definitions found
    · exact ((serve_requiredCovered config fuel request g reached.covered).ok run).2.2
  have required := covered t occurs
  refine ⟨required.nodup listed, fun name member => ?_⟩
  obtain ⟨table, place, found⟩ := required.property listed member
  exact ⟨table, place, Table.contains_iff.mp found⟩

def albums : Registry :=
  (Registry.empty.addScope ⟨"src/models.rs", "crate::models", []⟩).insertAll
    [Builder.declared "Album" (.struct
      [{ Builder.member "base" (.named ["Base"] []) [] with embedded := true },
        Builder.member "title" (.primitive .string) []]),
      Builder.declared "Base" (.struct [Builder.member "id" (.primitive .u64) []])]

def albumServed : Generator :=
  (after (schemaOfReference { requiredByDefault := true } 0 "Album")
    { resolver := { registry := albums } }).2

theorem required_are_properties_album :
    Reached { requiredByDefault := true } albumServed ∧
      ∃ s, albumServed.definitions.get? "models.Album" = some s ∧ s.required = some ["id", "title"] ∧
        ["id", "title"].Nodup ∧ ∀ name ∈ ["id", "title"], ∃ table, s.properties = some table ∧
          name ∈ table.keys := by
  have reached : Reached { requiredByDefault := true } albumServed :=
    .served nesting (.reference 0 "Album") (.fresh _)
  have required : (albumServed.definitions.get? "models.Album").bind (·.required) =
      some ["id", "title"] := by decide +kernel
  obtain ⟨s, found, listed⟩ := Option.bind_eq_some_iff.mp required
  exact ⟨reached, s, found, listed,
    required_are_properties reached (.inl ⟨"models.Album", found⟩) .refl listed⟩

end Synthesis

end ApiSchema
