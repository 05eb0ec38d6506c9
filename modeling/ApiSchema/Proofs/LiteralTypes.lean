import ApiSchema.Proofs.Annotations
import ApiSchema.Proofs.UseShapes

/-! Literals have the type that is published with them. They are coerced once the type of a member is
settled, after a given type has replaced it and its travelling as text has been taken into account, and no
later annotation changes the base type that the schema shows. A default and an example stand on the schema
itself, enumerated values of an array on its items, and none of them is lost. -/

namespace ApiSchema

namespace BaseType

/-- A schema shows its base type by the keyword for the type and, an array, by its items. The elements of an
array without items are of any type. -/
theorem of_eq (s : Schema) : of s =
    match s.type with
    | some "integer" => integer
    | some "number" => number
    | some "string" => string
    | some "boolean" => boolean
    | some "array" => array ((s.items.map of).getD object)
    | _ => object := by
  obtain ⟨own, items, properties, additional, allOf, oneOf, anyOf, negated, definitions⟩ := s
  cases items <;> rw [of.eq_def] <;> rfl

variable {s : Schema}

theorem of_keywords {keywords : Keywords} (same : keywords.type = s.type) :
    of { s with toKeywords := keywords } = of s := by
  rw [of_eq, of_eq s]
  simp only [same]

theorem of_items {old new : Schema} (place : s.items = some old) (same : of new = of old) :
    of { s with items := some new } = of s := by
  rw [of_eq, of_eq s]
  simp only [place, Option.map_some, same]

theorem item_of_array {item : BaseType} (shown : of s = .array item) :
    item = (s.items.map of).getD .object := by
  rw [of_eq] at shown
  split at shown
  · cases shown
  · cases shown
  · cases shown
  · cases shown
  · exact (array.inj shown).symm
  · cases shown

end BaseType

namespace Schema

def Bare (s : Schema) : Prop := s.Throughout fun t => t.literals = []

theorem Used.bare {s : Schema} (used : s.Used) : s.Bare := by
  induction used with
  | ref name => exact .leaf rfl
  | primitive p => cases p <;> exact .leaf rfl
  | object doc => exact .leaf rfl
  | array _ ih => exact .array rfl ih
  | map _ ih => exact .map rfl ih

/-- Literals are values of the type that is shown with them, which is that of the member or of its elements. -/
def Typed (base : BaseType) (s : Schema) : Prop :=
  ∀ v ∈ s.literals, (BaseType.of s = base ∨ BaseType.of s = base.element) ∧ (BaseType.of s).Admits v

namespace Typed

variable {base : BaseType} {s : Schema}

theorem of_bare (bare : s.literals = []) : Typed base s := fun v stored => by simp [bare] at stored

theorem of_keywords {keywords : Keywords} (typed : Typed base s) (same : keywords.type = s.type)
    (literals : keywords.literals = s.literals) : Typed base { s with toKeywords := keywords } := by
  intro v stored
  rw [BaseType.of_keywords same]
  exact typed v (literals ▸ stored)

end Typed

end Schema

namespace Field

open Annotation Steps
open Schema (Occurs Typed)

variable {field : Field} {base : BaseType} {s r : Schema}

structure Shown (base : BaseType) (s : Schema) : Prop where
  shows : BaseType.of s = base
  typed : s.Throughout (Typed base)

theorem Shown.keywords {keywords : Keywords} (shown : Shown base s) (same : keywords.type = s.type)
    (admitted : ∀ v ∈ keywords.literals, v ∈ s.literals ∨ base.Admits v) :
    Shown base { s with toKeywords := keywords } := by
  have shows : BaseType.of { s with toKeywords := keywords } = base :=
    (BaseType.of_keywords same).trans shown.shows
  refine ⟨shows, shown.typed.of_keywords fun v stored => ⟨.inl shows, ?_⟩⟩
  rw [shows]
  rcases admitted v stored with old | new
  · exact shown.shows ▸ (shown.typed.here v old).2
  · exact new

/-- Enumerated values of an array are typed where they are stored. -/
theorem Shown.items {items : Schema} {values : List Json.Value} (shown : Shown base s)
    (place : s.items = some items) (element : BaseType.of items = base.element)
    (admitted : ∀ v ∈ values, base.element.Admits v) :
    Shown base { s with items := some { items with enumValues := some values } } := by
  have kept : BaseType.of { items with enumValues := some values } = BaseType.of items :=
    BaseType.of_keywords rfl
  have shows := (BaseType.of_items place kept).trans shown.shows
  have within := shown.typed.inside (.items place)
  refine ⟨shows, shown.typed.of_items ?_ (within.of_keywords ?_)⟩
  · intro v stored
    exact ⟨.inl shows, shows ▸ shown.shows ▸ (shown.typed.here v stored).2⟩
  · intro v stored
    refine ⟨.inr (kept.trans element), ?_⟩
    rw [kept]
    rcases Keywords.mem_literals.mp stored with preset | exemplary | ⟨_, listed, member⟩
    · exact (within.here v (Keywords.mem_literals.mpr (.inl preset))).2
    · exact (within.here v (Keywords.mem_literals.mpr (.inr (.inl exemplary)))).2
    · cases listed
      exact element ▸ admitted v member

theorem Shown.layering (base : BaseType) : Layering base (Shown base) where
  keywords shown _ _ _ same admitted := shown.keywords same admitted
  enum {s values} shown known admitted := by
    have own (same : base.element = base) : Shown base { s with enumValues := some values } := by
      refine shown.keywords rfl fun v stored => ?_
      rcases Keywords.mem_literals.mp stored with preset | exemplary | ⟨_, listed, member⟩
      · exact .inl (Keywords.mem_literals.mpr (.inl preset))
      · exact .inl (Keywords.mem_literals.mpr (.inr (.inl exemplary)))
      · cases listed
        exact .inr (same ▸ admitted v member)
    cases base with
    | integer | number | string | boolean | object => exact own rfl
    | array item =>
      have shows := BaseType.item_of_array shown.shows
      cases place : s.items with
      | none => exact absurd (shows.trans (by rw [place]; rfl)) known
      | some items =>
        have element : BaseType.of items = item := by rw [shows, place]; rfl
        simpa only [storeEnum, place] using shown.items place element admitted

theorem decorate_typed {description : Option String} {readOnly : Bool} (typed : s.Throughout (Typed base)) :
    (decorate description readOnly s).Throughout (Typed base) := by
  unfold decorate
  split
  · exact typed.of_keywords (Typed.of_keywords typed.here rfl rfl)
  · split
    · exact typed
    · refine .allOf (.of_bare rfl) fun t member => ?_
      rcases List.mem_cons.mp member with rfl | marks
      · exact typed
      · cases readOnly with
        | false => cases marks
        | true =>
          obtain rfl := List.mem_singleton.mp marks
          exact .leaf (.of_bare rfl)

theorem encodeAsText_bare (bare : s.Bare) : (field.encodeAsText s).Bare := by
  unfold encodeAsText
  split
  · exact bare.of_keywords bare.here
  · exact bare

/-- Onto a schema without literals, annotations put such as have the type that is shown with them. -/
theorem complement_typed (bare : s.Bare) (done : field.complement s = .ok r) :
    ∃ t, field.replaceType s = .ok t ∧ r.Throughout (Typed (BaseType.of (field.encodeAsText t))) := by
  have start := replaceType_made field s bare (fun _ _ => .leaf rfl) fun _ bare => .array rfl bare
  have layered := complement_layers field s start.result
    (Q := fun r => ∃ t, field.replaceType s = .ok t ∧ r.Throughout (Typed (BaseType.of (field.encodeAsText t))))
    (fun t _ => Shown.layering (BaseType.of (field.encodeAsText t)))
    (fun t replaced => ⟨rfl, (encodeAsText_bare replaced.2).imp fun _ => .of_bare⟩)
    fun t u replaced shown => ⟨t, replaced.1, decorate_typed shown.typed⟩
  rw [done] at layered
  exact layered

/-- What annotations give is stored: enumerated values here or on the items, a default and an example here, and
the zero text where there is one and no example is given. -/
structure StoresLiterals (field : Field) (zero : Option String) (s : Schema) : Prop where
  enum : field.tags.schemaValue? "enums" ≠ none →
    s.enumValues ≠ none ∨ ∃ items, s.items = some items ∧ items.enumValues ≠ none
  preset : field.tags.schemaValue? "default" ≠ none → s.defaultValue ≠ none
  exemplary : field.tags.schemaValue? "example" ≠ none → s.exampleValue ≠ none
  zero : ∀ text, zero = some text → field.tags.schemaValue? "example" = none →
    s.exampleValue = some (.string text)

theorem applyEnum_stores (field : Field) (base : BaseType) (s : Schema) : Yields (field.applyEnum base s) fun t =>
    field.tags.schemaValue? "enums" ≠ none →
      t.enumValues ≠ none ∨ ∃ items, t.items = some items ∧ items.enumValues ≠ none := by
  unfold applyEnum
  split
  · next none => exact .ok fun given => absurd none given
  · dsimp only
    split
    · refine (Yields.mapM _ fun part _ => coerce_yields _ _ _).bind fun values _ => ?_
      refine .ok fun _ => ?_
      unfold storeEnum
      split
      · exact .inr ⟨_, rfl, Option.some_ne_none values⟩
      · exact .inl (Option.some_ne_none values)
    · exact .conflict _ _

theorem applyDefault_stores (field : Field) (base : BaseType) (s : Schema) :
    Yields (field.applyDefault base s) fun t => t.items = s.items ∧ t.enumValues = s.enumValues ∧
      (field.tags.schemaValue? "default" ≠ none → t.defaultValue ≠ none) := by
  unfold applyDefault
  split
  · next none => exact .ok ⟨rfl, rfl, fun given => absurd none given⟩
  · exact (coerce_yields _ _ _).bind fun v _ => .ok ⟨rfl, rfl, fun _ => Option.some_ne_none v⟩

theorem applyExample_stores (field : Field) (base : BaseType) (zero : Option String) (s : Schema) :
    Yields (field.applyExample base zero s) fun t => t.items = s.items ∧ t.enumValues = s.enumValues ∧
      t.defaultValue = s.defaultValue ∧ (field.tags.schemaValue? "example" ≠ none → t.exampleValue ≠ none) ∧
      ∀ text, zero = some text → field.tags.schemaValue? "example" = none →
        t.exampleValue = some (.string text) := by
  unfold applyExample
  split
  · next raw given =>
    refine (coerce_yields _ _ _).bind fun v _ => .ok ⟨rfl, rfl, rfl, fun _ => Option.some_ne_none v, ?_⟩
    exact fun _ _ none => by simp [given] at none
  · next none =>
    split
    · next text =>
      refine .ok ⟨rfl, rfl, rfl, fun given => absurd none given, fun other same _ => ?_⟩
      rw [Option.some.inj same]
    · exact .ok ⟨rfl, rfl, rfl, fun given => absurd none given, fun _ same => by cases same⟩

theorem StoresLiterals.of_same {zero : Option String} {t : Schema} (stores : field.StoresLiterals zero s)
    (items : t.items = s.items) (enum : t.enumValues = s.enumValues)
    (preset : t.defaultValue = s.defaultValue) (exemplary : t.exampleValue = s.exampleValue) :
    field.StoresLiterals zero t := by
  refine ⟨?_, ?_, ?_, ?_⟩
  · rw [items, enum]
    exact stores.enum
  · rw [preset]
    exact stores.preset
  · rw [exemplary]
    exact stores.exemplary
  · rw [exemplary]
    exact stores.zero

theorem StoresLiterals.applyExtensions {zero : Option String} (stores : field.StoresLiterals zero s) :
    Yields (field.applyExtensions s) (field.StoresLiterals zero) := by
  unfold Field.applyExtensions
  split
  · exact .ok stores
  · exact (parseExtensions_yields _ _).bind fun entries _ => .ok (stores.of_same rfl rfl rfl rfl)

/-- A reference keeps its literals where it becomes a branch. -/
theorem StoresLiterals.decorate {zero : Option String} (stores : field.StoresLiterals zero s)
    (description : Option String) (readOnly : Bool) : ∃ t, Occurs t (Field.decorate description readOnly s) ∧ field.StoresLiterals zero t := by
  unfold Field.decorate
  split
  · exact ⟨_, .refl, stores.of_same rfl rfl rfl rfl⟩
  · split
    · exact ⟨s, .refl, stores⟩
    · exact ⟨s, .single (.allOf rfl List.mem_cons_self), stores⟩

/-- Whatever the layers before and after it do, each annotation leaves its literals. -/
theorem complement_stores (field : Field) (s : Schema) : Yields (field.complement s) fun r =>
    ∃ t u, field.replaceType s = .ok t ∧ Occurs u r ∧ field.StoresLiterals (field.encodedZero? t) u := by
  have anything (base : BaseType) : Layering base fun _ => True :=
    ⟨fun _ _ _ _ _ _ => trivial, fun _ _ _ => trivial⟩
  have start := replaceType_made (P := fun _ => True) field s trivial (fun _ _ => trivial) fun _ _ => trivial
  unfold complement
  refine start.result.bind fun t replaced => ?_
  refine (applyBounds_keeps field (anything _) trivial).bind fun bounded _ => ?_
  refine (applyLength_keeps field (anything _) trivial).bind fun sized _ => ?_
  refine (applyEnum_stores field _ sized).bind fun listed enum => ?_
  refine (applyDefault_stores field _ listed).bind fun given ⟨items, values, preset⟩ => ?_
  refine (applyExample_stores field _ _ given).bind fun shown ⟨items', values', preset', exemplary, zero⟩ => ?_
  have stores : field.StoresLiterals (field.encodedZero? t) shown := by
    refine ⟨?_, preset' ▸ preset, exemplary, zero⟩
    rw [items', values', items, values]
    exact enum
  refine stores.applyExtensions.bind fun extended stores => ?_
  obtain ⟨u, inside, stores⟩ := stores.decorate field.doc (field.tags.hasSchemaFlag "readonly")
  exact .ok ⟨t, u, replaced.1, inside, stores⟩

/-- Where a member has no literals yet, those that annotations give it are stored, as values of the type that is
published with them, and as texts where it travels as text. A synthesis comes to no schema of a member with
literals. -/
theorem complement_literals (bare : s.Bare) (done : field.complement s = .ok r) :
    (∀ t, Occurs t r → ∀ v ∈ t.literals, (BaseType.of t).Admits v) ∧
    (∀ t, field.replaceType s = .ok t →
      (field.encodedZero? t ≠ none → ∀ u, Occurs u r → ∀ v ∈ u.literals, ∃ text, v = .string text) ∧
      ∃ u, Occurs u r ∧ field.StoresLiterals (field.encodedZero? t) u) ∧
    ∀ {config : Config} {fuel : Nat} {context : ScopeId} {type : TypeExpr} {x : Schema} {g g' : Generator},
      Synthesis.Shaped config.maxInlineDepth g →
      after (Synthesis.memberSchema config (Synthesis.synthesizeWith config fuel) context type) g = (.ok x, g') →
      x.Bare := by
  obtain ⟨t, replaced, typed⟩ := complement_typed bare done
  have stored := complement_stores field s
  rw [done] at stored
  obtain ⟨t', core, same, inside, stores⟩ := stored
  obtain rfl : t = t' := Except.ok.inj (replaced.symm.trans same)
  refine ⟨fun u occurs v stored => (typed u occurs v stored).2, fun t' same => ?_,
    fun shaped run => (Synthesis.memberSchema_shaped shaped run).2.bare⟩
  obtain rfl : t = t' := Except.ok.inj (replaced.symm.trans same)
  refine ⟨fun encoded u occurs v stored => ?_, core, inside, stores⟩
  obtain ⟨zero, encoded⟩ := Option.ne_none_iff_exists'.mp encoded
  obtain ⟨either, admitted⟩ := typed u occurs v stored
  have text : BaseType.of u = .string := by simpa [encodedZero?_text field encoded, BaseType.element] using either
  rw [text] at admitted
  cases admitted with
  | string text => exact ⟨text, rfl⟩

def amount : Field where
  name := "amount"
  type := .primitive .i64
  exported := true
  embedded := false
  tags := { stringEncoded := true, schema := [.mk "default" (some "5") []] }
  doc := none

theorem complement_literals_amount : (Schema.ofPrimitive .i64).Bare ∧
    ∃ r, amount.complement (.ofPrimitive .i64) = .ok r ∧ r.literals = [.string "5", .string "0"] ∧
      (∀ v ∈ r.literals, (BaseType.of r).Admits v) ∧ ∀ v ∈ r.literals, ∃ text, v = .string text := by
  have bare := (Schema.Used.primitive .i64).bare
  obtain ⟨r, done, literals⟩ : ∃ r, amount.complement (.ofPrimitive .i64) = .ok r ∧
      r.literals = [.string "5", .string "0"] := ⟨_, rfl, rfl⟩
  obtain ⟨typed, texts, _⟩ := complement_literals bare done
  have encoded := (texts (.ofPrimitive .i64) rfl).1 (by decide)
  exact ⟨bare, r, done, literals, typed r .refl, encoded r .refl⟩

end Field

end ApiSchema
