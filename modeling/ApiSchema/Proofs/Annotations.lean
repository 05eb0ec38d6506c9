import ApiSchema.Annotation
import ApiSchema.Proofs.References

/-! What annotations do to the schema of a member. They never touch its references, unless they
replace the whole schema by one without any. The literals that they store are values of the member's type,
and all that they can fail with is a conflict. -/

namespace ApiSchema

/-- The values of a base type. Where no better type is known, any value is one. -/
inductive BaseType.Admits : BaseType → Json.Value → Prop where
  | integer {n : Int} (least : -9223372036854775808 ≤ n) (most : n ≤ 9223372036854775807) :
      Admits .integer (.integer n)
  | number {x : Binary64} (finite : x.isFinite = true) : Admits .number (.float x)
  | boolean (b : Bool) : Admits .boolean (.bool b)
  | string (text : String) : Admits .string (.string text)
  | array {item : BaseType} {values : List Json.Value} (each : ∀ v ∈ values, Admits item v) :
      Admits (.array item) (.array values)
  | object (v : Json.Value) : Admits .object v

def Keywords.literals (keywords : Keywords) : List Json.Value :=
  keywords.defaultValue.toList ++ keywords.exampleValue.toList ++ keywords.enumValues.getD []

theorem Keywords.mem_literals {keywords : Keywords} {v : Json.Value} : v ∈ keywords.literals ↔
    keywords.defaultValue = some v ∨ keywords.exampleValue = some v ∨
      ∃ values, keywords.enumValues = some values ∧ v ∈ values := by
  rcases listed : keywords.enumValues with _ | values <;> simp [literals, listed]

end ApiSchema

namespace ApiSchema.Annotation

open Json (Value)

/-- The step ends in a result with the property, or else in a conflict. -/
def Yields {α : Type} (x : Except Error α) (post : α → Prop) : Prop :=
  match x with
  | .ok a => post a
  | .error e => ∃ field message, e = .annotationConflict field message

namespace Yields

variable {α β : Type} {x : Except Error α} {post : α → Prop}

theorem ok {a : α} (result : post a) : Yields (.ok a) post := result

theorem conflict (field message : String) : Yields (conflict field message) post := ⟨_, _, rfl⟩

theorem invalid (field raw kind : String) : Yields (invalid field raw kind) post := ⟨_, _, rfl⟩

theorem ite {p : Prop} [Decidable p] {y : Except Error α} (yes : Yields x post)
    (no : Yields y post) : Yields (if p then x else y) post := by
  split
  · exact yes
  · exact no

theorem imp {post' : α → Prop} (yields : Yields x post) (of : ∀ a, post a → post' a) : Yields x post' := by
  cases x with
  | error e => exact yields
  | ok a => exact of a yields

theorem bind {f : α → Except Error β} {post' : β → Prop} (first : Yields x post)
    (rest : ∀ a, post a → Yields (f a) post') : Yields (x >>= f) post' := by
  cases x with
  | error e => exact first
  | ok a => exact rest a first

/-- The result is the one that the step ends in. -/
theorem result (yields : Yields x post) : Yields x fun a => x = .ok a ∧ post a := by
  cases x with
  | error e => exact yields
  | ok a => exact ⟨rfl, yields⟩

theorem map {f : α → β} (yields : Yields x fun _ => True) : Yields (x.map f) fun _ => True := by
  cases x with
  | error e => exact yields
  | ok a => trivial

theorem mapM {f : α → Except Error β} {post : β → Prop} (items : List α)
    (each : ∀ a ∈ items, Yields (f a) post) : Yields (items.mapM f) fun bs => ∀ b ∈ bs, post b := by
  induction items with
  | nil =>
    rw [List.mapM_nil]
    exact .ok (by simp)
  | cons a rest ih =>
    rw [List.mapM_cons]
    refine (each a List.mem_cons_self).bind fun b first => ?_
    refine (ih fun other member => each other (List.mem_cons_of_mem _ member)).bind fun bs others => ?_
    exact .ok (by simpa using ⟨first, others⟩)

end Yields

theorem parseNumber_yields (field raw : String) : Yields (parseNumber field raw) fun _ => True := by
  unfold parseNumber
  split
  · exact .ok trivial
  · exact .invalid _ _ _

theorem parseCount_yields (field raw : String) : Yields (parseCount field raw) fun _ => True := by
  unfold parseCount
  split
  · exact .ok trivial
  · exact .invalid _ _ _

/-- A literal is coerced to a value of the base type. -/
theorem coerce_yields (field : String) :
    (base : BaseType) → (raw : String) → Yields (coerce field base raw) base.Admits
  | .integer, raw => by
    rw [coerce]
    split
    · next n read =>
      obtain ⟨least, most⟩ := Word.fitsSigned_iff.mp (Option.filter_eq_some_iff.mp read).2
      exact .ok (.integer least (Int.le_of_lt_add_one most))
    · exact .invalid _ _ _
  | .number, raw => by
    rw [coerce]
    split
    · next read => exact .ok (.number (Option.filter_eq_some_iff.mp read).2)
    · exact .invalid _ _ _
  | .boolean, raw => by
    rw [coerce]
    split
    · exact .ok (.boolean true)
    · exact .ok (.boolean false)
    · exact .invalid _ _ _
  | .string, raw => by
    rw [coerce]
    exact .ok (.string raw)
  | .array item, raw => by
    rw [coerce]
    refine (Yields.mapM _ fun part _ => coerce_yields field item (Text.trim part)).bind fun _ each => ?_
    exact .ok (.array each)
  | .object, raw => by
    rw [coerce]
    split
    · next value _ => exact .ok (.object value)
    · exact .invalid _ _ _

theorem parseExtensions_yields (field raw : String) :
    Yields (parseExtensions field raw) fun _ => True := by
  have each (item : String) : Yields (parseExtension field item) fun _ => True := by
    simp only [parseExtension]
    exact .ite (.ok trivial) (.conflict _ _)
  exact (Yields.mapM _ fun item _ => each item).imp fun _ _ => trivial

/-- Types that are named by words are plain ones, or arrays of such. -/
theorem schemaOfWords?_made {P : Schema → Prop} (plain : ∀ type format, P { type := some type, format })
    (array : ∀ s, P s → P (.array s)) {words : List String} {s : Schema}
    (read : schemaOfWords? words = some s) : P s := by
  fun_induction schemaOfWords? words generalizing s with
  | case1 => cases read
  | case2 word known =>
    cases read
    exact plain word none
  | case3 =>
    cases read
    exact plain "string" (some "binary")
  | case4 => cases read
  | case5 rest _ ih =>
    obtain ⟨inner, found, rfl⟩ := Option.map_eq_some_iff.mp read
    exact array inner (ih found)
  | case6 word rest _ _ _ ih => exact ih read
  | case7 => cases read

end ApiSchema.Annotation

namespace ApiSchema.Field

open Annotation

/-- A property of schemas that no annotation touches: it survives a change of other keywords than
the reference and the required names, here or in the items, and a reference's becoming a branch. -/
structure Untouched (P : Schema → Prop) : Prop where
  keywords {s : Schema} {keywords : Keywords} : P s → keywords.reference = s.reference →
    keywords.required = s.required → P { s with toKeywords := keywords }
  items {s items : Schema} {keywords : Keywords} : P s → s.items = some items →
    keywords.reference = items.reference → keywords.required = items.required →
    P { s with items := some { items with toKeywords := keywords } }
  branch {s : Schema} (description : Option String) (readOnly : Bool) : P s →
    P { description, allOf := some (s :: if readOnly then [{ readOnly := some true }] else []) }

/-- A property that is kept while annotations are layered onto a schema of the base type. By then the type
does not change, and new literals are values of it, or of the elements where they are enumerated. -/
structure Layering (base : BaseType) (P : Schema → Prop) : Prop where
  keywords {s : Schema} {keywords : Keywords} : P s → keywords.reference = s.reference →
    keywords.required = s.required → keywords.readOnly = s.readOnly → keywords.type = s.type →
    (∀ v ∈ keywords.literals, v ∈ s.literals ∨ base.Admits v) → P { s with toKeywords := keywords }
  enum {s : Schema} {values : List Json.Value} : P s → base.element ≠ .object →
    (∀ v ∈ values, base.element.Admits v) → P (storeEnum base values s)

variable (field : Field) (base : BaseType) (s : Schema)

theorem replaceType_yields : Yields (field.replaceType s) fun t =>
    t.refs = if (field.tags.schemaValue? "schema_type").isSome then [] else s.refs := by
  unfold replaceType
  cases field.tags.schemaValue? "schema_type" with
  | none => exact rfl
  | some custom =>
    dsimp only
    split
    · next t read =>
      exact schemaOfWords?_made (P := fun t => t.refs = []) (fun _ _ => rfl)
        (fun inner none => (Schema.refs_array inner).trans none) read
    · exact .conflict _ _

/-- What holds of the schema of the type, of plain schemas and of arrays holds of the schema that annotations
start from. -/
theorem replaceType_made {P : Schema → Prop} (has : P s) (plain : ∀ type format, P { type := some type, format })
    (array : ∀ t, P t → P (.array t)) : Yields (field.replaceType s) P := by
  unfold replaceType
  split
  · exact has
  · split
    · next read => exact schemaOfWords?_made plain array read
    · exact .conflict _ _

theorem bound?_yields (name : String) (raw : Option String) :
    Yields (field.bound? base name raw) fun _ => True := by
  unfold bound?
  split
  · exact .ok trivial
  · split
    · exact (parseNumber_yields _ _).map
    · exact .conflict _ _

theorem count?_yields (raw : Option String) : Yields (field.count? raw) fun _ => True := by
  unfold count?
  split
  · exact .ok trivial
  · exact (parseCount_yields _ _).map

/-- What travels as text is text. -/
theorem encodedZero?_text {t : Schema} {zero : String} (encoded : field.encodedZero? t = some zero) :
    BaseType.of (field.encodeAsText t) = .string := by
  rw [encodeAsText, encoded]
  rfl

section Layers

variable {base} {P : Schema → Prop} (layering : Layering base P) {s : Schema} (has : P s)

include layering has

theorem applyTitle_keeps : P (field.applyTitle s) := by
  unfold applyTitle
  split
  · exact layering.keywords has rfl rfl rfl rfl fun _ => .inl
  · exact has

theorem applyFormat_keeps : P (field.applyFormat s) := by
  unfold applyFormat
  split
  · exact layering.keywords has rfl rfl rfl rfl fun _ => .inl
  · exact has

theorem applyBounds_keeps : Yields (field.applyBounds base s) P := by
  unfold applyBounds
  refine (bound?_yields field base _ _).bind fun minimum _ => ?_
  refine (bound?_yields field base _ _).bind fun maximum _ => ?_
  refine (bound?_yields field base _ _).bind fun multipleOf _ => ?_
  exact layering.keywords has rfl rfl rfl rfl fun _ => .inl

theorem applyLength_keeps : Yields (field.applyLength base s) P := by
  unfold applyLength
  dsimp only
  split
  · exact has
  · refine (count?_yields field _).bind fun least _ => ?_
    refine (count?_yields field _).bind fun most _ => ?_
    split
    · exact layering.keywords has rfl rfl rfl rfl fun _ => .inl
    · exact layering.keywords has rfl rfl rfl rfl fun _ => .inl
    · exact .conflict _ _

theorem applyEnum_keeps : Yields (field.applyEnum base s) P := by
  unfold applyEnum
  split
  · exact has
  · dsimp only
    split
    · next fits =>
      refine (Yields.mapM _ fun part _ => coerce_yields _ _ _).bind fun values admitted => ?_
      exact layering.enum has (fun bare => by simp [bare, BaseType.isNumeric] at fits) admitted
    · exact .conflict _ _

theorem preset_keeps {v : Json.Value} (admitted : base.Admits v) : P { s with defaultValue := some v } := by
  refine layering.keywords has rfl rfl rfl rfl fun w stored => ?_
  rcases Keywords.mem_literals.mp stored with new | shown | listed
  · exact .inr (Option.some.inj new ▸ admitted)
  · exact .inl (Keywords.mem_literals.mpr (.inr (.inl shown)))
  · exact .inl (Keywords.mem_literals.mpr (.inr (.inr listed)))

theorem shown_keeps {v : Json.Value} (admitted : base.Admits v) : P { s with exampleValue := some v } := by
  refine layering.keywords has rfl rfl rfl rfl fun w stored => ?_
  rcases Keywords.mem_literals.mp stored with preset | new | listed
  · exact .inl (Keywords.mem_literals.mpr (.inl preset))
  · exact .inr (Option.some.inj new ▸ admitted)
  · exact .inl (Keywords.mem_literals.mpr (.inr (.inr listed)))

theorem applyDefault_keeps : Yields (field.applyDefault base s) P := by
  unfold applyDefault
  split
  · exact has
  · exact (coerce_yields _ _ _).bind fun value admitted => preset_keeps layering has admitted

theorem applyExample_keeps {zero : Option String} (text : ∀ z, zero = some z → base = .string) :
    Yields (field.applyExample base zero s) P := by
  unfold applyExample
  split
  · exact (coerce_yields _ _ _).bind fun value admitted => shown_keeps layering has admitted
  · split
    · next z => exact shown_keeps layering has (text z rfl ▸ .string z)
    · exact has

theorem applyExtensions_keeps : Yields (field.applyExtensions s) P := by
  unfold applyExtensions
  split
  · exact has
  · refine (parseExtensions_yields _ _).bind fun entries _ => ?_
    exact layering.keywords has rfl rfl rfl rfl fun _ => .inl

end Layers

/-- What is kept by all layers and holds of the schema they start from holds of the one that is decorated.
Annotations fail only by conflicts. -/
theorem complement_layers {R Q : Schema → Prop} {P : Schema → Schema → Prop}
    (start : Yields (field.replaceType s) R)
    (layering : ∀ t, R t → Layering (BaseType.of (field.encodeAsText t)) (P t))
    (encoded : ∀ t, R t → P t (field.encodeAsText t))
    (decorated : ∀ t u, R t → P t u → Q (decorate field.doc (field.tags.hasSchemaFlag "readonly") u)) :
    Yields (field.complement s) Q := by
  unfold complement
  refine start.bind fun t replaced => ?_
  have kept := layering t replaced
  have named := applyFormat_keeps field kept (applyTitle_keeps field kept (encoded t replaced))
  refine (applyBounds_keeps field kept named).bind fun bounded has => ?_
  refine (applyLength_keeps field kept has).bind fun sized has => ?_
  refine (applyEnum_keeps field kept has).bind fun listed has => ?_
  refine (applyDefault_keeps field kept has).bind fun preset has => ?_
  refine (applyExample_keeps field kept has fun z zero => encodedZero?_text field zero).bind fun shown has => ?_
  refine (applyExtensions_keeps field kept has).bind fun extended has => ?_
  exact decorated t extended replaced has

section Untouched

variable {P : Schema → Prop} (untouched : Untouched P) {s : Schema} (has : P s)

include untouched has

theorem encodeAsText_keeps : P (field.encodeAsText s) := by
  unfold encodeAsText
  split
  · exact untouched.keywords has rfl rfl
  · exact has

theorem storeEnum_keeps (values : List Json.Value) : P (storeEnum base values s) := by
  unfold storeEnum
  split
  · next items place => exact untouched.items has place rfl rfl
  · exact untouched.keywords has rfl rfl

theorem decorate_keeps (description : Option String) (readOnly : Bool) :
    P (decorate description readOnly s) := by
  unfold decorate
  split
  · exact untouched.keywords has rfl rfl
  · split
    · exact has
    · exact untouched.branch description readOnly has

end Untouched

theorem Untouched.layering {P : Schema → Prop} (untouched : Untouched P) : Layering base P where
  keywords has reference required _ _ _ := untouched.keywords has reference required
  enum has _ _ := storeEnum_keeps base untouched has _

/-- What holds of the schema that annotations start from, and is not touched by them, holds of the
one that they end in. They fail only by conflicts. -/
theorem complement_keeps {P : Schema → Prop} (untouched : Untouched P)
    (start : Yields (field.replaceType s) P) : Yields (field.complement s) P :=
  complement_layers field s start (fun _ _ => untouched.layering _)
    (fun _ has => encodeAsText_keeps field untouched has) fun _ _ _ has => decorate_keeps untouched has _ _

theorem untouched_refs (names : List String) : Untouched fun t => t.refs = names where
  keywords {s _} same reference _ := (Schema.refs_keywords s _ reference).trans same
  items {_ items _} same place reference _ :=
    (Schema.refs_items place (Schema.refs_keywords items _ reference)).trans same
  branch {s} description readOnly same := by
    have mark : ({ readOnly := some true } : Schema).refs = [] := rfl
    cases readOnly <;>
      simp [Schema.refs, Schema.refsOption, Schema.refsTable, Schema.refsBranches, Schema.refsList, same]

/-- Annotations keep the references of a schema they do not replace, and fail only by conflicts. -/
theorem complement_yields : Yields (field.complement s) fun t =>
    t.refs = if (field.tags.schemaValue? "schema_type").isSome then [] else s.refs :=
  complement_keeps field s (untouched_refs _) (replaceType_yields field s)

end ApiSchema.Field
