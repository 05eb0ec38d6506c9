import ApiSchema.Proofs.Annotations

/-! When annotations are in conflict with the type of their member. Each family of annotations has one
fault of its own, which depends on nothing but the base type that the member shows once a given type and
its travelling as text have been taken into account. Annotations fail exactly if one of the families is at
fault, and then with a conflict that names the member. -/

namespace ApiSchema

namespace Annotation

/-- The step fails exactly if there is the fault, and then with a conflict that names the member. -/
def Faults {α : Type} (member : String) (fault : Prop) (x : Except Error α) : Prop :=
  match x with
  | .ok _ => ¬fault
  | .error e => fault ∧ ∃ message, e = .annotationConflict member message

namespace Faults

variable {α β : Type} {member : String} {fault fault' : Prop} {x : Except Error α}

theorem ok {a : α} (none : ¬fault) : Faults member fault (.ok a) := none

theorem conflict {message : String} (there : fault) : Faults member fault (conflict (α := α) member message) :=
  ⟨there, _, rfl⟩

theorem invalid {raw kind : String} (there : fault) : Faults member fault (invalid (α := α) member raw kind) :=
  ⟨there, _, rfl⟩

theorem congr (faults : Faults member fault x) (same : fault ↔ fault') : Faults member fault' x := by
  rwa [← propext same]

theorem bind {f : α → Except Error β} (first : Faults member fault x)
    (rest : ∀ a, x = .ok a → Faults member fault' (f a)) : Faults member (fault ∨ fault') (x >>= f) := by
  cases x with
  | error e => exact ⟨.inl first.1, first.2⟩
  | ok a =>
    have none : ¬fault := first
    exact (rest a rfl).congr (by simp [none])

theorem map {f : α → β} (faults : Faults member fault x) : Faults member fault (x.map f) := by
  cases x with
  | error e => exact faults
  | ok a => exact faults

/-- A step after which nothing can fail. -/
theorem last {f : α → β} (faults : Faults member fault x) : Faults member fault (do return f (← x)) := faults.map

theorem mapM {f : α → Except Error β} {bad : α → Prop} (items : List α)
    (each : ∀ a ∈ items, Faults member (bad a) (f a)) :
    Faults member (∃ a ∈ items, bad a) (items.mapM f) := by
  induction items with
  | nil =>
    rw [List.mapM_nil]
    exact .ok (by simp)
  | cons a rest ih =>
    rw [List.mapM_cons]
    have others := ih fun other inside => each other (List.mem_cons_of_mem _ inside)
    exact ((each a List.mem_cons_self).bind fun b _ => others.last).congr (by simp)

theorem fails_iff (faults : Faults member fault x) : (∃ e, x = .error e) ↔ fault := by
  cases x with
  | error e => exact ⟨fun _ => faults.1, fun _ => ⟨e, rfl⟩⟩
  | ok a => exact ⟨fun failed => by simp at failed, fun there => absurd there faults⟩

theorem names (faults : Faults member fault x) {e : Error} (failed : x = .error e) :
    ∃ message, e = .annotationConflict member message := by
  rw [failed] at faults
  exact faults.2

end Faults

def Reads : BaseType → String → Prop
  | .integer, raw => (Decimal.integer? (Text.trimChars raw.toList)).isSome
  | .number, raw => ∃ value, Decimal.number? (Text.trimChars raw.toList) = some value ∧ value.isFinite = true
  | .boolean, raw => Text.trim raw = "true" ∨ Text.trim raw = "false"
  | .string, _ => True
  | .array item, raw => ∀ part ∈ Text.splitAt ',' raw, Reads item (Text.trim part)
  | .object, raw => (Json.parse? raw).isSome

inductive Names : List String → BaseType → Prop where
  | integer : Names ["integer"] .integer
  | number : Names ["number"] .number
  | string : Names ["string"] .string
  | boolean : Names ["boolean"] .boolean
  | object : Names ["object"] .object
  | file : Names ["file"] .string
  | primitive {word : String} {base : BaseType} : Names [word] base → Names ["primitive", word] base
  | array {words : List String} {base : BaseType} : Names words base → Names ("array" :: words) (.array base)

variable {member raw : String}

theorem parseNumber_faults :
    Faults member (Decimal.number? (Text.trimChars raw.toList) = none) (parseNumber member raw) := by
  unfold parseNumber
  split
  · next found => exact .ok (by simp [found])
  · next none => exact .invalid none

theorem parseCount_faults :
    Faults member (Decimal.count? (Text.trimChars raw.toList) = none) (parseCount member raw) := by
  unfold parseCount
  split
  · next found => exact .ok (by simp [found])
  · next none => exact .invalid none

/-- A literal is coerced exactly if it reads as a value of the base type. -/
theorem coerce_faults (member : String) :
    (base : BaseType) → (raw : String) → Faults member (¬Reads base raw) (coerce member base raw)
  | .integer, raw => by
    rw [coerce]
    split
    · next found => exact .ok (by simp [Reads, found])
    · next none => exact .invalid (by simp [Reads, none])
  | .number, raw => by
    rw [coerce]
    split
    · next value found =>
      obtain ⟨found, finite⟩ := Option.filter_eq_some_iff.mp found
      exact .ok (not_not_intro ⟨value, found, finite⟩)
    · next none =>
      refine .invalid ?_
      rintro ⟨value, found, finite⟩
      exact Option.filter_eq_none_iff.mp none value found finite
  | .boolean, raw => by
    rw [coerce]
    split
    · next yes => exact .ok (by simp [Reads, yes])
    · next no => exact .ok (by simp [Reads, no])
    · next neither either => exact .invalid (not_or_intro neither either)
  | .string, raw => by
    rw [coerce]
    exact .ok (by simp [Reads])
  | .array item, raw => by
    rw [coerce]
    refine (Faults.mapM _ fun part _ => coerce_faults member item (Text.trim part)).last.congr ?_
    simp [Reads]
  | .object, raw => by
    rw [coerce]
    split
    · next found => exact .ok (by simp [Reads, found])
    · next none => exact .invalid (by simp [Reads, none])

@[simp] theorem of_array (s : Schema) : BaseType.of (.array s) = .array (BaseType.of s) := rfl

/-- The schema that words stand for shows the base type that they name. -/
theorem names_iff {words : List String} {base : BaseType} :
    Names words base ↔ ∃ s, schemaOfWords? words = some s ∧ BaseType.of s = base := by
  constructor
  · intro named
    induction named with
    | integer | number | string | boolean | object | file => exact ⟨_, rfl, rfl⟩
    | @primitive word base _ ih => simpa [schemaOfWords?] using ih
    | @array words base _ ih =>
      obtain ⟨s, read, rfl⟩ := ih
      cases words with
      | nil => cases read
      | cons word rest => exact ⟨.array s, by simp [schemaOfWords?, read], of_array s⟩
  · rintro ⟨s, read, rfl⟩
    fun_induction schemaOfWords? words generalizing s with
    | case1 => cases read
    | case2 word known =>
      cases read
      simp only [List.contains_cons, List.contains_nil, Bool.or_false, Bool.or_eq_true, beq_iff_eq] at known
      rcases known with rfl | rfl | rfl | rfl | rfl
      · exact .string
      · exact .integer
      · exact .number
      · exact .boolean
      · exact .object
    | case3 =>
      cases read
      exact .file
    | case4 => cases read
    | case5 rest _ ih =>
      obtain ⟨inner, found, rfl⟩ := Option.map_eq_some_iff.mp read
      exact .array (ih inner found)
    | case6 word rest some _ primitive ih =>
      simp only [Bool.and_eq_true, decide_eq_true_eq] at primitive
      obtain ⟨rfl, single⟩ := primitive
      obtain ⟨only, rfl⟩ := List.length_eq_one_iff.mp single
      exact .primitive (ih s read)
    | case7 => cases read

end Annotation

namespace Field

open Annotation

def TypeConflict (field : Field) : Prop :=
  ∃ custom, field.tags.schemaValue? "schema_type" = some custom ∧
    ∀ base, ¬Names ((Text.splitAt ',' custom).map Text.trim) base

def Shows (field : Field) (s : Schema) (base : BaseType) : Prop :=
  match field.tags.schemaValue? "schema_type" with
  | some custom => Names ((Text.splitAt ',' custom).map Text.trim) base
  | none => base = BaseType.of s

def encoded (field : Field) (base : BaseType) : BaseType :=
  if field.tags.stringEncoded && (base.isNumeric || base = .boolean) then .string else base

/-- A bound is given, by its own key or inside the first `range` rule, for what is no number, or it does not read
as a number itself. Unlike a value, a bound may be infinite. -/
def BoundConflict (field : Field) (base : BaseType) : Prop :=
  ∃ raw, (field.ruleValue? "minimum" "range" "min" = some raw ∨
      field.ruleValue? "maximum" "range" "max" = some raw ∨ field.tags.schemaValue? "multiple_of" = some raw) ∧
    (base.isNumeric = false ∨ Decimal.number? (Text.trimChars raw.toList) = none)

def LengthConflict (field : Field) (base : BaseType) : Prop :=
  ∃ raw, (field.ruleValue? "min_length" "length" "min" = some raw ∨
      field.ruleValue? "max_length" "length" "max" = some raw) ∧
    ((base ≠ .string ∧ ∀ item, base ≠ .array item) ∨ Decimal.count? (Text.trimChars raw.toList) = none)

def EnumConflict (field : Field) (base : BaseType) : Prop :=
  ∃ raw, field.tags.schemaValue? "enums" = some raw ∧
    ((base.element.isNumeric = false ∧ base.element ≠ .string) ∨
      ∃ part ∈ Text.splitAt ',' raw, ¬Reads base.element (Text.trim part))

def LiteralConflict (field : Field) (base : BaseType) : Prop :=
  ∃ key, (key = "default" ∨ key = "example") ∧
    ∃ raw, field.tags.schemaValue? key = some raw ∧ ¬Reads base raw

def extensionKey (item : String) : String :=
  match Text.after? "!" item with
  | some negated => Text.trim negated
  | none => ((Text.splitFirst? '=' item).map fun sides => Text.trim sides.1).getD item

def ExtensionConflict (field : Field) : Prop :=
  ∃ raw, field.tags.schemaValue? "extensions" = some raw ∧
    ∃ item ∈ (Text.splitAt ',' raw).map Text.trim, item ≠ "" ∧
      Text.startsWith "x-" (extensionKey item) = false

/-- The words of a given type name none, one of the families does not fit the base type that the member shows, or
an extension is misnamed. -/
def Conflicting (field : Field) (s : Schema) : Prop :=
  field.TypeConflict ∨
    (∃ shown, field.Shows s shown ∧
      (field.BoundConflict (field.encoded shown) ∨ field.LengthConflict (field.encoded shown) ∨
        field.EnumConflict (field.encoded shown) ∨ field.LiteralConflict (field.encoded shown))) ∨
    field.ExtensionConflict

variable (field : Field) (base : BaseType) (s : Schema)

theorem replaceType_faults : Faults field.name field.TypeConflict (field.replaceType s) := by
  unfold replaceType TypeConflict
  split
  · next none => exact .ok (by simp [none])
  · next custom given =>
    split
    · next t read =>
      refine .ok ?_
      rintro ⟨other, same, unnamed⟩
      obtain rfl : custom = other := Option.some.inj (given.symm.trans same)
      exact unnamed _ (names_iff.mpr ⟨t, read, rfl⟩)
    · next unread =>
      refine .conflict ⟨custom, given, fun base named => ?_⟩
      obtain ⟨t, read, _⟩ := names_iff.mp named
      exact absurd (unread.symm.trans read) (by simp)

/-- After a type has been taken into account, the schema shows its base type. -/
theorem shows_of_replaceType {t : Schema} (replaced : field.replaceType s = .ok t) (base : BaseType) :
    field.Shows s base ↔ BaseType.of t = base := by
  unfold replaceType at replaced
  unfold Shows
  split at replaced
  · next none =>
    cases replaced
    simp only [none]
    exact eq_comm
  · next custom given =>
    split at replaced
    · next t read =>
      cases replaced
      simp only [given, names_iff, parseSchemaType?] at read ⊢
      simp [read]
    · cases replaced

theorem encodeAsText_of (t : Schema) : BaseType.of (field.encodeAsText t) = field.encoded (BaseType.of t) := by
  have text : BaseType.of { t with type := some "string", format := none } = .string := rfl
  unfold encodeAsText encodedZero? encoded
  cases field.tags.stringEncoded with
  | false => rfl
  | true => cases shown : BaseType.of t <;> simp [BaseType.zeroText?, BaseType.isNumeric, shown, text]

theorem bound?_faults (name : String) (raw : Option String) :
    Faults field.name (∃ text, raw = some text ∧
      (base.isNumeric = false ∨ Decimal.number? (Text.trimChars text.toList) = none))
      (field.bound? base name raw) := by
  unfold bound?
  split
  · exact .ok (by simp)
  · next text =>
    split
    · next numeric => exact parseNumber_faults.map.congr (by simp [numeric])
    · next other => exact .conflict ⟨text, rfl, .inl (by simpa using other)⟩

theorem applyBounds_faults : Faults field.name (field.BoundConflict base) (field.applyBounds base s) := by
  unfold applyBounds
  refine ((bound?_faults field base _ _).bind fun _ _ => (bound?_faults field base _ _).bind fun _ _ =>
    (bound?_faults field base _ _).last).congr ?_
  simp only [BoundConflict, or_and_right, exists_or]

theorem count?_faults (raw : Option String) : Faults field.name
    (∃ text, raw = some text ∧ Decimal.count? (Text.trimChars text.toList) = none) (field.count? raw) := by
  unfold count?
  split
  · exact .ok (by simp)
  · next text => exact parseCount_faults.map.congr (by simp)

/-- Only texts and arrays have lengths. -/
theorem unsized_faults (low high : Option Nat) :
    Faults field.name (base ≠ .string ∧ ∀ item, base ≠ .array item) (match base with
      | .string => return { s with minLength := low.or s.minLength, maxLength := high.or s.maxLength }
      | .array _ => return { s with minItems := low.or s.minItems, maxItems := high.or s.maxItems }
      | _ => conflict field.name "length bounds require a string or array type") := by
  cases base with
  | string | array => exact .ok (by simp)
  | integer | number | boolean | object => exact .conflict (by simp)

theorem applyLength_faults : Faults field.name (field.LengthConflict base) (field.applyLength base s) := by
  unfold applyLength LengthConflict
  dsimp only
  generalize field.ruleValue? "min_length" "length" "min" = least
  generalize field.ruleValue? "max_length" "length" "max" = most
  split
  · next neither =>
    simp only [Bool.and_eq_true, Option.isNone_iff_eq_none] at neither
    exact .ok (by simp [neither])
  · next given =>
    -- Lengths are read before it is asked whether the type has any.
    refine ((count?_faults field least).bind fun low _ => (count?_faults field most).bind fun high _ =>
      unsized_faults field base s low high).congr ?_
    have one : ∃ raw, least = some raw ∨ most = some raw := by
      cases least with
      | some raw => exact ⟨raw, .inl rfl⟩
      | none =>
        cases most with
        | some raw => exact ⟨raw, .inr rfl⟩
        | none => exact absurd rfl given
    constructor
    · rintro (⟨raw, least, unread⟩ | ⟨raw, most, unread⟩ | unsized)
      · exact ⟨raw, .inl least, .inr unread⟩
      · exact ⟨raw, .inr most, .inr unread⟩
      · obtain ⟨raw, either⟩ := one
        exact ⟨raw, either, .inl unsized⟩
    · rintro ⟨raw, either, unsized | unread⟩
      · exact .inr (.inr unsized)
      · exact either.imp (fun least => ⟨raw, least, unread⟩) fun most => .inl ⟨raw, most, unread⟩

theorem applyEnum_faults : Faults field.name (field.EnumConflict base) (field.applyEnum base s) := by
  unfold applyEnum EnumConflict
  split
  · next none => exact .ok (by simp [none])
  · next raw given =>
    dsimp only
    split
    · next fits =>
      refine (Faults.mapM _ fun part _ => coerce_faults field.name base.element (Text.trim part)).last.congr ?_
      have fit : ¬(base.element.isNumeric = false ∧ base.element ≠ .string) := by
        rintro ⟨unnumbered, textless⟩
        simp [unnumbered, textless] at fits
      simp only [given, Option.some.injEq, exists_eq_left', fit, false_or]
    · next unfit => exact .conflict ⟨raw, given, .inl (by simpa using unfit)⟩

theorem applyDefault_faults : Faults field.name
    (∃ raw, field.tags.schemaValue? "default" = some raw ∧ ¬Reads base raw) (field.applyDefault base s) := by
  unfold applyDefault
  split
  · next none => exact .ok (by simp [none])
  · next raw given => exact (coerce_faults field.name base raw).last.congr (by simp [given])

theorem applyExample_faults (zero : Option String) : Faults field.name
    (∃ raw, field.tags.schemaValue? "example" = some raw ∧ ¬Reads base raw) (field.applyExample base zero s) := by
  unfold applyExample
  split
  · next raw given => exact (coerce_faults field.name base raw).last.congr (by simp [given])
  · next none =>
    split
    · exact .ok (by simp [none])
    · exact .ok (by simp [none])

theorem parseExtension_faults (member item : String) :
    Faults member (Text.startsWith "x-" (extensionKey item) = false) (parseExtension member item) := by
  have keyed (key : String) (value : Json.Value) : Faults member (Text.startsWith "x-" key = false)
      (if Text.startsWith "x-" key then .ok (key, value)
        else conflict member ("extension " ++ Error.code key ++ " must start with " ++ Error.code "x-")) := by
    split
    · next starts => exact .ok (by simp [starts])
    · next other => exact .conflict (by simpa using other)
  unfold parseExtension extensionKey
  cases Text.after? "!" item with
  | some negated => exact keyed _ _
  | none =>
    cases Text.splitFirst? '=' item with
    | some sides => exact keyed _ _
    | none => exact keyed _ _

theorem applyExtensions_faults : Faults field.name field.ExtensionConflict (field.applyExtensions s) := by
  unfold applyExtensions ExtensionConflict
  split
  · next none => exact .ok (by simp [none])
  · next raw given =>
    refine (Faults.mapM _ fun item _ => parseExtension_faults field.name item).last.congr ?_
    simp [given, List.mem_filter, and_assoc]

/-- The families are layered one after the other, and none looks at what another has left. -/
theorem complement_faults : Faults field.name (field.Conflicting s) (field.complement s) := by
  unfold complement Conflicting
  refine (replaceType_faults field s).bind fun t replaced => ?_
  have layers (base : BaseType) (start : Schema) := (applyBounds_faults field base start).bind fun bounded _ =>
    (applyLength_faults field base bounded).bind fun sized _ =>
    (applyEnum_faults field base sized).bind fun listed _ =>
    (applyDefault_faults field base listed).bind fun preset _ =>
    (applyExample_faults field base preset (field.encodedZero? t)).bind fun shown _ =>
    (applyExtensions_faults field shown).last (f := decorate field.doc (field.tags.hasSchemaFlag "readonly"))
  refine (layers _ _).congr ?_
  have literals (base : BaseType) : field.LiteralConflict base ↔
      (∃ raw, field.tags.schemaValue? "default" = some raw ∧ ¬Reads base raw) ∨
        ∃ raw, field.tags.schemaValue? "example" = some raw ∧ ¬Reads base raw := by
    simp [LiteralConflict, or_and_right, exists_or]
  simp only [shows_of_replaceType field s replaced, exists_eq_left', ← encodeAsText_of, literals, or_assoc]

/-- Annotations fail exactly if they are in conflict with the schema, and then with a conflict that names the
member. -/
theorem complement_fails_iff : ((∃ e, field.complement s = .error e) ↔ field.Conflicting s) ∧
    ∀ e, field.complement s = .error e → ∃ message, e = .annotationConflict field.name message := by
  have whole := complement_faults field s
  exact ⟨whole.fails_iff, fun _ failed => whole.names failed⟩

end Field

end ApiSchema
