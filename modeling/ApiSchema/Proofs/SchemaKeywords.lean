import ApiSchema.Proofs.Formats
import ApiSchema.Proofs.WholeNumbers

/-! A schema as a record of its keywords. What a keyword holds is of one of a few kinds, and a kind says
how it is read and written, so that reading and writing a schema is one rule for all keywords and one for
the extensions. -/

namespace ApiSchema

open Json (Value)

namespace Schema

/-! ### Bounds at every depth -/

mutual

def mapBounds (f : Binary64 → Binary64) : Schema → Schema
  | ⟨k, items, properties, additional, allOf, oneOf, anyOf, negated, definitions⟩ =>
    ⟨{ k with minimum := k.minimum.map f, maximum := k.maximum.map f, multipleOf := k.multipleOf.map f },
      mapBoundsOption f items, mapBoundsTable f properties, mapBoundsOption f additional,
      mapBoundsBranches f allOf, mapBoundsBranches f oneOf, mapBoundsBranches f anyOf,
      mapBoundsOption f negated, mapBoundsTable f definitions⟩

def mapBoundsOption (f : Binary64 → Binary64) : Option Schema → Option Schema
  | none => none
  | some s => some (mapBounds f s)

def mapBoundsTable (f : Binary64 → Binary64) : Option (Table Schema) → Option (Table Schema)
  | none => none
  | some ⟨entries⟩ => some ⟨mapBoundsEntries f entries⟩

def mapBoundsEntries (f : Binary64 → Binary64) : List (String × Schema) → List (String × Schema)
  | [] => []
  | (name, s) :: rest => (name, mapBounds f s) :: mapBoundsEntries f rest

def mapBoundsBranches (f : Binary64 → Binary64) : Option (List Schema) → Option (List Schema)
  | none => none
  | some branches => some (mapBoundsList f branches)

def mapBoundsList (f : Binary64 → Binary64) : List Schema → List Schema
  | [] => []
  | s :: rest => mapBounds f s :: mapBoundsList f rest

end

section MapBounds

variable (f : Binary64 → Binary64)

theorem mapBoundsOption_eq (s : Option Schema) : mapBoundsOption f s = s.map (mapBounds f) := by
  cases s <;> rfl

theorem mapBoundsEntries_eq (entries : List (String × Schema)) :
    mapBoundsEntries f entries = entries.map fun entry => (entry.1, mapBounds f entry.2) := by
  induction entries with
  | nil => rfl
  | cons entry rest ih => rw [mapBoundsEntries, ih, List.map_cons]

theorem mapBoundsTable_eq (t : Option (Table Schema)) :
    mapBoundsTable f t = t.map (Table.map (mapBounds f)) := by
  cases t with
  | none => rfl
  | some t => rw [mapBoundsTable, mapBoundsEntries_eq, Option.map_some, Table.map]

theorem mapBoundsList_eq (branches : List Schema) :
    mapBoundsList f branches = branches.map (mapBounds f) := by
  induction branches with
  | nil => rfl
  | cons s rest ih => rw [mapBoundsList, ih, List.map_cons]

theorem mapBoundsBranches_eq (branches : Option (List Schema)) :
    mapBoundsBranches f branches = branches.map (List.map (mapBounds f)) := by
  cases branches with
  | none => rfl
  | some branches => rw [mapBoundsBranches, mapBoundsList_eq, Option.map_some]

end MapBounds

end Schema

/-! ### Formats of what keywords hold -/

namespace Format

open Schema

def schema : Format Schema where
  read? := decode?
  write := encode
  settle := mapBounds Binary64.settle
  schemas s := [s]
  null := rfl

def bound : Format Binary64 where
  read? := decodeBound?
  write := encodeBound
  settle := Binary64.settle
  schemas _ := []
  null := rfl

theorem bound_sound : bound.Sound := by
  intro v _
  refine ⟨fun {bound} _ => ?_, fun _ _ member => by cases member⟩
  have unsettled (other : bound.toInt? = none ∨ ∃ n, bound.toInt? = some n ∧ ¬n.natAbs < Word.size 63) :
      bound.settle = bound := by
    cases bound with
    | infinite | nan => rfl
    | finite negative significand exponent canonical =>
      by_cases vanishes : significand = 0
      · have whole : (Binary64.finite negative significand exponent canonical).toInt? = some 0 := by
          simp [Binary64.toInt?, Binary64.fraction, vanishes]
        simp [whole, Word.size] at other
      · simp [Binary64.settle, Binary64.isZero, vanishes]
  change decodeBound? (encodeBound bound).canonical = some bound.settle
  rw [encodeBound]
  cases whole : bound.toInt? with
  | none => rw [unsettled (.inl whole)]; rfl
  | some n =>
    dsimp only
    split
    · exact congrArg some (Binary64.ofInt_toInt? whole)
    · next large => rw [unsettled (.inr ⟨n, whole, large⟩)]; rfl

def count : Format Nat := .plain decodeCount? encodeCount rfl

theorem count_sound : count.Sound :=
  plain_sound rfl fun _ n _ _ => by simp [encodeCount, Value.canonical, decodeCount?]

def given? : Value → Option Value
  | .null => none
  | v => some v

def value : Format Value := .plain given? id rfl

theorem value_sound : value.Sound := by
  refine plain_sound rfl fun v u canonical read => ?_
  cases v with
  | null => cases read
  | bool _ | integer _ | float _ | string _ | array _ | object _ =>
    cases read
    rw [id, canonical]
    rfl

theorem optional?_given? (v : Value) : optional? given? v = optional? some v := by
  cases v <;> rfl

def values : Format (List Value) := .plain decodeValues? .array rfl

theorem values_sound : values.Sound := by
  refine plain_sound rfl fun v items canonical read => ?_
  cases v with
  | array items =>
    cases read
    exact congrArg decodeValues? canonical
  | null | bool _ | integer _ | float _ | string _ | object _ => cases read

end Format

namespace Schema

/-! ### Keywords -/

inductive Kind where
  | text
  | texts
  | truth
  | bound
  | count
  | value
  | values
  | schema
  | table
  | branches

namespace Kind

abbrev Carrier : Kind → Type
  | text => String
  | texts => List String
  | truth => Bool
  | bound => Binary64
  | count => Nat
  | value => Value
  | values => List Value
  | schema => Schema
  | table => Table Schema
  | branches => List Schema

def format : (kind : Kind) → Format kind.Carrier
  | text => .text
  | texts => .texts
  | truth => .truth
  | bound => .bound
  | count => .count
  | value => .value
  | values => .values
  | schema => .schema
  | table => Format.schema.table
  | branches => Format.schema.list

end Kind

inductive Keyword where
  | reference | type | format | title | description | items | properties | additionalProperties
  | required | enumValues | defaultValue | exampleValue | readOnly | minimum | maximum | multipleOf
  | minLength | maxLength | minItems | maxItems | allOf | oneOf | anyOf | negated | definitions
deriving DecidableEq

namespace Keyword

/-- All keywords, in the order in which they are written. -/
def all : List Keyword :=
  [reference, type, format, title, description, items, properties, additionalProperties, required,
    enumValues, defaultValue, exampleValue, readOnly, minimum, maximum, multipleOf, minLength, maxLength,
    minItems, maxItems, allOf, oneOf, anyOf, negated, definitions]

def key : Keyword → String
  | reference => "$ref"
  | type => "type"
  | format => "format"
  | title => "title"
  | description => "description"
  | items => "items"
  | properties => "properties"
  | additionalProperties => "additionalProperties"
  | required => "required"
  | enumValues => "enum"
  | defaultValue => "default"
  | exampleValue => "example"
  | readOnly => "readOnly"
  | minimum => "minimum"
  | maximum => "maximum"
  | multipleOf => "multipleOf"
  | minLength => "minLength"
  | maxLength => "maxLength"
  | minItems => "minItems"
  | maxItems => "maxItems"
  | allOf => "allOf"
  | oneOf => "oneOf"
  | anyOf => "anyOf"
  | negated => "not"
  | definitions => "definitions"

def kind : Keyword → Kind
  | reference | type | format | title | description => .text
  | required => .texts
  | readOnly => .truth
  | minimum | maximum | multipleOf => .bound
  | minLength | maxLength | minItems | maxItems => .count
  | defaultValue | exampleValue => .value
  | enumValues => .values
  | items | additionalProperties | negated => .schema
  | properties | definitions => .table
  | allOf | oneOf | anyOf => .branches

theorem mem_all (w : Keyword) : w ∈ all := by cases w <;> decide

theorem distinct_keys : (all.map key).Nodup := by decide

theorem key_injective {w w' : Keyword} (same : w.key = w'.key) : w = w' :=
  List.inj_on_of_nodup_map distinct_keys (mem_all w) (mem_all w') same

end Keyword

def Unknown (key : String) : Prop := key ∉ Keyword.all.map Keyword.key

instance (key : String) : Decidable (Unknown key) := inferInstanceAs (Decidable (¬_))

theorem Unknown.ne {key : String} (unknown : Unknown key) (w : Keyword) : w.key ≠ key :=
  fun same => unknown (same ▸ List.mem_map_of_mem (Keyword.mem_all w))

theorem known_or_unknown (key : String) : (∃ w : Keyword, key = w.key) ∨ Unknown key := by
  by_cases known : key ∈ Keyword.all.map Keyword.key
  · obtain ⟨w, _, same⟩ := List.mem_map.mp known
    exact .inl ⟨w, same.symm⟩
  · exact .inr known

def get (s : Schema) : (w : Keyword) → Option w.kind.Carrier
  | .reference => s.reference
  | .type => s.type
  | .format => s.format
  | .title => s.title
  | .description => s.description
  | .items => s.items
  | .properties => s.properties
  | .additionalProperties => s.additionalProperties
  | .required => s.required
  | .enumValues => s.enumValues
  | .defaultValue => s.defaultValue
  | .exampleValue => s.exampleValue
  | .readOnly => s.readOnly
  | .minimum => s.minimum
  | .maximum => s.maximum
  | .multipleOf => s.multipleOf
  | .minLength => s.minLength
  | .maxLength => s.maxLength
  | .minItems => s.minItems
  | .maxItems => s.maxItems
  | .allOf => s.allOf
  | .oneOf => s.oneOf
  | .anyOf => s.anyOf
  | .negated => s.negated
  | .definitions => s.definitions

def set (s : Schema) : (w : Keyword) → Option w.kind.Carrier → Schema
  | .reference, x => { s with reference := x }
  | .type, x => { s with type := x }
  | .format, x => { s with format := x }
  | .title, x => { s with title := x }
  | .description, x => { s with description := x }
  | .items, x => { s with items := x }
  | .properties, x => { s with properties := x }
  | .additionalProperties, x => { s with additionalProperties := x }
  | .required, x => { s with required := x }
  | .enumValues, x => { s with enumValues := x }
  | .defaultValue, x => { s with defaultValue := x }
  | .exampleValue, x => { s with exampleValue := x }
  | .readOnly, x => { s with readOnly := x }
  | .minimum, x => { s with minimum := x }
  | .maximum, x => { s with maximum := x }
  | .multipleOf, x => { s with multipleOf := x }
  | .minLength, x => { s with minLength := x }
  | .maxLength, x => { s with maxLength := x }
  | .minItems, x => { s with minItems := x }
  | .maxItems, x => { s with maxItems := x }
  | .allOf, x => { s with allOf := x }
  | .oneOf, x => { s with oneOf := x }
  | .anyOf, x => { s with anyOf := x }
  | .negated, x => { s with negated := x }
  | .definitions, x => { s with definitions := x }

def extend (s : Schema) (key : String) (value : Value) : Schema :=
  { s with extensions := s.extensions.insert key value }

section Record

variable {s t : Schema} {w w' : Keyword}

@[simp] theorem get_set_self (s : Schema) (w : Keyword) (x : Option w.kind.Carrier) :
    (s.set w x).get w = x := by
  cases w <;> rfl

theorem get_set_of_ne (s : Schema) (x : Option w.kind.Carrier) (apart : w ≠ w') :
    (s.set w x).get w' = s.get w' := by
  cases w <;> cases w' <;> first | rfl | exact absurd rfl apart

@[simp] theorem extensions_set (s : Schema) (w : Keyword) (x : Option w.kind.Carrier) :
    (s.set w x).extensions = s.extensions := by
  cases w <;> rfl

@[simp] theorem get_extend (s : Schema) (key : String) (value : Value) (w : Keyword) :
    (s.extend key value).get w = s.get w := by
  cases w <;> rfl

@[simp] theorem extensions_extend (s : Schema) (key : String) (value : Value) :
    (s.extend key value).extensions = s.extensions.insert key value := rfl

/-- Nothing tells schemas apart but their keywords and extensions. -/
theorem ext_get (same : ∀ w, s.get w = t.get w) (extensions : s.extensions = t.extensions) : s = t := by
  obtain ⟨⟨⟩⟩ := s
  obtain ⟨⟨⟩⟩ := t
  simp only [mk.injEq, Keywords.mk.injEq]
  exact ⟨⟨same .reference, same .type, same .format, same .title, same .description, same .required,
    same .enumValues, same .defaultValue, same .exampleValue, same .readOnly, same .minimum, same .maximum,
    same .multipleOf, same .minLength, same .maxLength, same .minItems, same .maxItems, extensions⟩,
    same .items, same .properties, same .additionalProperties, same .allOf, same .oneOf, same .anyOf,
    same .negated, same .definitions⟩

theorem get_mapBounds (s : Schema) (w : Keyword) :
    (s.mapBounds Binary64.settle).get w = (s.get w).map w.kind.format.settle := by
  have unchanged {α : Type} (x : Option α) : x = x.map id := Option.map_id_fun ▸ rfl
  obtain ⟨⟨⟩, items, properties, additional, allOf, oneOf, anyOf, negated, definitions⟩ := s
  cases w with
  | items | additionalProperties | negated => exact mapBoundsOption_eq _ _
  | properties | definitions => exact mapBoundsTable_eq _ _
  | allOf | oneOf | anyOf => exact mapBoundsBranches_eq _ _
  | minimum | maximum | multipleOf => rfl
  | _ => exact unchanged _

theorem extensions_mapBounds (s : Schema) (f : Binary64 → Binary64) :
    (s.mapBounds f).extensions = s.extensions := by
  obtain ⟨⟨⟩⟩ := s
  rfl

end Record

end Schema

end ApiSchema
