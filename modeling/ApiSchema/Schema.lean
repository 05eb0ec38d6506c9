import ApiSchema.Json.Value
import ApiSchema.Primitive
import ApiSchema.Text.Split

/-! Schemas of an API document. A schema may hold others at its items, properties and branches; a
reference names one of the shared definitions. -/

namespace ApiSchema

/-- The keywords of a schema that hold no other schema. -/
structure Keywords where
  reference : Option String := none
  type : Option String := none
  format : Option String := none
  title : Option String := none
  description : Option String := none
  required : Option (List String) := none
  enumValues : Option (List Json.Value) := none
  defaultValue : Option Json.Value := none
  exampleValue : Option Json.Value := none
  readOnly : Option Bool := none
  minimum : Option Binary64 := none
  maximum : Option Binary64 := none
  multipleOf : Option Binary64 := none
  minLength : Option Nat := none
  maxLength : Option Nat := none
  minItems : Option Nat := none
  maxItems : Option Nat := none
  /-- Keywords that are not of the standard. -/
  extensions : Table Json.Value := {}
deriving DecidableEq

structure Schema extends Keywords where
  items : Option Schema := none
  properties : Option (Table Schema) := none
  additionalProperties : Option Schema := none
  allOf : Option (List Schema) := none
  oneOf : Option (List Schema) := none
  anyOf : Option (List Schema) := none
  negated : Option Schema := none
  definitions : Option (Table Schema) := none

namespace Schema

instance : Inhabited Schema := ⟨{}⟩

mutual

def beq : Schema → Schema → Bool
  | ⟨k, i, p, a, l, o, y, n, d⟩, ⟨k', i', p', a', l', o', y', n', d'⟩ =>
    k = k' && beqOption i i' && beqTable p p' && beqOption a a' && beqBranches l l' &&
      beqBranches o o' && beqBranches y y' && beqOption n n' && beqTable d d'

def beqOption : Option Schema → Option Schema → Bool
  | none, none => true
  | some a, some b => beq a b
  | _, _ => false

def beqTable : Option (Table Schema) → Option (Table Schema) → Bool
  | none, none => true
  | some ⟨a⟩, some ⟨b⟩ => beqEntries a b
  | _, _ => false

def beqEntries : List (String × Schema) → List (String × Schema) → Bool
  | [], [] => true
  | (k, a) :: as, (l, b) :: bs => k = l && beq a b && beqEntries as bs
  | _, _ => false

def beqBranches : Option (List Schema) → Option (List Schema) → Bool
  | none, none => true
  | some a, some b => beqList a b
  | _, _ => false

def beqList : List Schema → List Schema → Bool
  | [], [] => true
  | a :: as, b :: bs => beq a b && beqList as bs
  | _, _ => false

end

mutual

theorem beq_iff : (a b : Schema) → (beq a b = true ↔ a = b)
  | ⟨k, i, p, a, l, o, y, n, d⟩, ⟨k', i', p', a', l', o', y', n', d'⟩ => by
    simp [beq, beqOption_iff i, beqTable_iff p, beqOption_iff a, beqBranches_iff l,
      beqBranches_iff o, beqBranches_iff y, beqOption_iff n, beqTable_iff d, and_assoc]

theorem beqOption_iff : (a b : Option Schema) → (beqOption a b = true ↔ a = b)
  | none, b => by cases b <;> simp [beqOption]
  | some a, b => by cases b <;> simp [beqOption, beq_iff a]

theorem beqTable_iff : (a b : Option (Table Schema)) → (beqTable a b = true ↔ a = b)
  | none, b => by cases b <;> simp [beqTable]
  | some ⟨a⟩, b => by rcases b with _ | ⟨⟨b⟩⟩ <;> simp [beqTable, beqEntries_iff a]

theorem beqEntries_iff : (a b : List (String × Schema)) → (beqEntries a b = true ↔ a = b)
  | [], b => by cases b <;> simp [beqEntries]
  | (k, a) :: as, b => by
    rcases b with _ | ⟨⟨l, b⟩, bs⟩ <;> simp [beqEntries, beq_iff a, beqEntries_iff as]

theorem beqBranches_iff : (a b : Option (List Schema)) → (beqBranches a b = true ↔ a = b)
  | none, b => by cases b <;> simp [beqBranches]
  | some a, b => by cases b <;> simp [beqBranches, beqList_iff a]

theorem beqList_iff : (a b : List Schema) → (beqList a b = true ↔ a = b)
  | [], b => by cases b <;> simp [beqList]
  | a :: as, b => by cases b <;> simp [beqList, beq_iff a, beqList_iff as]

end

instance : DecidableEq Schema := fun a b => decidable_of_iff _ (beq_iff a b)

/-- What every reference to a shared definition starts with. -/
def refPrefix : String := "#/components/schemas/"

def ofType (type : String) : Schema := { type := some type }

/-- The schema of anything, also used where nothing better is known. -/
def object : Schema := ofType "object"

def array (items : Schema) : Schema := { ofType "array" with items := some items }

/-- An object with arbitrary keys. -/
def map (value : Schema) : Schema := { object with additionalProperties := some value }

/-- Reference to a shared definition. -/
def ref (name : String) : Schema := { reference := some (refPrefix ++ name) }

def ofPrimitive : Primitive → Schema
  | .string | .char => ofType "string"
  | .i8 | .i16 | .i32 | .u8 | .u16 | .u32 => { ofType "integer" with format := some "int32" }
  | .i64 | .i128 | .isize | .u64 | .u128 | .usize =>
    { ofType "integer" with format := some "int64" }
  | .f32 => { ofType "number" with format := some "float" }
  | .f64 => { ofType "number" with format := some "double" }
  | .bool => ofType "boolean"
  | .dateTime => { ofType "string" with format := some "date-time" }
  | .date => { ofType "string" with format := some "date" }
  | .uuid => { ofType "string" with format := some "uuid" }
  | .url => { ofType "string" with format := some "uri" }
  | .decimal => ofType "number"

def isRef (s : Schema) : Bool := s.reference.isSome

/-- The definition a schema refers to itself. -/
def refName? (s : Schema) : Option String := s.reference.bind (Text.after? refPrefix)

mutual

/-- Names of all definitions a schema refers to at any depth, with repetitions. -/
def refs : Schema → List String
  | ⟨keywords, items, properties, additional, allOf, oneOf, anyOf, negated, definitions⟩ =>
    (keywords.reference.bind (Text.after? refPrefix)).toList ++ refsOption items ++
      refsTable properties ++ refsOption additional ++ refsBranches allOf ++ refsBranches oneOf ++
      refsBranches anyOf ++ refsOption negated ++ refsTable definitions

def refsOption : Option Schema → List String
  | none => []
  | some s => refs s

def refsTable : Option (Table Schema) → List String
  | none => []
  | some ⟨entries⟩ => refsEntries entries

def refsEntries : List (String × Schema) → List String
  | [] => []
  | (_, s) :: rest => refs s ++ refsEntries rest

def refsBranches : Option (List Schema) → List String
  | none => []
  | some branches => refsList branches

def refsList : List Schema → List String
  | [] => []
  | s :: rest => refs s ++ refsList rest

end

/-- The schema says by itself, without its items, that it deserves a name. -/
def hasShape (s : Schema) : Bool :=
  s.enumValues.isSome || s.isRef || s.oneOf.isSome || s.allOf.isSome || s.properties.isSome ||
    s.additionalProperties.isSome

/-- Whether a schema deserves a definition of its own: it has a shape, it is an object, or its
arrays nest more than `depth` deep. -/
def isComplex (depth : Nat) : Schema → Bool
  | ⟨keywords, items, properties, additional, allOf, oneOf, anyOf, negated, definitions⟩ =>
    hasShape ⟨keywords, items, properties, additional, allOf, oneOf, anyOf, negated, definitions⟩ ||
      (keywords.type = some "object" ||
        keywords.type = some "array" &&
          match depth, items with
          | 0, _ => true
          | _ + 1, none => false
          | depth + 1, some items => isComplex depth items)

end Schema

end ApiSchema
