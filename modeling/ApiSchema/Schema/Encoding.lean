import ApiSchema.Schema

/-! Schemas as JSON. Absent keywords are left out, bounds without a fraction are written as whole
numbers, and keywords that are not of the standard stand last. -/

namespace ApiSchema.Schema

open Json (Value)

/-- A member that is there only if its value is. -/
def memberOf (key : String) (encode : α → Value) (value : Option α) : List (String × Value) :=
  match value with
  | some v => [(key, encode v)]
  | none => []

/-- A bound; a whole one below `2 ^ 63` is written as an integer. -/
def encodeBound (bound : Binary64) : Value :=
  match bound.toInt? with
  | some n => if n.natAbs < Word.size 63 then .integer n else .float bound
  | none => .float bound

def encodeStrings (strings : List String) : Value := .array (strings.map .string)

def encodeCount (n : Nat) : Value := .integer n

mutual

def encode : Schema → Value
  | ⟨k, items, properties, additional, allOf, oneOf, anyOf, negated, definitions⟩ =>
    .object (
      memberOf "$ref" .string k.reference ++
      memberOf "type" .string k.type ++
      memberOf "format" .string k.format ++
      memberOf "title" .string k.title ++
      memberOf "description" .string k.description ++
      encodeOption "items" items ++
      encodeTable "properties" properties ++
      encodeOption "additionalProperties" additional ++
      memberOf "required" encodeStrings k.required ++
      memberOf "enum" .array k.enumValues ++
      memberOf "default" id k.defaultValue ++
      memberOf "example" id k.exampleValue ++
      memberOf "readOnly" .bool k.readOnly ++
      memberOf "minimum" encodeBound k.minimum ++
      memberOf "maximum" encodeBound k.maximum ++
      memberOf "multipleOf" encodeBound k.multipleOf ++
      memberOf "minLength" encodeCount k.minLength ++
      memberOf "maxLength" encodeCount k.maxLength ++
      memberOf "minItems" encodeCount k.minItems ++
      memberOf "maxItems" encodeCount k.maxItems ++
      encodeBranches "allOf" allOf ++
      encodeBranches "oneOf" oneOf ++
      encodeBranches "anyOf" anyOf ++
      encodeOption "not" negated ++
      encodeTable "definitions" definitions ++
      k.extensions.entries)

def encodeOption (key : String) : Option Schema → List (String × Value)
  | none => []
  | some s => [(key, encode s)]

def encodeTable (key : String) : Option (Table Schema) → List (String × Value)
  | none => []
  | some ⟨entries⟩ => [(key, .object (encodeEntries entries))]

def encodeEntries : List (String × Schema) → List (String × Value)
  | [] => []
  | (name, s) :: rest => (name, encode s) :: encodeEntries rest

def encodeBranches (key : String) : Option (List Schema) → List (String × Value)
  | none => []
  | some branches => [(key, .array (encodeList branches))]

def encodeList : List Schema → List Value
  | [] => []
  | s :: rest => encode s :: encodeList rest

end

/-- A value that may be null, which stands for nothing. -/
def optional? (decode : Value → Option α) (value : Value) : Option (Option α) :=
  match value with
  | .null => some none
  | value => (decode value).map some

def decodeStrings? : Value → Option (List String)
  | .array items => items.mapM Value.text?
  | _ => none

def decodeBound? : Value → Option Binary64
  | .integer n => some (.ofInt n)
  | .float value => some value
  | _ => none

/-- A whole number that is not negative. -/
def decodeCount? : Value → Option Nat
  | .integer n => if 0 ≤ n then some n.toNat else none
  | _ => none

def decodeBool? : Value → Option Bool
  | .bool b => some b
  | _ => none

def decodeValues? : Value → Option (List Value)
  | .array items => some items
  | _ => none

/-- Set a keyword that holds no schema; an unknown one becomes an extension. -/
def setKeyword? (k : Keywords) (key : String) (value : Value) : Option Keywords :=
  match key with
  | "$ref" => (optional? Value.text? value).map fun v => { k with reference := v }
  | "type" => (optional? Value.text? value).map fun v => { k with type := v }
  | "format" => (optional? Value.text? value).map fun v => { k with format := v }
  | "title" => (optional? Value.text? value).map fun v => { k with title := v }
  | "description" => (optional? Value.text? value).map fun v => { k with description := v }
  | "required" => (optional? decodeStrings? value).map fun v => { k with required := v }
  | "enum" => (optional? decodeValues? value).map fun v => { k with enumValues := v }
  | "default" => (optional? some value).map fun v => { k with defaultValue := v }
  | "example" => (optional? some value).map fun v => { k with exampleValue := v }
  | "readOnly" => (optional? decodeBool? value).map fun v => { k with readOnly := v }
  | "minimum" => (optional? decodeBound? value).map fun v => { k with minimum := v }
  | "maximum" => (optional? decodeBound? value).map fun v => { k with maximum := v }
  | "multipleOf" => (optional? decodeBound? value).map fun v => { k with multipleOf := v }
  | "minLength" => (optional? decodeCount? value).map fun v => { k with minLength := v }
  | "maxLength" => (optional? decodeCount? value).map fun v => { k with maxLength := v }
  | "minItems" => (optional? decodeCount? value).map fun v => { k with minItems := v }
  | "maxItems" => (optional? decodeCount? value).map fun v => { k with maxItems := v }
  | _ => some { k with extensions := k.extensions.insert key value }

mutual

/-- The schema a JSON object describes. -/
def decode? : Value → Option Schema
  | .object members => decodeMembers? {} members
  | _ => none

/-- Set the keywords of a schema one after another. -/
def decodeMembers? (acc : Schema) : List (String × Value) → Option Schema
  | [] => some acc
  | (key, value) :: rest =>
    match key with
    | "items" =>
      (decodeOption? value).bind fun v => decodeMembers? { acc with items := v } rest
    | "additionalProperties" =>
      (decodeOption? value).bind fun v =>
        decodeMembers? { acc with additionalProperties := v } rest
    | "not" => (decodeOption? value).bind fun v => decodeMembers? { acc with negated := v } rest
    | "properties" =>
      (decodeTable? value).bind fun v => decodeMembers? { acc with properties := v } rest
    | "definitions" =>
      (decodeTable? value).bind fun v => decodeMembers? { acc with definitions := v } rest
    | "allOf" => (decodeBranches? value).bind fun v => decodeMembers? { acc with allOf := v } rest
    | "oneOf" => (decodeBranches? value).bind fun v => decodeMembers? { acc with oneOf := v } rest
    | "anyOf" => (decodeBranches? value).bind fun v => decodeMembers? { acc with anyOf := v } rest
    | key =>
      (setKeyword? acc.toKeywords key value).bind fun k =>
        decodeMembers? { acc with toKeywords := k } rest

def decodeOption? : Value → Option (Option Schema)
  | .null => some none
  | .object members => (decodeMembers? {} members).map some
  | _ => none

def decodeTable? : Value → Option (Option (Table Schema))
  | .null => some none
  | .object members => (decodeEntries? {} members).map some
  | _ => none

/-- Enter schemas into a table one after another. -/
def decodeEntries? (acc : Table Schema) : List (String × Value) → Option (Table Schema)
  | [] => some acc
  | (name, value) :: rest =>
    (decode? value).bind fun s => decodeEntries? (acc.insert name s) rest

def decodeBranches? : Value → Option (Option (List Schema))
  | .null => some none
  | .array items => (decodeList? items).map some
  | _ => none

def decodeList? : List Value → Option (List Schema)
  | [] => some []
  | value :: rest =>
    (decode? value).bind fun s => (decodeList? rest).map (s :: ·)

end

end ApiSchema.Schema
