import ApiSchema.Config
import ApiSchema.Declaration
import ApiSchema.Error
import ApiSchema.Json.Reader
import ApiSchema.Schema

/-! Annotations of members: the name of the property, whether it is required, and what is layered
onto the schema of the member's type. An annotation that does not fit that type is an error. -/

namespace ApiSchema

open Json (Value)

/-- The type of a member as far as annotations care. -/
inductive BaseType where
  | integer
  | number
  | string
  | boolean
  | array (item : BaseType)
  | object
deriving DecidableEq, Repr

namespace BaseType

/-- The base type a schema shows; a reference is an object. -/
def of : Schema → BaseType
  | ⟨keywords, items, _, _, _, _, _, _, _⟩ =>
    match keywords.type with
    | some "integer" => integer
    | some "number" => number
    | some "string" => string
    | some "boolean" => boolean
    | some "array" =>
      match items with
      | some items => array (of items)
      | none => array object
    | _ => object

def isNumeric : BaseType → Bool
  | integer | number => true
  | _ => false

/-- Text of the zero value, for members that travel as text. -/
def zeroText? : BaseType → Option String
  | integer | number => some "0"
  | boolean => some "false"
  | _ => none

/-- The type that enumerated values have: for an array, that of its items. -/
def element : BaseType → BaseType
  | array item => item
  | other => other

end BaseType

namespace Annotation

def conflict (field message : String) : Except Error α := .error (.annotationConflict field message)

/-- The complaint that a literal does not read as what it should be. -/
def invalid (field raw kind : String) : Except Error α :=
  conflict field (Error.code raw ++ " is not a valid " ++ kind)

def parseNumber (field raw : String) : Except Error Binary64 :=
  match Decimal.number? (Text.trimChars raw.toList) with
  | some value => .ok value
  | none => invalid field raw "number"

def parseCount (field raw : String) : Except Error Nat :=
  match Decimal.count? (Text.trimChars raw.toList) with
  | some n => .ok n
  | none => invalid field raw "length"

/-- The JSON value a literal stands for at a base type. -/
def coerce (field : String) : BaseType → String → Except Error Value
  | .integer, raw =>
    match Decimal.integer? (Text.trimChars raw.toList) with
    | some n => .ok (.integer n)
    | none => invalid field raw "integer"
  | .number, raw =>
    match (Decimal.number? (Text.trimChars raw.toList)).filter Binary64.isFinite with
    | some value => .ok (.float value)
    | none => invalid field raw "number"
  | .boolean, raw =>
    match Text.trim raw with
    | "true" => .ok (.bool true)
    | "false" => .ok (.bool false)
    | _ => invalid field raw "boolean"
  | .string, raw => .ok (.string raw)
  | .array item, raw => do
    let parts ← (Text.splitAt ',' raw).mapM fun part => coerce field item (Text.trim part)
    return .array parts
  | .object, raw =>
    match Json.parse? raw with
    | some value => .ok value
    | none => invalid field raw "JSON object"

/-- One extension: a key is true, a negated key false, and a key with a value that text. -/
def parseExtension (field item : String) : Except Error (String × Value) :=
  let (key, value) : String × Value :=
    match Text.after? "!" item with
    | some negated => (Text.trim negated, .bool false)
    | none =>
      match Text.splitFirst? '=' item with
      | some (key, value) => (Text.trim key, .string (Text.trim value))
      | none => (item, .bool true)
  if Text.startsWith "x-" key then .ok (key, value)
  else conflict field
    ("extension " ++ Error.code key ++ " must start with " ++ Error.code "x-")

/-- Extensions separated by commas. -/
def parseExtensions (field raw : String) : Except Error (List (String × Value)) :=
  (((Text.splitAt ',' raw).map Text.trim).filter fun item => !item.isEmpty).mapM
    (parseExtension field)

/-- The schema of a type named by a list of words. -/
def schemaOfWords? : List String → Option Schema
  | [] => none
  | [word] =>
    if ["string", "integer", "number", "boolean", "object"].contains word then
      some (Schema.ofType word)
    else if word = "file" then some { Schema.ofType "string" with format := some "binary" }
    else none
  | word :: rest =>
    if word = "array" then (schemaOfWords? rest).map Schema.array
    else if word = "primitive" && rest.length = 1 then schemaOfWords? rest
    else none

/-- The schema of a type as an annotation writes it. -/
def parseSchemaType? (custom : String) : Option Schema :=
  schemaOfWords? ((Text.splitAt ',' custom).map Text.trim)

/-- The format a validation rule implies. -/
def impliedFormat? (rules : List TagEntry) : Option String :=
  rules.findSome? fun rule =>
    if rule.key = "email" then some "email" else if rule.key = "url" then some "uri" else none

end Annotation

namespace Field

open Annotation

/-- Members that are private, ignored or renamed to a dash are left out. -/
def isSkipped (config : Config) (field : Field) : Bool :=
  (config.skipPrivateFields && !field.exported) || field.tags.skip ||
    field.tags.hasSchemaFlag "ignore" || field.tags.schemaValue? "rename" = some "-"

def propertyName (config : Config) (renameAll : Option String) (field : Field) : String :=
  match (field.tags.schemaValue? "rename").or field.tags.rename with
  | some name => name
  | none =>
    (renameAll.bind fun rule => Naming.rename? rule field.name).getD
      (config.naming.apply field.name)

def isRequired (config : Config) (field : Field) : Bool :=
  if field.tags.hasSchemaFlag "optional" then false
  else
    field.tags.hasSchemaFlag "required" || TagEntry.has field.tags.rules "required" ||
      (config.requiredByDefault && !field.type.isOptional)

/-- The schema that stands in for that of the type, if one is given. -/
def replaceType (field : Field) (s : Schema) : Except Error Schema :=
  match field.tags.schemaValue? "schema_type" with
  | none => .ok s
  | some custom =>
    match parseSchemaType? custom with
    | some s => .ok s
    | none => conflict field.name ("unknown schema_type " ++ Error.code custom)

/-- Zero text of a member that travels as text though its type is another. -/
def encodedZero? (field : Field) (s : Schema) : Option String :=
  if field.tags.stringEncoded then (BaseType.of s).zeroText? else none

def encodeAsText (field : Field) (s : Schema) : Schema :=
  if (field.encodedZero? s).isSome then { s with type := some "string", format := none } else s

def applyTitle (field : Field) (s : Schema) : Schema :=
  match field.tags.schemaValue? "title" with
  | some title => { s with title := some title }
  | none => s

def applyFormat (field : Field) (s : Schema) : Schema :=
  match (field.tags.schemaValue? "format").or (impliedFormat? field.tags.rules) with
  | some format => { s with format := some format }
  | none => s

/-- A literal given by its own key, or else inside the first rule of a name. -/
def ruleValue? (field : Field) (key rule inner : String) : Option String :=
  (field.tags.schemaValue? key).or
    ((TagEntry.find? field.tags.rules rule).bind fun entry => entry.nestedValue? inner)

/-- A numeric bound, if one is given. -/
def bound? (field : Field) (base : BaseType) (name : String) (raw : Option String) :
    Except Error (Option Binary64) :=
  match raw with
  | none => .ok none
  | some raw =>
    if base.isNumeric then (parseNumber field.name raw).map some
    else conflict field.name (name ++ " requires a numeric type")

def applyBounds (field : Field) (base : BaseType) (s : Schema) : Except Error Schema := do
  let minimum ← field.bound? base "minimum" (field.ruleValue? "minimum" "range" "min")
  let maximum ← field.bound? base "maximum" (field.ruleValue? "maximum" "range" "max")
  let multipleOf ← field.bound? base "multiple_of" (field.tags.schemaValue? "multiple_of")
  return { s with
    minimum := minimum.or s.minimum
    maximum := maximum.or s.maximum
    multipleOf := multipleOf.or s.multipleOf }

def count? (field : Field) (raw : Option String) : Except Error (Option Nat) :=
  match raw with
  | none => .ok none
  | some raw => (parseCount field.name raw).map some

def applyLength (field : Field) (base : BaseType) (s : Schema) : Except Error Schema :=
  let least := field.ruleValue? "min_length" "length" "min"
  let most := field.ruleValue? "max_length" "length" "max"
  if least.isNone && most.isNone then .ok s
  else do
    let least ← field.count? least
    let most ← field.count? most
    match base with
    | .string =>
      return { s with minLength := least.or s.minLength, maxLength := most.or s.maxLength }
    | .array _ =>
      return { s with minItems := least.or s.minItems, maxItems := most.or s.maxItems }
    | _ => conflict field.name "length bounds require a string or array type"

/-- Enumerated values go to the items of an array that has them. -/
def storeEnum (base : BaseType) (values : List Value) (s : Schema) : Schema :=
  match base, s.items with
  | .array _, some items => { s with items := some { items with enumValues := some values } }
  | _, _ => { s with enumValues := some values }

def applyEnum (field : Field) (base : BaseType) (s : Schema) : Except Error Schema :=
  match field.tags.schemaValue? "enums" with
  | none => .ok s
  | some raw =>
    let target := base.element
    if target.isNumeric || target = .string then do
      let values ← (Text.splitAt ',' raw).mapM fun part =>
        coerce field.name target (Text.trim part)
      return storeEnum base values s
    else conflict field.name "enums are only supported on numeric and string types"

def applyDefault (field : Field) (base : BaseType) (s : Schema) : Except Error Schema :=
  match field.tags.schemaValue? "default" with
  | none => .ok s
  | some raw => do
    let value ← coerce field.name base raw
    return { s with defaultValue := some value }

def applyExample (field : Field) (base : BaseType) (zero : Option String) (s : Schema) :
    Except Error Schema :=
  match field.tags.schemaValue? "example" with
  | some raw => do
    let value ← coerce field.name base raw
    return { s with exampleValue := some value }
  | none =>
    match zero with
    | some text => .ok { s with exampleValue := some (.string text) }
    | none => .ok s

def applyExtensions (field : Field) (s : Schema) : Except Error Schema :=
  match field.tags.schemaValue? "extensions" with
  | none => .ok s
  | some raw => do
    let entries ← parseExtensions field.name raw
    return { s with extensions := s.extensions.insertAll entries }

/-- Attach the description and the read-only mark; a reference is shared and stays as it is, so
it becomes a branch. -/
def decorate (description : Option String) (readOnly : Bool) (s : Schema) : Schema :=
  if !s.isRef then
    { s with
      description := description.or s.description
      readOnly := if readOnly then some true else s.readOnly }
  else if description.isNone && !readOnly then s
  else
    { description
      allOf := some (s :: if readOnly then [{ readOnly := some true }] else []) }

/-- Layer the annotations of a member onto the schema of its type. -/
def complement (field : Field) (s : Schema) : Except Error Schema := do
  let s ← field.replaceType s
  let zero := field.encodedZero? s
  let s := field.encodeAsText s
  let base := BaseType.of s
  let s := field.applyFormat (field.applyTitle s)
  let s ← field.applyBounds base s
  let s ← field.applyLength base s
  let s ← field.applyEnum base s
  let s ← field.applyDefault base s
  let s ← field.applyExample base zero s
  let s ← field.applyExtensions s
  return decorate field.doc (field.tags.hasSchemaFlag "readonly") s

end Field

end ApiSchema
