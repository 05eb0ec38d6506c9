import ApiSchema.Document
import ApiSchema.Json.Writer
import ApiSchema.Schema.Encoding
import ApiSchema.Yaml.Writer

/-! Documents as JSON values, and as text. -/

namespace ApiSchema.Document

open Json (Value)
open Schema (memberOf encodeStrings decodeStrings? decodeBool?)

/-! ### Writing -/

def encodeTableOf (encode : α → Value) (t : Table α) : Value :=
  .object (t.entries.map fun entry => (entry.1, encode entry.2))

def Info.encode (info : Info) : Value :=
  .object ([("title", .string info.title), ("version", .string info.version)] ++
    memberOf "description" .string info.description)

def Parameter.encode (p : Parameter) : Value :=
  .object ([("name", .string p.name), ("in", .string p.location.name),
    ("required", .bool p.required), ("schema", p.schema.encode)] ++
    memberOf "description" .string p.description)

/-- Content types with their schemas. -/
def encodeContent (content : Table Schema) : Value :=
  encodeTableOf (fun s => .object [("schema", Schema.encode s)]) content

def RequestBody.encode (body : RequestBody) : Value :=
  .object (memberOf "description" .string body.description ++
    [("required", .bool body.required), ("content", encodeContent body.content)])

def Response.encode (r : Response) : Value :=
  .object ([("description", .string r.description)] ++ memberOf "content" encodeContent r.content)

def Operation.encode (op : Operation) : Value :=
  .object (
    memberOf "tags" encodeStrings (if op.tags.isEmpty then none else some op.tags) ++
    memberOf "summary" .string op.summary ++
    memberOf "description" .string op.description ++
    memberOf "operationId" .string op.operationId ++
    memberOf "parameters" (fun ps => .array (ps.map Parameter.encode)) op.parameters ++
    memberOf "requestBody" RequestBody.encode op.requestBody ++
    [("responses", encodeTableOf Response.encode op.responses)])

def PathItem.encode (item : PathItem) : Value :=
  .object (Method.all.flatMap fun m => memberOf m.key Operation.encode (item.slot m))

def encodeComponents (definitions : Option (Table Schema)) : Value :=
  .object (memberOf "schemas" (encodeTableOf Schema.encode) definitions)

def encode (d : Document) : Value :=
  .object ([("openapi", .string d.openapi), ("info", d.info.encode),
    ("paths", encodeTableOf PathItem.encode d.paths)] ++
    memberOf "components" encodeComponents d.components)

def toJson (d : Document) : String := Json.pretty d.encode

def toYaml (d : Document) : String := Yaml.document d.encode

/-! ### Reading -/

def fields? (slots : List Record.Slot) : Value → Option (List (String × Value))
  | .object members => Record.ofEntries? slots members
  | .array items => Record.ofItems? slots items
  | _ => none

/-- A field that may be missing or null. -/
def optionalField? (fields : List (String × Value)) (name : String) (read : Value → Option α) :
    Option (Option α) :=
  Record.withDefault? fields name none (Schema.optional? read)

def decodeTableOf? (read : Value → Option α) : Value → Option (Table α)
  | .object members => do
    let entries ← members.mapM fun entry => (read entry.2).map fun a => (entry.1, a)
    return .ofList entries
  | _ => none

def decodeListOf? (read : Value → Option α) : Value → Option (List α)
  | .array items => items.mapM read
  | _ => none

def Info.decode? (value : Value) : Option Info := do
  let fields ← fields? [⟨"title", false⟩, ⟨"version", false⟩, ⟨"description", false⟩] value
  return {
    title := ← Record.required? fields "title" Value.text?
    version := ← Record.required? fields "version" Value.text?
    description := ← optionalField? fields "description" Value.text? }

def decodeLocation? (value : Value) : Option Location :=
  match value with
  | .string name => Location.ofName? name
  | .object [(name, .null)] => Location.ofName? name
  | _ => none

def Parameter.decode? (value : Value) : Option Parameter := do
  let fields ← fields? [⟨"name", false⟩, ⟨"in", false⟩, ⟨"required", false⟩, ⟨"schema", false⟩,
    ⟨"description", false⟩] value
  return {
    name := ← Record.required? fields "name" Value.text?
    location := ← Record.required? fields "in" decodeLocation?
    required := ← Record.required? fields "required" decodeBool?
    schema := ← Record.required? fields "schema" Schema.decode?
    description := ← optionalField? fields "description" Value.text? }

def decodeMedia? (value : Value) : Option Schema := do
  let fields ← fields? [⟨"schema", false⟩] value
  Record.required? fields "schema" Schema.decode?

def RequestBody.decode? (value : Value) : Option RequestBody := do
  let fields ← fields? [⟨"description", false⟩, ⟨"required", false⟩, ⟨"content", false⟩] value
  return {
    description := ← optionalField? fields "description" Value.text?
    required := ← Record.required? fields "required" decodeBool?
    content := ← Record.required? fields "content" (decodeTableOf? decodeMedia?) }

def Response.decode? (value : Value) : Option Response := do
  let fields ← fields? [⟨"description", false⟩, ⟨"content", false⟩] value
  return {
    description := ← Record.required? fields "description" Value.text?
    content := ← optionalField? fields "content" (decodeTableOf? decodeMedia?) }

def Operation.decode? (value : Value) : Option Operation := do
  let fields ← fields? [⟨"tags", true⟩, ⟨"summary", false⟩, ⟨"description", false⟩,
    ⟨"operationId", false⟩, ⟨"parameters", false⟩, ⟨"requestBody", false⟩,
    ⟨"responses", false⟩] value
  return {
    tags := ← Record.withDefault? fields "tags" [] decodeStrings?
    summary := ← optionalField? fields "summary" Value.text?
    description := ← optionalField? fields "description" Value.text?
    operationId := ← optionalField? fields "operationId" Value.text?
    parameters := ← optionalField? fields "parameters" (decodeListOf? Parameter.decode?)
    requestBody := ← optionalField? fields "requestBody" RequestBody.decode?
    responses := ← Record.required? fields "responses" (decodeTableOf? Response.decode?) }

/-- Read the operations of the methods one after another. -/
def decodeSlots? (fields : List (String × Value)) (item : PathItem) :
    List Method → Option PathItem
  | [] => some item
  | m :: rest => do
    match ← optionalField? fields m.key Operation.decode? with
    | some op => decodeSlots? fields (item.set m op) rest
    | none => decodeSlots? fields item rest

def PathItem.decode? (value : Value) : Option PathItem := do
  let fields ← fields? (Method.all.map fun m => ⟨m.key, false⟩) value
  decodeSlots? fields .empty Method.all

def decodeComponents? (value : Value) : Option (Option (Table Schema)) := do
  let fields ← fields? [⟨"schemas", false⟩] value
  optionalField? fields "schemas" (decodeTableOf? Schema.decode?)

def decode? (value : Value) : Option Document := do
  let fields ← fields? [⟨"openapi", false⟩, ⟨"info", false⟩, ⟨"paths", false⟩,
    ⟨"components", false⟩] value
  return {
    openapi := ← Record.required? fields "openapi" Value.text?
    info := ← Record.required? fields "info" Info.decode?
    paths := ← Record.required? fields "paths" (decodeTableOf? PathItem.decode?)
    components := ← optionalField? fields "components" decodeComponents? }

end ApiSchema.Document
