import ApiSchema.Form
import ApiSchema.Json.Reader
import ApiSchema.Record
import ApiSchema.Yaml.Reader

/-! Operation manifests: the operations whose parameter and payload types are to be documented. -/

namespace ApiSchema

/-- Request methods. -/
inductive Method where
  | get
  | post
  | put
  | delete
  | patch
  | options
  | head
deriving DecidableEq, Repr

namespace Method

def all : List Method := [get, post, put, delete, patch, options, head]

/-- The name in lower case, as documents use it. -/
def key : Method → String
  | get => "get"
  | post => "post"
  | put => "put"
  | delete => "delete"
  | patch => "patch"
  | options => "options"
  | head => "head"

def upperName : Method → String
  | get => "GET"
  | post => "POST"
  | put => "PUT"
  | delete => "DELETE"
  | patch => "PATCH"
  | options => "OPTIONS"
  | head => "HEAD"

def ofName? (name : String) : Option Method :=
  all.find? fun m => m.key = name || m.upperName = name

end Method

/-- Where a parameter stands in a request. -/
inductive Location where
  | path
  | query
  | header
  | cookie
deriving DecidableEq, Repr

namespace Location

def name : Location → String
  | path => "path"
  | query => "query"
  | header => "header"
  | cookie => "cookie"

def ofName? (name : String) : Option Location :=
  [path, query, header, cookie].find? fun l => l.name = name

end Location

namespace Manifest

structure Parameter where
  name : String
  location : Location
  type : String
  required : Bool
  description : Option String
deriving DecidableEq, Repr

structure RequestBody where
  type : String
  description : Option String
  contentType : String
  required : Bool
deriving DecidableEq, Repr

structure Response where
  /-- Type of the payload, if there is one. -/
  type : Option String
  description : Option String
  contentType : String
deriving DecidableEq, Repr

structure Operation where
  path : String
  method : Method
  id : Option String
  summary : Option String
  description : Option String
  tags : List String
  /-- Module path or file whose imports govern the types. -/
  context : String
  parameters : List Parameter
  requestBody : Option RequestBody
  /-- Responses by status. -/
  responses : Table Response
deriving DecidableEq, Repr

/-- What a format allows besides its plain forms. -/
structure Dialect where
  /-- A record may be the list of its values. -/
  positional : Bool
  /-- A name may be the only key of a record whose value is nothing. -/
  wrappedNames : Bool

def Dialect.json : Dialect := ⟨true, true⟩

def Dialect.yaml : Dialect := ⟨false, false⟩

section Reading

variable (dialect : Dialect)

def fields? (slots : List Record.Slot) (form : Form) : Option (List (String × Form)) :=
  match form with
  | .list items => if dialect.positional then Record.ofItems? slots items else none
  | form => form.entries?.bind (Record.ofEntries? slots)

/-- One of several names. -/
def name? (form : Form) : Option String :=
  match form with
  | .record [(key, .null)] => if dialect.wrappedNames then key.string? else none
  | form => form.string?

def defaultContentType : String := "application/json"

def parameter? (form : Form) : Option Parameter := do
  let fields ← fields? dialect
    [⟨"name", false⟩, ⟨"in", false⟩, ⟨"type", false⟩, ⟨"required", true⟩, ⟨"description", true⟩] form
  return {
    name := ← Record.required? fields "name" Form.string?
    location := ← Record.required? fields "in" fun f => (name? dialect f).bind Location.ofName?
    type := ← Record.required? fields "type" Form.string?
    required := ← Record.withDefault? fields "required" false Form.bool?
    description := ← Record.withDefault? fields "description" none (Form.optional? Form.string?) }

def requestBody? (form : Form) : Option RequestBody := do
  let fields ← fields? dialect
    [⟨"type", false⟩, ⟨"description", true⟩, ⟨"content_type", true⟩, ⟨"required", true⟩] form
  return {
    type := ← Record.required? fields "type" Form.string?
    description := ← Record.withDefault? fields "description" none (Form.optional? Form.string?)
    contentType := ← Record.withDefault? fields "content_type" defaultContentType Form.string?
    required := ← Record.withDefault? fields "required" true Form.bool? }

def response? (form : Form) : Option Response := do
  let fields ← fields? dialect [⟨"type", true⟩, ⟨"description", true⟩, ⟨"content_type", true⟩] form
  return {
    type := ← Record.withDefault? fields "type" none (Form.optional? Form.string?)
    description := ← Record.withDefault? fields "description" none (Form.optional? Form.string?)
    contentType := ← Record.withDefault? fields "content_type" defaultContentType Form.string? }

def responses? (form : Form) : Option (Table Response) := do
  let entries ← form.entries?
  let responses ← entries.mapM fun entry => (response? dialect entry.2).map fun r => (entry.1, r)
  return .ofList responses

def operation? (form : Form) : Option Operation := do
  let fields ← fields? dialect
    [⟨"path", false⟩, ⟨"method", false⟩, ⟨"id", true⟩, ⟨"summary", true⟩, ⟨"description", true⟩,
      ⟨"tags", true⟩, ⟨"context", false⟩, ⟨"parameters", true⟩, ⟨"request_body", true⟩,
      ⟨"responses", true⟩] form
  return {
    path := ← Record.required? fields "path" Form.string?
    method := ← Record.required? fields "method" fun f => (name? dialect f).bind Method.ofName?
    id := ← Record.withDefault? fields "id" none (Form.optional? Form.string?)
    summary := ← Record.withDefault? fields "summary" none (Form.optional? Form.string?)
    description := ← Record.withDefault? fields "description" none (Form.optional? Form.string?)
    tags := ← Record.withDefault? fields "tags" [] (Form.listOf? Form.string?)
    context := ← Record.required? fields "context" Form.string?
    parameters := ← Record.withDefault? fields "parameters" [] (Form.listOf? (parameter? dialect))
    requestBody :=
      ← Record.withDefault? fields "request_body" none (Form.optional? (requestBody? dialect))
    responses := ← Record.withDefault? fields "responses" {} (responses? dialect) }

def operations? (form : Form) : Option (List Operation) := do
  let fields ← fields? dialect [⟨"operations", true⟩] form
  Record.withDefault? fields "operations" [] (Form.listOf? (operation? dialect))

end Reading

/-- The operations of a manifest in JSON or in YAML. -/
def parse? (json : Bool) (text : String) : Option (List Operation) :=
  if json then (Json.read? text).bind fun value => operations? .json (.ofJson value)
  else (Yaml.read? text).bind (operations? .yaml)

/-- An operation given as a JSON value. -/
def operationOfJson? (value : Json.Value) : Option Operation := operation? .json (.ofJson value)

end Manifest

end ApiSchema
