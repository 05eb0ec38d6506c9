import ApiSchema.Document
import ApiSchema.Synthesis

/-! Building a document: operations are added one after another, each with the schemas of the
types it mentions, and at the end unreached definitions are dropped. -/

namespace ApiSchema

open Document (Info PathItem)

structure Builder where
  info : Info := {
    title := "Generated API"
    version := "1.0.0"
    description := some "API documentation generated from Rust declarations" }
  paths : Table PathItem := {}

namespace Builder

/-- The path with every parameter in braces. -/
def convertPath (path : String) : String :=
  "/".intercalate ((Text.splitAt '/' path).map fun part =>
    match Text.after? ":" part with
    | some name => "\x7b" ++ name ++ "\x7d"
    | none => part)

def defaultDescription (status : String) : String :=
  if ["200", "201", "202", "204"].contains status then "Successful response"
  else if status = "default" then "Default response"
  else "Response " ++ status

section Schemas

variable (config : Config) (fuel : Nat) (context : ScopeId)

def parameter (p : Manifest.Parameter) : Synth Document.Parameter := do
  let schema ← Synthesis.schemaOfReferenceWith config fuel context p.type
  return {
    name := p.name
    location := p.location
    required := p.required || p.location = .path
    schema
    description := p.description }

def requestBody (body : Manifest.RequestBody) : Synth Document.RequestBody := do
  let schema ← Synthesis.schemaOfReferenceWith config fuel context body.type
  return {
    description := body.description
    required := body.required
    content := .singleton body.contentType schema }

def responseContent (r : Manifest.Response) : Synth (Option (Table Schema)) :=
  match r.type with
  | none => return none
  | some type => do
    let schema ← Synthesis.schemaOfReferenceWith config fuel context type
    return some (.singleton r.contentType schema)

def response (status : String) (r : Manifest.Response) : Synth Document.Response := do
  let content ← responseContent config fuel context r
  return { description := r.description.getD (defaultDescription status), content }

/-- Responses of an operation; one that declares none has a default one. -/
def responses (declared : Table Manifest.Response) : Synth (Table Document.Response) := do
  let entries ← declared.entries.mapM fun (status, r) => do
    return (status, ← response config fuel context status r)
  if entries.isEmpty then
    return .singleton "200" { description := "Successful response", content := none }
  else return ⟨entries⟩

def operation (op : Manifest.Operation) : Synth Document.Operation := do
  let parameters ← op.parameters.mapM (parameter config fuel context)
  let requestBody ← match op.requestBody with
    | some body => some <$> requestBody config fuel context body
    | none => pure none
  let responses ← responses config fuel context op.responses
  return {
    tags := op.tags
    summary := some (op.summary.getD (op.method.upperName ++ " " ++ op.path))
    description := op.description
    operationId := op.id
    parameters := if parameters.isEmpty then none else some parameters
    requestBody
    responses }

end Schemas

/-- Enter an operation at its path and method. -/
def enter (b : Builder) (path : String) (method : Method) (op : Document.Operation) : Builder :=
  let key := convertPath path
  { b with paths := b.paths.insert key (((b.paths.get? key).getD .empty).set method op) }

/-- Add an operation whose types all have schemas as seen from its context. -/
def addOperationWith (config : Config) (fuel : Nat) (b : Builder) (op : Manifest.Operation) : Synth Builder := do
  match (← get).resolver.registry.findScope? op.context with
  | none =>
    throw (.error (.manifest ("unknown context " ++ Error.code op.context ++ " for " ++ op.path)))
  | some context =>
    let made ← operation config fuel context op
    return b.enter op.path op.method made

/-- The document with all definitions that are reached. -/
def build (b : Builder) (g : Generator) : Document :=
  Document.prune {
    openapi := "3.0.0"
    info := b.info
    paths := b.paths
    components := if g.definitions.isEmpty then none else some (some g.definitions) }

/-- Add operations one after another; one that fails is left out. The outcomes are in order. -/
def addAllWith (config : Config) (fuel : Nat) : Builder → List Manifest.Operation → Generator →
    List (Option Failure) × Builder × Generator
  | b, [], g => ([], b, g)
  | b, op :: rest, g =>
    match (addOperationWith config fuel b op).run g with
    | (.ok b, g) =>
      let (outcomes, b, g) := addAllWith config fuel b rest g
      (none :: outcomes, b, g)
    | (.error e, g) =>
      let (outcomes, b, g) := addAllWith config fuel b rest g
      (some e :: outcomes, b, g)

section Entry

/-! What the program calls. -/

variable (config : Config) (b : Builder)

def addOperation (op : Manifest.Operation) : Synth Builder := addOperationWith config Synthesis.nesting b op

def addAll (ops : List Manifest.Operation) (g : Generator) : List (Option Failure) × Builder × Generator :=
  addAllWith config Synthesis.nesting b ops g

end Entry

end Builder

end ApiSchema
