import ApiSchema.Annotation
import ApiSchema.Resolution

/-! Schemas of declarations. Structs and enumerations become named definitions and are used by
reference; synonyms are written out where they are used unless their schema is complex or refers
back to them. A declaration is synthesized once. While it is under way its definition is a
placeholder, so cycles end; when it fails, all that was made meanwhile and refers to it is undone.

Nesting is bounded by fuel, for generic declarations may ask for ever new instances. -/

namespace ApiSchema

open Json (Value)

/-- Definitions made so far, and the state of a synthesis under way. -/
structure Generator where
  resolver : Resolver := {}
  definitions : Table Schema := {}
  /-- Schema used wherever a synthesized declaration is referenced. -/
  memo : List (DeclId × Schema) := []
  inProgress : List DeclId := []
  /-- Synonyms that a cycle leads back to; they must become definitions. -/
  forced : List DeclId := []
  /-- Memo entries, with their definitions, made since the outermost synthesis began. -/
  journal : List (DeclId × Option String) := []

/-- How a synthesis ends without a schema. -/
inductive Failure where
  | error (cause : Error)
  /-- Declarations nest deeper than the fuel allows. -/
  | exhausted
deriving DecidableEq, Repr

/-- Steps of a synthesis. What they changed stays when they fail. -/
abbrev Synth := ExceptT Failure (StateM Generator)

namespace Generator

/-- An entry of the journal refers to one of the names. -/
def refersTo (g : Generator) (names : List String) (entry : DeclId × Option String) : Bool :=
  let used := ((g.memo.lookup entry.1).map Schema.refs).getD []
  let made := ((entry.2.bind g.definitions.get?).map Schema.refs).getD []
  (used ++ made).any names.contains

/-- Forget memo entry and definition of an entry of the journal. -/
def forget (g : Generator) (entry : DeclId × Option String) : Generator :=
  { g with
    memo := g.memo.filter fun m => m.1 ≠ entry.1
    definitions := match entry.2 with
      | some name => g.definitions.erase name
      | none => g.definitions }

/-- Forget entries that refer to dropped names, whose names are dropped in turn, until none is
left; the answer is what stays of the journal. -/
def settle : (fuel : Nat) → (dropped : List String) → (kept : List (DeclId × Option String)) →
    Generator → List (DeclId × Option String) × Generator
  | 0, _, kept, g => (kept, g)
  | fuel + 1, dropped, kept, g =>
    let tainted := kept.filter (g.refersTo dropped)
    if tainted.isEmpty then (kept, g)
    else
      settle fuel (tainted.filterMap Prod.snd ++ dropped)
        (kept.filter fun entry => !g.refersTo dropped entry) (tainted.foldl forget g)

/-- Undo what was made since `mark` and refers, directly or not, to the definition `failed`. -/
def rollback (mark : Nat) (failed : String) (g : Generator) : Generator :=
  let recent := g.journal.drop mark
  let (kept, settled) := settle (recent.length + 1) [failed] recent g
  { settled with journal := g.journal.take mark ++ kept }

/-- Record the use-site schema of a declaration, with the definition made for it. -/
def remember (id : DeclId) (s : Schema) (definition : Option String) (g : Generator) :
    Generator :=
  { g with
    memo := (id, s) :: g.memo
    journal := if g.inProgress.isEmpty then [] else g.journal ++ [(id, definition)] }

def enter (id : DeclId) (g : Generator) : Generator :=
  { g with inProgress := id :: g.inProgress }

def leave (id : DeclId) (g : Generator) : Generator :=
  { g with inProgress := g.inProgress.filter (· ≠ id) }

def force (id : DeclId) (g : Generator) : Generator :=
  if g.forced.contains id then g else { g with forced := id :: g.forced }

def unforce (id : DeclId) (g : Generator) : Generator :=
  { g with forced := g.forced.filter (· ≠ id) }

def define (name : String) (s : Schema) (g : Generator) : Generator :=
  { g with definitions := g.definitions.insert name s }

def undefine (name : String) (g : Generator) : Generator :=
  { g with definitions := g.definitions.erase name }

end Generator

namespace Synth

/-- A step of resolution as a step of synthesis. -/
def resolving (step : Resolving α) : Synth α := do
  let g ← get
  let (outcome, resolver) := step.run g.resolver
  set { g with resolver }
  match outcome with
  | .ok a => return a
  | .error e => throw (.error e)

def definitionName (id : DeclId) : Synth String := do
  let g ← get
  let (name, registry) := g.resolver.registry.definitionName id
  set { g with resolver := { g.resolver with registry } }
  return name

/-- The outcome of a step, with failure as a value. -/
def outcome (step : Synth α) : Synth (Except Failure α) := fun g =>
  let (result, g) := step g
  (.ok result, g)

/-- Go on with the outcome of an earlier step. -/
def resume (result : Except Failure α) : Synth α := fun g => (result, g)

end Synth

namespace Synthesis

section Rules

variable (config : Config) (synth : DeclId → Synth Schema)

/-- The schema of a resolved reference. -/
def resolutionSchema : Resolution → Synth Schema
  | .primitive p => return .ofPrimitive p
  | .any => return .object
  | .declaration id => synth id

/-- The schema of a type whose names are resolved in a scope. -/
def exprSchema (context : ScopeId) : TypeExpr → Synth Schema
  | .primitive p => return .ofPrimitive p
  | .optional inner => exprSchema context inner
  | .pointer inner => exprSchema context inner
  | .array inner => do return .array (← exprSchema context inner)
  | .map _ value => do return .map (← exprSchema context value)
  | .interface => return .object
  | .function => return .object
  | .param _ => return .object
  | .resolved id => synth id
  | .named segments args => do
    let resolution ← Synth.resolving
      (Resolver.resolveExpr config.parseDependencies context (.named segments args))
    resolutionSchema synth resolution

/-- The schema of a member's type; a type that cannot be resolved is any object. -/
def memberSchema (context : ScopeId) (type : TypeExpr) : Synth Schema := do
  match ← Synth.outcome (exprSchema config synth context type) with
  | .ok s => return s
  | .error .exhausted => throw .exhausted
  | .error (.error (.annotationConflict field message)) =>
    throw (.error (.annotationConflict field message))
  | .error (.error _) => return .object

/-- The body behind a flattened member, whose properties are spliced into the parent's. -/
def embeddedBody (context : ScopeId) (field : Field) : Synth Schema := do
  let s ← memberSchema config synth context field.type
  match s.refName? with
  | some name => return ((← get).definitions.get? name).getD {}
  | none => return s

/-- Properties collected so far for an object. -/
structure Members where
  properties : Table Schema := {}
  required : List String := []
  additional : Option Schema := none

namespace Members

def splice (m : Members) (body : Schema) : Members where
  properties := m.properties.union (body.properties.getD {})
  required := (body.required.getD []).foldl
    (fun names name => if names.contains name then names else names ++ [name]) m.required
  additional := body.additionalProperties.or m.additional

/-- A direct member replaces what was spliced under its name. -/
def add (m : Members) (name : String) (s : Schema) (required : Bool) : Members where
  properties := m.properties.insert name s
  required := m.required.filter (· ≠ name) ++ if required then [name] else []
  additional := m.additional

def toSchema (m : Members) : Schema :=
  { Schema.object with
    properties := some m.properties
    required := if m.required.isEmpty then none else some m.required
    additionalProperties := m.additional }

end Members

def spliceField (context : ScopeId) (m : Members) (field : Field) : Synth Members := do
  return m.splice (← embeddedBody config synth context field)

def addField (context : ScopeId) (renameAll : Option String) (m : Members) (field : Field) :
    Synth Members := do
  let s ← memberSchema config synth context field.type
  match field.complement s with
  | .ok s => return m.add (field.propertyName config renameAll) s (field.isRequired config)
  | .error e => throw (.error e)

/-- An object with the members of flattened fields first, so that direct ones win. -/
def objectSchema (context : ScopeId) (renameAll : Option String) (fields : List Field) :
    Synth Schema := do
  let kept := fields.filter fun field => !field.isSkipped config
  let m ← (kept.filter Field.embedded).foldlM (spliceField config synth context) {}
  let m ← (kept.filter fun field => !field.embedded).foldlM
    (addField config synth context renameAll) m
  return m.toSchema

/-- One element stands for itself, several for an array of fixed length. -/
def tupleSchema (context : ScopeId) (types : List TypeExpr) : Synth Schema := do
  let schemas ← types.mapM (memberSchema config synth context)
  match schemas with
  | [] => return .object
  | [single] => return single
  | first :: rest =>
    let items := if rest.all (· = first) then first else .object
    return { Schema.array items with
      minItems := some schemas.length
      maxItems := some schemas.length }

/-- The numbers of variants: what is written, else one more than the one before. -/
def discriminants (next : Int) : List Variant → List Int
  | [] => []
  | v :: rest =>
    let value := v.discriminant.getD next
    value :: discriminants (Word.wrapSigned 64 (value + 1)) rest

def variantName (rule : Option String) (v : Variant) : String :=
  (v.rename.or (rule.bind fun rule => Naming.rename? rule v.name)).getD v.name

/-- Variants without payloads: their names, or numbers if some are written. -/
def plainEnumSchema (rule : Option String) (variants : List Variant) : Schema :=
  let names := variants.map fun v => Value.string (variantName rule v)
  if variants.any fun v => v.discriminant.isSome then
    { Schema.ofType "integer" with
      enumValues := some ((discriminants 0 variants).map .integer)
      extensions := .singleton "x-enum-varnames" (.array names) }
  else { Schema.ofType "string" with enumValues := some names }

def payloadSchema (context : ScopeId) : Payload → Synth Schema
  | .record fields => objectSchema config synth context none fields
  | .tuple types => tupleSchema config synth context types

/-- One branch for a variant; a payload is wrapped under the variant's name unless untagged. -/
def variantSchema (d : Declaration) (v : Variant) : Synth Schema := do
  let name := variantName d.tags.renameAll v
  match v.payload with
  | none =>
    return { Schema.ofType "string" with
      enumValues := some [.string name]
      description := v.doc }
  | some payload =>
    let s ← payloadSchema config synth d.scope payload
    if d.tags.untagged then return s
    else return { Schema.object with
      properties := some (.singleton name s)
      required := some [name]
      description := v.doc }

def enumSchema (d : Declaration) (variants : List Variant) : Synth Schema := do
  let kept := variants.filter fun v => !v.skip
  if kept.all fun v => v.payload.isNone then return plainEnumSchema d.tags.renameAll kept
  else
    let branches ← kept.mapM (variantSchema config synth d)
    return { oneOf := some branches }

/-- The body of a struct or an enumeration. -/
def bodySchema (d : Declaration) : Synth Schema :=
  match d.body with
  | .struct fields => objectSchema config synth d.scope d.tags.renameAll fields
  | .enum variants => enumSchema config synth d variants
  | _ => return .object

/-- Make the definition of a struct or an enumeration; the schema is a reference to it. -/
def synthesizeNamed (id : DeclId) (name : String) (d : Declaration) : Synth Schema := do
  let mark := (← get).journal.length
  modify fun g => (g.define name .object).enter id
  let result ← Synth.outcome (bodySchema config synth d)
  modify fun g => (g.leave id).unforce id
  match result with
  | .error e =>
    modify fun g => (g.undefine name).rollback mark name
    throw e
  | .ok body =>
    let reference := Schema.ref name
    modify fun g =>
      (g.define name { body with description := body.description.or d.doc }).remember id reference
        (some name)
    return reference

/-- The schema of a synonym: written out if it is simple, else a reference to its definition. -/
def synthesizeSynonym (id : DeclId) (name : String) (d : Declaration) (target : TypeExpr) :
    Synth Schema := do
  modify (Generator.enter id)
  let result ← Synth.outcome (memberSchema config synth d.scope target)
  modify (Generator.leave id)
  let body ← Synth.resume result
  let forced := (← get).forced.contains id
  modify (Generator.unforce id)
  if !forced && !body.isComplex config.maxInlineDepth then
    modify (Generator.remember id body none)
    return body
  else
    let body := if !body.isRef && body.description.isNone then { body with description := d.doc }
      else body
    let reference := Schema.ref name
    modify fun g => (g.define name body).remember id reference (some name)
    return reference

/-- The schema used wherever a declaration is referenced. -/
def synthesizeOne (id : DeclId) : Synth Schema := do
  match (← get).memo.lookup id with
  | some s => return s
  | none =>
    let name ← Synth.definitionName id
    if (← get).inProgress.contains id then
      modify (Generator.force id)
      return .ref name
    else
      let d := (← get).resolver.registry.get id
      match d.body with
      | .synonym target => synthesizeSynonym config synth id name d target
      | .interface => return { Schema.object with description := d.doc }
      | _ => synthesizeNamed config synth id name d

end Rules

/-- The schema of a declaration, with others nested in it at most `fuel` deep. -/
def synthesizeWith (config : Config) : (fuel : Nat) → DeclId → Synth Schema
  | 0, _ => throw .exhausted
  | fuel + 1, id => synthesizeOne config (synthesizeWith config fuel) id

/-- The schema of a type as seen from a scope. -/
def schemaOfWith (config : Config) (fuel : Nat) (context : ScopeId) (type : TypeExpr) : Synth Schema :=
  exprSchema config (synthesizeWith config fuel) context type

/-- The schema of a written type reference. -/
def schemaOfReferenceWith (config : Config) (fuel : Nat) (context : ScopeId) (reference : String) :
    Synth Schema :=
  match TypeExpr.parse? reference with
  | some type => schemaOfWith config fuel context type
  | none => throw (.error (.invalidReference reference))

section Entry

/-! What the program calls: its stack allows for declarations nested so deep. -/

def nesting : Nat := 3000

variable (config : Config)

def synthesize (id : DeclId) : Synth Schema := synthesizeWith config nesting id

def schemaOf (context : ScopeId) (type : TypeExpr) : Synth Schema := schemaOfWith config nesting context type

def schemaOfReference (context : ScopeId) (reference : String) : Synth Schema :=
  schemaOfReferenceWith config nesting context reference

end Entry

end Synthesis

end ApiSchema
