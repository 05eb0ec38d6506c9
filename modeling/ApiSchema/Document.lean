import ApiSchema.Manifest
import ApiSchema.Schema

/-! API documents, and the pruning of definitions that no operation reaches. -/

namespace ApiSchema

namespace Document

structure Info where
  title : String
  version : String
  description : Option String
deriving DecidableEq, Repr

structure Parameter where
  name : String
  location : Location
  required : Bool
  schema : Schema
  description : Option String

structure RequestBody where
  description : Option String
  required : Bool
  /-- Schemas by content type. -/
  content : Table Schema

structure Response where
  description : String
  content : Option (Table Schema)

structure Operation where
  tags : List String
  summary : Option String
  description : Option String
  operationId : Option String
  parameters : Option (List Parameter)
  requestBody : Option RequestBody
  /-- Responses by status. -/
  responses : Table Response

/-- The operations of one path, at most one for each method. -/
structure PathItem where
  slot : Method → Option Operation

namespace PathItem

def empty : PathItem := ⟨fun _ => none⟩

def set (item : PathItem) (method : Method) (operation : Operation) : PathItem :=
  ⟨fun m => if m = method then some operation else item.slot m⟩

def operations (item : PathItem) : List Operation := Method.all.filterMap item.slot

end PathItem

/-- Schemas an operation mentions itself. -/
def Operation.schemas (op : Operation) : List Schema :=
  (op.parameters.getD []).map Parameter.schema ++
    (op.requestBody.map fun body => body.content.values).getD [] ++
    op.responses.values.flatMap fun response => (response.content.map Table.values).getD []

end Document

structure Document where
  openapi : String
  info : Document.Info
  paths : Table Document.PathItem
  /-- Components, which may be there without definitions. -/
  components : Option (Option (Table Schema))

namespace Document

/-- Names the operations refer to, with repetitions. -/
def roots (d : Document) : List String :=
  d.paths.values.flatMap fun item =>
    item.operations.flatMap fun op => op.schemas.flatMap Schema.refs

/-- Names a definition refers to. -/
def successors (definitions : Table Schema) (name : String) : List String :=
  ((definitions.get? name).map Schema.refs).getD []

/-- How many definitions have names that were not reached so far. -/
def unvisited (definitions : Table Schema) (reached : List String) : Nat :=
  definitions.entries.countP fun entry => entry.1 ∉ reached

theorem unvisited_cons_le (definitions : Table Schema) (name : String) (reached : List String) :
    unvisited definitions (name :: reached) ≤ unvisited definitions reached := by
  apply List.countP_mono_left
  intro entry _ fresh
  simp_all

theorem unvisited_cons_lt (definitions : Table Schema) (name : String) (reached : List String)
    (fresh : name ∉ reached) (defined : definitions.get? name ≠ none) :
    unvisited definitions (name :: reached) < unvisited definitions reached := by
  obtain ⟨entries⟩ := definitions
  simp only [Table.get?, ne_eq, Option.map_eq_none_iff] at defined
  induction entries with
  | nil => simp at defined
  | cons entry rest ih =>
    by_cases same : entry.1 = name
    · have later := unvisited_cons_le ⟨rest⟩ name reached
      simp [unvisited, same, fresh] at later ⊢
      omega
    · have later := ih (by simpa [same] using defined)
      simp [unvisited, List.countP_cons, same] at later ⊢
      omega

/-- Names reached from `pending` beside those in `reached`. The first pending name is taken; if it
is new, names its definition refers to become pending. No definition is read twice, so the work
ends however definitions refer to each other. -/
def visit (definitions : Table Schema) (reached pending : List String) : List String :=
  match pending with
  | [] => reached
  | name :: pending =>
    if name ∈ reached then visit definitions reached pending
    else
      let fresh := (successors definitions name).filter fun next => next ∉ name :: reached
      visit definitions (name :: reached) (pending ++ fresh)
termination_by (unvisited definitions reached, pending.length)
decreasing_by
  · exact Prod.Lex.right _ (by simp)
  · next new =>
    by_cases defined : definitions.get? name = none
    · refine Prod.Lex.right' _ (unvisited_cons_le definitions name reached) ?_
      simp [successors, defined]
    · exact Prod.Lex.left _ _ (unvisited_cons_lt definitions name reached new defined)

/-- Names reached from `names` in any number of steps. -/
def reachable (definitions : Table Schema) (names : List String) : List String :=
  visit definitions [] names

/-- Keep the definitions that operations reach, directly or through others. A document without
paths or without definitions stays as it is. -/
def prune (d : Document) : Document :=
  match d.components with
  | some (some definitions) =>
    if d.paths.isEmpty then d
    else
      let kept := reachable definitions d.roots
      { d with components := some (some (definitions.filter kept.contains)) }
  | _ => d

end Document

end ApiSchema
