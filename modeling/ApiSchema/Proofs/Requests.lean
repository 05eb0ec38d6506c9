import ApiSchema.Proofs.Closure

/-! Requests to a generator, one after another. Placeholders are put into the table of definitions
and taken out of it while a request is served, and a failure undoes part of what was made; but all
of this concerns what the request itself has made. Between requests the table and the memo only
grow, and nothing is under way. -/

namespace ApiSchema

open Steps

/-- Different declarations have different names. -/
theorem Registry.unshared_of_nodup {r : Registry} (distinct : (r.names.map Prod.snd).Nodup)
    (name : String) : ¬r.Shared name := by
  rintro ⟨a, b, apart, first, second⟩
  have member {id : DeclId} (named : r.Named id name) : (id, name) ∈ r.names := by
    obtain ⟨before, after, split, _⟩ := List.lookup_eq_some_iff.mp named
    simp [split]
  exact apart (congrArg Prod.fst (List.inj_on_of_nodup_map distinct (member first) (member second) rfl))

namespace Synthesis

open Generator (Consistent Advances givenUp)

inductive Request where
  | reference (context : ScopeId) (text : String)
  | type (context : ScopeId) (expr : TypeExpr)
  | declaration (id : DeclId)
deriving DecidableEq

def Request.serve (config : Config) (fuel : Nat) : Request → Synth Schema
  | reference context text => schemaOfReferenceWith config fuel context text
  | type context expr => schemaOfWith config fuel context expr
  | declaration id => synthesizeWith config fuel id

/-- States of a generator between requests of any kind, whether these succeeded, failed or ran out
of fuel. -/
inductive Reached (config : Config) : Generator → Prop where
  | fresh (s : Resolver) : Reached config { resolver := s }
  | served {g : Generator} (fuel : Nat) (request : Request) (reached : Reached config g) :
      Reached config (after (request.serve config fuel) g).2

section Passing

variable {c : Contract Failure Generator} {good : Schema → Generator → Prop}
  {fit : Members → Generator → Prop} {config : Config}

/-- A request meets what the synthesis of declarations meets. -/
theorem serve_meets (law : Law config c good fit) (fuel : Nat)
    (each : ∀ id, Meets c (synthesizeWith config fuel id) good) (request : Request) :
    Meets (lenient c) (request.serve config fuel) good := by
  intro g holds
  cases request with
  | reference context text => exact schemaOfReference_meets law each context text g holds
  | type context expr => exact exprSchema_meets law.uses each context expr g holds
  | declaration id => exact lenient_of_meets (each id g holds)

end Passing

/-- A request leaves references accounted for, and only adds to what was there. -/
theorem serve_accounted (config : Config) {lost : DeclId → Prop} {g : Generator}
    (consistent : Consistent lost g) (fuel : Nat) (request : Request) :
    Advances g (after (request.serve config fuel) g).2 ∧
      ∃ lost', Consistent lost' (after (request.serve config fuel) g).2 := by
  have meets := serve_meets (accounting_law config lost) fuel
    (synthesizeWith_accounted config lost fuel) request g consistent
  rcases run : after (request.serve config fuel) g with ⟨e | s, g'⟩
  · rcases meets.error run with ⟨_, consistent, advances⟩ | ⟨_, consistent, advances⟩
    · exact ⟨advances, _, consistent⟩
    · exact ⟨advances, _, consistent⟩
  · obtain ⟨consistent, advances, _⟩ := meets.ok run
    exact ⟨advances, _, consistent⟩

theorem idle_consistent_fresh (s : Resolver) :
    let g : Generator := { resolver := s }
    g.inProgress = [] ∧ ∃ lost, Consistent lost g :=
  ⟨rfl, fun _ => False, by constructor <;> simp [Table.get?]⟩

theorem serve_idle_consistent {config : Config} {g : Generator}
    (inv : g.inProgress = [] ∧ ∃ lost, Consistent lost g)
    (fuel : Nat) (request : Request) :
    let g' := (after (request.serve config fuel) g).2
    g'.inProgress = [] ∧ ∃ lost, Consistent lost g' := by
  obtain ⟨idle, lost, consistent⟩ := inv
  obtain ⟨advances, later⟩ := serve_accounted config consistent fuel request
  exact ⟨advances.inProgress.trans idle, later⟩

theorem Reached.idle_consistent {config : Config} {g : Generator} (reached : Reached config g) :
    g.inProgress = [] ∧ ∃ lost, Consistent lost g := by
  induction reached with
  | fresh s => exact idle_consistent_fresh s
  | served fuel request _ ih => exact serve_idle_consistent ih fuel request

/-- A further request, whether it succeeds or not, keeps every definition whose name is that of one
declaration only, keeps the whole memo, and leaves nothing under way. -/
theorem request_only_adds {config : Config} {g : Generator} (reached : Reached config g) (fuel : Nat)
    (request : Request) :
    let g' := (after (request.serve config fuel) g).2
    (∀ name s, ¬g'.registry.Shared name → g.definitions.get? name = some s →
      g'.definitions.get? name = some s) ∧
    (∀ id s, g.memo.lookup id = some s → g'.memo.lookup id = some s) ∧ g'.inProgress = [] := by
  intro g'
  obtain ⟨idle, lost, consistent⟩ := reached.idle_consistent
  have advances := (serve_accounted config consistent fuel request).1
  refine ⟨fun name s unshared found => ?_, advances.memo, advances.inProgress.trans idle⟩
  exact (advances.definitions name s found).resolve_left unshared

def entryFailed : Generator :=
  (after (schemaOfReference {} 0 "Entry") { resolver := { registry := Builder.pages } }).2

def limitFailed : Except Failure Schema × Generator :=
  after (schemaOfReference {} 0 "Limit") entryFailed

theorem request_only_adds_index :
    Reached {} entryFailed ∧ limitFailed.1.toOption = none ∧
      (∀ name, ¬limitFailed.2.registry.Shared name) ∧ entryFailed.definitions.keys = ["models.Index"] ∧
      (∀ s, entryFailed.definitions.get? "models.Index" = some s →
        limitFailed.2.definitions.get? "models.Index" = some s) ∧ limitFailed.2.inProgress = [] := by
  have reached : Reached {} entryFailed := .served nesting (.reference 0 "Entry") (.fresh _)
  have names : (limitFailed.2.registry.names.map Prod.snd).Nodup := by decide +kernel
  have unshared := Registry.unshared_of_nodup names
  have kept := request_only_adds reached nesting (.reference 0 "Limit")
  have same : after ((Request.reference 0 "Limit").serve {} nesting) entryFailed = limitFailed := rfl
  rw [same] at kept
  obtain ⟨definitions, _, idle⟩ := kept
  refine ⟨reached, by decide +kernel, unshared, by decide +kernel, ?_, idle⟩
  exact fun s => definitions "models.Index" s (unshared _)

end Synthesis

end ApiSchema
