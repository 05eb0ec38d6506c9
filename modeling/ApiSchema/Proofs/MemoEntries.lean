import ApiSchema.Proofs.EarlierNames
import ApiSchema.Proofs.UseShapes
import Mathlib.Logic.Function.Iterate

/-! What stands in the memo, at any moment of a run. A declaration is used by a reference to its
definition and nothing else, unless it is a synonym that is written out, which has come to nested arrays of
a scalar, no more of them than may be nested. So undoing never has to look into what is written out. -/

namespace ApiSchema

namespace Schema

/-- What is used and is not complex is a scalar in no more arrays than may be nested. -/
theorem Used.arrays {s : Schema} (used : s.Used) {depth : Nat} (simple : s.isComplex depth = false) :
    ∃ k ≤ depth, ∃ p, s = Schema.array^[k] (.ofPrimitive p) := by
  induction used generalizing depth with
  | ref name => simp at simple
  | object doc => simp at simple
  | map _ _ => simp at simple
  | primitive p => exact ⟨0, depth.zero_le, p, rfl⟩
  | @array inner _ ih =>
    cases depth with
    | zero => simp [isComplex_array_zero] at simple
    | succ depth =>
      obtain ⟨k, small, p, rfl⟩ := ih (isComplex_array_succ inner depth ▸ simple)
      exact ⟨k + 1, Nat.succ_le_succ small, p, (Function.iterate_succ_apply' Schema.array k _).symm⟩

theorem refs_arrays (k : Nat) (s : Schema) : (array^[k] s).refs = s.refs := by
  induction k with
  | zero => rfl
  | succ k ih => rw [Function.iterate_succ_apply', refs_array, ih]

end Schema

namespace Synthesis

open Steps
open Registry (Shape)

/-- The states of a generator in the course of a run: between requests, however these ended, and inside
them, where declarations have been begun, types are resolved and nested types are asked for. -/
inductive InRun (config : Config) : Generator → Prop where
  | fresh (s : Resolver) : InRun config { resolver := s }
  | served {g : Generator} (before : InRun config g) (fuel : Nat) (request : Request) :
      InRun config (after (request.serve config fuel) g).2
  | resolved {g : Generator} (before : InRun config g) (context : ScopeId) (type : TypeExpr) :
      InRun config (after (Synth.resolving (Resolver.resolveExpr config.parseDependencies context type)) g).2
  | opened {g : Generator} (before : InRun config g) {id : DeclId} (fresh : g.memo.lookup id = none)
      (idle : id ∉ g.inProgress) (solid : (g.registry.get id).body ≠ .interface)
      (kind : ∀ target, (g.registry.get id).body ≠ .synonym target) :
      InRun config (opened id (g.nameOf id) (g.naming id))
  | entered {g : Generator} (before : InRun config g) {id : DeclId} (fresh : g.memo.lookup id = none)
      (idle : id ∉ g.inProgress) {target : TypeExpr} (synonym : (g.registry.get id).body = .synonym target) :
      InRun config ((g.naming id).enter id)

variable {config : Config} {g : Generator}

/-- A declaration may be begun that is neither in the memo nor under way. -/
theorem ready_of_fresh {id : DeclId} (fresh : g.memo.lookup id = none) (idle : id ∉ g.inProgress)
    (solid : (g.registry.get id).body ≠ .interface) : Generator.Ready id (g.nameOf id) (g.naming id) := by
  have same : (g.naming id).registry.get id = g.registry.get id := Registry.definitionName_get g.registry id id
  exact ⟨Registry.definitionName_named _ _, fresh, idle, by rwa [same]⟩

theorem InRun.shaped (run : InRun config g) : Shaped config.maxInlineDepth g := by
  induction run with
  | fresh s => exact .fresh s
  | served _ fuel request ih => exact ih.served fuel request
  | @resolved g _ context type ih =>
    have meets := shaping_resolves config config.maxInlineDepth context type g ih
    rcases run : after (Synth.resolving (Resolver.resolveExpr config.parseDependencies context type)) g with
      ⟨e | x, g'⟩
    · rcases meets.error run with ⟨_, shaped, _⟩ | ⟨_, shaped, _⟩
      · exact shaped
      · exact shaped
    · exact (meets.ok run).1
  | @opened g _ id fresh idle solid _ ih =>
    have named : Shaped config.maxInlineDepth (g.naming id) := ih.grows (Registry.definitionName_grows _ id)
    exact named.begun (ready_of_fresh fresh idle solid) (Generator.begun_opened id (g.nameOf id) _)
  | @entered g _ id fresh idle target synonym ih =>
    have named : Shaped config.maxInlineDepth (g.naming id) := ih.grows (Registry.definitionName_grows _ id)
    have ready := ready_of_fresh fresh idle (by simp [synonym])
    exact named.begun ready (Generator.begun_enter id (g.nameOf id) _)

/-- Wherever a run has got to, an entry of the memo is just the reference to the declaration's definition,
or it is that of a synonym and has no references: a scalar in at most as many arrays as may be nested.
Structs and enumerations always have the reference. -/
theorem memo_entry (run : InRun config g) {id : DeclId} {s : Schema} (found : g.memo.lookup id = some s) :
    (s = .ref (g.registry.definitionName id).1 ∨
      (∃ target, (g.registry.get id).body = .synonym target) ∧
        (∃ k ≤ config.maxInlineDepth, ∃ p, s = Schema.array^[k] (.ofPrimitive p)) ∧ s.refs = []) ∧
    ((∀ target, (g.registry.get id).body ≠ .synonym target) → s = .ref (g.registry.definitionName id).1) := by
  have shape : Shape config.maxInlineDepth g.registry id s := run.shaped.memo found
  cases shape with
  | @reference name named =>
    have same : (g.registry.definitionName id).1 = name := by
      rw [Registry.definitionName_eq, show g.registry.names.lookup id = some name from named]
      rfl
    rw [same]
    exact ⟨.inl rfl, fun _ => rfl⟩
  | inline synonym used simple =>
    obtain ⟨k, small, p, rfl⟩ := used.arrays simple
    refine ⟨.inr ⟨⟨_, synonym⟩, ⟨k, small, p, rfl⟩, ?_⟩, fun other => absurd synonym (other _)⟩
    rw [Schema.refs_arrays, Schema.refs_ofPrimitive]

def sheets : Registry :=
  (Registry.empty.addScope ⟨"src/models.rs", "crate::models", []⟩).insertAll
    [Builder.declared "Grid" (.synonym (.array (.array (.primitive .f32)))),
      Builder.declared "Cell" (.struct []),
      Builder.declared "Sheet" (.struct [Builder.member "grid" (.named ["Grid"] []) [],
        Builder.member "cell" (.named ["Cell"] []) []])]

def sheetVisited : Generator :=
  let g : Generator := { resolver := { registry := sheets } }
  let begun := opened 2 (g.nameOf 2) (g.naming 2)
  let grid := (after (schemaOf {} 0 (.named ["Grid"] [])) begun).2
  (after (schemaOf {} 0 (.named ["Cell"] [])) grid).2

theorem memo_entry_sheet :
    InRun {} sheetVisited ∧ sheetVisited.inProgress = [2] ∧
      (∃ s, sheetVisited.memo.lookup 0 = some s ∧ (s = .ref (sheetVisited.registry.definitionName 0).1 ∨
        (∃ target, (sheetVisited.registry.get 0).body = .synonym target) ∧
          (∃ k ≤ 2, ∃ p, s = Schema.array^[k] (.ofPrimitive p)) ∧ s.refs = [])) ∧
      ∃ s, sheetVisited.memo.lookup 1 = some s ∧ s = .ref (sheetVisited.registry.definitionName 1).1 := by
  have struct : (sheets.get 2).body = .struct [Builder.member "grid" (.named ["Grid"] []) [],
    Builder.member "cell" (.named ["Cell"] []) []] := rfl
  have begun (g : Generator) (same : g = { resolver := { registry := sheets } }) :
      InRun {} (opened 2 (g.nameOf 2) (g.naming 2)) := by
    subst same
    refine .opened (.fresh _) rfl (by simp) ?_ ?_
    · exact fun body => by cases struct.symm.trans body
    · exact fun target body => by cases struct.symm.trans body
  have run : InRun {} sheetVisited :=
    ((begun _ rfl).served nesting (.type 0 (.named ["Grid"] []))).served nesting (.type 0 (.named ["Cell"] []))
  have grid : (sheetVisited.memo.lookup 0).isSome := by decide +kernel
  have cell : (sheetVisited.memo.lookup 1).isSome := by decide +kernel
  obtain ⟨x, found⟩ := Option.isSome_iff_exists.mp grid
  obtain ⟨y, found'⟩ := Option.isSome_iff_exists.mp cell
  have kind : ∀ target, (sheetVisited.registry.get 1).body ≠ .synonym target := by
    have same : sheetVisited.registry.get 1 = sheets.get 1 := rfl
    exact fun target body => by cases same ▸ body
  exact ⟨run, by decide +kernel, ⟨x, found, (memo_entry run found).1⟩, y, found',
    (memo_entry run found').2 kind⟩

end Synthesis

end ApiSchema
