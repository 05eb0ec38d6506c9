import ApiSchema.Proofs.RegistryGrowth
import ApiSchema.Synthesis

/-! What each step of a synthesis leaves behind. For every way in which the synthesis of a
declaration can go on there is an equation for its outcome and its last state, given the outcome
and the last state of the synthesis nested in it. -/

namespace ApiSchema

open Steps

theorem Registry.definitionName_decls (r : Registry) (id : DeclId) :
    (r.definitionName id).2.decls = r.decls := by
  unfold definitionName
  split <;> rfl

theorem Registry.definitionName_get (r : Registry) (id other : DeclId) :
    (r.definitionName id).2.get other = r.get other := by
  simp [get, get?, definitionName_decls]

namespace Generator

def registry (g : Generator) : Registry := g.resolver.registry

def nameOf (g : Generator) (id : DeclId) : String := (g.registry.definitionName id).1

def naming (id : DeclId) (g : Generator) : Generator :=
  { g with resolver := { g.resolver with registry := (g.registry.definitionName id).2 } }

/-- What is under way is left alone by the synthesis of another declaration. -/
theorem leave_inProgress {g g' : Generator} {id : DeclId} (idle : id ∉ g.inProgress)
    (nested : g'.inProgress = id :: g.inProgress) : (g'.leave id).inProgress = g.inProgress := by
  simp only [leave, nested, List.filter_cons, ne_eq, not_true_eq_false, decide_false,
    Bool.false_eq_true, if_false]
  refine List.filter_eq_self.mpr ?_
  intro other member
  have apart : other ≠ id := by
    rintro rfl
    exact idle member
  simpa using apart

theorem forgetAll_frame (entries : List (DeclId × Option String)) (g : Generator) :
    ∃ memo definitions, entries.foldl forget g = { g with memo, definitions } := by
  induction entries generalizing g with
  | nil => exact ⟨g.memo, g.definitions, rfl⟩
  | cons entry rest ih =>
    obtain ⟨memo, definitions, same⟩ := ih (g.forget entry)
    exact ⟨memo, definitions, same⟩

/-- Undoing entries of the journal touches nothing but memo and definitions. -/
theorem settle_frame (fuel : Nat) (dropped : List String) (kept : List (DeclId × Option String))
    (g : Generator) : ∃ memo definitions, (settle fuel dropped kept g).2 = { g with memo, definitions } := by
  induction fuel generalizing dropped kept g with
  | zero => exact ⟨g.memo, g.definitions, rfl⟩
  | succ fuel ih =>
    simp only [settle]
    split
    · exact ⟨g.memo, g.definitions, rfl⟩
    · obtain ⟨memo, definitions, first⟩ := forgetAll_frame (kept.filter (g.refersTo dropped)) g
      rw [first]
      exact ih _ _ _

theorem rollback_frame (mark : Nat) (failed : String) (g : Generator) :
    ∃ memo definitions journal, g.rollback mark failed = { g with memo, definitions, journal } := by
  obtain ⟨memo, definitions, same⟩ :=
    settle_frame ((g.journal.drop mark).length + 1) [failed] (g.journal.drop mark) g
  refine ⟨memo, definitions, (g.rollback mark failed).journal, ?_⟩
  simp only [rollback]
  rw [same]

end Generator

namespace Synthesis

variable {α : Type}

/-- A failure that ends the whole request; from any other a member recovers. -/
def Fatal : Failure → Prop
  | .exhausted => True
  | .error cause => cause.IsConflict

theorem after_outcome {x : Synth α} {g g' : Generator} {result : Except Failure α}
    (run : after x g = (result, g')) : after (Synth.outcome x) g = (.ok result, g') := by
  simp only [after, Synth.outcome] at run ⊢
  rw [run]

theorem after_resume (result : Except Failure α) (g : Generator) :
    after (Synth.resume result) g = (result, g) := rfl

theorem after_resolving_ok {step : Resolving α} {g : Generator} {a : α} {s : Resolver}
    (run : after step g.resolver = (.ok a, s)) :
    after (Synth.resolving step) g = (.ok a, { g with resolver := s }) := by
  simp only [after] at run
  simp only [Synth.resolving, run_bind_get, ExceptT.run, run, run_bind_set, run_pure]

theorem after_resolving_error {step : Resolving α} {g : Generator} {e : Error} {s : Resolver}
    (run : after step g.resolver = (.error e, s)) :
    after (Synth.resolving step) g = (.error (.error e), { g with resolver := s }) := by
  simp only [after] at run
  simp only [Synth.resolving, run_bind_get, ExceptT.run, run, run_bind_set, run_throw]

variable {config : Config} {synth : DeclId → Synth Schema} {context : ScopeId} {type : TypeExpr}
  {g g' : Generator}

theorem memberSchema_ok {s : Schema}
    (run : after (exprSchema config synth context type) g = (.ok s, g')) :
    after (memberSchema config synth context type) g = (.ok s, g') := by
  unfold memberSchema
  rw [run_bind_ok (after_outcome run)]
  rfl

theorem memberSchema_fatal {e : Failure} (fatal : Fatal e)
    (run : after (exprSchema config synth context type) g = (.error e, g')) :
    after (memberSchema config synth context type) g = (.error e, g') := by
  unfold memberSchema
  rw [run_bind_ok (after_outcome run)]
  cases e with
  | exhausted => rfl
  | error cause =>
    cases cause with
    | annotationConflict => rfl
    | unresolvable | arityMismatch | externalLoad | invalidReference | manifest => cases fatal

theorem memberSchema_recovers {e : Failure} (mild : ¬Fatal e)
    (run : after (exprSchema config synth context type) g = (.error e, g')) :
    after (memberSchema config synth context type) g = (.ok .object, g') := by
  unfold memberSchema
  rw [run_bind_ok (after_outcome run)]
  cases e with
  | exhausted => exact absurd trivial mild
  | error cause =>
    cases cause with
    | annotationConflict => exact absurd trivial mild
    | unresolvable | arityMismatch | externalLoad | invalidReference | manifest => rfl

theorem after_definitionName (id : DeclId) (g : Generator) :
    after (Synth.definitionName id) g = (.ok (g.nameOf id), g.naming id) := rfl

section Named

variable {id : DeclId} {name : String} {d : Declaration}

/-- The state in which the body of a struct or an enumeration is made. -/
def opened (id : DeclId) (name : String) (g : Generator) : Generator :=
  (g.define name .object).enter id

theorem synthesizeNamed_error {e : Failure}
    (run : after (bodySchema config synth d) (opened id name g) = (.error e, g')) :
    after (synthesizeNamed config synth id name d) g =
      (.error e, (((g'.leave id).unforce id).undefine name).rollback g.journal.length name) := by
  rw [opened] at run
  unfold synthesizeNamed
  rw [run_bind_get, run_bind_modify, run_bind_ok (after_outcome run), run_bind_modify]
  rfl

theorem synthesizeNamed_ok {body : Schema}
    (run : after (bodySchema config synth d) (opened id name g) = (.ok body, g')) :
    after (synthesizeNamed config synth id name d) g =
      (.ok (.ref name), (((g'.leave id).unforce id).define name
        { body with description := body.description.or d.doc }).remember id (.ref name) (some name)) := by
  rw [opened] at run
  unfold synthesizeNamed
  rw [run_bind_get, run_bind_modify, run_bind_ok (after_outcome run), run_bind_modify]
  rfl

end Named

section Synonym

variable {id : DeclId} {name : String} {d : Declaration} {target : TypeExpr}

theorem synthesizeSynonym_error {e : Failure}
    (run : after (memberSchema config synth d.scope target) (g.enter id) = (.error e, g')) :
    after (synthesizeSynonym config synth id name d target) g = (.error e, g'.leave id) := by
  unfold synthesizeSynonym
  rw [run_bind_modify, run_bind_ok (after_outcome run), run_bind_modify]
  rfl

def synonymBody (d : Declaration) (body : Schema) : Schema :=
  if !body.isRef && body.description.isNone then { body with description := d.doc } else body

def Inline (config : Config) (id : DeclId) (body : Schema) (g : Generator) : Prop :=
  (!g.forced.contains id && !body.isComplex config.maxInlineDepth) = true

theorem synthesizeSynonym_inline {body : Schema} (inline : Inline config id body g')
    (run : after (memberSchema config synth d.scope target) (g.enter id) = (.ok body, g')) :
    after (synthesizeSynonym config synth id name d target) g =
      (.ok body, ((g'.leave id).unforce id).remember id body none) := by
  unfold synthesizeSynonym
  rw [run_bind_modify, run_bind_ok (after_outcome run), run_bind_modify,
    run_bind_ok (after_resume _ _), run_bind_get, run_bind_modify]
  have here : (!(g'.leave id).forced.contains id && !body.isComplex config.maxInlineDepth) = true := inline
  rw [if_pos here]
  rfl

theorem synthesizeSynonym_definition {body : Schema} (apart : ¬Inline config id body g')
    (run : after (memberSchema config synth d.scope target) (g.enter id) = (.ok body, g')) :
    after (synthesizeSynonym config synth id name d target) g =
      (.ok (.ref name), (((g'.leave id).unforce id).define name (synonymBody d body)).remember id
        (.ref name) (some name)) := by
  unfold synthesizeSynonym
  rw [run_bind_modify, run_bind_ok (after_outcome run), run_bind_modify,
    run_bind_ok (after_resume _ _), run_bind_get, run_bind_modify]
  have here : ¬(!(g'.leave id).forced.contains id && !body.isComplex config.maxInlineDepth) = true := apart
  rw [if_neg here]
  rfl

end Synonym

section One

variable {id : DeclId}

theorem synthesizeOne_memo {s : Schema} (found : g.memo.lookup id = some s) :
    after (synthesizeOne config synth id) g = (.ok s, g) := by
  unfold synthesizeOne
  rw [run_bind_get]
  simp only [found]
  rfl

/-- A declaration that is under way is referred to. -/
theorem synthesizeOne_cycle (fresh : g.memo.lookup id = none) (busy : id ∈ g.inProgress) :
    after (synthesizeOne config synth id) g = (.ok (.ref (g.nameOf id)), (g.naming id).force id) := by
  unfold synthesizeOne
  rw [run_bind_get]
  simp only [fresh]
  rw [run_bind_ok (after_definitionName id g), run_bind_get]
  have here : (g.naming id).inProgress.contains id = true := List.contains_iff_mem.mpr busy
  rw [if_pos here]
  rfl

/-- Any other declaration is synthesized by the rule for its body. -/
theorem synthesizeOne_start (fresh : g.memo.lookup id = none) (idle : id ∉ g.inProgress) :
    after (synthesizeOne config synth id) g =
      after (match (g.registry.get id).body with
        | .synonym target => synthesizeSynonym config synth id (g.nameOf id) (g.registry.get id) target
        | .interface => pure { Schema.object with description := (g.registry.get id).doc }
        | _ => synthesizeNamed config synth id (g.nameOf id) (g.registry.get id)) (g.naming id) := by
  unfold synthesizeOne
  rw [run_bind_get]
  simp only [fresh]
  rw [run_bind_ok (after_definitionName id g), run_bind_get]
  have here : ¬(g.naming id).inProgress.contains id = true := fun busy =>
    idle (List.contains_iff_mem.mp busy)
  rw [if_neg here, run_bind_get]
  have same : (g.naming id).resolver.registry.get id = g.registry.get id :=
    Registry.definitionName_get g.registry id id
  cases body : (g.registry.get id).body <;> simp only [same, body]

end One

end Synthesis

end ApiSchema
