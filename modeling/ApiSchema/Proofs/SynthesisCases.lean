import ApiSchema.Proofs.SynthesisRules

/-! The ways a declaration can be synthesized, gone through once. It is done, or under way, or it is
begun; and one that was begun becomes a definition, is written out, is undone or is given up. What
a contract owes in each of these cases is a field of `EachCaseKeeps`, and then it is met by the synthesis
of every declaration. -/

namespace ApiSchema

open Steps

def Registry.Named (r : Registry) (id : DeclId) (name : String) : Prop := r.names.lookup id = some name

namespace Generator

structure Ready (id : DeclId) (name : String) (g : Generator) : Prop where
  named : g.registry.Named id name
  fresh : g.memo.lookup id = none
  idle : id ∉ g.inProgress
  body : (g.registry.get id).body ≠ .interface

/-- The state in which a declaration is begun: it is on the stack, and its name may have got a
placeholder. -/
structure Begun (id : DeclId) (name : String) (placed : Bool) (g s : Generator) : Prop where
  registry : s.registry = g.registry
  memo : s.memo = g.memo
  inProgress : s.inProgress = id :: g.inProgress
  forced : s.forced = g.forced
  journal : s.journal = g.journal
  definitions : ∀ key, s.definitions.get? key =
    if placed = true ∧ name = key then some .object else g.definitions.get? key

theorem begun_enter (id : DeclId) (name : String) (g : Generator) : Begun id name false g (g.enter id) :=
  ⟨rfl, rfl, rfl, rfl, rfl, fun _ => by simp [enter]⟩

theorem begun_opened (id : DeclId) (name : String) (g : Generator) :
    Begun id name true g (Synthesis.opened id name g) :=
  ⟨rfl, rfl, rfl, rfl, rfl, fun _ => by simp [Synthesis.opened, enter, define]⟩

structure Finished (id : DeclId) (name : String) (x : Schema) (made : Option Schema) (t u : Generator) :
    Prop where
  registry : u.registry = t.registry
  inProgress : u.inProgress = (t.leave id).inProgress
  forced : u.forced = t.forced.filter (· ≠ id)
  memo : u.memo = (id, x) :: t.memo
  definitions : ∀ key, u.definitions.get? key =
    if made ≠ none ∧ name = key then made else t.definitions.get? key
  journal : u.inProgress ≠ [] → u.journal = t.journal ++ [(id, made.map fun _ => name)]

theorem finished_definition (id : DeclId) (name : String) (x body : Schema) (t : Generator) :
    Finished id name x (some body) t
      ((((t.leave id).unforce id).define name body).remember id x (some name)) where
  registry := rfl
  inProgress := rfl
  forced := rfl
  memo := rfl
  definitions key := by simp [remember, define, unforce, leave]
  journal nested := by
    have busy : (t.leave id).inProgress.isEmpty = false := List.isEmpty_eq_false_iff.mpr nested
    simp only [remember, define, unforce, busy]
    rfl

theorem finished_inline (id : DeclId) (name : String) (x : Schema) (t : Generator) :
    Finished id name x none t (((t.leave id).unforce id).remember id x none) where
  registry := rfl
  inProgress := rfl
  forced := rfl
  memo := rfl
  definitions key := by simp [remember, unforce, leave]
  journal nested := by
    have busy : (t.leave id).inProgress.isEmpty = false := List.isEmpty_eq_false_iff.mpr nested
    simp only [remember, unforce, busy]
    rfl

section Finished

variable {id other : DeclId} {name : String} {x : Schema} {made : Option Schema} {t u : Generator}

theorem Finished.own (finished : Finished id name x made t u) : u.memo.lookup id = some x := by
  simp [finished.memo]

theorem Finished.lookup (finished : Finished id name x made t u) (apart : other ≠ id) :
    u.memo.lookup other = t.memo.lookup other := by
  have differs : (other == id) = false := by simpa using apart
  simp [finished.memo, List.lookup_cons, differs]

end Finished

theorem mem_force {id other : DeclId} {g : Generator} :
    other ∈ (g.force id).forced ↔ other = id ∨ other ∈ g.forced := by
  unfold force
  split
  · next already =>
    constructor
    · exact .inr
    · rintro (rfl | member)
      · exact List.contains_iff_mem.mp already
      · exact member
  · exact List.mem_cons

theorem force_frame (id : DeclId) (g : Generator) : ∃ forced, g.force id = { g with forced } := by
  unfold force
  split
  · exact ⟨g.forced, rfl⟩
  · exact ⟨id :: g.forced, rfl⟩

end Generator

namespace Synthesis

open Generator (Ready Begun Finished)

theorem Inline.unforced {config : Config} {id : DeclId} {body : Schema} {g : Generator}
    (inline : Inline config id body g) : id ∉ g.forced := by
  intro forced
  simp only [Inline, Bool.and_eq_true, Bool.not_eq_true'] at inline
  rw [List.contains_iff_mem.mpr forced] at inline
  cases inline.1

theorem Inline.simple {config : Config} {id : DeclId} {body : Schema} {g : Generator}
    (inline : Inline config id body g) : body.isComplex config.maxInlineDepth = false := by
  simp only [Inline, Bool.and_eq_true, Bool.not_eq_true'] at inline
  exact inline.2

structure BegunUnder (c : Contract Failure Generator) (id : DeclId) (name : String) (placed : Bool)
    (g s : Generator) : Prop where
  holds : c.holds g
  ready : Ready id name g
  begun : Begun id name placed g s

/-- What contracts owe so that a declaration meets the outer one if those nested in it meet the
inner one. -/
structure EachCaseKeeps (inner outer : Contract Failure Generator) (good : Schema → Generator → Prop) :
    Prop where
  memo {id : DeclId} {x : Schema} {g : Generator} :
    outer.holds g → g.memo.lookup id = some x → good x g
  naming (id : DeclId) {g : Generator} :
    outer.holds g → outer.holds (g.naming id) ∧ outer.moves g (g.naming id)
  cycle {id : DeclId} {name : String} {g : Generator} :
    outer.holds g → g.registry.Named id name → id ∈ g.inProgress →
      outer.holds (g.force id) ∧ outer.moves g (g.force id) ∧ good (.ref name) (g.force id)
  begun {id : DeclId} {name : String} {placed : Bool} {g s : Generator} :
    BegunUnder outer id name placed g s → inner.holds s
  defined {id : DeclId} {name : String} {placed : Bool} {body : Schema} {g s t u : Generator} :
    BegunUnder outer id name placed g s → inner.holds t → inner.moves s t → good body t →
      Finished id name (.ref name) (some body) t u →
      outer.holds u ∧ outer.moves g u ∧ good (.ref name) u
  inlined {id : DeclId} {name : String} {body : Schema} {g s t u : Generator} :
    BegunUnder outer id name false g s → inner.holds t → inner.moves s t → good body t →
      id ∉ t.forced → Finished id name body none t u →
      outer.holds u ∧ outer.moves g u ∧ good body u
  undone {id : DeclId} {name : String} {e : Failure} {g s t : Generator} :
    BegunUnder outer id name true g s → inner.fails e s t → outer.fails e g
      ((((t.leave id).unforce id).undefine name).rollback g.journal.length name)
  abandoned {id : DeclId} {name : String} {e : Failure} {g s t : Generator} :
    BegunUnder outer id name false g s → inner.fails e s t → outer.fails e g (t.leave id)

/-- What contracts owe in detail: `member` is what is known of the schema of a member's type from the
states before and after it was made, and `use` the same for a declaration. -/
structure EachCaseYields (config : Config) (inner outer : Contract Failure Generator)
    (member : ScopeId → TypeExpr → Generator → Schema → Generator → Prop)
    (good : Schema → Generator → Prop) (use : DeclId → Generator → Schema → Generator → Prop) :
    Prop where
  memo {id : DeclId} {x : Schema} {g : Generator} :
    outer.holds g → g.memo.lookup id = some x → use id g x g
  naming (id : DeclId) {g : Generator} :
    outer.holds g → outer.holds (g.naming id) ∧ outer.moves g (g.naming id)
  onward {id : DeclId} {x : Schema} {g g' : Generator} :
    outer.holds g → use id (g.naming id) x g' → use id g x g'
  cycle {id : DeclId} {name : String} {g : Generator} :
    outer.holds g → g.memo.lookup id = none → g.registry.Named id name → id ∈ g.inProgress →
      outer.holds (g.force id) ∧ outer.moves g (g.force id) ∧ use id g (.ref name) (g.force id)
  interface {id : DeclId} {g : Generator} :
    outer.holds g → (g.registry.get id).body = .interface →
      use id g { Schema.object with description := (g.registry.get id).doc } g
  begun {id : DeclId} {name : String} {placed : Bool} {g s : Generator} :
    BegunUnder outer id name placed g s → inner.holds s
  named {id : DeclId} {name : String} {body : Schema} {g s t u : Generator} :
    BegunUnder outer id name true g s → (∀ target, (g.registry.get id).body ≠ .synonym target) →
      inner.holds t → inner.moves s t → good body t →
      Finished id name (.ref name)
        (some { body with description := body.description.or (g.registry.get id).doc }) t u →
      outer.holds u ∧ outer.moves g u ∧ use id g (.ref name) u
  outlined {id : DeclId} {name : String} {target : TypeExpr} {body : Schema} {g s t u : Generator} :
    BegunUnder outer id name false g s → (g.registry.get id).body = .synonym target →
      inner.holds t → inner.moves s t → member (g.registry.get id).scope target s body t →
      ¬Inline config id body t →
      Finished id name (.ref name) (some (synonymBody (g.registry.get id) body)) t u →
      outer.holds u ∧ outer.moves g u ∧ use id g (.ref name) u
  inlined {id : DeclId} {name : String} {target : TypeExpr} {body : Schema} {g s t u : Generator} :
    BegunUnder outer id name false g s → (g.registry.get id).body = .synonym target →
      inner.holds t → inner.moves s t → member (g.registry.get id).scope target s body t →
      Inline config id body t → Finished id name body none t u →
      outer.holds u ∧ outer.moves g u ∧ use id g body u
  undone {id : DeclId} {name : String} {e : Failure} {g s t : Generator} :
    BegunUnder outer id name true g s → inner.fails e s t → outer.fails e g
      ((((t.leave id).unforce id).undefine name).rollback g.journal.length name)
  abandoned {id : DeclId} {name : String} {e : Failure} {g s t : Generator} :
    BegunUnder outer id name false g s → inner.fails e s t → outer.fails e g (t.leave id)

section EachCaseYields

variable {inner outer : Contract Failure Generator} {config : Config} {synth : DeclId → Synth Schema}
  {member : ScopeId → TypeExpr → Generator → Schema → Generator → Prop}
  {good : Schema → Generator → Prop} {use : DeclId → Generator → Schema → Generator → Prop}
  (owed : EachCaseYields config inner outer member good use) {id : DeclId} {name : String} {g : Generator}

include owed

theorem synthesizeNamed_handled
    (bodies : ∀ d g, inner.holds g → MeetsAt inner (bodySchema config synth d) g good)
    (holds : outer.holds g) (ready : Ready id name g)
    (kind : ∀ target, (g.registry.get id).body ≠ .synonym target) :
    MeetsAt outer (synthesizeNamed config synth id name (g.registry.get id)) g (use id g) := by
  have within : BegunUnder outer id name true g (opened id name g) :=
    ⟨holds, ready, Generator.begun_opened id name g⟩
  have body := bodies (g.registry.get id) (opened id name g) (owed.begun within)
  rcases run : after (bodySchema config synth (g.registry.get id)) (opened id name g) with ⟨e | x, t⟩
  · exact .of_error (synthesizeNamed_error run) (owed.undone within (body.error run))
  · obtain ⟨later, moves, result⟩ := body.ok run
    obtain ⟨holds, moves, result⟩ :=
      owed.named within kind later moves result (Generator.finished_definition _ _ _ _ t)
    exact .of_ok (synthesizeNamed_ok run) holds moves result

theorem synthesizeSynonym_handled
    (members : ∀ context type g, inner.holds g →
      MeetsAt inner (memberSchema config synth context type) g (member context type g))
    {target : TypeExpr} (holds : outer.holds g) (ready : Ready id name g)
    (kind : (g.registry.get id).body = .synonym target) :
    MeetsAt outer (synthesizeSynonym config synth id name (g.registry.get id) target) g (use id g) := by
  have within : BegunUnder outer id name false g (g.enter id) :=
    ⟨holds, ready, Generator.begun_enter id name g⟩
  have made := members (g.registry.get id).scope target (g.enter id) (owed.begun within)
  rcases run : after (memberSchema config synth (g.registry.get id).scope target) (g.enter id) with
    ⟨e | body, t⟩
  · exact .of_error (synthesizeSynonym_error run) (owed.abandoned within (made.error run))
  · obtain ⟨later, moves, result⟩ := made.ok run
    by_cases inline : Inline config id body t
    · obtain ⟨holds, moves, result⟩ := owed.inlined within kind later moves result inline
        (Generator.finished_inline id name body t)
      exact .of_ok (synthesizeSynonym_inline inline run) holds moves result
    · obtain ⟨holds, moves, result⟩ := owed.outlined within kind later moves result inline
        (Generator.finished_definition _ _ _ _ t)
      exact .of_ok (synthesizeSynonym_definition inline run) holds moves result

theorem synthesizeOne_handled
    (bodies : ∀ d g, inner.holds g → MeetsAt inner (bodySchema config synth d) g good)
    (members : ∀ context type g, inner.holds g →
      MeetsAt inner (memberSchema config synth context type) g (member context type g))
    (id : DeclId) (g : Generator) (holds : outer.holds g) :
    MeetsAt outer (synthesizeOne config synth id) g (use id g) := by
  cases found : g.memo.lookup id with
  | some x => exact .of_ok (synthesizeOne_memo found) holds (outer.refl g) (owed.memo holds found)
  | none =>
    obtain ⟨later, moves⟩ := owed.naming id holds
    have named : (g.naming id).registry.Named id (g.nameOf id) := Registry.definitionName_named _ _
    by_cases busy : id ∈ g.inProgress
    · obtain ⟨holds', forced, result⟩ := owed.cycle later found named busy
      exact .of_ok (synthesizeOne_cycle found busy) holds' (outer.trans moves forced)
        (owed.onward holds result)
    · have same : (g.naming id).registry.get id = g.registry.get id :=
        Registry.definitionName_get g.registry id id
      have ready (body : (g.registry.get id).body ≠ .interface) :
          Ready id (g.nameOf id) (g.naming id) := ⟨named, found, busy, same ▸ body⟩
      have started : MeetsAt outer (synthesizeOne config synth id) g (use id (g.naming id)) := by
        refine .onward (synthesizeOne_start found busy) moves ?_
        rw [← same]
        split
        · next body =>
          exact synthesizeSynonym_handled owed members later (ready (by simp [← same, body])) body
        · next body => exact .pure later (owed.interface later body)
        · next synonym interface =>
          refine synthesizeNamed_handled owed bodies later (ready ?_) fun target => ?_
          · exact fun body => interface (same ▸ body)
          · exact synonym target
      exact started.imp fun x t _ _ result => owed.onward holds result

end EachCaseYields

section Passing

variable {inner outer : Contract Failure Generator} {good : Schema → Generator → Prop}
  {fit : Members → Generator → Prop} {config : Config} {synth : DeclId → Synth Schema}
  (law : Law config inner good fit) (owed : EachCaseKeeps inner outer good)
  (each : ∀ id, Meets inner (synth id) good)

include law owed

/-- A property of schemas that is the same wherever they come from. -/
theorem EachCaseKeeps.yields : EachCaseYields config inner outer (fun _ _ _ => good) good fun _ _ => good where
  memo := owed.memo
  naming := owed.naming
  onward _ result := result
  cycle holds _ := owed.cycle holds
  interface _ _ := (law.builds _).object _
  begun := owed.begun
  named within _ later moves result finished :=
    owed.defined within later moves ((law.builds _).described _ result) finished
  outlined {id name target body g s t u} within _ later moves result _ finished := by
    have described : good (synonymBody (g.registry.get id) body) t := by
      unfold synonymBody
      split
      · exact (law.builds t).described _ result
      · exact result
    exact owed.defined within later moves described finished
  inlined within _ later moves result inline := owed.inlined within later moves result inline.unforced
  undone := owed.undone
  abandoned := owed.abandoned

include each

theorem synthesizeOne_meets (id : DeclId) : Meets outer (synthesizeOne config synth id) good :=
  synthesizeOne_handled (owed.yields law) (bodySchema_meets law each)
    (memberSchema_meets law.uses each) id

end Passing

/-- A contract that passes through a declaration unchanged is met with any fuel. -/
theorem synthesizeWith_meets {c : Contract Failure Generator} {good : Schema → Generator → Prop}
    {fit : Members → Generator → Prop} {config : Config} (law : Law config c good fit)
    (owed : EachCaseKeeps c c good) (exhausted : ∀ {g}, c.holds g → c.fails .exhausted g g) (fuel : Nat)
    (id : DeclId) : Meets c (synthesizeWith config fuel id) good := by
  induction fuel generalizing id with
  | zero => exact fun g holds => .throw (exhausted holds)
  | succ fuel ih => exact synthesizeOne_meets law owed ih id

end Synthesis

end ApiSchema
