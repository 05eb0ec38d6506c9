import ApiSchema.Proofs.EarlierNames
import ApiSchema.Proofs.Flattening
import ApiSchema.Proofs.RepeatedRequests

/-! Synonyms and what they stand for, where they are used. -/

namespace ApiSchema

open Steps
open Text (Undashed Unmarked)

namespace TypeExpr

/-- What is left of a type without its wrappers, arrays and maps; a function and a parameter may be
anything. -/
def core : TypeExpr → TypeExpr
  | .optional inner | .pointer inner | .array inner | .map _ inner => inner.core
  | .function | .param _ => .interface
  | other => other

def wrap : TypeExpr → Schema → Schema
  | .optional inner, s | .pointer inner, s => inner.wrap s
  | .array inner, s => .array (inner.wrap s)
  | .map _ value, s => .map (value.wrap s)
  | _, s => s

end TypeExpr

namespace Schema

def Simple (s : Schema) : Prop := ∃ depth, s.isComplex depth = false

theorem not_simple_ref (name : String) : ¬(ref name).Simple := by simp [Simple]

theorem not_simple_object (doc : Option String) : ¬Simple { object with description := doc } := by
  simp [Simple]

theorem simple_of_wrap {type : TypeExpr} {s : Schema} (simple : (type.wrap s).Simple) : s.Simple := by
  induction type using TypeExpr.nesting_induction with
  | optional inner ih | pointer inner ih => exact ih simple
  | array inner ih =>
    obtain ⟨_ | depth, simple⟩ := simple
    · cases simple
    · exact ih ⟨depth, simple⟩
  | map key value =>
    obtain ⟨depth, simple⟩ := simple
    simp [TypeExpr.wrap] at simple
  | primitive | named | param | interface | function | resolved => exact simple

end Schema

namespace Synthesis

open Registry (Clean Grows Orderly OnlyMarkedAdded)

section Core

variable {context : ScopeId} {type : TypeExpr} {s later : Resolver}

theorem mem_names_core {name : String} (member : name ∈ type.core.names) : name ∈ type.names := by
  induction type using TypeExpr.nesting_induction with
  | optional inner ih | pointer inner ih | array inner ih => exact ih member
  | map key value ih => exact List.mem_append_right _ (ih member)
  | param | function => simp [TypeExpr.core, TypeExpr.names] at member
  | primitive | named | interface | resolved => exact member

/-- What a type denoted it denotes again, and the state stays as it is. -/
theorem resolveExpr_stable (clean : Clean s.registry) (written : ∀ name ∈ type.names, Unmarked name)
    (added : OnlyMarkedAdded s.registry later.registry) (orderly : Orderly later.registry)
    (grows : Grows (after (Resolver.resolveExpr false context type) s).2.registry later.registry) :
    after (Resolver.resolveExpr false context type) later =
      ((after (Resolver.resolveExpr false context type) s).1, later) := by
  induction type using TypeExpr.nesting_induction with
  | optional inner ih | pointer inner ih => exact ih written grows
  | named segments args => exact Resolver.resolveExpr_again clean written added orderly grows
  | array | map | primitive | param | interface | function | resolved => rfl

/-- A declaration that a name denotes is a known one. -/
theorem resolveExpr_registered {segments : List String} {args : List TypeExpr} {id : DeclId}
    (orderly : Orderly later.registry)
    (run : after (Resolver.resolveExpr false context (.named segments args)) s = (.ok (.declaration id), later)) :
    id < later.registry.size := by
  change after (Resolver.resolveApplied false context segments _ _) s = _ at run
  rw [Resolver.resolveApplied_run] at run
  rcases path : Resolver.resolvePath false context segments s with ⟨e | p | _ | generic, t⟩
  · rw [path] at run
    cases run
  · rw [path] at run
    cases run
  · rw [path] at run
    cases run
  · rw [path] at run
    dsimp only at run
    split at run
    · split at run
      · cases run
      · next args u _ =>
        rcases made : u.registry.instantiate generic args with ⟨e | other, r⟩
        · rw [made] at run
          cases run
        · rw [made] at run
          cases run
          obtain ⟨_, _, found⟩ := Registry.instantiate_found made
          obtain ⟨d, own, _⟩ := (orderly.filed _ _ id).mp found
          exact (List.getElem?_eq_some_iff.mp own).1
    · cases run
      have registered := @Resolver.resolvePath_registered false context s segments
      rw [path] at registered
      exact registered orderly id rfl

end Core

section Denote

variable {config : Config} {synth : DeclId → Synth Schema} {context : ScopeId} {type : TypeExpr}
  {g g' : Generator} {s later : Resolver}

/-- The schema of a type is that of what its core denotes, in the type's arrays and maps. -/
theorem exprSchema_denote (off : config.parseDependencies = false) :
    after (exprSchema config synth context type) g =
      match after (Resolver.resolveExpr false context type.core) g.resolver with
      | (.error e, s) => (.error (.error e), { g with resolver := s })
      | (.ok a, s) =>
        ((after (resolutionSchema synth a) { g with resolver := s }).1.map type.wrap,
          (after (resolutionSchema synth a) { g with resolver := s }).2) := by
  induction type using TypeExpr.nesting_induction with
  | optional inner ih | pointer inner ih => exact ih
  | array inner ih | map _ inner ih =>
    rw [exprSchema, run_map, ih]
    change _ = match after (Resolver.resolveExpr false context inner.core) g.resolver with
      | (.error e, s) => _ | (.ok a, s) => _
    rcases after (Resolver.resolveExpr false context inner.core) g.resolver with ⟨e | a, s⟩
    · rfl
    · dsimp only
      cases (after (resolutionSchema synth a) { g with resolver := s }).1 <;> rfl
  | named segments args =>
    rw [exprSchema, off]
    change _ = match after (Resolver.resolveExpr false context (.named segments args)) g.resolver with
      | (.error e, s) => _ | (.ok a, s) => _
    rcases first : after (Resolver.resolveExpr false context (.named segments args)) g.resolver with ⟨e | a, s⟩
    · exact run_bind_error (after_resolving_error first)
    · rw [run_bind_ok (after_resolving_ok first)]
      dsimp only
      rcases after (resolutionSchema synth a) { g with resolver := s } with ⟨e | y, t⟩ <;> rfl
  | resolved id =>
    change after (synth id) g = (Except.map _ (after (synth id) g).1, (after (synth id) g).2)
    rcases after (synth id) g with ⟨e | y, t⟩ <;> rfl
  | primitive | param | interface | function => rfl

theorem exprSchema_denoted {a : Resolution} (off : config.parseDependencies = false)
    (denotes : after (Resolver.resolveExpr false context type.core) g.resolver = (.ok a, s)) :
    after (exprSchema config synth context type) g =
      ((after (resolutionSchema synth a) { g with resolver := s }).1.map type.wrap,
        (after (resolutionSchema synth a) { g with resolver := s }).2) := by
  rw [exprSchema_denote off, denotes]

/-- A member whose type denotes nothing is any object. -/
theorem memberSchema_undenoted {e : Error} (off : config.parseDependencies = false)
    (denotes : after (Resolver.resolveExpr false context type.core) g.resolver = (.error e, s)) :
    after (memberSchema config synth context type) g = (.ok .object, { g with resolver := s }) := by
  have made : after (exprSchema config synth context type) g = (.error (.error e), { g with resolver := s }) := by
    rw [exprSchema_denote off, denotes]
  have grows := Resolver.resolveExpr_onlyGrows false context type.core g.resolver trivial
  have mild : ¬Fatal (.error e) := (grows.error denotes).2
  exact memberSchema_recovers mild made

/-- A member's schema is an object if its type denotes nothing, else that of what its core denotes. -/
theorem memberSchema_denote (off : config.parseDependencies = false)
    (fatal : ∀ {id g e g'}, after (synth id) g = (.error e, g') → Fatal e) {b : Schema}
    (run : after (memberSchema config synth context type) g = (.ok b, g')) :
    (∃ e s, after (Resolver.resolveExpr false context type.core) g.resolver = (.error e, s) ∧ b = .object ∧
      g' = { g with resolver := s }) ∨
    ∃ a s y, after (Resolver.resolveExpr false context type.core) g.resolver = (.ok a, s) ∧ b = type.wrap y ∧
      after (resolutionSchema synth a) { g with resolver := s } = (.ok y, g') := by
  rcases first : after (Resolver.resolveExpr false context type.core) g.resolver with ⟨e | a, s⟩
  · cases (memberSchema_undenoted off first).symm.trans run
    exact .inl ⟨e, s, rfl, rfl, rfl⟩
  · have made : after (exprSchema config synth context type) g = _ := exprSchema_denoted off first
    rcases inner : after (resolutionSchema synth a) { g with resolver := s } with ⟨e | y, t⟩
    · rw [inner] at made
      have final : Fatal e := by
        cases a with
        | declaration id => exact fatal inner
        | primitive | any => cases inner
      cases (memberSchema_fatal final made).symm.trans run
    · rw [inner] at made
      cases (memberSchema_ok made).symm.trans run
      exact .inr ⟨a, s, y, rfl, rfl, inner⟩

end Denote

section Fatal

variable {config : Config} {fuel : Nat} {context : ScopeId} {type : TypeExpr} {id : DeclId}
  {g g' : Generator} {e : Failure}

/-- From what can be made up for a synthesis recovers on its own. -/
theorem synthesizeWith_fatal (run : after (synthesizeWith config fuel id) g = (.error e, g')) : Fatal e :=
  ((synthesizeWith_stores anything_building (fun _ => trivial) config fuel id g
    ⟨fun _ => trivial, fun _ => trivial⟩).error run).1

theorem memberSchema_fails (run : after (memberSchema config (synthesizeWith config fuel) context type) g =
    (.error e, g')) : Fatal e := by
  have law := storing_law config anything_building
  have each := synthesizeWith_stores anything_building (fun _ => trivial) config fuel
  exact ((memberSchema_meets law.uses each context type g ⟨fun _ => trivial, fun _ => trivial⟩).error run).1

end Fatal

/-! ### What is remembered of a synonym -/

structure Spelled (type : TypeExpr) : Prop where
  names : ∀ name ∈ type.names, Unmarked name
  unbound : ∀ id, type.core ≠ .resolved id

inductive KnownUse (g : Generator) (id : DeclId) : Schema → Prop where
  | memo {x : Schema} (found : g.memo.lookup id = some x) : KnownUse g id x
  | busy {name : String} (busy : id ∈ g.inProgress) (forced : id ∈ g.forced)
      (named : g.registry.Named id name) : KnownUse g id (.ref name)
  | interface (doc : Option String) (registered : id < g.registry.size)
      (body : (g.registry.get id).body = .interface) : KnownUse g id { Schema.object with description := doc }

def KnownResolution (g : Generator) : Resolution → Schema → Prop
  | .primitive p, x => x = .ofPrimitive p
  | .any, x => x = .object
  | .declaration id, x => KnownUse g id x

/-- What the type of a member has come to, as far as it can be told from the state. -/
inductive Recalls (g : Generator) (context : ScopeId) (type : TypeExpr) : Schema → Prop where
  | failed {e : Error} (denotes : after (Resolver.resolveExpr false context type.core) g.resolver =
      (.error e, g.resolver)) : Recalls g context type .object
  | made {a : Resolution} {x : Schema}
      (denotes : after (Resolver.resolveExpr false context type.core) g.resolver = (.ok a, g.resolver))
      (known : KnownResolution g a x) : Recalls g context type (type.wrap x)

def UsedAs (depth : Nat) (body x : Schema) : Prop :=
  if body.isComplex depth then ∃ name, x = .ref name else x = body

structure KeepsKnown (g g' : Generator) : Prop where
  still : Still g g'
  memo : ∀ id x, g.memo.lookup id = some x → g'.memo.lookup id = some x
  busy : ∀ id ∈ g.inProgress, id ∈ g.forced → (id ∈ g'.inProgress ∧ id ∈ g'.forced) ∨
    ∃ name, g'.registry.Named id name ∧ g'.memo.lookup id = some (.ref name)

section KeepsKnown

variable {g g' g'' : Generator} {id : DeclId} {context : ScopeId} {type : TypeExpr} {x : Schema}

theorem KeepsKnown.refl (g : Generator) : KeepsKnown g g :=
  ⟨.refl g, fun _ _ found => found, fun _ busy forced => .inl ⟨busy, forced⟩⟩

theorem KeepsKnown.trans (first : KeepsKnown g g') (second : KeepsKnown g' g'') : KeepsKnown g g'' := by
  refine ⟨first.still.trans second.still, fun id x found => second.memo id x (first.memo id x found), ?_⟩
  intro id busy forced
  rcases first.busy id busy forced with ⟨busy, forced⟩ | ⟨name, named, found⟩
  · exact second.busy id busy forced
  · exact .inr ⟨name, second.still.grows.named named, second.memo id _ found⟩

theorem KnownUse.kept (known : KnownUse g id x) (keeps : KeepsKnown g g') : KnownUse g' id x := by
  have grows := keeps.still.grows
  cases known with
  | memo found => exact .memo (keeps.memo id x found)
  | busy busy forced named =>
    rcases keeps.busy id busy forced with ⟨busy, forced⟩ | ⟨other, named', found⟩
    · exact .busy busy forced (grows.named named)
    · rw [(grows.named named).unique named']
      exact .memo found
  | interface doc registered body =>
    refine .interface doc (Nat.lt_of_lt_of_le registered grows.size_le) ?_
    rw [grows.get_eq registered]
    exact body

theorem Recalls.kept (recalls : Recalls g context type x) (clean : Clean g.registry)
    (spelled : Spelled type) (keeps : KeepsKnown g g') (orderly : Orderly g'.registry) :
    Recalls g' context type x := by
  have again := @resolveExpr_stable context type.core g.resolver g'.resolver clean
    (fun name member => spelled.names name (mem_names_core member)) keeps.still.added orderly
  cases recalls with
  | failed denotes =>
    rw [denotes] at again
    exact .failed (again keeps.still.grows)
  | @made a y denotes known =>
    rw [denotes] at again
    refine .made (again keeps.still.grows) ?_
    cases a with
    | primitive | any => exact known
    | declaration id => exact KnownUse.kept known keeps

end KeepsKnown

/-- A state of a synthesis without failures, as far as it concerns one synonym: if that is done, its body
is still what its type comes to, and decides how the synonym is used. -/
structure SynonymInvariant (depth : Nat) (own : DeclId) (context : ScopeId) (target : TypeExpr) (g : Generator) :
    Prop where
  clean : Clean g.registry
  body : (g.registry.get own).body = .synonym target
  scope : (g.registry.get own).scope = context
  forced : ∀ id ∈ g.forced, id ∈ g.inProgress
  fresh : ∀ id ∈ g.inProgress, g.memo.lookup id = none
  recalled : ∀ x, g.memo.lookup own = some x → ∃ b, Recalls g context target b ∧ UsedAs depth b x

structure KeepsKnownAndStack (g g' : Generator) : Prop where
  known : KeepsKnown g g'
  inProgress : g'.inProgress = g.inProgress

def synonymContract (depth : Nat) (own : DeclId) (context : ScopeId) (target : TypeExpr) :
    Contract Failure Generator where
  holds := SynonymInvariant depth own context target
  moves := KeepsKnownAndStack
  fails e _ _ := Fatal e
  refl g := ⟨.refl g, rfl⟩
  trans first second := ⟨first.known.trans second.known, second.inProgress.trans first.inProgress⟩
  fails_after _ failed := failed

section Invariant

open Generator (Begun Finished Ready)

variable {depth : Nat} {own : DeclId} {context : ScopeId} {target : TypeExpr} {g g' s t u : Generator}
  {id : DeclId} {name : String} {placed : Bool} {x : Schema} {made : Option Schema}

/-- The synonym stays as it is remembered in a state that comes of another. -/
theorem SynonymInvariant.kept (inv : SynonymInvariant depth own context target g) (spelled : Spelled target)
    (keeps : KeepsKnown g g') (clean : Clean g'.registry) (forced : ∀ id ∈ g'.forced, id ∈ g'.inProgress)
    (fresh : ∀ id ∈ g'.inProgress, g'.memo.lookup id = none)
    (recalled : ∀ x, g'.memo.lookup own = some x → g.memo.lookup own = some x ∨
      ∃ b, Recalls g' context target b ∧ UsedAs depth b x) : SynonymInvariant depth own context target g' := by
  have solid : (g.registry.get own).body ≠ .interface := by simp [inv.body]
  have same := keeps.still.grows.body solid
  refine ⟨clean, by rw [same]; exact inv.body, by rw [same]; exact inv.scope, forced, fresh, ?_⟩
  intro x found
  rcases recalled x found with old | new
  · obtain ⟨b, recalls, used⟩ := inv.recalled x old
    exact ⟨b, recalls.kept inv.clean spelled keeps clean.orderly, used⟩
  · exact new

/-- Resolution adds to the registry only. -/
theorem SynonymInvariant.resolved (inv : SynonymInvariant depth own context target g) (spelled : Spelled target)
    {r : Resolver} (orderly : Orderly r.registry) (still : Still g { g with resolver := r }) :
    SynonymInvariant depth own context target { g with resolver := r } ∧
      KeepsKnownAndStack g { g with resolver := r } := by
  have keeps : KeepsKnown g { g with resolver := r } :=
    ⟨still, fun _ _ found => found, fun _ busy forced => .inl ⟨busy, forced⟩⟩
  have clean : Clean r.registry := ⟨orderly, by
    rw [show r.registry.scopes = g.registry.scopes from still.added.scopes]
    exact inv.clean.undashed⟩
  exact ⟨inv.kept spelled keeps clean inv.forced inv.fresh fun x found => .inl found,
    keeps, rfl⟩

theorem SynonymInvariant.begun (inv : SynonymInvariant depth own context target g) (spelled : Spelled target)
    (ready : Ready id name g) (begun : Begun id name placed g s) : SynonymInvariant depth own context target s := by
  have keeps : KeepsKnown g s := by
    refine ⟨.congr (.refl g) rfl begun.registry, fun _ _ found => begun.memo ▸ found, ?_⟩
    intro other busy forced
    refine .inl ⟨?_, begun.forced ▸ forced⟩
    rw [begun.inProgress]
    exact List.mem_cons_of_mem _ busy
  refine inv.kept spelled keeps (begun.registry ▸ inv.clean) ?_ ?_ fun x found => .inl ?_
  · intro other forced
    rw [begun.inProgress]
    exact List.mem_cons_of_mem _ (inv.forced other (begun.forced ▸ forced))
  · intro other busy
    rw [begun.inProgress] at busy
    rw [begun.memo]
    rcases List.mem_cons.mp busy with rfl | busy
    · exact ready.fresh
    · exact inv.fresh other busy
  · exact begun.memo ▸ found

section Finish

variable (inv : SynonymInvariant depth own context target t) (ready : Ready id name g)
  (begun : Begun id name placed g s) (kept : KeepsKnownAndStack s t) (finished : Finished id name x made t u)
  (settled : x = .ref name ∨ id ∉ t.forced)

include begun kept in
theorem KeepsKnownAndStack.stack : t.inProgress = id :: g.inProgress := kept.inProgress.trans begun.inProgress

include inv ready begun kept finished settled

theorem finished_keepsKnown : KeepsKnown t u := by
  have stack := KeepsKnownAndStack.stack begun kept
  have vacant : t.memo.lookup id = none := inv.fresh id (by simp [stack])
  refine ⟨.congr (.refl t) rfl finished.registry, fun other y found => ?_, fun other busy forced => ?_⟩
  · have apart : other ≠ id := by
      rintro rfl
      simp [vacant] at found
    rw [finished.lookup apart]
    exact found
  · by_cases same : other = id
    · subst same
      have reference := settled.resolve_right fun idle => idle forced
      have named : u.registry.Named other name := by
        rw [finished.registry]
        exact kept.known.still.grows.named (begun.registry ▸ ready.named)
      exact .inr ⟨name, named, by rw [finished.own, reference]⟩
    · refine .inl ⟨?_, ?_⟩
      · rw [finished.inProgress]
        exact List.mem_filter.mpr ⟨busy, by simpa using same⟩
      · rw [finished.forced]
        exact List.mem_filter.mpr ⟨forced, by simpa using same⟩

theorem finished_keepsStack : KeepsKnownAndStack g u := by
  have keeps := finished_keepsKnown inv ready begun kept finished settled
  have stack := KeepsKnownAndStack.stack begun kept
  have inProgress : u.inProgress = g.inProgress :=
    finished.inProgress.trans (Generator.leave_inProgress ready.idle stack)
  refine ⟨⟨?_, fun other y found => ?_, fun other busy forced => ?_⟩, inProgress⟩
  · exact .congr (kept.known.still.trans keeps.still) begun.registry.symm rfl
  · exact keeps.memo other y (kept.known.memo other y (begun.memo ▸ found))
  · have busy' : other ∈ s.inProgress := begun.inProgress ▸ List.mem_cons_of_mem _ busy
    rcases kept.known.busy other busy' (begun.forced ▸ forced) with ⟨_, still⟩ | ⟨key, named, found⟩
    · have apart : other ≠ id := by
        rintro rfl
        exact ready.idle busy
      refine .inl ⟨inProgress ▸ busy, ?_⟩
      rw [finished.forced]
      exact List.mem_filter.mpr ⟨still, by simpa using apart⟩
    · exact .inr ⟨key, keeps.still.grows.named named, keeps.memo other _ found⟩

theorem SynonymInvariant.ended (spelled : Spelled target)
    (recalled : id = own → ∃ b, Recalls u context target b ∧ UsedAs depth b x) :
    SynonymInvariant depth own context target u := by
  have keeps := finished_keepsKnown inv ready begun kept finished settled
  have stack := KeepsKnownAndStack.stack begun kept
  refine inv.kept spelled keeps (finished.registry ▸ inv.clean) ?_ ?_ fun y found => ?_
  · intro other forced
    rw [finished.forced] at forced
    obtain ⟨forced, apart⟩ := List.mem_filter.mp forced
    rw [finished.inProgress]
    exact List.mem_filter.mpr ⟨inv.forced other forced, apart⟩
  · intro other busy
    rw [finished.inProgress] at busy
    obtain ⟨busy, apart⟩ := List.mem_filter.mp busy
    rw [finished.lookup (by simpa using apart)]
    exact inv.fresh other busy
  · by_cases same : id = own
    · subst same
      rw [finished.own] at found
      exact .inr (Option.some.inj found ▸ recalled rfl)
    · rw [finished.lookup (Ne.symm same)] at found
      exact .inl found

end Finish

theorem SynonymInvariant.orderly (inv : SynonymInvariant depth own context target g) :
    Orderly g.resolver.registry :=
  inv.clean.orderly

theorem SynonymInvariant.resolving (inv : SynonymInvariant depth own context target g) (spelled : Spelled target)
    (scope : ScopeId) (type : TypeExpr) {r : Resolver} {answer : Except Error Resolution}
    (run : after (Resolver.resolveExpr false scope type) g.resolver = (answer, r)) :
    SynonymInvariant depth own context target { g with resolver := r } ∧
      KeepsKnownAndStack g { g with resolver := r } := by
  obtain ⟨orderly, still⟩ := resolving_still inv.orderly run
  exact inv.resolved spelled orderly still

theorem synonymContract_law {config : Config} (off : config.parseDependencies = false) (spelled : Spelled target) :
    Law config (synonymContract depth own context target) (fun _ _ => True) fun _ _ => True := by
  refine .of_any (fun failed => failed) (fun _ _ _ => trivial) fun scope type => ?_
  rw [off]
  exact resolving_of_left fun g inv => inv.resolving spelled scope type rfl

/-- What comes of a member's type between two states: it can be told from the second one, and if it is
simple, then no synonym was led back to. -/
structure MemberMade (scope : ScopeId) (type : TypeExpr) (g : Generator) (x : Schema) (g' : Generator) :
    Prop where
  recalls : Spelled type → Recalls g' scope type x
  straight : x.Simple → ∀ id ∈ g'.forced, id ∈ g.forced

structure DeclarationMade (id : DeclId) (g : Generator) (x : Schema) (g' : Generator) : Prop where
  known : id < g.registry.size → KnownUse g' id x
  straight : x.Simple → ∀ id ∈ g'.forced, id ∈ g.forced

theorem Spelled.registered {scope : ScopeId} {type : TypeExpr} (spelled : Spelled type) {r r' : Resolver}
    (orderly : Orderly r'.registry)
    (run : after (Resolver.resolveExpr false scope type.core) r = (.ok (.declaration id), r')) :
    id < r'.registry.size := by
  have unbound := spelled.unbound
  clear spelled
  induction type using TypeExpr.nesting_induction with
  | optional inner ih | pointer inner ih | array inner ih => exact ih run unbound
  | map key value ih => exact ih run unbound
  | named segments args => exact resolveExpr_registered orderly run
  | resolved other => exact absurd rfl (unbound other)
  | primitive | param | interface | function => cases run

/-- What a written type denoted it still denotes after any further synthesis. -/
theorem SynonymInvariant.still_denotes (inv : SynonymInvariant depth own context target g)
    {scope : ScopeId} {type : TypeExpr} (spelled : Spelled type) {r : Resolver} {answer : Except Error Resolution}
    (run : after (Resolver.resolveExpr false scope type.core) g.resolver = (answer, r))
    (first : Still g { g with resolver := r }) (still : Still { g with resolver := r } t)
    (orderly : Orderly t.registry) :
    after (Resolver.resolveExpr false scope type.core) t.resolver = (answer, t.resolver) := by
  have again := @resolveExpr_stable scope type.core g.resolver t.resolver inv.clean
    (fun name member => spelled.names name (mem_names_core member)) (first.trans still).added orderly
  rw [run] at again
  exact again still.grows

theorem synonymContract_cases (config : Config) (spelled : Spelled target) :
    EachCaseYields config (synonymContract config.maxInlineDepth own context target)
      (synonymContract config.maxInlineDepth own context target) MemberMade (fun _ _ => True) DeclarationMade where
  memo _ found := ⟨fun _ => .memo found, fun _ _ forced => forced⟩
  naming id g inv := by
    have orderly : Orderly (g.naming id).registry := inv.orderly.call (.definitionName id)
    exact inv.resolved spelled orderly (.naming id g)
  onward {id x g g'} _ made := by
    refine ⟨fun registered => made.known ?_, made.straight⟩
    rw [Registry.size, show (g.naming id).registry = (g.registry.definitionName id).2 from rfl,
      Registry.definitionName_decls]
    exact registered
  cycle {id name g} inv fresh named busy := by
    have mem (other : DeclId) : other ∈ (g.force id).forced ↔ other = id ∨ other ∈ g.forced :=
      Generator.mem_force
    obtain ⟨forced, same⟩ := Generator.force_frame id g
    rw [same] at mem ⊢
    have keeps : KeepsKnown g { g with forced } :=
      ⟨.congr (.refl g) rfl rfl, fun _ _ found => found,
        fun other busy old => .inl ⟨busy, (mem other).mpr (.inr old)⟩⟩
    refine ⟨inv.kept spelled keeps inv.clean ?_ inv.fresh fun _ found => .inl found,
      ⟨keeps, rfl⟩, fun _ => .busy busy ((mem id).mpr (.inl rfl)) named,
      fun simple => absurd simple (Schema.not_simple_ref name)⟩
    intro other member
    rcases (mem other).mp member with rfl | old
    · exact busy
    · exact inv.forced other old
  interface _ body := ⟨fun registered => .interface _ registered body,
    fun simple => absurd simple (Schema.not_simple_object _)⟩
  begun within := within.holds.begun spelled within.ready within.begun
  named {id name body g s t u} within kind inv kept _ finished := by
    have other : id ≠ own := by
      rintro rfl
      exact kind target within.holds.body
    refine ⟨inv.ended within.ready within.begun kept finished (.inl rfl) spelled fun same =>
      absurd same other, finished_keepsStack inv within.ready within.begun kept finished (.inl rfl), ?_⟩
    exact ⟨fun _ => .memo finished.own, fun simple => absurd simple (Schema.not_simple_ref name)⟩
  outlined {id name type body g s t u} within synonym inv kept made apart finished := by
    have keeps := finished_keepsKnown inv within.ready within.begun kept finished (.inl rfl)
    refine ⟨inv.ended within.ready within.begun kept finished (.inl rfl) spelled ?_,
      finished_keepsStack inv within.ready within.begun kept finished (.inl rfl), ?_⟩
    · rintro rfl
      obtain rfl : target = type := Body.synonym.inj (within.holds.body.symm.trans synonym)
      have recalls := (made.recalls spelled).kept inv.clean spelled keeps
        (finished.registry ▸ inv.orderly)
      have complex : body.isComplex config.maxInlineDepth = true := by
        by_contra plain
        have plain : body.isComplex config.maxInlineDepth = false := by simpa using plain
        have idle : id ∉ t.forced := fun forced => within.ready.idle
          (within.holds.forced id (within.begun.forced ▸ made.straight ⟨_, plain⟩ id forced))
        exact apart (by simp [Inline, plain, idle])
      refine ⟨body, within.holds.scope ▸ recalls, ?_⟩
      rw [UsedAs, if_pos complex]
      exact ⟨name, rfl⟩
    · exact ⟨fun _ => .memo finished.own, fun simple => absurd simple (Schema.not_simple_ref name)⟩
  inlined {id name type body g s t u} within synonym inv kept made inline finished := by
    have idle := inline.unforced
    have keeps := finished_keepsKnown inv within.ready within.begun kept finished (.inr idle)
    refine ⟨inv.ended within.ready within.begun kept finished (.inr idle) spelled ?_,
      finished_keepsStack inv within.ready within.begun kept finished (.inr idle), ?_⟩
    · rintro rfl
      obtain rfl : target = type := Body.synonym.inj (within.holds.body.symm.trans synonym)
      have recalls := (made.recalls spelled).kept inv.clean spelled keeps
        (finished.registry ▸ inv.orderly)
      refine ⟨body, within.holds.scope ▸ recalls, ?_⟩
      rw [UsedAs, if_neg (by simp [inline.simple])]
    · refine ⟨fun _ => .memo finished.own, fun simple other forced => ?_⟩
      rw [finished.forced] at forced
      exact within.begun.forced ▸ made.straight simple other (List.mem_filter.mp forced).1
  undone _ failed := failed
  abandoned _ failed := failed

section Members

variable {config : Config} {fuel : Nat} (off : config.parseDependencies = false) (spelled : Spelled target)

include off spelled

theorem memberSchema_made (each : ∀ id g, SynonymInvariant depth own context target g →
      MeetsAt (synonymContract depth own context target) (synthesizeWith config fuel id) g (DeclarationMade id g))
    (scope : ScopeId) (type : TypeExpr) (inv : SynonymInvariant depth own context target g) :
    MeetsAt (synonymContract depth own context target)
      (memberSchema config (synthesizeWith config fuel) scope type) g (MemberMade scope type g) := by
  refine ⟨fun {b t} run => ?_, fun run => memberSchema_fails run⟩
  rcases memberSchema_denote off synthesizeWith_fatal run with
    ⟨e, r, denotes, rfl, rfl⟩ | ⟨a, r, y, denotes, rfl, inner⟩
  · obtain ⟨later, kept⟩ := inv.resolving spelled scope type.core denotes
    refine ⟨later, kept, fun written => ?_, fun simple => absurd simple (Schema.not_simple_object none)⟩
    exact .failed (inv.still_denotes written denotes kept.known.still (.refl _) later.orderly)
  · obtain ⟨later, kept⟩ := inv.resolving spelled scope type.core denotes
    have settled (written : Spelled type) {t : Generator} (still : Still { g with resolver := r } t)
        (orderly : Orderly t.registry) := inv.still_denotes written denotes kept.known.still still orderly
    cases a with
    | primitive p =>
      cases inner
      exact ⟨later, kept, fun written => .made (settled written (.refl _) later.orderly) rfl,
        fun _ _ forced => forced⟩
    | any =>
      cases inner
      exact ⟨later, kept, fun written => .made (settled written (.refl _) later.orderly) rfl,
        fun _ _ forced => forced⟩
    | declaration id =>
      obtain ⟨last, kept', made⟩ := (each id _ later).ok inner
      have moves := (synonymContract depth own context target).trans kept kept'
      refine ⟨last, moves, fun written => ?_, fun simple => ?_⟩
      · have known := made.known (written.registered later.orderly denotes)
        exact .made (settled written kept'.known.still last.orderly) known
      · exact made.straight (Schema.simple_of_wrap simple)

/-- A synthesis that succeeds keeps what was known before, and makes known what it makes. -/
theorem synthesizeWith_made (fuel : Nat) (id : DeclId) {g : Generator}
    (inv : SynonymInvariant config.maxInlineDepth own context target g) :
    MeetsAt (synonymContract config.maxInlineDepth own context target) (synthesizeWith config fuel id) g
      (DeclarationMade id g) := by
  induction fuel generalizing id g with
  | zero => exact .throw trivial
  | succ fuel ih =>
    have each (id : DeclId) : Meets (synonymContract config.maxInlineDepth own context target)
        (synthesizeWith config fuel id) fun _ _ => True :=
      fun g inv => (ih id inv).imp fun _ _ _ _ _ => trivial
    refine synthesizeOne_handled (synonymContract_cases config spelled) ?_ ?_ id g inv
    · exact fun d g inv => bodySchema_meets (synonymContract_law off spelled) each d g inv
    · exact fun scope type g inv => memberSchema_made off spelled (fun id _ => ih id) scope type inv

end Members

end Invariant

end Synthesis

end ApiSchema
