import ApiSchema.Proofs.PairedRuns
import ApiSchema.Proofs.SynonymSites

/-! A synonym beside what it stands for. Where both are used in one state, both come to a schema or fail
alike, and the synonym is used by a reference if the schema of its target is complex there, and has that
very schema otherwise.

If the synonym is done, its schema was made of what its target came to then, which is remembered. If it is
begun now, its target is synthesized with the synonym under way, and under its name, and without it for the
target itself. These two runs go on side by side. Where the second one comes to the synonym, its target
leads back to what is under way, so it is used by a reference in both. -/

namespace ApiSchema

open Steps
open Text (Undashed)

namespace Schema

def EqIfSimple (s t : Schema) : Prop := s.Simple ∨ t.Simple → s = t

variable {s t : Schema}

theorem EqIfSimple.refl (s : Schema) : EqIfSimple s s := fun _ => rfl

theorem EqIfSimple.of_complex (first : ¬s.Simple) (second : ¬t.Simple) : EqIfSimple s t :=
  fun simple => (simple.elim first second).elim

theorem EqIfSimple.wrap (agrees : EqIfSimple s t) (type : TypeExpr) : EqIfSimple (type.wrap s) (type.wrap t) :=
  fun simple => congrArg type.wrap (agrees (simple.imp simple_of_wrap simple_of_wrap))

theorem complex_of_not_simple (complex : ¬s.Simple) (depth : Nat) : s.isComplex depth = true := by
  by_contra simple
  exact complex ⟨depth, by simpa using simple⟩

end Schema

/-- A declaration is called what it was called before. -/
theorem Generator.nameOf_named {g : Generator} {id : DeclId} {name : String}
    (named : g.registry.Named id name) : g.nameOf id = name := by
  rw [nameOf, Registry.definitionName_eq, named]
  rfl

theorem Generator.naming_named {g : Generator} {id : DeclId} {name : String}
    (named : g.registry.Named id name) : g.naming id = g := by
  have same : (g.registry.definitionName id).2 = g.registry := by
    rw [Registry.definitionName, show g.registry.names.lookup id = some name from named]
  rw [naming, same]
  rfl

namespace Synthesis

open Generator (Begun Ready)
open Registry (Orderly)

theorem UsedAs.agree {depth : Nat} {b y x : Schema} (used : UsedAs depth b x) (agrees : b.EqIfSimple y) :
    UsedAs depth y x := by
  by_cases first : b.isComplex depth = true
  · by_cases second : y.isComplex depth = true
    · simpa [UsedAs, first, second] using used
    · have simple : y.Simple := ⟨depth, by simpa using second⟩
      exact absurd (agrees (.inr simple) ▸ first) second
  · have simple : b.Simple := ⟨depth, by simpa using first⟩
    exact agrees (.inl simple) ▸ used

section Member

variable {config : Config} {synth : DeclId → Synth Schema} {context : ScopeId} {type : TypeExpr}
  {a : Resolution} {s : Resolver} {g g' : Generator} {x : Schema} {e : Failure}
  (off : config.parseDependencies = false)
  (denotes : after (Resolver.resolveExpr false context type.core) g.resolver = (.ok a, s))

include off denotes

/-- What a member's type comes to if its core denotes something. -/
theorem memberSchema_denoted (inner : after (resolutionSchema synth a) { g with resolver := s } = (.ok x, g')) :
    after (memberSchema config synth context type) g = (.ok (type.wrap x), g') := by
  have made : after (exprSchema config synth context type) g = _ := exprSchema_denoted off denotes
  rw [inner] at made
  exact memberSchema_ok made

theorem memberSchema_denoted_error (fatal : Fatal e)
    (inner : after (resolutionSchema synth a) { g with resolver := s } = (.error e, g')) :
    after (memberSchema config synth context type) g = (.error e, g') := by
  have made : after (exprSchema config synth context type) g = _ := exprSchema_denoted off denotes
  rw [inner] at made
  exact memberSchema_fatal fatal made

end Member

section Recalled

variable {config : Config} {context : ScopeId} {type : TypeExpr} {id : DeclId} {g : Generator}
  {b x : Schema} {depth : Nat} (shaped : Shaped depth g) (fresh : ∀ id ∈ g.inProgress, g.memo.lookup id = none)
  (fuel : Nat)

include shaped fresh

/-- What is known of a declaration is what it is used by, up to schemas that are not simple. -/
theorem KnownUse.runs (known : KnownUse g id x) :
    ∃ y g', after (synthesizeWith config (fuel + 1) id) g = (.ok y, g') ∧ x.EqIfSimple y := by
  rw [synthesizeWith]
  cases known with
  | memo found => exact ⟨x, g, synthesizeOne_memo found, .refl x⟩
  | @busy name busy _ named =>
    exact ⟨_, _, synthesizeOne_cycle (fresh id busy) busy, Generator.nameOf_named named ▸ .refl _⟩
  | interface doc registered body =>
    have complex := Schema.not_simple_object doc
    cases found : g.memo.lookup id with
    | some z =>
      refine ⟨z, g, synthesizeOne_memo found, .of_complex complex ?_⟩
      cases shaped.memo found with
      | reference => exact Schema.not_simple_ref _
      | inline synonym => simp [body] at synonym
    | none =>
      by_cases busy : id ∈ g.inProgress
      · exact ⟨_, _, synthesizeOne_cycle found busy, .of_complex complex (Schema.not_simple_ref _)⟩
      · refine ⟨_, g.naming id, ?_, .of_complex complex (Schema.not_simple_object (g.registry.get id).doc)⟩
        rw [synthesizeOne_start found busy, body]
        rfl

/-- What is recalled of a type is what it comes to, up to schemas that are not simple. -/
theorem Recalls.runs (off : config.parseDependencies = false) (recalls : Recalls g context type b) :
    ∃ y g', after (memberSchema config (synthesizeWith config (fuel + 1)) context type) g = (.ok y, g') ∧
      b.EqIfSimple y := by
  cases recalls with
  | failed denotes => exact ⟨_, _, memberSchema_undenoted off denotes, .refl _⟩
  | @made a x denotes known =>
    cases a with
    | primitive p => exact ⟨_, _, memberSchema_denoted off denotes rfl, known ▸ .refl _⟩
    | any => exact ⟨_, _, memberSchema_denoted off denotes rfl, known ▸ .refl _⟩
    | declaration id =>
      obtain ⟨y, g', run, agrees⟩ := KnownUse.runs shaped fresh fuel known
      exact ⟨_, g', memberSchema_denoted off denotes run, agrees.wrap type⟩

end Recalled

/-! ### The synonym under way in one of two states -/

def Denotes (g : Generator) (context : ScopeId) (type : TypeExpr) (id : DeclId) : Prop :=
  ∀ {t : Generator}, Still g t → Orderly t.registry →
    after (Resolver.resolveExpr false context type) t.resolver = (.ok (.declaration id), t.resolver)

theorem Denotes.later {g g' : Generator} {context : ScopeId} {type : TypeExpr} {id : DeclId}
    (denotes : Denotes g context type id) (still : Still g g') : Denotes g' context type id :=
  fun further => denotes (still.trans further)

/-- In the second state the synonym is under way besides. In the first one it may be done, and is used by
a reference then. -/
structure AlsoUnderWay (own : DeclId) (g g' : Generator) : Prop where
  ahead : Resolver.Ahead own g.resolver g'.resolver
  memo : ∀ other, other ≠ own → g'.memo.lookup other = g.memo.lookup other
  stack : ∀ other, other ∈ g'.inProgress ↔ other = own ∨ other ∈ g.inProgress
  idle : own ∉ g.inProgress
  used : ∀ x, g.memo.lookup own = some x → ∃ name, x = .ref name ∧ g.registry.Named own name

namespace AlsoUnderWay

variable {own id : DeclId} {g g' t t' u u' : Generator} {x : Schema}

theorem get (also : AlsoUnderWay own g g') (id : DeclId) : g'.registry.get id = g.registry.get id :=
  also.ahead.registry.renamed.get id

theorem nameOf (also : AlsoUnderWay own g g') (id : DeclId) : g'.nameOf id = g.nameOf id :=
  also.ahead.registry.renamed.names id

/-- Resolution and names change the registries only. -/
theorem resolved (also : AlsoUnderWay own g g') {r r' : Resolver} (ahead : Resolver.Ahead own r r')
    (grows : Registry.Grows g.registry r.registry) :
    AlsoUnderWay own { g with resolver := r } { g' with resolver := r' } where
  ahead := ahead
  memo := also.memo
  stack := also.stack
  idle := also.idle
  used x found := by
    obtain ⟨name, reference, named⟩ := also.used x found
    exact ⟨name, reference, grows.named named⟩

theorem naming (also : AlsoUnderWay own g g') (id : DeclId) : AlsoUnderWay own (g.naming id) (g'.naming id) :=
  also.resolved (also.ahead.with (also.ahead.registry.naming id).2) (Registry.definitionName_grows _ _)

/-- A declaration is put on the stack. -/
theorem begun (also : AlsoUnderWay own g g') (apart : id ≠ own) (resolver : t.resolver = g.resolver)
    (memo : t.memo = g.memo) (stack : t.inProgress = id :: g.inProgress) (resolver' : t'.resolver = g'.resolver)
    (memo' : t'.memo = g'.memo) (stack' : t'.inProgress = id :: g'.inProgress) : AlsoUnderWay own t t' := by
  have registry : t.registry = g.registry := congrArg Resolver.registry resolver
  refine ⟨by rw [resolver, resolver']; exact also.ahead, by rw [memo, memo']; exact also.memo, ?_, ?_, ?_⟩
  · intro other
    rw [stack, stack', List.mem_cons, List.mem_cons, also.stack]
    tauto
  · rw [stack, List.mem_cons]
    rintro (same | busy)
    · exact apart same.symm
    · exact also.idle busy
  · rw [memo, registry]
    exact also.used

/-- A declaration is over. -/
theorem finished (also : AlsoUnderWay own g g') (apart : id ≠ own) (resolver : t.resolver = g.resolver)
    (memo : t.memo = (id, x) :: g.memo) (stack : t.inProgress = (g.leave id).inProgress)
    (resolver' : t'.resolver = g'.resolver) (memo' : t'.memo = (id, x) :: g'.memo)
    (stack' : t'.inProgress = (g'.leave id).inProgress) : AlsoUnderWay own t t' := by
  have registry : t.registry = g.registry := congrArg Resolver.registry resolver
  refine ⟨by rw [resolver, resolver']; exact also.ahead, fun other differs => ?_, fun other => ?_, ?_, ?_⟩
  · rw [memo, memo', List.lookup_cons, List.lookup_cons, also.memo other differs]
  · rw [stack, stack', Generator.leave, Generator.leave, List.mem_filter, List.mem_filter, also.stack]
    by_cases same : other = own
    · simp [same, apart.symm]
    · simp [same]
  · rw [stack, Generator.leave, List.mem_filter]
    exact fun busy => also.idle busy.1
  · have differs : (own == id) = false := by simpa using apart.symm
    rw [memo, registry, List.lookup_cons, differs]
    exact also.used

end AlsoUnderWay

/-- What is known of two such states when some declarations may be asked for: the target of the synonym
leads to one of these, or to what is under way in both. -/
structure TargetPending (depth : Nat) (own : DeclId) (context : ScopeId) (target : TypeExpr)
    (asked : DeclId → Prop) (g g' : Generator) : Prop where
  also : AlsoUnderWay own g g'
  inv : SynonymInvariant depth own context target g
  inv' : SynonymInvariant depth own context target g'
  loops : ∃ first, Denotes g context target.core first ∧
    (asked first ∨ first ∈ g.inProgress ∧ ∃ name, g.registry.Named first name)

section TargetPending

variable {config : Config} {left : Bool} {own id : DeclId} {context : ScopeId} {target : TypeExpr}
  {g g' s s' t t' : Generator} {placed : Bool}

/-- What is begun is no longer asked for but under way. -/
theorem TargetPending.begun (pending : TargetPending config.maxInlineDepth own context target (· = id) g g')
    (spelled : Spelled target) (apart : id ≠ own) (fresh : g.memo.lookup id = none) (idle : id ∉ g.inProgress)
    (solid : (g.registry.get id).body ≠ .interface)
    (first : Begun id (g.nameOf id) placed (g.naming id) s) (resolver : s.resolver = (g.naming id).resolver)
    (second : Begun id (g.nameOf id) placed (g'.naming id) s') (resolver' : s'.resolver = (g'.naming id).resolver) :
    TargetPending config.maxInlineDepth own context target (fun _ => False) s s' := by
  have also := pending.also
  have named : (g.naming id).registry.Named id (g.nameOf id) := Registry.definitionName_named _ _
  have named' : (g'.naming id).registry.Named id (g.nameOf id) := by
    rw [← also.nameOf]
    exact Registry.definitionName_named _ _
  have same : (g.naming id).registry.get id = g.registry.get id := Registry.definitionName_get g.registry id id
  have same' : (g'.naming id).registry.get id = g.registry.get id :=
    (Registry.definitionName_get g'.registry id id).trans (also.get id)
  have fresh' : g'.memo.lookup id = none := (also.memo id apart).trans fresh
  have idle' : id ∉ g'.inProgress := fun busy => ((also.stack id).mp busy).elim apart idle
  have ready : Ready id (g.nameOf id) (g.naming id) := ⟨named, fresh, idle, by rwa [same]⟩
  have ready' : Ready id (g.nameOf id) (g'.naming id) := ⟨named', fresh', idle', by rwa [same']⟩
  have kept := ((synonymContract_cases config spelled).naming id pending.inv).1
  have kept' := ((synonymContract_cases config spelled).naming id pending.inv').1
  have still : Still g s := .congr (.naming id g) rfl first.registry
  refine ⟨(also.naming id).begun apart resolver first.memo first.inProgress resolver' second.memo
    second.inProgress, kept.begun spelled ready first, kept'.begun spelled ready' second, ?_⟩
  obtain ⟨one, denotes, place⟩ := pending.loops
  refine ⟨one, denotes.later still, .inr ?_⟩
  rw [first.inProgress, first.registry]
  rcases place with rfl | ⟨busy, name, called⟩
  · exact ⟨List.mem_cons_self, _, named⟩
  · exact ⟨List.mem_cons_of_mem _ busy, name, (Registry.definitionName_grows g.registry id).named called⟩

/-- What was under way stays so, whatever has been asked for meanwhile. -/
theorem TargetPending.onward
    (pending : TargetPending config.maxInlineDepth own context target (fun _ => False) g g')
    (also : AlsoUnderWay own t t') (inv : SynonymInvariant config.maxInlineDepth own context target t)
    (inv' : SynonymInvariant config.maxInlineDepth own context target t') (kept : KeepsKnownAndStack g t)
    (asked : DeclId → Prop) : TargetPending config.maxInlineDepth own context target asked t t' := by
  obtain ⟨first, denotes, place⟩ := pending.loops
  obtain ⟨busy, name, named⟩ := place.resolve_left id
  exact ⟨also, inv, inv', first, denotes.later kept.known.still,
    .inr ⟨kept.inProgress ▸ busy, name, kept.known.still.grows.named named⟩⟩

section Members

variable {synth more : DeclId → Synth Schema} {type : TypeExpr} {scope : ScopeId}

/-- The type of a member comes to the same on both sides if the declaration does that it leads to. -/
theorem memberSchema_paired (off : config.parseDependencies = false) (also : AlsoUnderWay own g g')
    (fatal : ∀ {id g e g'}, after (synth id) g = (.error e, g') → Fatal e)
    (fatal' : ∀ {id g e g'}, after (more id) g = (.error e, g') → Fatal e)
    (each : ∀ {inner : DeclId} {r r' : Resolver},
      after (Resolver.resolveExpr false scope type.core) g.resolver = (.ok (.declaration inner), r) →
      after (Resolver.resolveExpr false scope type.core) g'.resolver = (.ok (.declaration inner), r') →
      AlsoUnderWay own { g with resolver := r } { g' with resolver := r' } →
      Paired left (AlsoUnderWay own) Eq (after (synth inner) { g with resolver := r })
        (after (more inner) { g' with resolver := r' })) :
    Paired left (AlsoUnderWay own) Eq (after (memberSchema config synth scope type) g)
      (after (memberSchema config more scope type) g') := by
  obtain ⟨answer, ahead⟩ := Resolver.resolveExpr_ahead type.core also.ahead
  have growing := Resolver.resolveExpr_onlyGrows false scope type.core
  rcases denotes : after (Resolver.resolveExpr false scope type.core) g.resolver with ⟨e | a, r⟩ <;>
    rcases denotes' : after (Resolver.resolveExpr false scope type.core) g'.resolver with ⟨o, r'⟩ <;>
    rw [denotes, denotes'] at answer ahead
  · obtain rfl : o = .error e := answer
    rw [memberSchema_undenoted off denotes, memberSchema_undenoted off denotes']
    exact .ok rfl (also.resolved ahead ((growing g.resolver trivial).error denotes).1)
  · obtain rfl : o = .ok a := answer
    have next := also.resolved ahead ((growing g.resolver trivial).ok denotes).2.1
    cases a with
    | primitive p =>
      rw [memberSchema_denoted off denotes rfl, memberSchema_denoted off denotes' rfl]
      exact .ok rfl next
    | any =>
      rw [memberSchema_denoted off denotes rfl, memberSchema_denoted off denotes' rfl]
      exact .ok rfl next
    | declaration inner =>
      refine (each denotes denotes' next).through
        (fun run => ⟨_, memberSchema_denoted_error off denotes (fatal run) run⟩)
        (fun run => ⟨_, memberSchema_denoted_error off denotes' (fatal' run) run⟩) ?_
      intro x x' t t' run run' same related
      rw [memberSchema_denoted off denotes run, memberSchema_denoted off denotes' run']
      exact .ok (congrArg type.wrap same) related

end Members

/-- A synonym is written out if its target is simple, for then it was not led back to. -/
theorem inline_iff (off : config.parseDependencies = false) (spelled : Spelled target) {fuel : Nat}
    {scope : ScopeId} {type : TypeExpr} {b : Schema}
    (inv : SynonymInvariant config.maxInlineDepth own context target s) (idle : id ∉ s.forced)
    (made : after (memberSchema config (synthesizeWith config fuel) scope type) s = (.ok b, t)) :
    Inline config id b t ↔ b.isComplex config.maxInlineDepth = false := by
  refine ⟨Inline.simple, fun simple => ?_⟩
  have kept := memberSchema_made off spelled (fun id _ => synthesizeWith_made off spelled fuel id) scope type
    inv
  have unforced : id ∉ t.forced := fun forced => idle ((kept.ok made).2.2.straight ⟨_, simple⟩ id forced)
  simp [Inline, simple, unforced]

section Looped

variable (off : config.parseDependencies = false) (inv : SynonymInvariant config.maxInlineDepth own context target g)
  (fresh : g.memo.lookup own = none) (idle : own ∉ g.inProgress) {first : DeclId}
  (denotes : Denotes g context target.core first)

include inv denotes in
theorem begun_denotes :
    after (Resolver.resolveExpr false context target.core) ((g.naming own).enter own).resolver =
      (.ok (.declaration first), ((g.naming own).enter own).resolver) := by
  have orderly : Orderly ((g.naming own).enter own).registry := inv.orderly.call (.definitionName own)
  exact denotes (.congr (.naming own g) rfl rfl) orderly

include off inv fresh idle denotes

/-- It takes two levels of fuel to come to a synonym that leads back to what is under way. -/
theorem looped_spent : ∃ t, after (synthesizeOne config (synthesizeWith config 0) own) g = (.error .exhausted, t) := by
  have spent : Fatal .exhausted := trivial
  have inner : after (resolutionSchema (synthesizeWith config 0) (.declaration first))
    ((g.naming own).enter own) = (.error .exhausted, (g.naming own).enter own) := rfl
  have member := memberSchema_denoted_error off (begun_denotes inv denotes) spent inner
  rw [← inv.scope] at member
  rw [synthesizeOne_start fresh idle, inv.body]
  exact ⟨_, synthesizeSynonym_error member⟩

/-- Such a synonym becomes a definition. -/
theorem looped_synonym (fuel : Nat)
    (place : first = own ∨ first ∈ g.inProgress ∧ ∃ name, g.registry.Named first name) :
    ∃ u, after (synthesizeOne config (synthesizeWith config (fuel + 1)) own) g = (.ok (.ref (g.nameOf own)), u) ∧
      u.resolver = (g.naming own).resolver ∧ u.memo = (own, .ref (g.nameOf own)) :: g.memo ∧
      u.inProgress = g.inProgress := by
  have busy : first ∈ ((g.naming own).enter own).inProgress :=
    List.mem_cons.mpr (place.imp_right And.left)
  have vacant : ((g.naming own).enter own).memo.lookup first = none := by
    rcases place with rfl | ⟨busy, _⟩
    · exact fresh
    · exact inv.fresh first busy
  have named : ∃ name, ((g.naming own).enter own).registry.Named first name := by
    rcases place with rfl | ⟨_, name, named⟩
    · exact ⟨_, Registry.definitionName_named _ _⟩
    · exact ⟨name, (Registry.definitionName_grows g.registry own).named named⟩
  obtain ⟨name, named⟩ := named
  have inner : after (resolutionSchema (synthesizeWith config (fuel + 1)) (.declaration first))
      ((g.naming own).enter own) = _ := synthesizeOne_cycle vacant busy
  rw [Generator.naming_named named] at inner
  obtain ⟨forced, same⟩ := Generator.force_frame first ((g.naming own).enter own)
  rw [same] at inner
  have member := memberSchema_denoted off (begun_denotes inv denotes) inner
  rw [← inv.scope] at member
  have apart (t : Generator) : ¬Inline config own (target.wrap (.ref (((g.naming own).enter own).nameOf first))) t :=
    fun inline => Schema.not_simple_ref _ (Schema.simple_of_wrap ⟨_, inline.simple⟩)
  rw [synthesizeOne_start fresh idle, inv.body]
  refine ⟨_, synthesizeSynonym_definition (apart _) member, rfl, rfl, ?_⟩
  exact Generator.leave_inProgress idle rfl

end Looped

end TargetPending

section Run

variable {config : Config} {left : Bool} {own id : DeclId} {context : ScopeId} {target : TypeExpr}
  {fuel fuel' : Nat} {g g' : Generator}

/-- The synonym is referred to on both sides. -/
theorem own_paired (off : config.parseDependencies = false) (reserve : left = true ∨ 0 < fuel)
    (pending : TargetPending config.maxInlineDepth own context target (· = own) g g') :
    Paired left (AlsoUnderWay own) Eq (after (synthesizeOne config (synthesizeWith config fuel) own) g)
      (after (synthesizeOne config (synthesizeWith config fuel') own) g') := by
  have also := pending.also
  have busy : own ∈ g'.inProgress := (also.stack own).mpr (.inl rfl)
  obtain ⟨forced, same⟩ := Generator.force_frame own (g'.naming own)
  rw [synthesizeOne_cycle (pending.inv'.fresh own busy) busy, also.nameOf, same]
  cases found : g.memo.lookup own with
  | some x =>
    obtain ⟨name, rfl, named⟩ := also.used x found
    rw [synthesizeOne_memo found, Generator.nameOf_named named]
    have back := also.ahead.symm.registry
    have ahead : Resolver.Ahead own g.resolver (g'.naming own).resolver :=
      also.ahead.trans ⟨rfl, .asked back.known back.plain⟩
    exact .ok rfl ⟨ahead, also.memo, also.stack, also.idle, also.used⟩
  | none =>
    obtain ⟨first, denotes, place⟩ := pending.loops
    cases fuel with
    | zero =>
      obtain ⟨t, run⟩ := looped_spent off pending.inv found also.idle denotes
      rw [run]
      exact .first (reserve.resolve_right (Nat.lt_irrefl 0))
    | succ fuel =>
      obtain ⟨u, run, resolver, memo, stack⟩ :=
        looped_synonym off pending.inv found also.idle denotes fuel place
      have registry : u.registry = (g.naming own).registry := congrArg Resolver.registry resolver
      have next := also.naming own
      rw [run]
      refine .ok rfl ⟨by rw [resolver]; exact next.ahead, fun other apart => ?_, by rw [stack]; exact also.stack,
        by rw [stack]; exact also.idle, fun x made => ?_⟩
      · have differs : (other == own) = false := by simpa using apart
        rw [memo, List.lookup_cons, differs]
        exact also.memo other apart
      · rw [memo, List.lookup_cons_self] at made
        cases made
        exact ⟨_, rfl, by rw [registry]; exact Registry.definitionName_named _ _⟩

variable (off : config.parseDependencies = false) (spelled : Spelled target)
  (each : ∀ {id : DeclId} {g g' : Generator},
    TargetPending config.maxInlineDepth own context target (· = id) g g' →
    Paired left (AlsoUnderWay own) Eq (after (synthesizeWith config fuel id) g)
      (after (synthesizeWith config fuel' id) g'))

include off spelled each

theorem members_paired (scope : ScopeId) (type : TypeExpr)
    (pending : TargetPending config.maxInlineDepth own context target (fun _ => False) g g') :
    Paired left (TargetPending config.maxInlineDepth own context target fun _ => False) Eq
      (after (memberSchema config (synthesizeWith config fuel) scope type) g)
      (after (memberSchema config (synthesizeWith config fuel') scope type) g') := by
  have paired : Paired left (AlsoUnderWay own) Eq
      (after (memberSchema config (synthesizeWith config fuel) scope type) g)
      (after (memberSchema config (synthesizeWith config fuel') scope type) g') := by
    refine memberSchema_paired off pending.also synthesizeWith_fatal synthesizeWith_fatal ?_
    intro inner r r' denotes denotes' next
    obtain ⟨later, kept⟩ := pending.inv.resolving spelled scope type.core denotes
    obtain ⟨later', _⟩ := pending.inv'.resolving spelled scope type.core denotes'
    exact each (pending.onward next later later' kept (· = inner))
  have meets (fuel : Nat) {g : Generator} := @memberSchema_made config.maxInlineDepth own context target g
    config fuel off spelled (fun id _ => synthesizeWith_made off spelled fuel id) scope type
  refine paired.imp fun run run' same related => ⟨same, ?_⟩
  obtain ⟨later, kept, _⟩ := (meets fuel pending.inv).ok run
  exact pending.onward related later ((meets fuel' pending.inv').ok run').1 kept _

section Begin

variable (pending : TargetPending config.maxInlineDepth own context target (· = id) g g') (apart : id ≠ own)
  (fresh : g.memo.lookup id = none) (idle : id ∉ g.inProgress) {d : Declaration}
  (same : g.registry.get id = d)

include pending apart fresh idle same

theorem synthesizeNamed_paired (solid : d.body ≠ .interface) :
    Paired left (AlsoUnderWay own) Eq
      (after (synthesizeNamed config (synthesizeWith config fuel) id (g.nameOf id) d) (g.naming id))
      (after (synthesizeNamed config (synthesizeWith config fuel') id (g.nameOf id) d) (g'.naming id)) := by
  have inside := pending.begun spelled apart fresh idle (by rwa [same])
    (Generator.begun_opened id (g.nameOf id) (g.naming id)) rfl
    (Generator.begun_opened id (g.nameOf id) (g'.naming id)) rfl
  have bodies := bodySchema_paired (fun scope type _ _ => members_paired off spelled each scope type) inside d
  refine bodies.through (fun run => ⟨_, synthesizeNamed_error run⟩)
    (fun run => ⟨_, synthesizeNamed_error run⟩) ?_
  intro body body' t t' run run' _ related
  rw [synthesizeNamed_ok run, synthesizeNamed_ok run']
  exact .ok rfl (related.also.finished apart rfl rfl rfl rfl rfl rfl)

theorem synthesizeSynonym_paired {type : TypeExpr} (body : d.body = .synonym type) :
    Paired left (AlsoUnderWay own) Eq
      (after (synthesizeSynonym config (synthesizeWith config fuel) id (g.nameOf id) d type) (g.naming id))
      (after (synthesizeSynonym config (synthesizeWith config fuel') id (g.nameOf id) d type) (g'.naming id)) := by
  have inside := pending.begun spelled apart fresh idle (by simp [same, body])
    (Generator.begun_enter id (g.nameOf id) (g.naming id)) rfl
    (Generator.begun_enter id (g.nameOf id) (g'.naming id)) rfl
  have unforced : id ∉ ((g.naming id).enter id).forced :=
    fun forced => idle (pending.inv.forced id forced)
  have unforced' : id ∉ ((g'.naming id).enter id).forced := fun forced =>
    ((pending.also.stack id).mp (pending.inv'.forced id forced)).elim apart idle
  refine (members_paired off spelled each d.scope type inside).through
    (fun run => ⟨_, synthesizeSynonym_error run⟩) (fun run => ⟨_, synthesizeSynonym_error run⟩) ?_
  rintro b _ t t' run run' rfl related
  have inline := inline_iff off spelled inside.inv unforced run
  have inline' := inline_iff off spelled inside.inv' unforced' run'
  by_cases simple : b.isComplex config.maxInlineDepth = false
  · rw [synthesizeSynonym_inline (inline.mpr simple) run, synthesizeSynonym_inline (inline'.mpr simple) run']
    exact .ok rfl (related.also.finished apart rfl rfl rfl rfl rfl rfl)
  · rw [synthesizeSynonym_definition (fun written => simple (inline.mp written)) run,
      synthesizeSynonym_definition (fun written => simple (inline'.mp written)) run']
    exact .ok rfl (related.also.finished apart rfl rfl rfl rfl rfl rfl)

end Begin

theorem synthesizeOne_paired (reserve : left = true ∨ 0 < fuel)
    (pending : TargetPending config.maxInlineDepth own context target (· = id) g g') :
    Paired left (AlsoUnderWay own) Eq (after (synthesizeOne config (synthesizeWith config fuel) id) g)
      (after (synthesizeOne config (synthesizeWith config fuel') id) g') := by
  by_cases apart : id = own
  · subst apart
    exact own_paired off reserve pending
  have also := pending.also
  cases found : g.memo.lookup id with
  | some x =>
    rw [synthesizeOne_memo found, synthesizeOne_memo ((also.memo id apart).trans found)]
    exact .ok rfl also
  | none =>
    have found' : g'.memo.lookup id = none := (also.memo id apart).trans found
    have next := also.naming id
    by_cases busy : id ∈ g.inProgress
    · obtain ⟨forced, same⟩ := Generator.force_frame id (g.naming id)
      obtain ⟨forced', same'⟩ := Generator.force_frame id (g'.naming id)
      rw [synthesizeOne_cycle found busy, synthesizeOne_cycle found' ((also.stack id).mpr (.inr busy)),
        also.nameOf, same, same']
      exact .ok rfl ⟨next.ahead, next.memo, next.stack, next.idle, next.used⟩
    · have idle' : id ∉ g'.inProgress := fun busy' => ((also.stack id).mp busy').elim apart busy
      rw [synthesizeOne_start found busy, synthesizeOne_start found' idle', also.nameOf, also.get]
      generalize same : g.registry.get id = d
      split
      · next type body => exact synthesizeSynonym_paired off spelled each pending apart found busy same body
      · exact .ok rfl next
      · next kind solid =>
        exact synthesizeNamed_paired off spelled each pending apart found busy same solid

end Run

section Site

variable {config : Config} (off : config.parseDependencies = false) {left : Bool} {fuel fuel' : Nat}
  {own id : DeclId} {context : ScopeId} {target : TypeExpr} {g g' h : Generator} {b x y : Schema}
  (spelled : Spelled target)

include off spelled

/-- A declaration comes to the same schema whether the synonym is under way or not, or fails alike. -/
theorem synthesizeWith_paired (enough : if left then fuel ≤ fuel' else fuel' < fuel)
    (pending : TargetPending config.maxInlineDepth own context target (· = id) g g') :
    Paired left (AlsoUnderWay own) Eq (after (synthesizeWith config fuel id) g)
      (after (synthesizeWith config fuel' id) g') := by
  induction fuel generalizing fuel' id g g' with
  | zero =>
    cases left with
    | true => exact .first rfl
    | false => exact absurd enough (Nat.not_lt_zero fuel')
  | succ fuel ih =>
    cases fuel' with
    | zero =>
      cases left with
      | true => exact absurd enough (Nat.not_succ_le_zero fuel)
      | false => exact .second rfl
    | succ fuel' =>
      have less : if left then fuel ≤ fuel' else fuel' < fuel := by
        cases left with
        | true => exact Nat.le_of_succ_le_succ enough
        | false => exact Nat.lt_of_succ_lt_succ enough
      have reserve : left = true ∨ 0 < fuel := by
        cases left with
        | true => exact .inl rfl
        | false => exact .inr (Nat.zero_lt_of_lt less)
      exact synthesizeOne_paired off spelled (fun pending => ih less pending) reserve pending

section Target

variable (inv : SynonymInvariant config.maxInlineDepth own context target h)
  (plain : Undashed (h.registry.get own).fullName) (fresh : h.memo.lookup own = none) (idle : own ∉ h.inProgress)

include inv fresh idle in
omit off in
/-- The synonym is begun. -/
theorem SynonymInvariant.entered :
    SynonymInvariant config.maxInlineDepth own context target ((h.naming own).enter own) := by
  have named := ((synonymContract_cases config spelled).naming own inv).1
  have body : ((h.naming own).registry.get own).body = .synonym target := named.body
  have ready : Ready own (h.nameOf own) (h.naming own) :=
    ⟨Registry.definitionName_named _ _, fresh, idle, by simp [body]⟩
  exact named.begun spelled ready (Generator.begun_enter own (h.nameOf own) (h.naming own))

include inv plain fresh idle

/-- What the target comes to does not depend on whether the synonym has been begun. -/
theorem target_paired (enough : if left then fuel ≤ fuel' else fuel' < fuel) :
    Paired left (AlsoUnderWay own) Eq (after (memberSchema config (synthesizeWith config fuel) context target) h)
      (after (memberSchema config (synthesizeWith config fuel') context target) ((h.naming own).enter own)) := by
  have known : own < h.registry.size := registered_of_body (by simp [inv.body])
  have also : AlsoUnderWay own h ((h.naming own).enter own) :=
    ⟨⟨rfl, .asked known plain⟩, fun _ _ => rfl, fun _ => List.mem_cons, idle, by simp [fresh]⟩
  have begun := inv.entered spelled fresh idle
  refine memberSchema_paired off also synthesizeWith_fatal synthesizeWith_fatal ?_
  intro inner r r' denotes denotes' next
  obtain ⟨later, kept⟩ := inv.resolving spelled context target.core denotes
  obtain ⟨later', _⟩ := begun.resolving spelled context target.core denotes'
  have leads : Denotes { h with resolver := r } context target.core inner :=
    fun still orderly => inv.still_denotes spelled denotes kept.known.still still orderly
  exact synthesizeWith_paired off spelled enough ⟨next, later, later', inner, leads, .inl rfl⟩

/-- So a synonym that is begun now comes to a schema or fails as its target does. -/
theorem begun_paired (enough : if left then fuel ≤ fuel' else fuel' < fuel) :
    Paired left (fun _ _ => True) (fun y x => UsedAs config.maxInlineDepth y x)
      (after (memberSchema config (synthesizeWith config fuel) context target) h)
      (after (synthesizeWith config (fuel' + 1) own) h) := by
  have begun := inv.entered spelled fresh idle
  have unforced : own ∉ ((h.naming own).enter own).forced := fun forced => idle (inv.forced own forced)
  have paired := target_paired off spelled inv plain fresh idle enough
  rw [synthesizeWith, synthesizeOne_start fresh idle, inv.body]
  dsimp only
  refine paired.through (fun run => ⟨_, run⟩) (fun run => ⟨_, synthesizeSynonym_error (inv.scope ▸ run)⟩) ?_
  rintro b _ t t' run run' rfl related
  have inline := inline_iff off spelled begun unforced run'
  rw [run]
  rw [← inv.scope] at run'
  by_cases simple : b.isComplex config.maxInlineDepth = false
  · rw [synthesizeSynonym_inline (inline.mpr simple) run']
    exact .ok (by rw [UsedAs, if_neg (by simp [simple])]) trivial
  · rw [synthesizeSynonym_definition (fun written => simple (inline.mp written)) run']
    exact .ok (by rw [UsedAs, if_pos (by simpa using simple)]; exact ⟨_, rfl⟩) trivial

end Target

omit off spelled in
/-- What the target is known to come to with any fuel goes with what the synonym is used by. -/
theorem known_paired {k : Generator} (enough : if left then fuel ≤ fuel' else fuel' < fuel)
    (runs : ∀ n, ∃ y t, after (memberSchema config (synthesizeWith config (n + 1)) context target) h = (.ok y, t) ∧
      UsedAs config.maxInlineDepth y x) :
    Paired left (fun _ _ => True) (fun y x => UsedAs config.maxInlineDepth y x)
      (after (memberSchema config (synthesizeWith config fuel) context target) h) (.ok x, k) := by
  cases fuel with
  | zero =>
    obtain ⟨y, t, run, used⟩ := runs 0
    have refines : Refines (memberSchema config (synthesizeWith config 0) context target)
        (memberSchema config (synthesizeWith config 1) context target) :=
      memberSchema_refines (synthesizeWith_refines config (Nat.zero_le 1)) context target
    cases left with
    | false => exact absurd enough (Nat.not_lt_zero fuel')
    | true =>
      rcases refines h with out | same
      · rw [run_eq out]
        exact .first rfl
      · rw [← same, run]
        exact .ok used trivial
  | succ n =>
    obtain ⟨y, t, run, used⟩ := runs n
    rw [run]
    exact .ok used trivial

/-- A synonym comes to a schema or fails as its target does, and is used by a reference where the target is
complex and like the target elsewhere. -/
theorem synonym_paired (inv : SynonymInvariant config.maxInlineDepth own context target h)
    (plain : Undashed (h.registry.get own).fullName) (shaped : Shaped config.maxInlineDepth h)
    (led : own ∈ h.inProgress → ∃ first ∈ h.inProgress, Denotes h context target.core first)
    (enough : if left then fuel ≤ fuel' else fuel' < fuel) :
    Paired left (fun _ _ => True) (fun y x => UsedAs config.maxInlineDepth y x)
      (after (memberSchema config (synthesizeWith config fuel) context target) h)
      (after (synthesizeWith config (fuel' + 1) own) h) := by
  cases found : h.memo.lookup own with
  | some x =>
    obtain ⟨b, recalls, used⟩ := inv.recalled x found
    rw [synthesizeWith, synthesizeOne_memo found]
    refine known_paired enough fun n => ?_
    obtain ⟨y, t, run, agrees⟩ := recalls.runs shaped inv.fresh n off
    exact ⟨y, t, run, used.agree agrees⟩
  | none =>
    by_cases busy : own ∈ h.inProgress
    · obtain ⟨first, under, denotes⟩ := led busy
      rw [synthesizeWith, synthesizeOne_cycle found busy]
      refine known_paired enough fun n => ?_
      have run : after (resolutionSchema (synthesizeWith config (n + 1)) (.declaration first)) h = _ :=
        synthesizeOne_cycle (inv.fresh first under) under
      refine ⟨_, _, memberSchema_denoted off (denotes (.refl h) inv.orderly) run, ?_⟩
      have complex := fun simple => Schema.not_simple_ref (h.nameOf first) (@Schema.simple_of_wrap target _ simple)
      rw [UsedAs, if_pos (Schema.complex_of_not_simple complex _)]
      exact ⟨_, rfl⟩
    · exact begun_paired off spelled inv plain found busy enough

end Site

end Synthesis

end ApiSchema
