import ApiSchema.Proofs.Annotations
import ApiSchema.Proofs.Flattening
import ApiSchema.Proofs.SynonymUses

/-! Annotations of members whose types are synonyms. Annotations are judged by the base type that the
schema of the member's type shows, and by nothing else. A synonym shows that of its target, unless the
target is complex and the synonym is used by a reference, which counts as an object; that makes a
difference where the target is an array. -/

namespace ApiSchema

open Steps

theorem Schema.isComplex_ofPrimitive (p : Primitive) (depth : Nat) : (ofPrimitive p).isComplex depth = false := by
  cases depth <;> cases p <;> rfl

def Schema.isComplexArray (depth : Nat) (s : Schema) : Bool :=
  s.isComplex depth && s.type = some "array"

namespace Field

open Annotation

/-- How the annotations of a member are judged on the schema of its type: they go with it, or the first
complaint is told. -/
def verdict (field : Field) (s : Schema) : Except Error Unit := (field.complement s).map fun _ => ()

section Verdict

variable {α β γ δ : Type}

def FailAlike (x : Except Error α) (y : Except Error β) : Prop := x.map (fun _ => ()) = y.map fun _ => ()

theorem FailAlike.bind {x : Except Error α} {y : Except Error β} {f : α → Except Error γ}
    {k : β → Except Error δ} (first : FailAlike x y) (rest : ∀ a b, x = .ok a → y = .ok b → FailAlike (f a) (k b)) :
    FailAlike (x >>= f) (y >>= k) := by
  cases x with
  | error e =>
    cases y with
    | error e' => exact first
    | ok b => cases first
  | ok a =>
    cases y with
    | error e' => cases first
    | ok b => exact rest a b rfl rfl

theorem FailAlike.same {x : Except Error α} {f : α → Except Error γ} {k : α → Except Error δ}
    (rest : ∀ a, FailAlike (f a) (k a)) : FailAlike (x >>= f) (x >>= k) :=
  FailAlike.bind rfl fun a b first second => by
    cases first.symm.trans second
    exact rest a

end Verdict

variable (field : Field) (base : BaseType) (s t : Schema)

theorem applyBounds_alike : FailAlike (field.applyBounds base s) (field.applyBounds base t) :=
  .same fun _ => .same fun _ => .same fun _ => rfl

theorem applyLength_alike : FailAlike (field.applyLength base s) (field.applyLength base t) := by
  unfold applyLength
  dsimp only
  split
  · rfl
  · refine .same fun _ => .same fun _ => ?_
    cases base <;> rfl

theorem applyEnum_alike : FailAlike (field.applyEnum base s) (field.applyEnum base t) := by
  unfold applyEnum
  split
  · rfl
  · dsimp only
    split
    · exact .same fun _ => rfl
    · rfl

theorem applyDefault_alike : FailAlike (field.applyDefault base s) (field.applyDefault base t) := by
  unfold applyDefault
  split
  · rfl
  · exact .same fun _ => rfl

theorem applyExample_alike (zero : Option String) :
    FailAlike (field.applyExample base zero s) (field.applyExample base zero t) := by
  unfold applyExample
  split
  · exact .same fun _ => rfl
  · cases zero <;> rfl

theorem applyExtensions_alike : FailAlike (field.applyExtensions s) (field.applyExtensions t) := by
  unfold applyExtensions
  split
  · rfl
  · exact .same fun _ => rfl

variable {s t}

theorem replaceType_base (same : BaseType.of s = BaseType.of t) :
    FailAlike (field.replaceType s) (field.replaceType t) ∧ ∀ a b, field.replaceType s = .ok a →
      field.replaceType t = .ok b → BaseType.of a = BaseType.of b := by
  unfold replaceType
  cases field.tags.schemaValue? "schema_type" with
  | none =>
    refine ⟨rfl, ?_⟩
    rintro a b ⟨⟩ ⟨⟩
    exact same
  | some custom =>
    dsimp only
    cases parseSchemaType? custom with
    | none => exact ⟨rfl, fun _ _ first => by cases first⟩
    | some made =>
      refine ⟨rfl, ?_⟩
      rintro a b ⟨⟩ ⟨⟩
      rfl

theorem encodeAsText_base (same : BaseType.of s = BaseType.of t) :
    BaseType.of (field.encodeAsText s) = BaseType.of (field.encodeAsText t) := by
  have zero : field.encodedZero? s = field.encodedZero? t := by unfold encodedZero?; rw [same]
  unfold encodeAsText
  rw [zero]
  split
  · rfl
  · exact same

/-- Annotations are judged by the base type of the schema alone. -/
theorem verdict_of_base (same : BaseType.of s = BaseType.of t) : field.verdict s = field.verdict t := by
  obtain ⟨replaced, bases⟩ := field.replaceType_base same
  refine FailAlike.bind replaced fun a b first second => ?_
  have same := bases a b first second
  have zero : field.encodedZero? a = field.encodedZero? b := by unfold encodedZero?; rw [same]
  have base := field.encodeAsText_base same
  dsimp only
  rw [zero, base]
  refine (field.applyBounds_alike _ _ _).bind fun _ _ _ _ => ?_
  refine (field.applyLength_alike _ _ _).bind fun _ _ _ _ => ?_
  refine (field.applyEnum_alike _ _ _).bind fun _ _ _ _ => ?_
  refine (field.applyDefault_alike _ _ _).bind fun _ _ _ _ => ?_
  refine (field.applyExample_alike _ _ _ _).bind fun _ _ _ _ => ?_
  exact (field.applyExtensions_alike _ _).bind fun _ _ _ _ => rfl

end Field

namespace Synthesis

open Registry (Clean Grows Orderly)
open Text (Undashed Unmarked)
open Generator (Ready)

/-- The way from a declaration to the struct or enumeration whose members are visited for it. It may lead
through synonyms. -/
inductive LeadsInto : DeclId → Generator → Generator → Prop where
  | here {id : DeclId} {g : Generator} (fresh : g.memo.lookup id = none) (idle : id ∉ g.inProgress)
      (solid : (g.registry.get id).body ≠ .interface)
      (kind : ∀ target, (g.registry.get id).body ≠ .synonym target) :
      LeadsInto id g (opened id (g.nameOf id) (g.naming id))
  | through {id inner : DeclId} {target : TypeExpr} {r : Resolver} {g g' : Generator}
      (fresh : g.memo.lookup id = none) (idle : id ∉ g.inProgress)
      (synonym : (g.registry.get id).body = .synonym target)
      (denotes : after (Resolver.resolveExpr false (g.registry.get id).scope target.core)
        ((g.naming id).enter id).resolver = (.ok (.declaration inner), r))
      (onward : LeadsInto inner { (g.naming id).enter id with resolver := r } g') : LeadsInto id g g'

/-- The states in which a synthesis comes to the type of a member, or is asked for a type, where nothing
has failed since the generator was made. -/
inductive AtMember (config : Config) (s : Resolver) : Generator → Prop where
  | start : AtMember config s { resolver := s }
  | next {fuel : Nat} {context : ScopeId} {type : TypeExpr} {x : Schema} {g g' : Generator}
      (before : AtMember config s g)
      (run : after (memberSchema config (synthesizeWith config fuel) context type) g = (.ok x, g')) :
      AtMember config s g'
  | inside {context : ScopeId} {type : TypeExpr} {id : DeclId} {r : Resolver} {g g' : Generator}
      (before : AtMember config s g)
      (denotes : after (Resolver.resolveExpr false context type.core) g.resolver = (.ok (.declaration id), r))
      (opens : LeadsInto id { g with resolver := r } g') : AtMember config s g'

section Earlier

variable {config : Config} {synth : DeclId → Synth Schema} {fuel : Nat} {s : Resolver} {context : ScopeId}
  {renameAll : Option String} {field : Field} {m m' : Members} {g g' : Generator}

theorem addField_visits (run : after (addField config synth context renameAll m field) g = (.ok m', g')) :
    ∃ x, after (memberSchema config synth context field.type) g = (.ok x, g') := by
  unfold addField at run
  obtain ⟨x, t, made, last⟩ := of_bind_ok run
  cases done : field.complement x with
  | error e =>
    rw [done] at last
    cases last
  | ok y =>
    rw [done] at last
    cases last
    exact ⟨x, made⟩

theorem spliceField_visits (run : after (spliceField config synth context m field) g = (.ok m', g')) :
    ∃ x, after (memberSchema config synth context field.type) g = (.ok x, g') := by
  unfold spliceField at run
  obtain ⟨body, t, read, last⟩ := of_bind_ok run
  cases last
  obtain ⟨x, made, _⟩ := embeddedBody_reads read
  exact ⟨x, made⟩

/-- It comes to the first member of a struct that is asked for before all others. -/
theorem AtMember.first {id : DeclId} {fields : List Field} (struct : (s.registry.get id).body = .struct fields) :
    AtMember config s (entered s id) := by
  have opens : LeadsInto id { resolver := s } (entered s id) :=
    .here rfl (by simp) (by simp [Generator.registry, struct]) (by simp [Generator.registry, struct])
  exact @AtMember.inside config s 0 (.resolved id) id s _ _ .start rfl opens

theorem AtMember.fields {rule : Members → Field → Synth Members}
    (visits : ∀ m field g m' g', after (rule m field) g = (.ok m', g') → ∃ x,
      after (memberSchema config (synthesizeWith config fuel) context field.type) g = (.ok x, g'))
    {fields : List Field} (there : AtMember config s g) (run : after (fields.foldlM rule m) g = (.ok m', g')) :
    AtMember config s g' := by
  induction fields generalizing m g with
  | nil =>
    cases run
    exact there
  | cons field rest ih =>
    rw [List.foldlM_cons] at run
    obtain ⟨_, t, first, run⟩ := of_bind_ok run
    obtain ⟨x, made⟩ := visits _ _ _ _ _ first
    exact ih (.next there made) run

/-- Once the flattened fields of an object have been spliced, and some of its own members added, it comes
to the next one. -/
theorem AtMember.earlier {flat direct : List Field} (there : AtMember config s g)
    (run : after (flat.foldlM (spliceField config (synthesizeWith config fuel) context) m >>=
      direct.foldlM (addField config (synthesizeWith config fuel) context renameAll)) g = (.ok m', g')) :
    AtMember config s g' := by
  obtain ⟨_, t, spliced, added⟩ := of_bind_ok run
  have between := AtMember.fields (fun _ _ _ _ _ run => spliceField_visits run) there spliced
  exact AtMember.fields (fun _ _ _ _ _ run => addField_visits run) between added

end Earlier

section Members

variable {config : Config} (off : config.parseDependencies = false) {s : Resolver} {own id : DeclId}
  {target : TypeExpr} {g g' h : Generator}

structure SynonymKept (config : Config) (s : Resolver) (own : DeclId) (target : TypeExpr) (g : Generator) :
    Prop where
  inv : SynonymInvariant config.maxInlineDepth own (s.registry.get own).scope target g
  shaped : Shaped config.maxInlineDepth g
  still : Still { resolver := s } g

/-- On the way to a declaration, a synonym that is under way has led to it or to something that is so too. -/
structure KeptTowards (config : Config) (s : Resolver) (own : DeclId) (target : TypeExpr) (id : DeclId)
    (g : Generator) : Prop extends SynonymKept config s own target g where
  led : own ∈ g.inProgress → ∃ first, (first ∈ g.inProgress ∨ first = id) ∧
    Denotes g (s.registry.get own).scope target.core first

structure KeptAtMember (config : Config) (s : Resolver) (own : DeclId) (target : TypeExpr) (g : Generator) :
    Prop extends SynonymKept config s own target g where
  led : own ∈ g.inProgress → ∃ first ∈ g.inProgress, Denotes g (s.registry.get own).scope target.core first

theorem KeptAtMember.start (clean : Clean s.registry) (synonym : (s.registry.get own).body = .synonym target) :
    KeptAtMember config s own target { resolver := s } where
  inv := ⟨clean, synonym, rfl, by simp, by simp, by simp⟩
  shaped := .fresh s
  still := .refl _
  led busy := by simp at busy

variable (spelled : Spelled target)

include spelled

theorem SynonymKept.begun (kept : SynonymKept config s own target g) (fresh : g.memo.lookup id = none)
    (idle : id ∉ g.inProgress) (solid : (g.registry.get id).body ≠ .interface) {placed : Bool}
    (begun : Generator.Begun id (g.nameOf id) placed (g.naming id) g') :
    SynonymKept config s own target g' ∧ Still g g' := by
  have named := ((synonymContract_cases config spelled).naming id kept.inv).1
  have same : (g.naming id).registry.get id = g.registry.get id := Registry.definitionName_get g.registry id id
  have ready : Ready id (g.nameOf id) (g.naming id) :=
    ⟨Registry.definitionName_named _ _, fresh, idle, by rwa [same]⟩
  have shaped : Shaped config.maxInlineDepth (g.naming id) :=
    kept.shaped.grows (Registry.definitionName_grows g.registry id)
  have still : Still g g' := .congr (.naming id g) rfl begun.registry
  exact ⟨⟨named.begun spelled ready begun, shaped.begun ready begun, kept.still.trans still⟩, still⟩

theorem SynonymKept.resolving (kept : SynonymKept config s own target g) {scope : ScopeId} {type : TypeExpr}
    {r : Resolver} {answer : Except Error Resolution}
    (run : after (Resolver.resolveExpr false scope type) g.resolver = (answer, r)) :
    SynonymKept config s own target { g with resolver := r } ∧ Still g { g with resolver := r } := by
  obtain ⟨later, stays⟩ := kept.inv.resolving spelled scope type run
  have still := stays.known.still
  exact ⟨⟨later, kept.shaped.grows still.grows, kept.still.trans still⟩, still⟩

theorem KeptTowards.into (leads : LeadsInto id g g') (towards : KeptTowards config s own target id g) :
    KeptAtMember config s own target g' := by
  induction leads with
  | @here id g fresh idle solid kind =>
    obtain ⟨kept, still⟩ :=
      towards.begun spelled fresh idle solid (Generator.begun_opened id (g.nameOf id) (g.naming id))
    refine ⟨kept, fun busy => ?_⟩
    have apart : own ≠ id := by
      rintro rfl
      exact kind target towards.inv.body
    obtain ⟨first, place, denotes⟩ := towards.led ((List.mem_cons.mp busy).resolve_left apart)
    refine ⟨first, ?_, denotes.later still⟩
    exact place.elim (List.mem_cons_of_mem _) fun same => same ▸ List.mem_cons_self
  | @through id inner target' r g g' fresh idle synonym denotes _ ih =>
    obtain ⟨entered, begun⟩ := towards.begun spelled fresh idle (by simp [synonym])
      (Generator.begun_enter id (g.nameOf id) (g.naming id))
    obtain ⟨kept, resolved⟩ := entered.resolving spelled denotes
    refine ih ⟨kept, fun busy => ?_⟩
    by_cases same : own = id
    · subst same
      obtain rfl : target = target' := Body.synonym.inj (towards.inv.body.symm.trans synonym)
      rw [towards.inv.scope] at denotes
      exact ⟨inner, .inr rfl, fun further orderly =>
        entered.inv.still_denotes spelled denotes resolved further orderly⟩
    · obtain ⟨first, place, denotes⟩ := towards.led ((List.mem_cons.mp busy).resolve_left same)
      refine ⟨first, .inl ?_, denotes.later (begun.trans resolved)⟩
      exact place.elim (List.mem_cons_of_mem _) fun same => same ▸ List.mem_cons_self

include off

/-- Wherever a synthesis comes to a member, the synonym is still what it was. -/
theorem AtMember.kept (clean : Clean s.registry) (synonym : (s.registry.get own).body = .synonym target)
    (there : AtMember config s h) : KeptAtMember config s own target h := by
  induction there with
  | start => exact .start clean synonym
  | @next fuel context type x g g' _ run ih =>
    obtain ⟨inv, stays, _⟩ := (memberSchema_made off spelled
      (fun id _ => synthesizeWith_made off spelled fuel id) context type ih.inv).ok run
    have still := stays.known.still
    refine ⟨⟨inv, (memberSchema_shaped ih.shaped run).1, ih.still.trans still⟩, fun busy => ?_⟩
    obtain ⟨first, place, denotes⟩ := ih.led (stays.inProgress ▸ busy)
    exact ⟨first, stays.inProgress ▸ place, denotes.later still⟩
  | inside _ denotes opens ih =>
    obtain ⟨kept, still⟩ := ih.resolving spelled denotes
    refine KeptTowards.into spelled opens ⟨kept, fun busy => ?_⟩
    obtain ⟨first, place, denotes⟩ := ih.led busy
    exact ⟨first, .inl place, denotes.later still⟩

end Members

section Verdicts

variable {config : Config} {s : Resolver} {own : DeclId} {target : TypeExpr} {h k k' : Generator}
  {x y : Schema}

/-- A synonym shows annotations what its target shows, but an object for an array that is not written out. -/
theorem UsedAs.base {depth : Nat} (used : UsedAs depth y x) (shape : y.Used) :
    BaseType.of x = BaseType.of (if y.isComplexArray depth then .object else y) := by
  unfold UsedAs at used
  split at used
  · next complex =>
    obtain ⟨name, rfl⟩ := used
    cases shape with
    | primitive p => simp [Schema.isComplex_ofPrimitive] at complex
    | @array items inner =>
      have here : (Schema.array items).isComplexArray depth = true := by
        rw [Schema.isComplexArray, complex]
        rfl
      rw [if_pos here]
      rfl
    | ref | object | map =>
      rw [if_neg (by simp [Schema.isComplexArray, Schema.ref, Schema.object, Schema.map, Schema.ofType])]
      rfl
  · next simple =>
    rw [used, if_neg]
    simp [Schema.isComplexArray, simple]

/-- With enough fuel, adding a member to an object comes to this: it succeeds, or fails with the error. -/
def Judged (config : Config) (context : ScopeId) (renameAll : Option String) (m : Members) (field : Field)
    (g : Generator) (outcome : Except Error Unit) : Prop :=
  ∃ fuel, (after (addField config (synthesizeWith config fuel) context renameAll m field) g).1.map
    (fun _ => ()) = outcome.mapError .error

/-- The type comes to an array that is not written out where a synonym for the type is used. -/
def OutlinedArray (config : Config) (context : ScopeId) (type : TypeExpr) (g : Generator) : Prop :=
  ∃ fuel y g', after (memberSchema config (synthesizeWith config fuel) context type) g = (.ok y, g') ∧
    y.isComplexArray config.maxInlineDepth = true

def judgement (field : Field) : Except Failure Schema → Except Failure Unit
  | .ok x => (field.verdict x).mapError .error
  | .error e => .error e

theorem mapError_injective {one two : Except Error Unit}
    (same : one.mapError Failure.error = two.mapError Failure.error) : one = two := by
  cases one <;> cases two <;> cases same <;> rfl

/-- Only a type that has come to something is judged. -/
theorem ended_of_judgement {field : Field} {result : Except Failure Schema} {outcome : Except Error Unit}
    (comes : judgement field result = outcome.mapError .error) : result ≠ .error .exhausted := by
  rintro rfl
  cases outcome <;> cases comes

theorem judgement_of_base {field : Field} (same : BaseType.of x = BaseType.of y) :
    judgement field (.ok x) = judgement field (.ok y) := by
  rw [judgement, field.verdict_of_base same, judgement]

theorem judged_iff {context : ScopeId} {renameAll : Option String} {m : Members} {field : Field} {g : Generator}
    {outcome : Except Error Unit} : Judged config context renameAll m field g outcome ↔
      ∃ fuel, judgement field (after (memberSchema config (synthesizeWith config fuel) context field.type) g).1 =
        outcome.mapError .error := by
  have added (fuel : Nat) :
      (after (addField config (synthesizeWith config fuel) context renameAll m field) g).1.map (fun _ => ()) =
        judgement field (after (memberSchema config (synthesizeWith config fuel) context field.type) g).1 := by
    unfold addField
    rcases run : after (memberSchema config (synthesizeWith config fuel) context field.type) g with ⟨e | x, t⟩
    · rw [run_bind_error run]
      rfl
    · rw [run_bind_ok run, judgement, Field.verdict]
      cases field.complement x <;> rfl
  simp only [Judged, added]

/-- An outcome that is not for want of fuel is the same with any fuel. -/
theorem memberSchema_unique {context : ScopeId} {type : TypeExpr} {g : Generator} {fuel fuel' : Nat}
    (one : (after (memberSchema config (synthesizeWith config fuel) context type) g).1 ≠ .error .exhausted)
    (two : (after (memberSchema config (synthesizeWith config fuel') context type) g).1 ≠ .error .exhausted) :
    after (memberSchema config (synthesizeWith config fuel) context type) g =
      after (memberSchema config (synthesizeWith config fuel') context type) g := by
  have refines {less : Nat} (le : less ≤ max fuel fuel') : Refines
      (memberSchema config (synthesizeWith config less) context type)
      (memberSchema config (synthesizeWith config (max fuel fuel')) context type) :=
    memberSchema_refines (synthesizeWith_refines config le) context type
  have first := (refines (Nat.le_max_left fuel fuel') g).resolve_left one
  exact first.symm.trans ((refines (Nat.le_max_right fuel fuel') g).resolve_left two)

section Site

variable (off : config.parseDependencies = false) (clean : Clean s.registry)
  (synonym : (s.registry.get own).body = .synonym target) (spelled : Spelled target)
  (plain : Undashed (s.registry.get own).fullName) {segments : List String}
  (written : ∀ segment ∈ segments, Unmarked segment)
  (denotes : after (Resolver.resolveExpr false (s.registry.get own).scope (.named segments [])) s =
    (.ok (.declaration own), s))
  (there : AtMember config s h)

include off clean synonym spelled plain written denotes there

/-- A member with the synonym's type comes to what one with the target's type does, with an array that is
not written out taken for an object. -/
theorem synonym_judgement (field : Field) {left : Bool} {fuel fuel' : Nat}
    (enough : if left then fuel ≤ fuel' else fuel' < fuel) :
    let named := (after (memberSchema config (synthesizeWith config (fuel' + 1)) (s.registry.get own).scope
      (.named segments [])) h).1
    let direct := (after (memberSchema config (synthesizeWith config fuel) (s.registry.get own).scope target) h).1
    (if left then direct = .error .exhausted else named = .error .exhausted) ∨
      judgement field named = judgement field
        (direct.map fun y => if y.isComplexArray config.maxInlineDepth then .object else y) := by
  intro named direct
  have kept := there.kept off spelled clean synonym
  have same : h.registry.get own = s.registry.get own := kept.still.grows.body (by
    change (s.registry.get own).body ≠ .interface
    simp [synonym])
  have again := @Resolver.resolveExpr_again (s.registry.get own).scope s h.resolver segments [] clean
    (by simpa [TypeExpr.names, TypeExpr.allNames] using written) kept.still.added kept.inv.orderly
    (by rw [denotes]; exact kept.still.grows)
  rw [denotes] at again
  have use : named = (after (synthesizeWith config (fuel' + 1) own) h).1 := by
    rcases run : after (synthesizeWith config (fuel' + 1) own) h with ⟨e | x, k⟩
    · exact congrArg Prod.fst (memberSchema_denoted_error off again (synthesizeWith_fatal run) run)
    · exact congrArg Prod.fst (memberSchema_denoted off again run)
  have paired := synonym_paired off spelled kept.inv (by rwa [same]) kept.shaped kept.led enough
  rw [use]
  rcases made : after (memberSchema config (synthesizeWith config fuel) (s.registry.get own).scope target) h
    with ⟨e | y, k⟩ <;> rcases run : after (synthesizeWith config (fuel' + 1) own) h with ⟨e' | x, k'⟩ <;>
    rw [made, run] at paired <;> rw [show direct = _ from congrArg Prod.fst made]
  · cases paired with
    | first here => exact .inl (by rw [if_pos here])
    | second here => exact .inl (by rw [if_neg (by simp [here])])
    | error => exact .inr rfl
  · cases paired with
    | first here => exact .inl (by rw [if_pos here])
  · cases paired with
    | second here => exact .inl (by rw [if_neg (by simp [here])])
  · cases paired with
    | ok used => exact .inr (judgement_of_base (used.base (memberSchema_shaped kept.shaped made).2))

theorem synonym_judged_iff (renameAll : Option String) (m : Members) {field : Field}
    (named : field.type = .named segments []) (outcome : Except Error Unit) :
    Judged config (s.registry.get own).scope renameAll m field h outcome ↔ ∃ fuel,
      judgement field ((after (memberSchema config (synthesizeWith config fuel) (s.registry.get own).scope
        target) h).1.map fun y => if y.isComplexArray config.maxInlineDepth then .object else y) =
        outcome.mapError .error := by
  have judged {left : Bool} {fuel fuel' : Nat} := @synonym_judgement config s own target h off clean synonym
    spelled plain segments written denotes there field left fuel fuel'
  rw [judged_iff, named]
  constructor
  · rintro ⟨fuel, comes⟩
    have refines : Refines
        (memberSchema config (synthesizeWith config fuel) (s.registry.get own).scope (.named segments []))
        (memberSchema config (synthesizeWith config (fuel + 1)) (s.registry.get own).scope (.named segments [])) :=
      memberSchema_refines (synthesizeWith_refines config (Nat.le_succ fuel)) _ _
    have same := (refines h).resolve_left (ended_of_judgement comes)
    rw [← same] at comes
    have onward := (@judged false (fuel + 1) fuel (Nat.lt_succ_self fuel)).resolve_left (ended_of_judgement comes)
    exact ⟨fuel + 1, onward.symm.trans comes⟩
  · rintro ⟨fuel, comes⟩
    rcases @judged true fuel fuel (Nat.le_refl fuel) with out | same
    · rw [show _ = Except.error Failure.exhausted from out] at comes
      exact absurd rfl (ended_of_judgement comes)
    · exact ⟨fuel + 1, same.trans comes⟩

/-- Let a synonym and a member be declared in one scope. If the synonym's target comes to an array that is
nested too deep to be written out, or has other elements than scalars, then a member with the synonym's
name for a type is judged as an object. In all other cases it comes to the same as the member with the
target for a type, be it that it is added or fails with an error. -/
theorem synonym_judged (renameAll : Option String) (m : Members) {field : Field}
    (named : field.type = .named segments []) :
    let scope := (s.registry.get own).scope
    (OutlinedArray config scope target h → ∀ outcome,
      Judged config scope renameAll m field h outcome ↔ outcome = field.verdict .object) ∧
    (¬OutlinedArray config scope target h → ∀ outcome,
      Judged config scope renameAll m field h outcome ↔
        Judged config scope renameAll m { field with type := target } h outcome) := by
  intro scope
  have iff := synonym_judged_iff off clean synonym spelled plain written denotes there renameAll m named
  refine ⟨fun outlined outcome => ?_, fun plain outcome => ?_⟩
  · obtain ⟨fuel, y, k, made, array⟩ := outlined
    rw [iff]
    constructor
    · rintro ⟨fuel', comes⟩
      have ended : (after (memberSchema config (synthesizeWith config fuel') scope target) h).1 ≠
          .error .exhausted := fun out => ended_of_judgement comes (by rw [out]; rfl)
      have same := memberSchema_unique ended (by rw [made]; simp)
      rw [same, made] at comes
      simp only [judgement, Except.map, array, if_true] at comes
      exact mapError_injective comes.symm
    · rintro rfl
      refine ⟨fuel, ?_⟩
      rw [made]
      simp [judgement, Except.map, array]
  · rw [iff, judged_iff]
    refine exists_congr fun fuel => ?_
    rcases made : after (memberSchema config (synthesizeWith config fuel) scope target) h with ⟨e | y, k⟩
    · rfl
    · have written : y.isComplexArray config.maxInlineDepth = false := by
        by_contra array
        exact plain ⟨fuel, y, k, made, by simpa using array⟩
      simp only [Except.map, written, Bool.false_eq_true, if_false]
      rfl

end Site

end Verdicts

def values : Field := Builder.member "values" (.named ["Numbers"] []) [.mk "min_length" (some "1") []]

def series : Registry :=
  Registry.run [.index "crate::models" ⟨"src/models.rs", "crate::models", []⟩,
    .insert (Builder.declared "Numbers" (.synonym (.array (.primitive .i32)))),
    .insert (Builder.declared "Series" (.struct
      [Builder.member "keys" (.named ["Numbers"] []) [], values]))] .empty

theorem series_clean : Clean series := by
  have blank : (Source.parseFile? "").map List.length = some 0 := by decide +kernel
  obtain ⟨items, parsed, empty⟩ := Option.map_eq_some_iff.mp blank
  obtain rfl := List.length_eq_zero_iff.mp empty
  have ran : Ran {} { resolver := { registry := series } } := by
    refine (Ran.fresh none).run _ fun call member => ?_
    fin_cases member
    · exact ⟨by decide +kernel, "", parsed⟩
    · trivial
    · trivial
  exact ran.clean rfl

/-- The values are judged as an array, whose bound is taken. -/
theorem synonym_judged_series :
    let keys := Builder.member "keys" (.named ["Numbers"] []) []
    let visit := after (addField {} (synthesizeWith {} nesting) 0 none {} keys) (entered { registry := series } 1)
    ∃ m, visit.1 = .ok m ∧ ¬OutlinedArray {} 0 (.array (.primitive .i32)) visit.2 ∧
      Judged {} 0 none m { values with type := .array (.primitive .i32) } visit.2 (.ok ()) ∧
        Judged {} 0 none m values visit.2 (.ok ()) := by
  intro keys visit
  rcases run : visit with ⟨e | m, h⟩
  · have ok : visit.1.toOption.isSome = true := by decide +kernel
    rw [run] at ok
    cases ok
  have struct : (series.get 1).body = .struct [keys, values] := rfl
  have there : AtMember {} { registry := series } h := by
    refine @AtMember.earlier {} nesting _ 0 none {} m _ h [] [keys] (.first struct) ?_
    rw [List.foldlM_nil, pure_bind, List.foldlM_cons, run_bind_ok run]
    rfl
  have made (fuel : Nat) : after (memberSchema {} (synthesizeWith {} fuel) 0 (.array (.primitive .i32))) h =
      (.ok (.array (.ofPrimitive .i32)), h) := rfl
  have written : ¬OutlinedArray {} 0 (.array (.primitive .i32)) h := by
    rintro ⟨fuel, y, h', comes, array⟩
    cases (made fuel).symm.trans comes
    revert array
    decide
  have direct : Judged {} 0 none m { values with type := .array (.primitive .i32) } h (.ok ()) :=
    judged_iff.mpr ⟨0, by rw [made]; rfl⟩
  have spelled : Spelled (.array (.primitive .i32)) := ⟨by decide, by simp [TypeExpr.core]⟩
  have judged := @synonym_judged {} { registry := series } 0 _ h rfl series_clean rfl spelled (by decide)
    ["Numbers"] (by decide) rfl there none m values rfl
  exact ⟨m, rfl, written, direct, (judged.2 written (.ok ())).mpr direct⟩

/-- A member that must not be empty, next to a synonym for an array nested too deep to be written out. -/
def gridFiles (type : String) : List (String × String × String) :=
  [("src/models.rs", "crate::models", "pub type Matrix = Vec<Vec<Vec<f32>>>;
    pub struct Grid \x7b #[schema(min_length = 1)] pub cells: " ++ type ++ " \x7d")]

/-- A bounded member in a module whose parent has the name of an instance. The parent is imported under the
name that the target of a synonym has. -/
def boundedFiles (type : String) : List (String × String × String) :=
  [("src/lib.rs", "crate", "pub struct Page<T> { pub items: Vec<T> }"),
    ("src/other.rs", "crate::other", "pub type X = i32;"),
    ("src/x.rs", "crate::Page-i32::x", "use super as X; use crate::other::*; pub type A = X;
      pub struct S \x7b pub a: A, pub p: crate::Page<i32>, #[schema(minimum = 1)] pub f: " ++ type ++ " \x7d")]

def firstAnswer (files : List (String × String × String)) (text : String) : Except Failure Schema :=
  (after (schemaOfReference {} (files.length - 1) text) (knowing files)).1

/-- The length of the array may be bounded, but not under the synonym's name. Where an import comes to stand
for an instance that is made between the members, the synonym keeps the number that its target was. -/
theorem synonym_rejected :
    (firstAnswer (gridFiles "Vec<Vec<Vec<f32>>>") "Grid" = .ok (.ref "models.Grid") ∧
      firstAnswer (gridFiles "Matrix") "Grid" =
        .error (.error (.annotationConflict "cells" "length bounds require a string or array type"))) ∧
    firstAnswer (boundedFiles "A") "S" = .ok (.ref "x.S") ∧
      firstAnswer (boundedFiles "X") "S" =
        .error (.error (.annotationConflict "f" "minimum requires a numeric type")) := by
  decide +kernel

end Synthesis

end ApiSchema
