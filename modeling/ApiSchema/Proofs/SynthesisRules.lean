import ApiSchema.Proofs.Annotations
import ApiSchema.Proofs.SynthesisSteps

/-! How the rules of synthesis pass a contract on. A schema is built from schemas of declarations
in a fixed number of ways. If a property of schemas survives each of them, and the synthesis of a
declaration meets a contract with that property, then so do the schemas of members, of objects and
of whole bodies. The rules are gone through once here; what a contract says is left open. -/

namespace ApiSchema.Synthesis

open Steps
open Registry (Grows)

/-- A property of schemas, with one of members collected so far, that every way of building a
schema from others keeps. -/
structure Building (good : Schema → Prop) (fit : Members → Prop) : Prop where
  blank : good {}
  object (doc : Option String) : good { Schema.object with description := doc }
  primitive (p : Primitive) : good (.ofPrimitive p)
  array {s : Schema} : good s → good (.array s)
  map {s : Schema} : good s → good (.map s)
  described {s : Schema} (doc : Option String) : good s → good { s with description := doc }
  complement {s t : Schema} (field : Field) : good s → field.complement s = .ok t → good t
  none : fit {}
  splice {m : Members} {body : Schema} : fit m → good body → fit (m.splice body)
  add {m : Members} {s : Schema} (name : String) (required : Bool) :
    fit m → good s → fit (m.add name s required)
  toSchema {m : Members} : fit m → good m.toSchema
  tuple {s : Schema} (length : Nat) :
    good s → good { Schema.array s with minItems := some length, maxItems := some length }
  plainEnum (rule : Option String) (variants : List Variant) : good (plainEnumSchema rule variants)
  unitVariant (name : String) (doc : Option String) : good { Schema.ofType "string" with
    enumValues := some [.string name], description := doc }
  variant {s : Schema} (name : String) (doc : Option String) : good s → good { Schema.object with
    properties := some (.singleton name s), required := some [name], description := doc }
  branches {schemas : List Schema} : (∀ s ∈ schemas, good s) → good { oneOf := some schemas }

/-- The contract of steps that may also fail in a way from which a member recovers. -/
def lenient (c : Contract Failure Generator) : Contract Failure Generator where
  holds := c.holds
  moves := c.moves
  fails e g g' := c.fails e g g' ∨ (¬Fatal e ∧ c.holds g' ∧ c.moves g g')
  refl := c.refl
  trans := c.trans
  fails_after first failed := by
    rcases failed with failed | ⟨mild, holds, second⟩
    · exact .inl (c.fails_after first failed)
    · exact .inr ⟨mild, holds, c.trans first second⟩

theorem lenient_of_meets {α : Type} {c : Contract Failure Generator} {x : Synth α} {g : Generator}
    {post : α → Generator → Prop} (meets : MeetsAt c x g post) : MeetsAt (lenient c) x g post where
  ok := meets.ok
  error run := .inl (meets.error run)

theorem lenient_lasting {c : Contract Failure Generator} (lasting : c.Lasting) : (lenient c).Lasting := by
  rintro e g g' (failed | ⟨_, kept⟩)
  · exact lasting e g g' failed
  · exact kept

/-- A contract under which synthesis may build schemas: only fatal failures come up from
declarations, resolution keeps to it, and definitions have the property. -/
structure Law (config : Config) (c : Contract Failure Generator) (good : Schema → Generator → Prop)
    (fit : Members → Generator → Prop) : Prop where
  builds (g : Generator) : Building (good · g) (fit · g)
  stable : Stable c good
  stableMembers : Stable c fit
  fatal {e : Failure} {g g' : Generator} : c.fails e g g' → Fatal e
  conflict {g : Generator} (field message : String) :
    c.holds g → c.fails (.error (.annotationConflict field message)) g g
  resolves (context : ScopeId) (type : TypeExpr) : Meets (lenient c)
    (Synth.resolving (Resolver.resolveExpr config.parseDependencies context type)) fun _ _ => True
  defined {g : Generator} {name : String} {s : Schema} :
    c.holds g → g.definitions.get? name = some s → good s g

theorem anything_building : Building (fun _ => True) fun _ => True := by constructor <;> intros <;> trivial

/-- A contract under which nothing is asked of schemas. -/
theorem Law.of_any {config : Config} {c : Contract Failure Generator}
    (fatal : ∀ {e g g'}, c.fails e g g' → Fatal e)
    (conflict : ∀ {g} (field message : String),
      c.holds g → c.fails (.error (.annotationConflict field message)) g g)
    (resolves : ∀ context type, Meets (lenient c)
      (Synth.resolving (Resolver.resolveExpr config.parseDependencies context type)) fun _ _ => True) :
    Law config c (fun _ _ => True) fun _ _ => True where
  builds _ := anything_building
  stable _ _ _ _ _ _ := trivial
  stableMembers _ _ _ _ _ _ := trivial
  fatal := fatal
  conflict := conflict
  resolves := resolves
  defined _ _ := trivial

section Resolving

variable {c : Contract Failure Generator} {external : Bool} {context : ScopeId} {type : TypeExpr}

/-- Resolution keeps to a contract if the state that it leaves does, whatever comes of it. -/
theorem resolving_of_left
    (keeps : ∀ g, c.holds g → let s := (after (Resolver.resolveExpr external context type) g.resolver).2
      c.holds { g with resolver := s } ∧ c.moves g { g with resolver := s }) :
    Meets (lenient c) (Synth.resolving (Resolver.resolveExpr external context type)) fun _ _ => True := by
  intro g holds
  obtain ⟨left, moves⟩ := keeps g holds
  have growing := Resolver.resolveExpr_onlyGrows external context type g.resolver trivial
  rcases run : after (Resolver.resolveExpr external context type) g.resolver with ⟨e | resolution, s⟩ <;>
    rw [run] at left moves
  · exact .of_error (after_resolving_error run) (.inr ⟨(growing.error run).2, left, moves⟩)
  · exact .of_ok (after_resolving_ok run) left moves trivial

/-- So it does if the contract lets the registry grow. -/
theorem resolving_of_grows
    (growing : ∀ g s, c.holds g → Grows g.registry s.registry →
      c.holds { g with resolver := s } ∧ c.moves g { g with resolver := s }) :
    Meets (lenient c) (Synth.resolving (Resolver.resolveExpr external context type)) fun _ _ => True :=
  resolving_of_left fun g holds => growing g _ holds
    (Resolver.onlyGrows_after (Resolver.resolveExpr_onlyGrows external context type) g.resolver)

end Resolving

/-- A contract with a property of schemas where they are used, which every way of writing a type keeps. -/
structure Usage (config : Config) (c : Contract Failure Generator) (use : Schema → Generator → Prop) :
    Prop where
  primitive (p : Primitive) (g : Generator) : use (.ofPrimitive p) g
  object (g : Generator) : use .object g
  array {s : Schema} {g : Generator} : use s g → use (.array s) g
  map {s : Schema} {g : Generator} : use s g → use (.map s) g
  fatal {e : Failure} {g g' : Generator} : c.fails e g g' → Fatal e
  resolves (context : ScopeId) (type : TypeExpr) : Meets (lenient c)
    (Synth.resolving (Resolver.resolveExpr config.parseDependencies context type)) fun _ _ => True

section Using

variable {c : Contract Failure Generator} {use : Schema → Generator → Prop} {config : Config}
  {synth : DeclId → Synth Schema} (uses : Usage config c use) (each : ∀ id, Meets c (synth id) use)

include uses each

theorem exprSchema_meets (context : ScopeId) :
    (type : TypeExpr) → Meets (lenient c) (exprSchema config synth context type) use
  | .primitive p => fun g holds => .pure holds (uses.primitive p g)
  | .optional inner => exprSchema_meets context inner
  | .pointer inner => exprSchema_meets context inner
  | .array inner => fun g holds => by
    rw [exprSchema]
    refine (exprSchema_meets context inner g holds).bind ?_
    intro s g' holds _ result
    exact .pure holds (uses.array result)
  | .map _ value => fun g holds => by
    rw [exprSchema]
    refine (exprSchema_meets context value g holds).bind ?_
    intro s g' holds _ result
    exact .pure holds (uses.map result)
  | .interface => fun g holds => .pure holds (uses.object g)
  | .function => fun g holds => .pure holds (uses.object g)
  | .param _ => fun g holds => .pure holds (uses.object g)
  | .resolved id => fun g holds => lenient_of_meets (each id g holds)
  | .named segments args => fun g holds => by
    rw [exprSchema]
    refine (uses.resolves context _ g holds).bind ?_
    intro resolution g' holds _ _
    cases resolution with
    | primitive p => exact .pure holds (uses.primitive p g')
    | any => exact .pure holds (uses.object g')
    | declaration id => exact lenient_of_meets (each id g' holds)

/-- Only fatal failures come up from members. -/
theorem memberSchema_meets (context : ScopeId) (type : TypeExpr) :
    Meets c (memberSchema config synth context type) use := by
  intro g holds
  have meets : MeetsAt (lenient c) (exprSchema config synth context type) g use :=
    exprSchema_meets uses each context type g holds
  rcases run : after (exprSchema config synth context type) g with ⟨e | s, g'⟩
  · by_cases fatal : Fatal e
    · have failed := (meets.error run).resolve_right fun mild => mild.1 fatal
      exact .of_error (memberSchema_fatal fatal run) failed
    · obtain ⟨_, holds', moves⟩ := (meets.error run).resolve_left fun failed => fatal (uses.fatal failed)
      exact .of_ok (memberSchema_recovers fatal run) holds' moves (uses.object g')
  · obtain ⟨holds', moves, result⟩ := meets.ok run
    exact .of_ok (memberSchema_ok run) holds' moves result

end Using

section Passing

variable {c : Contract Failure Generator} {good : Schema → Generator → Prop}
  {fit : Members → Generator → Prop} {config : Config} {synth : DeclId → Synth Schema}
  (law : Law config c good fit) (each : ∀ id, Meets c (synth id) good)

include law

theorem Law.uses : Usage config c good where
  primitive p g := (law.builds g).primitive p
  object g := (law.builds g).object none
  array := (law.builds _).array
  map := (law.builds _).map
  fatal := law.fatal
  resolves := law.resolves

/-- The annotations of a field are applied to a schema, and nothing but a conflict comes of it if that
fails. -/
theorem complement_meets {α : Type} {post : α → Generator → Prop} {field : Field} {s : Schema}
    {onward : Schema → Synth α} {g : Generator} (holds : c.holds g)
    (meets : ∀ t, field.complement s = .ok t → MeetsAt c (onward t) g post) :
    MeetsAt c (match field.complement s with
      | .ok t => onward t
      | .error e => throw (.error e)) g post := by
  have layered := Field.complement_yields field s
  rcases done : field.complement s with e | t
  · rw [done] at layered
    obtain ⟨name, message, rfl⟩ := layered
    exact .throw (law.conflict name message holds)
  · exact meets t done

include each

theorem embeddedBody_meets (context : ScopeId) (field : Field) :
    Meets c (embeddedBody config synth context field) good := by
  intro g holds
  unfold embeddedBody
  refine (memberSchema_meets law.uses each context field.type g holds).bind ?_
  intro s g' holds _ result
  split
  · next name _ =>
    refine .get (.pure holds ?_)
    cases found : g'.definitions.get? name with
    | none => exact (law.builds g').blank
    | some body => exact law.defined holds found
  · exact .pure holds result

theorem spliceField_meets (context : ScopeId) (field : Field) {m : Members} {g : Generator}
    (holds : c.holds g) (start : fit m g) :
    MeetsAt c (spliceField config synth context m field) g fit := by
  unfold spliceField
  refine (embeddedBody_meets law each context field g holds).bind ?_
  intro body g' holds moves result
  exact .pure holds ((law.builds g').splice (law.stableMembers m g g' holds moves start) result)

theorem addField_meets (context : ScopeId) (renameAll : Option String) (field : Field) {m : Members}
    {g : Generator} (holds : c.holds g) (start : fit m g) :
    MeetsAt c (addField config synth context renameAll m field) g fit := by
  unfold addField
  refine (memberSchema_meets law.uses each context field.type g holds).bind ?_
  intro s g' holds moves result
  refine complement_meets law holds fun t done => ?_
  have fits := law.stableMembers m g g' holds moves start
  exact .pure holds ((law.builds g').add _ _ fits ((law.builds g').complement field result done))

theorem objectSchema_meets (context : ScopeId) (renameAll : Option String) (fields : List Field) :
    Meets c (objectSchema config synth context renameAll fields) good := by
  intro g holds
  unfold objectSchema
  refine (MeetsAt.foldlM _ (fun m field _ g holds start =>
    spliceField_meets law each context field holds start) holds (law.builds g).none).bind ?_
  intro m g' holds _ start
  refine (MeetsAt.foldlM _ (fun m field _ g holds start =>
    addField_meets law each context renameAll field holds start) holds start).bind ?_
  intro m g'' holds _ fits
  exact .pure holds ((law.builds g'').toSchema fits)

theorem tupleSchema_meets (context : ScopeId) (types : List TypeExpr) :
    Meets c (tupleSchema config synth context types) good := by
  intro g holds
  unfold tupleSchema
  refine (Meets.mapM law.stable types
    (fun type _ => memberSchema_meets law.uses each context type) g holds).bind ?_
  intro schemas g' holds _ results
  split
  · exact .pure holds (law.uses.object g')
  · next single => exact .pure holds (results single List.mem_cons_self)
  · next first rest _ =>
    refine .pure holds ((law.builds g').tuple _ ?_)
    split
    · exact results first List.mem_cons_self
    · exact law.uses.object g'

theorem variantSchema_meets (d : Declaration) (v : Variant) :
    Meets c (variantSchema config synth d v) good := by
  intro g holds
  unfold variantSchema
  split
  · exact .pure holds ((law.builds g).unitVariant _ _)
  · next payload _ =>
    have made : MeetsAt c (payloadSchema config synth d.scope payload) g good := by
      cases payload with
      | record fields => exact objectSchema_meets law each d.scope none fields g holds
      | tuple types => exact tupleSchema_meets law each d.scope types g holds
    refine made.bind ?_
    intro s g' holds _ result
    split
    · exact .pure holds result
    · exact .pure holds ((law.builds g').variant _ _ result)

theorem enumSchema_meets (d : Declaration) (variants : List Variant) :
    Meets c (enumSchema config synth d variants) good := by
  intro g holds
  unfold enumSchema
  dsimp only
  split
  · exact .pure holds ((law.builds g).plainEnum _ _)
  · refine (Meets.mapM law.stable _
      (fun v _ => variantSchema_meets law each d v) g holds).bind ?_
    intro branches g' holds _ results
    exact .pure holds ((law.builds g').branches results)

theorem bodySchema_meets (d : Declaration) : Meets c (bodySchema config synth d) good := by
  intro g holds
  unfold bodySchema
  split
  · exact objectSchema_meets law each _ _ _ g holds
  · exact enumSchema_meets law each d _ g holds
  · exact .pure holds (law.uses.object g)

end Passing

theorem schemaOfReference_meets {c : Contract Failure Generator} {good : Schema → Generator → Prop}
    {fit : Members → Generator → Prop} {config : Config} {fuel : Nat} (law : Law config c good fit)
    (each : ∀ id, Meets c (synthesizeWith config fuel id) good) (context : ScopeId) (reference : String) :
    Meets (lenient c) (schemaOfReferenceWith config fuel context reference) good := by
  intro g holds
  unfold schemaOfReferenceWith
  split
  · exact exprSchema_meets law.uses each context _ g holds
  · exact .throw (.inr ⟨id, holds, c.refl g⟩)

end ApiSchema.Synthesis
