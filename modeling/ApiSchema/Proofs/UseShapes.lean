import ApiSchema.Proofs.StoredSchemas
import ApiSchema.Proofs.Termination
import ApiSchema.Proofs.UseSites

/-! The shapes of schemas where types are used. A type is written as references, scalars and objects in
arrays and maps, and never shows properties of its own. A declaration is used by a reference to its
definition, unless it is a synonym that is simple enough to be written out. What synthesis stores keeps
to this, whether it succeeds or fails: in the memo are use sites, and a definition is owned by the
declaration that it was made for. -/

namespace ApiSchema

namespace Schema

inductive Used : Schema → Prop where
  | ref (name : String) : Used (.ref name)
  | primitive (p : Primitive) : Used (.ofPrimitive p)
  | object (doc : Option String) : Used { Schema.object with description := doc }
  | array {s : Schema} : Used s → Used (.array s)
  | map {s : Schema} : Used s → Used (.map s)

theorem Used.properties {s : Schema} (used : s.Used) : s.properties = none := by
  cases used with
  | primitive p => cases p <;> rfl
  | ref | object | array | map => rfl

end Schema

namespace Registry

/-- How a declaration may be used: by a reference to it, or written out. -/
inductive Shape (depth : Nat) (r : Registry) (id : DeclId) : Schema → Prop where
  | reference {name : String} (named : r.Named id name) : Shape depth r id (.ref name)
  | inline {target : TypeExpr} {x : Schema} (synonym : (r.get id).body = .synonym target)
      (used : x.Used) (simple : x.isComplex depth = false) : Shape depth r id x

/-- A definition is that of a declaration with the name, and a synonym's shows no properties. -/
def Owned (r : Registry) (name : String) (s : Schema) : Prop :=
  ∃ id, r.Named id name ∧ (r.get id).body ≠ .interface ∧
    ∀ target, (r.get id).body = .synonym target → s.properties = none

variable {depth : Nat} {r r' : Registry} {id : DeclId} {name : String} {x s : Schema}

theorem Grows.body (grows : Grows r r') (body : (r.get id).body ≠ .interface) : r'.get id = r.get id :=
  grows.get_eq (Synthesis.registered_of_body body)

theorem Shape.grows (shape : Shape depth r id x) (grows : Grows r r') : Shape depth r' id x := by
  cases shape with
  | reference named => exact .reference (grows.named named)
  | inline synonym used simple =>
    exact .inline ((congrArg Declaration.body (grows.body (by simp [synonym]))).trans synonym) used simple

theorem Shape.used (shape : Shape depth r id x) : x.Used := by
  cases shape with
  | reference named => exact .ref _
  | inline synonym used simple => exact used

theorem Owned.grows (owned : r.Owned name s) (grows : Grows r r') : r'.Owned name s := by
  obtain ⟨id, named, body, bare⟩ := owned
  have same := grows.body body
  exact ⟨id, grows.named named, by rwa [same], by rwa [same]⟩

/-- The definition of a name that no other declaration has. -/
theorem Owned.bare (owned : r.Owned name s) (named : r.Named id name) (unshared : ¬r.Shared name)
    {target : TypeExpr} (synonym : (r.get id).body = .synonym target) : s.properties = none := by
  obtain ⟨owner, own, _, bare⟩ := owned
  by_cases same : owner = id
  · exact bare target (same ▸ synonym)
  · exact absurd ⟨owner, id, same, own, named⟩ unshared

end Registry

namespace Synthesis

open Steps
open Registry (Grows Shape Owned)

def Shaped (depth : Nat) (g : Generator) : Prop := g.StoresEach (Shape depth g.registry) (Owned g.registry)

theorem Shaped.grows {depth : Nat} {g : Generator} (shaped : Shaped depth g) {s : Resolver}
    (grows : Grows g.registry s.registry) : Shaped depth { g with resolver := s } := by
  have same : g.StoresEach (Shape depth s.registry) (Owned s.registry) :=
    shaped.imp (fun _ _ shape => shape.grows grows) fun _ _ owned => owned.grows grows
  exact ⟨same.definitions, same.memo⟩

def shaping (depth : Nat) : Contract Failure Generator where
  holds := Shaped depth
  moves g g' := Grows g.registry g'.registry
  fails e g g' := Fatal e ∧ Shaped depth g' ∧ Grows g.registry g'.registry
  refl _ := .refl _
  trans first second := first.trans second
  fails_after first failed := ⟨failed.1, failed.2.1, first.trans failed.2.2⟩

theorem shaping_resolves (config : Config) (depth : Nat) (context : ScopeId) (type : TypeExpr) :
    Meets (lenient (shaping depth))
      (Synth.resolving (Resolver.resolveExpr config.parseDependencies context type)) fun _ _ => True :=
  resolving_of_grows fun _ _ shaped grows => ⟨Shaped.grows shaped grows, grows⟩

theorem shaping_usage (config : Config) (depth : Nat) :
    Usage config (shaping depth) fun s _ => s.Used where
  primitive p _ := .primitive p
  object _ := .object none
  array used := used.array
  map used := used.map
  fatal failed := failed.1
  resolves := shaping_resolves config depth

/-- Nothing is asked of the bodies of structs and enumerations. -/
theorem shaping_law (config : Config) (depth : Nat) :
    Law config (shaping depth) (fun _ _ => True) fun _ _ => True :=
  .of_any (fun failed => failed.1) (fun _ _ shaped => ⟨trivial, shaped, .refl _⟩)
    (shaping_resolves config depth)

section Finished

open Generator (Begun Finished)

variable {depth : Nat} {id : DeclId} {name : String} {placed : Bool} {x : Schema} {made : Option Schema}
  {g s t u : Generator}

theorem Shaped.begun (shaped : Shaped depth g) (ready : Generator.Ready id name g)
    (begun : Begun id name placed g s) : Shaped depth s := by
  have placeholder : Owned g.registry name .object := ⟨id, ready.named, ready.body, fun _ _ => rfl⟩
  rw [Shaped, begun.registry]
  exact Generator.StoresEach.begun shaped (fun _ => placeholder) begun

theorem Shaped.finished (shaped : Shaped depth t) (shape : Shape depth t.registry id x)
    (owned : ∀ b, made = some b → Owned t.registry name b) (finished : Finished id name x made t u) :
    Shaped depth u := by
  rw [Shaped, finished.registry]
  exact Generator.StoresEach.finished shaped shape owned finished

theorem grows_finished (begun : Begun id name placed g s) (nested : Grows s.registry t.registry)
    (finished : Finished id name x made t u) : Grows g.registry u.registry := by
  rw [finished.registry, ← begun.registry]
  exact nested

/-- A declaration that got a definition owns it, and is used by a reference. -/
theorem Shaped.defined {b : Schema} (shaped : Shaped depth t) (ready : Generator.Ready id name g)
    (begun : Begun id name placed g s) (nested : Grows s.registry t.registry)
    (bare : ∀ target, (g.registry.get id).body = .synonym target → b.properties = none)
    (finished : Finished id name (.ref name) (some b) t u) :
    Shaped depth u ∧ Shape depth u.registry id (.ref name) := by
  have grows := grows_finished begun nested finished
  have named : u.registry.Named id name := grows.named ready.named
  have owned : Owned u.registry name b := by
    refine ⟨id, named, ?_, ?_⟩ <;> rw [grows.body ready.body]
    · exact ready.body
    · exact bare
  have shape : Shape depth u.registry id (.ref name) := .reference named
  refine ⟨shaped.finished (finished.registry ▸ shape) ?_ finished, shape⟩
  rintro _ ⟨⟩
  exact finished.registry ▸ owned

end Finished

theorem synonymBody_properties {d : Declaration} {s : Schema} (bare : s.properties = none) :
    (synonymBody d s).properties = none := by
  unfold synonymBody
  split
  · exact bare
  · exact bare

theorem shaping_cases (config : Config) :
    EachCaseYields config (shaping config.maxInlineDepth) (shaping config.maxInlineDepth)
      (fun _ _ _ s _ => s.Used) (fun _ _ => True) fun id _ x g' => x.Used ∧
        ((g'.registry.get id).body ≠ .interface → Shape config.maxInlineDepth g'.registry id x) where
  memo shaped found := ⟨(shaped.memo found).used, fun _ => shaped.memo found⟩
  naming id g shaped :=
    ⟨shaped.grows (Registry.definitionName_grows g.registry id), Registry.definitionName_grows g.registry id⟩
  onward _ result := result
  cycle {id name g} shaped _ named _ := by
    obtain ⟨forced, same⟩ := Generator.force_frame id g
    rw [same]
    exact ⟨⟨shaped.definitions, shaped.memo⟩, .refl _, .ref name, fun _ => .reference named⟩
  interface _ kind := ⟨.object _, fun solid => absurd kind solid⟩
  begun within := within.holds.begun within.ready within.begun
  named {id name body g s t u} within kind shaped nested _ finished := by
    obtain ⟨later, shape⟩ := shaped.defined within.ready within.begun nested
      (fun target synonym => absurd synonym (kind target)) finished
    exact ⟨later, grows_finished within.begun nested finished, .ref name, fun _ => shape⟩
  outlined {id name target body g s t u} within synonym shaped nested used _ finished := by
    obtain ⟨later, shape⟩ := shaped.defined within.ready within.begun nested
      (fun _ _ => synonymBody_properties used.properties) finished
    exact ⟨later, grows_finished within.begun nested finished, .ref name, fun _ => shape⟩
  inlined {id name target body g s t u} within synonym shaped nested used inline finished := by
    have grows := grows_finished within.begun nested finished
    have same := grows.body within.ready.body
    have shape : Shape config.maxInlineDepth u.registry id body :=
      .inline (by rw [same]; exact synonym) used inline.simple
    exact ⟨shaped.finished (finished.registry ▸ shape) (by simp) finished, grows, used, fun _ => shape⟩
  undone {id name e g s t} within failed := by
    obtain ⟨fatal, shaped, nested⟩ := failed
    obtain ⟨memo, definitions, journal, same⟩ :=
      Generator.rollback_frame g.journal.length name (((t.leave id).unforce id).undefine name)
    have registry : ((((t.leave id).unforce id).undefine name).rollback g.journal.length name).registry =
        t.registry := by rw [same]; rfl
    refine ⟨fatal, ?_, ?_⟩
    · rw [Shaped, registry]
      exact Generator.StoresEach.failed id g.journal.length name shaped
    · rw [registry, ← within.begun.registry]
      exact nested
  abandoned within failed := by
    obtain ⟨fatal, shaped, nested⟩ := failed
    refine ⟨fatal, ⟨shaped.definitions, shaped.memo⟩, ?_⟩
    rw [← within.begun.registry]
    exact nested

/-- A synthesis keeps the shape of what is stored, and its answer has one. -/
theorem synthesizeWith_shaped (config : Config) (fuel : Nat) (id : DeclId) {g : Generator}
    (shaped : Shaped config.maxInlineDepth g) :
    MeetsAt (shaping config.maxInlineDepth) (synthesizeWith config fuel id) g fun x g' => x.Used ∧
      ((g'.registry.get id).body ≠ .interface → Shape config.maxInlineDepth g'.registry id x) := by
  induction fuel generalizing id g with
  | zero => exact .throw ⟨trivial, shaped, .refl _⟩
  | succ fuel ih =>
    have each (id : DeclId) : Meets (shaping config.maxInlineDepth) (synthesizeWith config fuel id)
        fun x _ => x.Used := fun g shaped => (ih id shaped).imp fun _ _ _ _ result => result.1
    refine synthesizeOne_handled (shaping_cases config) ?_ ?_ id g shaped
    · exact fun d g shaped => bodySchema_meets (shaping_law config _) (fun id => (each id).forget) d g shaped
    · exact fun context type g shaped => memberSchema_meets (shaping_usage config _) each context type g shaped

/-- A member's schema has the shape of one that is used. -/
theorem memberSchema_shaped {config : Config} {fuel : Nat} {context : ScopeId} {type : TypeExpr}
    {g g' : Generator} {x : Schema} (shaped : Shaped config.maxInlineDepth g)
    (run : after (memberSchema config (synthesizeWith config fuel) context type) g = (.ok x, g')) :
    Shaped config.maxInlineDepth g' ∧ x.Used := by
  have each (id : DeclId) : Meets (shaping config.maxInlineDepth) (synthesizeWith config fuel id)
      fun x _ => x.Used :=
    fun g shaped => (synthesizeWith_shaped config fuel id shaped).imp fun _ _ _ _ result => result.1
  obtain ⟨later, _, used⟩ := (memberSchema_meets (shaping_usage config _) each context type g shaped).ok run
  exact ⟨later, used⟩

/-- A request keeps the shape of what is stored, however it ends. -/
theorem Shaped.served {config : Config} {g : Generator} (shaped : Shaped config.maxInlineDepth g) (fuel : Nat)
    (request : Request) : Shaped config.maxInlineDepth (after (request.serve config fuel) g).2 := by
  have each (id : DeclId) : Meets (shaping config.maxInlineDepth) (synthesizeWith config fuel id)
      fun _ _ => True := fun g shaped =>
    (synthesizeWith_shaped config fuel id shaped).imp fun _ _ _ _ _ => trivial
  have served := serve_meets (shaping_law config config.maxInlineDepth) fuel each request g shaped
  exact (served.lasting (lenient_lasting fun _ _ _ failed => failed.2)).1

end Synthesis

end ApiSchema
