import ApiSchema.Proofs.MemberMerge
import ApiSchema.Proofs.UseShapes

/-! Flattened members whose types are declarations. The body of such a member is read from the definition
that its schema refers to, and from no further one. So a struct gets all properties of a struct that it
flattens by name, but of a synonym, whose definition is at best one more reference, it gets none. -/

namespace ApiSchema

def Registry.Sole (r : Registry) (id : DeclId) : Prop := ∀ name, r.Named id name → ¬r.Shared name

theorem Registry.Grows.sole {r r' : Registry} (grows : Grows r r') {id : DeclId} (sole : r'.Sole id) :
    r.Sole id := fun name named shared => sole name (grows.named named) (grows.shared shared)

namespace Synthesis

open Steps
open Generator (Consistent Advances Begun Finished Ready)

section Reading

variable {config : Config} {synth : DeclId → Synth Schema} {context : ScopeId} {type : TypeExpr}
  {field : Field} {id : DeclId} {g g' : Generator} {x : Schema} {s : Resolver}

/-- A type that denotes a declaration once its wrappers are off has the schema of the declaration. -/
theorem exprSchema_denoting
    (denotes : after (Resolver.resolveExpr config.parseDependencies context type) g.resolver =
      (.ok (.declaration id), s)) :
    after (exprSchema config synth context type) g = after (synth id) { g with resolver := s } := by
  induction type using TypeExpr.nesting_induction with
  | optional inner ih | pointer inner ih => exact ih denotes
  | resolved other =>
    cases denotes
    rfl
  | named segments args =>
    rw [exprSchema, run_bind_ok (after_resolving_ok denotes)]
    rfl
  | primitive | param | array | map | interface | function => cases denotes

/-- The body of a flattened member is what its schema refers to, or the schema itself. -/
def bodyOf (g : Generator) (x : Schema) : Schema :=
  match x.refName? with
  | some name => (g.definitions.get? name).getD {}
  | none => x

theorem embeddedBody_reads (run : after (embeddedBody config synth context field) g = (.ok x, g')) :
    ∃ s, after (memberSchema config synth context field.type) g = (.ok s, g') ∧ x = bodyOf g' s := by
  unfold embeddedBody at run
  obtain ⟨s, h, member, run⟩ := of_bind_ok run
  unfold bodyOf
  split at run
  · next name found =>
    rw [run_bind_get] at run
    cases run
    exact ⟨s, member, by rw [found]⟩
  · next found =>
    cases run
    exact ⟨x, member, by rw [found]⟩

theorem bodyOf_ref (g : Generator) (name : String) :
    bodyOf g (.ref name) = (g.definitions.get? name).getD {} := by
  have named : (Schema.ref name).refName? = some name := Schema.after?_append Schema.refPrefix name
  rw [bodyOf, named]

end Reading

structure ConsistentlyShaped (depth : Nat) (g : Generator) : Prop where
  consistent : Consistent (fun _ => False) g
  shaped : Shaped depth g

section ConsistentlyShaped

variable {config : Config} {fuel : Nat} {context : ScopeId} {renameAll : Option String}
  {fields : List Field} {id : DeclId} {g g' : Generator} {x : Schema}

theorem ConsistentlyShaped.fresh (depth : Nat) (s : Resolver) : ConsistentlyShaped depth { resolver := s } :=
  ⟨by constructor <;> simp [Table.get?], .fresh s⟩

theorem ConsistentlyShaped.naming {depth : Nat} (inv : ConsistentlyShaped depth g) (id : DeclId) :
    ConsistentlyShaped depth (g.naming id) :=
  have grows := Registry.definitionName_grows g.registry id
  ⟨inv.consistent.grows grows, inv.shaped.grows grows⟩

theorem ConsistentlyShaped.resolved {depth : Nat} (inv : ConsistentlyShaped depth g) {s : Resolver}
    (grows : Registry.Grows g.registry s.registry) : ConsistentlyShaped depth { g with resolver := s } :=
  ⟨inv.consistent.grows grows, inv.shaped.grows grows⟩

theorem ConsistentlyShaped.begun {depth : Nat} (inv : ConsistentlyShaped depth g) {name : String} {placed : Bool}
    (ready : Ready id name g) (begun : Begun id name placed g g') : ConsistentlyShaped depth g' :=
  ⟨inv.consistent.begun ready begun, inv.shaped.begun ready begun⟩

/-- What succeeds leaves the state consistent and in shape, and only adds to it. -/
theorem ConsistentlyShaped.step {α : Type} {step : Synth α} {a : α} {depth : Nat}
    {post post' : α → Generator → Prop} (inv : ConsistentlyShaped depth g)
    (accounts : Meets (accounting fun _ => False) step post)
    (shapes : Meets (shaping depth) step post') (run : after step g = (.ok a, g')) :
    ConsistentlyShaped depth g' ∧ Advances g g' := by
  obtain ⟨consistent, advances, _⟩ := (accounts g inv.consistent).ok run
  exact ⟨⟨consistent, ((shapes g inv.shaped).ok run).1⟩, advances⟩

theorem synthesizeWith_shaping (config : Config) (fuel : Nat) (id : DeclId) :
    Meets (shaping config.maxInlineDepth) (synthesizeWith config fuel id) fun _ _ => True :=
  fun _ shaped => (synthesizeWith_shaped config fuel id shaped).imp fun _ _ _ _ _ => trivial

theorem ConsistentlyShaped.bodies {bodies : List Schema} (inv : ConsistentlyShaped config.maxInlineDepth g)
    (run : after (fields.mapM (embeddedBody config (synthesizeWith config fuel) context)) g =
      (.ok bodies, g')) : ConsistentlyShaped config.maxInlineDepth g' ∧ Advances g g' := by
  have accounts := accounting_law config fun _ => False
  have shapes := shaping_law config config.maxInlineDepth
  have counted := Meets.mapM accounts.stable fields fun field _ =>
    embeddedBody_meets accounts (synthesizeWith_accounted config _ fuel) context field
  have shaped := Meets.mapM shapes.stable fields fun field _ =>
    embeddedBody_meets shapes (synthesizeWith_shaping config fuel) context field
  exact inv.step counted shaped run

theorem ConsistentlyShaped.own {own : List Own} (inv : ConsistentlyShaped config.maxInlineDepth g)
    (run : after (fields.mapM (ownMember config (synthesizeWith config fuel) context renameAll)) g =
      (.ok own, g')) : ConsistentlyShaped config.maxInlineDepth g' ∧ Advances g g' := by
  refine inv.step (Meets.mapM (fun _ _ _ _ _ _ => trivial) fields fun field _ => ?_)
    (Meets.mapM (fun _ _ _ _ _ _ => trivial) fields fun field _ => ?_) run
  · exact ownMember_meets (accounting_law config _) (synthesizeWith_accounted config _ fuel) field
  · exact ownMember_meets (shaping_law config _) (synthesizeWith_shaping config fuel) field

end ConsistentlyShaped

section Visit

variable {config : Config} {fuel : Nat} {context : ScopeId} {field : Field} {id : DeclId}
  {g g' : Generator} {s : Resolver} {b : Schema}

/-- What is spliced for a flattened member whose type denotes a declaration is read off the schema that
the declaration is used by. -/
theorem embeddedBody_denoting (inv : ConsistentlyShaped config.maxInlineDepth g)
    (denotes : after (Resolver.resolveExpr config.parseDependencies context field.type) g.resolver =
      (.ok (.declaration id), s))
    (run : after (embeddedBody config (synthesizeWith config fuel) context field) g = (.ok b, g')) :
    ∃ x, b = bodyOf g' x ∧ ConsistentlyShaped config.maxInlineDepth g' ∧ Advances { g with resolver := s } g' ∧
      Accounted (fun _ => False) x g' ∧
      ((g'.registry.get id).body ≠ .interface → Registry.Shape config.maxInlineDepth g'.registry id x) := by
  obtain ⟨x, member, rfl⟩ := embeddedBody_reads run
  have grows := Resolver.resolveExpr_onlyGrows config.parseDependencies context field.type g.resolver trivial
  have grows : Registry.Grows g.registry s.registry := (grows.ok denotes).2.1
  have resolved := inv.resolved grows
  have synthesis : after (exprSchema config (synthesizeWith config fuel) context field.type) g = _ :=
    exprSchema_denoting denotes
  have shapes := synthesizeWith_shaped config fuel id resolved.shaped
  have counts := synthesizeWith_accounted config (fun _ => False) fuel id _ resolved.consistent
  rcases made : after (synthesizeWith config fuel id) { g with resolver := s } with ⟨e | y, h⟩
  · rw [memberSchema_fatal (shapes.error made).1 (synthesis.trans made)] at member
    cases member
  · rw [memberSchema_ok (synthesis.trans made)] at member
    cases member
    obtain ⟨consistent, advances, accounted⟩ := counts.ok made
    obtain ⟨shaped, _, _, shape⟩ := shapes.ok made
    exact ⟨x, rfl, ⟨consistent, shaped⟩, advances, accounted, shape⟩

/-- A struct is used by a reference, which leads to its body unless the struct is under way. -/
theorem struct_body {x : Schema} {members : List Field} (accounted : Accounted (fun _ => False) x g)
    (shape : (g.registry.get id).body ≠ .interface → Registry.Shape config.maxInlineDepth g.registry id x)
    (struct : (g.registry.get id).body = .struct members) : ∃ name, g.registry.Named id name ∧
      (g.registry.Shared name ∨ g.definitions.get? name = some (bodyOf g x) ∨
        ∃ other ∈ g.inProgress, g.registry.Named other name) := by
  cases shape (by simp [struct]) with
  | inline synonym => simp [struct] at synonym
  | @reference name named =>
    refine ⟨name, named, ?_⟩
    rcases accounted name (by simp) with shared | found | ⟨other, owns, given | ⟨busy, _⟩⟩
    · exact .inl shared
    · obtain ⟨body, found⟩ := Option.ne_none_iff_exists'.mp found
      exact .inr (.inl (by rw [bodyOf_ref, found]; rfl))
    · exact given.elim
    · exact .inr (.inr ⟨other, busy, owns⟩)

/-- A synonym is written out without properties, or is used by a reference to what is one more use. -/
theorem synonym_body {x : Schema} {target : TypeExpr} (shaped : Shaped config.maxInlineDepth g)
    (shape : (g.registry.get id).body ≠ .interface → Registry.Shape config.maxInlineDepth g.registry id x)
    (synonym : (g.registry.get id).body = .synonym target) (sole : g.registry.Sole id) :
    (bodyOf g x).properties = none := by
  cases shape (by simp [synonym]) with
  | inline _ used simple =>
    cases used with
    | ref name => simp at simple
    | primitive p => cases p <;> rfl
    | object | array | map => rfl
  | @reference name named =>
    rw [bodyOf_ref]
    cases found : g.definitions.get? name with
    | none => rfl
    | some body => exact (shaped.definitions found).bare named (sole name named) synonym

end Visit

/-- A property that one of the bodies has is a property of the object, and the same one unless a direct
member or another body supplies it too. -/
theorem property_of_body {first others : List Schema} {body p : Schema} {own : List Own} {name : String}
    (ordered : ∀ b ∈ first ++ body :: others, b.Ordered) (has : body.property? name = some p) :
    let object := (Members.collect (first ++ body :: others) own).toSchema
    object.property? name = some p ∨ (object.property? name ≠ none ∧
      (name ∈ own.map Own.name ∨ ∃ b ∈ first ++ others, b.property? name ≠ none)) := by
  intro object
  have whole : object.property? name ≠ none :=
    (property_collect_ne_none ordered).mpr (.inr ⟨body, by simp, by simp [has]⟩)
  by_cases direct : name ∈ own.map Own.name
  · exact .inr ⟨whole, .inl direct⟩
  by_cases later : others.reverse.findSome? (·.property? name) = none
  · have absent : own.reverse.find? (·.name = name) = none := by
      simpa [List.find?_eq_none] using direct
    refine .inl ((property_collect own ordered name).trans ?_)
    simp [absent, later, has, List.findSome?_append]
  · obtain ⟨b, member, other⟩ : ∃ b ∈ others, b.property? name ≠ none := by
      simpa [List.findSome?_eq_none_iff] using later
    exact .inr ⟨whole, .inr ⟨b, List.mem_append_right _ member, other⟩⟩

/-- A body without properties adds none. -/
theorem property_apart {first others : List Schema} {body : Schema} {own : List Own} {name : String}
    (ordered : ∀ b ∈ first ++ body :: others, b.Ordered) (none : body.properties = none)
    (whole : (Members.collect (first ++ body :: others) own).toSchema.property? name ≠ .none) :
    name ∈ own.map Own.name ∨ ∃ b ∈ first ++ others, b.property? name ≠ .none := by
  refine ((property_collect_ne_none ordered).mp whole).imp_right ?_
  rintro ⟨b, member, has⟩
  have apart : b ≠ body := by
    rintro rfl
    simp [Schema.property?, none] at has
  exact ⟨b, by simpa [apart] using member, has⟩

section Struct

open Generator (Finished)

variable (config : Config) (fuel : Nat) (s : Resolver) (id : DeclId)

/-- The state in which the members of a struct are visited that is the first to be synthesized. -/
def entered : Generator :=
  let g : Generator := { resolver := s }
  opened id (g.nameOf id) (g.naming id)

/-- The state in which a flattened member of it is visited, after those that stand before. -/
def visiting (earlier : List Field) : Generator :=
  (after (earlier.mapM (embeddedBody config (synthesizeWith config fuel) (s.registry.get id).scope))
    (entered s id)).2

variable {config : Config} {fuel : Nat} {s : Resolver} {id : DeclId} {fields : List Field} {x : Schema}
  {g' : Generator}

theorem entered_ready (struct : (s.registry.get id).body = .struct fields) :
    let g : Generator := { resolver := s }
    Ready id (g.nameOf id) (g.naming id) := by
  intro g
  refine ⟨Registry.definitionName_named _ _, rfl, by simp [g, Generator.naming], ?_⟩
  have same : (g.naming id).registry.get id = s.registry.get id := Registry.definitionName_get _ id id
  rw [same, struct]
  simp

theorem struct_visits (struct : (s.registry.get id).body = .struct fields)
    (run : after (synthesizeWith config (fuel + 1) id) { resolver := s } = (.ok x, g')) :
    ∃ bodies own mid t whole,
      after ((flattened config fields).mapM
        (embeddedBody config (synthesizeWith config fuel) (s.registry.get id).scope)) (entered s id) =
          (.ok bodies, mid) ∧
      after ((direct config fields).mapM (ownMember config (synthesizeWith config fuel)
        (s.registry.get id).scope (s.registry.get id).tags.renameAll)) mid = (.ok own, t) ∧
      Finished id (({ resolver := s } : Generator).nameOf id) x (some whole) t g' ∧
      ∀ key, whole.property? key = (Members.collect bodies own).toSchema.property? key := by
  have start : after (synthesizeWith config (fuel + 1) id) { resolver := s } = _ :=
    synthesizeOne_start (by simp) (by simp)
  have body : ((({ resolver := s } : Generator).registry).get id).body = .struct fields := struct
  rw [start, body] at run
  rcases made : after (bodySchema config (synthesizeWith config fuel) (s.registry.get id)) (entered s id)
    with ⟨e | object, t⟩
  · cases (synthesizeNamed_error made).symm.trans run
  · cases (synthesizeNamed_ok made).symm.trans run
    rw [bodySchema, struct] at made
    obtain ⟨bodies, own, mid, first, second, rfl⟩ := objectSchema_visits made
    exact ⟨bodies, own, mid, t, _, first, second, Generator.finished_definition _ _ _ _ t, fun _ => rfl⟩

theorem entered_consistentlyShaped (depth : Nat) (struct : (s.registry.get id).body = .struct fields) :
    ConsistentlyShaped depth (entered s id) :=
  ((ConsistentlyShaped.fresh depth s).naming id).begun (entered_ready struct) (Generator.begun_opened _ _ _)

/-- How one of the flattened members comes to be visited. -/
theorem flattened_visit {earlier rest : List Field} {field : Field} {bodies : List Schema}
    {mid : Generator} (inv : ConsistentlyShaped config.maxInlineDepth (entered s id))
    (run : after ((earlier ++ field :: rest).mapM
      (embeddedBody config (synthesizeWith config fuel) (s.registry.get id).scope)) (entered s id) =
        (.ok bodies, mid)) :
    ∃ first body others h, bodies = first ++ body :: others ∧ first.length = earlier.length ∧
      ConsistentlyShaped config.maxInlineDepth (visiting config fuel s id earlier) ∧
      Advances (entered s id) (visiting config fuel s id earlier) ∧
      after (embeddedBody config (synthesizeWith config fuel) (s.registry.get id).scope field)
        (visiting config fuel s id earlier) = (.ok body, h) ∧
      (ConsistentlyShaped config.maxInlineDepth h → Advances h mid) := by
  obtain ⟨first, second, g, rfl, before, run⟩ := of_mapM_append_ok run
  obtain ⟨body, others, h, rfl, here, more⟩ := of_mapM_cons_ok run
  have same : visiting config fuel s id earlier = g := by rw [visiting, before]
  obtain ⟨inv, advances⟩ := inv.bodies before
  rw [same]
  exact ⟨first, body, others, h, rfl, length_of_mapM_ok before, inv, advances, here,
    fun inv => (inv.bodies more).2⟩

/-- Where else than from the flattened member at an index an object has a property. -/
def Elsewhere (config : Config) (renameAll : Option String) (fields : List Field) (bodies : List Schema)
    (index : Nat) (name : String) : Prop :=
  (∃ field ∈ direct config fields, field.propertyName config renameAll = name) ∨
    ∃ body ∈ bodies.eraseIdx index, body.property? name ≠ none

/-- When a struct is synthesized, a flattened member whose type denotes another declaration adds all
properties of that declaration if it is a struct, and none if it is a synonym, whatever the synonym stands
for. A struct's properties are those of its definition in the end. A property that is also supplied
elsewhere may have the schema it has there. Nothing is said of declarations that share their name. -/
theorem flattened_properties (struct : (s.registry.get id).body = .struct fields)
    (run : after (synthesizeWith config (fuel + 1) id) { resolver := s } = (.ok x, g')) :
    ∃ name whole bodies mid, g'.registry.Named id name ∧ g'.definitions.get? name = some whole ∧
      after ((flattened config fields).mapM
        (embeddedBody config (synthesizeWith config fuel) (s.registry.get id).scope)) (entered s id) =
          (.ok bodies, mid) ∧
      ∀ earlier field rest inner s', flattened config fields = earlier ++ field :: rest →
        after (Resolver.resolveExpr config.parseDependencies (s.registry.get id).scope field.type)
          (visiting config fuel s id earlier).resolver = (.ok (.declaration inner), s') →
        inner ≠ id → g'.registry.Sole inner →
        let elsewhere := Elsewhere config (s.registry.get id).tags.renameAll fields bodies earlier.length
        (∀ members, (s'.registry.get inner).body = .struct members →
          ∃ own body, g'.registry.Named inner own ∧ g'.definitions.get? own = some body ∧
            ∀ key p, body.property? key = some p → whole.property? key = some p ∨
              (whole.property? key ≠ none ∧ elsewhere key)) ∧
        ∀ target, (s'.registry.get inner).body = .synonym target →
          ∀ key, whole.property? key ≠ none → elsewhere key := by
  obtain ⟨bodies, own, mid, t, whole, first, second, finished, property⟩ := struct_visits struct run
  have inv := entered_consistentlyShaped config.maxInlineDepth struct
  obtain ⟨middle, advances⟩ := inv.bodies first
  have last := (middle.own second).2
  have named : g'.registry.Named id (({ resolver := s } : Generator).nameOf id) :=
    finished.registry ▸ (advances.trans last).grows.named (entered_ready struct).named
  refine ⟨_, whole, bodies, mid, named, by simp [finished.definitions], first, ?_⟩
  intro earlier field rest inner s' split denotes apart sole
  have stores : (entered s id).Stores Schema.Ordered :=
    Generator.StoresEach.begun (.fresh _) (fun _ => .of_none rfl) (Generator.begun_opened _ _ _)
  have ordered := embeddedBodies_ordered stores first
  rw [split] at first
  obtain ⟨before, body, others, h, rfl, length, ready, begun, here, onward⟩ := flattened_visit inv first
  obtain ⟨y, rfl, visited, moves, accounted, shape⟩ := embeddedBody_denoting ready denotes here
  have growing : Registry.Grows s'.registry h.registry := moves.grows
  have later : Advances h t := (onward visited).trans last
  have grows : Registry.Grows h.registry g'.registry := finished.registry ▸ later.grows
  have elsewhere (key : String) : Elsewhere config (s.registry.get id).tags.renameAll fields
      (before ++ bodyOf h y :: others) before.length key ↔
        key ∈ own.map Own.name ∨ ∃ b ∈ before ++ others, b.property? key ≠ none := by
    rw [Elsewhere, own_names (ownMembers_of second), List.mem_map,
      List.eraseIdx_append_of_length_le (le_refl _), Nat.sub_self, List.eraseIdx_cons_zero]
  rw [← length]
  simp only [property, elsewhere]
  constructor
  · intro members kind
    have kind : (h.registry.get inner).body = .struct members :=
      (congrArg Declaration.body (growing.body (by simp [kind]))).trans kind
    obtain ⟨own', owns, place⟩ := struct_body accounted shape kind
    have unshared := sole own' (grows.named owns)
    have found : h.definitions.get? own' = some (bodyOf h y) := by
      rcases place with shared | found | ⟨other, busy, same⟩
      · exact absurd (grows.shared shared) unshared
      · exact found
      · have stack : h.inProgress = [id] := moves.inProgress.trans begun.inProgress
        obtain rfl : other = id := by simpa [stack] using busy
        exact absurd ⟨inner, other, apart, grows.named owns, grows.named same⟩ unshared
    have kept : g'.definitions.get? own' = some (bodyOf h y) := by
      rw [finished.definitions, if_neg]
      · exact (later.definitions _ _ found).resolve_left (finished.registry ▸ unshared)
      · rintro ⟨_, same⟩
        exact unshared ⟨inner, id, apart, grows.named owns, same ▸ named⟩
    exact ⟨own', _, grows.named owns, kept, fun key p has => property_of_body ordered has⟩
  · intro target kind key
    have kind : (h.registry.get inner).body = .synonym target :=
      (congrArg Declaration.body (growing.body (by simp [kind]))).trans kind
    exact property_apart ordered (synonym_body visited.shaped shape kind (grows.sole sole))

end Struct

def derived : Registry := bases.insertAll [Builder.declared "Derived" (.struct overriding)]

def derivedServed : Generator :=
  (after (synthesizeWith {} (nesting + 1) 1) { resolver := { registry := derived } }).2

theorem derivedServed_names :
    derivedServed.registry.names = [(0, "models.Base"), (1, "models.Derived")] := by decide +kernel

theorem derivedServed_sole : derivedServed.registry.Sole 0 := by
  intro name named shared
  obtain ⟨a, b, apart, first, second⟩ := shared
  have own : name = "models.Base" := by
    simpa [Registry.Named, derivedServed_names] using named.symm
  have only (id : DeclId) (same : derivedServed.registry.Named id name) : id = 0 := by
    simp only [Registry.Named, derivedServed_names, own, List.lookup_cons] at same
    split at same
    · simp_all
    · split at same <;> simp at same
  exact apart ((only a first).trans (only b second).symm)

/-- The note is a property of the base only, so the struct that flattens it gets it from there. -/
theorem flattened_properties_derived :
    (derived.get 1).body = .struct overriding ∧
      after (synthesizeWith {} (nesting + 1) 1) { resolver := { registry := derived } } =
        (.ok (.ref "models.Derived"), derivedServed) ∧
      ∃ whole, derivedServed.definitions.get? "models.Derived" = some whole ∧
        whole.property? "note" = some (.ofPrimitive .string) := by
  have struct : (derived.get 1).body = .struct overriding := rfl
  have answer : (after (synthesizeWith {} (nesting + 1) 1) { resolver := { registry := derived } }).1.toOption =
      some (.ref "models.Derived") := by decide +kernel
  have run : after (synthesizeWith {} (nesting + 1) 1) { resolver := { registry := derived } } =
      (.ok (.ref "models.Derived"), derivedServed) := run_eq (ok_of_toOption answer)
  refine ⟨struct, run, ?_⟩
  obtain ⟨name, whole, bodies, mid, named, found, visits, spliced⟩ := flattened_properties struct run
  have called {id : DeclId} {key other : String} (named : derivedServed.registry.Named id key)
      (same : derivedServed.registry.names.lookup id = some other) : key = other :=
    Option.some.inj (named.symm.trans same)
  obtain rfl := called named (by rw [derivedServed_names]; rfl)
  have base : (after (Resolver.resolveExpr false 0 (.named ["Base"] []))
      (visiting {} nesting { registry := derived } 1 []).resolver).1.toOption =
        some (.declaration 0) := by decide +kernel
  obtain ⟨structs, _⟩ := spliced [] _ [] 0 _ rfl (run_eq (ok_of_toOption base)) (by decide) derivedServed_sole
  obtain ⟨own, body, owns, defined, each⟩ := structs _ rfl
  obtain rfl := called owns (by rw [derivedServed_names]; rfl)
  have note : (derivedServed.definitions.get? "models.Base").bind (·.property? "note") =
      some (.ofPrimitive .string) := by decide +kernel
  rw [defined] at note
  refine ⟨whole, found, (each "note" _ note).resolve_right ?_⟩
  rintro ⟨_, ⟨field, member, same⟩ | ⟨other, member, _⟩⟩
  · have distinct : ∀ field ∈ direct {} overriding, field.propertyName {} none ≠ "note" := by decide
    exact distinct field member same
  · have single : bodies.length = 1 := length_of_mapM_ok visits
    obtain ⟨body, rfl⟩ := List.length_eq_one_iff.mp single
    simp at member

def renamed : Registry := bases.insertAll
  [Builder.declared "Alias" (.synonym (.named ["Base"] [])),
    Builder.declared "Derived" (.struct
      [{ Builder.member "base" (.named ["Alias"] []) [] with embedded := true }])]

/-- None of the properties of the base gets to the struct, which has no member but the flattened one. -/
theorem flattened_synonym_lost :
    let s := after (synthesize {} 2) { resolver := { registry := renamed } }
    s.1.toOption = some (.ref "models.Derived") ∧
      ((s.2.definitions.get? "models.Base").bind (·.property? "note")) = some (.ofPrimitive .string) ∧
      ((s.2.definitions.get? "models.Derived").bind (·.property? "note")) = none := by
  decide +kernel

end Synthesis

end ApiSchema
