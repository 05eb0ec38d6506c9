import ApiSchema.Proofs.StoredSchemas
import Mathlib.Data.List.Forall2

/-! What the members of an object come to. Flattened members are visited first and direct ones after
them, each kind in its order, so an object is made of the bodies of the former and the schemas of the
latter. The last member to supply a name decides on the property and, a direct one, on whether it is
required. Properties are looked up by name, which is what their tables are kept in the order of. -/

namespace ApiSchema

namespace Schema

def Ordered (s : Schema) : Prop := ∀ table, s.properties = some table → table.Sorted

def property? (s : Schema) (name : String) : Option Schema :=
  s.properties.bind fun table => table.get? name

def Requires (s : Schema) (name : String) : Prop := ∃ names, s.required = some names ∧ name ∈ names

theorem Ordered.of_none {s : Schema} (none : s.properties = none) : s.Ordered :=
  fun _ place => by simp [none] at place

end Schema

theorem Field.untouched_ordered : Field.Untouched Schema.Ordered where
  keywords ordered _ _ := ordered
  items ordered _ _ _ := ordered
  branch _ _ _ := .of_none rfl

theorem Field.replaceType_ordered (field : Field) {s : Schema} (ordered : s.Ordered) :
    Annotation.Yields (field.replaceType s) Schema.Ordered :=
  field.replaceType_made s ordered (fun _ _ => .of_none rfl) fun _ _ => .of_none rfl

namespace Synthesis

open Steps

/-- Tables of properties are made by insertions. -/
theorem ordered_building : Building Schema.Ordered fun m => m.properties.Sorted where
  blank := .of_none rfl
  object _ := .of_none rfl
  primitive p := by cases p <;> exact .of_none rfl
  array _ := .of_none rfl
  map _ := .of_none rfl
  described _ ordered := ordered
  complement {s t} field ordered done := by
    have layered := Field.complement_keeps field s Field.untouched_ordered (field.replaceType_ordered ordered)
    rw [done] at layered
    exact layered
  none := Table.sorted_empty
  splice sorted _ := Table.sorted_insertAll sorted _
  add _ _ sorted _ := Table.sorted_insert sorted _ _
  toSchema sorted table place := Option.some.inj place ▸ sorted
  tuple _ _ := .of_none rfl
  plainEnum rule variants := by
    unfold plainEnumSchema
    dsimp only
    split
    · exact .of_none rfl
    · exact .of_none rfl
  unitVariant _ _ := .of_none rfl
  variant _ _ _ table place := Option.some.inj place ▸ List.pairwise_singleton _ _
  branches _ := .of_none rfl

/-! ### Members, one kind after the other -/

structure Own where
  name : String
  schema : Schema
  required : Bool

namespace Members

def take (m : Members) (own : Own) : Members := m.add own.name own.schema own.required

def collect (bodies : List Schema) (own : List Own) : Members :=
  own.foldl take (bodies.foldl splice {})

variable {m : Members} {bodies : List Schema} {own : List Own} {name : String}

theorem property_splice {body : Schema} (ordered : body.Ordered) :
    (m.splice body).properties.get? name = (body.property? name).or (m.properties.get? name) := by
  cases place : body.properties with
  | none => simp [splice, Schema.property?, place, Table.union, Table.insertAll]
  | some table =>
    simp only [splice, Schema.property?, place, Option.getD_some, Option.bind_some, Table.union]
    rw [Table.get?_insertAll (ordered table place).distinct, ← Table.get?_eq_lookup]

theorem property_spliceAll (ordered : ∀ body ∈ bodies, body.Ordered) :
    (bodies.foldl splice m).properties.get? name =
      (bodies.reverse.findSome? (·.property? name)).or (m.properties.get? name) := by
  induction bodies generalizing m with
  | nil => rfl
  | cons body rest ih =>
    rw [List.foldl_cons, ih fun b member => ordered b (List.mem_cons_of_mem _ member),
      property_splice (ordered body List.mem_cons_self), List.reverse_cons, List.findSome?_append,
      ← Option.or_assoc]
    simp

theorem property_takeAll : (own.foldl take m).properties.get? name =
    ((own.reverse.find? (·.name = name)).map Own.schema).or (m.properties.get? name) := by
  induction own generalizing m with
  | nil => rfl
  | cons first rest ih =>
    rw [List.foldl_cons, ih, List.reverse_cons, List.find?_append]
    cases rest.reverse.find? (·.name = name) with
    | some later => rfl
    | none => by_cases here : first.name = name <;> simp [take, add, here]

theorem mem_spliced {names extra : List String} :
    name ∈ extra.foldl (fun names name => if names.contains name then names else names ++ [name]) names ↔
      name ∈ extra ∨ name ∈ names := by
  induction extra generalizing names with
  | nil => simp
  | cons first rest ih =>
    rw [List.foldl_cons, ih]
    split
    · next known =>
      have known : first ∈ names := List.contains_iff_mem.mp known
      constructor
      · exact Or.imp_left (List.mem_cons_of_mem _)
      · rintro (here | old)
        · exact (List.mem_cons.mp here).elim (fun same => .inr (same ▸ known)) .inl
        · exact .inr old
    · simp only [List.mem_append, List.mem_cons, List.not_mem_nil, or_false]
      tauto

theorem requires_spliceAll : name ∈ (bodies.foldl splice m).required ↔
    (∃ body ∈ bodies, body.Requires name) ∨ name ∈ m.required := by
  induction bodies generalizing m with
  | nil => simp
  | cons body rest ih =>
    have own : name ∈ body.required.getD [] ↔ body.Requires name := by
      cases listed : body.required <;> simp [Schema.Requires, listed]
    rw [List.foldl_cons, ih, splice, mem_spliced, own]
    simp only [List.mem_cons, exists_eq_or_imp]
    rw [or_left_comm, or_assoc]

theorem requires_takeAll : name ∈ (own.foldl take m).required ↔
    match own.reverse.find? (·.name = name) with
    | some last => last.required = true
    | none => name ∈ m.required := by
  induction own generalizing m with
  | nil => rfl
  | cons first rest ih =>
    rw [List.foldl_cons, ih, List.reverse_cons, List.find?_append]
    cases rest.reverse.find? (·.name = name) with
    | some later => rfl
    | none =>
      by_cases here : first.name = name
      · cases needed : first.required <;> simp [take, add, here, needed]
      · cases needed : first.required <;> simp [take, add, here, needed, Ne.symm here]

theorem additional_spliceAll : (bodies.foldl splice m).additional =
    (bodies.reverse.findSome? (·.additionalProperties)).or m.additional := by
  induction bodies generalizing m with
  | nil => rfl
  | cons body rest ih =>
    rw [List.foldl_cons, ih, splice, List.reverse_cons, List.findSome?_append, Option.or_assoc]
    simp

theorem additional_takeAll : (own.foldl take m).additional = m.additional := by
  induction own generalizing m with
  | nil => rfl
  | cons first rest ih => exact ih

end Members

section Object

variable (config : Config) (synth : DeclId → Synth Schema) (context : ScopeId)
  (renameAll : Option String) (fields : List Field)

def flattened : List Field := (fields.filter fun field => !field.isSkipped config).filter Field.embedded

def direct : List Field :=
  (fields.filter fun field => !field.isSkipped config).filter fun field => !field.embedded

def ownMember (field : Field) : Synth Own := do
  let s ← memberSchema config synth context field.type
  match field.complement s with
  | .ok s => return ⟨field.propertyName config renameAll, s, field.isRequired config⟩
  | .error e => throw (.error e)

/-- To fold results in as they come is to fold them in at the end. -/
theorem foldlM_step {m : Type → Type} [Monad m] [LawfulMonad m] {α β γ : Type} (step : γ → β → γ)
    (f : α → m β) (items : List α) (start : γ) :
    items.foldlM (fun acc a => do return step acc (← f a)) start =
      (do return (← items.mapM f).foldl step start) := by
  induction items generalizing start with
  | nil => simp
  | cons a rest ih =>
    rw [List.foldlM_cons, List.mapM_cons, bind_assoc, bind_assoc]
    refine bind_congr fun b => ?_
    rw [pure_bind, ih, bind_assoc]
    simp only [pure_bind, List.foldl_cons]

/-- An object is made of the bodies of its flattened members and of its direct members. -/
theorem objectSchema_eq : objectSchema config synth context renameAll fields = (do
    let bodies ← (flattened config fields).mapM (embeddedBody config synth context)
    let own ← (direct config fields).mapM (ownMember config synth context renameAll)
    return (Members.collect bodies own).toSchema) := by
  have added (m : Members) (field : Field) : addField config synth context renameAll m field =
      (do return m.take (← ownMember config synth context renameAll field)) := by
    unfold addField ownMember
    rw [bind_assoc]
    refine bind_congr fun s => ?_
    cases field.complement s <;> rfl
  have additions : addField config synth context renameAll =
      fun m field => do return m.take (← ownMember config synth context renameAll field) :=
    funext fun m => funext (added m)
  have splices : spliceField config synth context =
      fun m field => do return m.splice (← embeddedBody config synth context field) := rfl
  unfold objectSchema
  rw [additions, splices]
  dsimp only
  rw [foldlM_step, bind_assoc]
  refine bind_congr fun bodies => ?_
  rw [pure_bind, foldlM_step, bind_assoc]
  refine bind_congr fun own => ?_
  rw [pure_bind]
  rfl

end Object

structure OwnOf (config : Config) (renameAll : Option String) (field : Field) (own : Own) : Prop where
  name : own.name = field.propertyName config renameAll
  required : own.required = field.isRequired config
  schema : ∃ s, field.complement s = .ok own.schema

section Merge

variable {config : Config} {synth : DeclId → Synth Schema} {context : ScopeId}
  {renameAll : Option String} {g g' : Generator}

theorem ownMember_of {field : Field} {own : Own}
    (run : after (ownMember config synth context renameAll field) g = (.ok own, g')) :
    OwnOf config renameAll field own := by
  unfold ownMember at run
  obtain ⟨s, h, _, run⟩ := of_bind_ok run
  cases layered : field.complement s with
  | error e =>
    rw [layered] at run
    cases run
  | ok t =>
    rw [layered] at run
    cases run
    exact ⟨rfl, rfl, s, layered⟩

theorem ownMembers_of {fields : List Field} {own : List Own}
    (run : after (fields.mapM (ownMember config synth context renameAll)) g = (.ok own, g')) :
    List.Forall₂ (OwnOf config renameAll) fields own := by
  induction fields generalizing own g with
  | nil =>
    rw [List.mapM_nil] at run
    cases run
    exact .nil
  | cons field rest ih =>
    obtain ⟨one, others, h, rfl, first, more⟩ := of_mapM_cons_ok run
    exact .cons (ownMember_of first) (ih more)

theorem own_names {fields : List Field} {own : List Own}
    (declared : List.Forall₂ (OwnOf config renameAll) fields own) :
    own.map Own.name = fields.map fun field => field.propertyName config renameAll := by
  induction declared with
  | nil => rfl
  | cons one _ ih => rw [List.map_cons, List.map_cons, one.name, ih]

/-- An object that is made has visited its flattened members first and its direct ones after them. -/
theorem objectSchema_visits {fields : List Field} {s : Schema}
    (run : after (objectSchema config synth context renameAll fields) g = (.ok s, g')) :
    ∃ bodies own mid,
      after ((flattened config fields).mapM (embeddedBody config synth context)) g = (.ok bodies, mid) ∧
      after ((direct config fields).mapM (ownMember config synth context renameAll)) mid = (.ok own, g') ∧
      s = (Members.collect bodies own).toSchema := by
  rw [objectSchema_eq] at run
  obtain ⟨bodies, mid, first, run⟩ := of_bind_ok run
  obtain ⟨own, h, second, run⟩ := of_bind_ok run
  cases run
  exact ⟨bodies, own, mid, first, second, rfl⟩

theorem property_collect {bodies : List Schema} (own : List Own)
    (ordered : ∀ body ∈ bodies, body.Ordered) (name : String) :
    (Members.collect bodies own).toSchema.property? name =
      ((own.reverse.find? (·.name = name)).map Own.schema).or
        (bodies.reverse.findSome? (·.property? name)) := by
  have whole : (Members.collect bodies own).toSchema.property? name =
      (Members.collect bodies own).properties.get? name := rfl
  rw [whole, Members.collect, Members.property_takeAll, Members.property_spliceAll ordered]
  exact congrArg _ (Option.or_none)

theorem property_collect_ne_none {bodies : List Schema} {own : List Own} {name : String}
    (ordered : ∀ body ∈ bodies, body.Ordered) :
    (Members.collect bodies own).toSchema.property? name ≠ none ↔
      name ∈ own.map Own.name ∨ ∃ body ∈ bodies, body.property? name ≠ none := by
  rw [property_collect own ordered, Ne, Option.or_eq_none_iff, not_and_or]
  refine or_congr ?_ ?_
  · simp [List.find?_eq_none]
  · simp [List.findSome?_eq_none_iff]

theorem requires_collect (bodies : List Schema) (own : List Own) (name : String) :
    (Members.collect bodies own).toSchema.Requires name ↔
      match own.reverse.find? (·.name = name) with
      | some last => last.required = true
      | none => ∃ body ∈ bodies, body.Requires name := by
  have whole : (Members.collect bodies own).toSchema.Requires name ↔
      name ∈ (Members.collect bodies own).required := by
    unfold Schema.Requires Members.toSchema
    dsimp only
    cases (Members.collect bodies own).required <;> simp
  rw [whole, Members.collect, Members.requires_takeAll]
  split
  · rfl
  · rw [Members.requires_spliceAll]
    simp

theorem additional_collect (bodies : List Schema) (own : List Own) :
    (Members.collect bodies own).toSchema.additionalProperties =
      bodies.reverse.findSome? (·.additionalProperties) := by
  have whole : (Members.collect bodies own).toSchema.additionalProperties =
      (Members.collect bodies own).additional := rfl
  rw [whole, Members.collect, Members.additional_takeAll, Members.additional_spliceAll]
  exact Option.or_none

/-- A direct member that is added meets what its schema meets. -/
theorem ownMember_meets {c : Contract Failure Generator} {good : Schema → Generator → Prop}
    {fit : Members → Generator → Prop} (law : Law config c good fit) (each : ∀ id, Meets c (synth id) good)
    (field : Field) : Meets c (ownMember config synth context renameAll field) fun _ _ => True := by
  intro g holds
  unfold ownMember
  refine (memberSchema_meets law.uses each context field.type g holds).bind ?_
  intro s h holds _ _
  exact complement_meets law holds fun t _ => .pure holds trivial

/-- Bodies that are read back from what is stored have their properties in order. -/
theorem embeddedBodies_ordered {fuel : Nat} {fields : List Field} {bodies : List Schema}
    (stores : g.Stores Schema.Ordered)
    (run : after (fields.mapM (embeddedBody config (synthesizeWith config fuel) context)) g =
      (.ok bodies, g')) : ∀ body ∈ bodies, body.Ordered := by
  have law := storing_law config ordered_building
  have each := synthesizeWith_stores ordered_building (fun _ => .of_none rfl) config fuel
  have visited := Meets.mapM law.stable fields fun field _ => embeddedBody_meets law each context field
  exact ((visited g stores).ok run).2.2

/-- What an object has under a name is what the last direct member of that name has, else what the
last flattened body with such a property has. The last direct member of a name also decides whether
it is required, and where there is none it is required if it is in some body. Additional properties
are those of the last body that has any. How the two kinds of members are interleaved makes no
difference, to what the object is or to what making it does. -/
theorem members_merge (fuel : Nat) {fields : List Field} {s : Schema}
    (stores : g.Stores Schema.Ordered)
    (run : after (objectSchema config (synthesizeWith config fuel) context renameAll fields) g =
      (.ok s, g')) :
    ∃ bodies own mid,
      after ((flattened config fields).mapM (embeddedBody config (synthesizeWith config fuel) context))
        g = (.ok bodies, mid) ∧
      after ((direct config fields).mapM
        (ownMember config (synthesizeWith config fuel) context renameAll)) mid = (.ok own, g') ∧
      List.Forall₂ (OwnOf config renameAll) (direct config fields) own ∧
      (∀ name, s.property? name ≠ none ↔
        (∃ field ∈ direct config fields, field.propertyName config renameAll = name) ∨
          ∃ body ∈ bodies, body.property? name ≠ none) ∧
      (∀ name, s.property? name = ((own.reverse.find? (·.name = name)).map Own.schema).or
        (bodies.reverse.findSome? (·.property? name))) ∧
      (∀ name, s.Requires name ↔ match own.reverse.find? (·.name = name) with
        | some last => last.required = true
        | none => ∃ body ∈ bodies, body.Requires name) ∧
      s.additionalProperties = bodies.reverse.findSome? (·.additionalProperties) ∧
      ∀ others, flattened config others = flattened config fields →
        direct config others = direct config fields →
        objectSchema config (synthesizeWith config fuel) context renameAll others =
          objectSchema config (synthesizeWith config fuel) context renameAll fields := by
  obtain ⟨bodies, own, mid, first, second, rfl⟩ := objectSchema_visits run
  have ordered := embeddedBodies_ordered stores first
  have declared := ownMembers_of second
  have property := property_collect own ordered
  refine ⟨bodies, own, mid, first, second, declared, fun name => ?_, property,
    requires_collect bodies own, additional_collect bodies own, fun others sameFlattened sameDirect => ?_⟩
  · rw [property_collect_ne_none ordered, own_names declared, List.mem_map]
  · rw [objectSchema_eq, objectSchema_eq, sameFlattened, sameDirect]

end Merge

def bases : Registry :=
  (Registry.empty.addScope ⟨"src/models.rs", "crate::models", []⟩).insertAll
    [Builder.declared "Base" (.struct
      [Builder.member "id" (.primitive .u64) [], Builder.member "note" (.primitive .string) []])]

def overriding : List Field :=
  [Builder.member "id" (.primitive .string) [],
    { Builder.member "base" (.named ["Base"] []) [] with embedded := true }]

theorem members_merge_overriding :
    let g : Generator := { resolver := { registry := bases } }
    g.Stores Schema.Ordered ∧
      ∃ s g', after (objectSchema {} (synthesizeWith {} nesting) 0 none overriding) g = (.ok s, g') ∧
        (s.property? "id").bind (·.type) = some "string" ∧ s.property? "note" ≠ none ∧
        ∃ (bodies : List Schema) (own : List Own), List.Forall₂ (OwnOf {} none) (direct {} overriding) own ∧
          ∀ name, s.property? name = ((own.reverse.find? (·.name = name)).map Own.schema).or
            (bodies.reverse.findSome? (·.property? name)) := by
  intro g
  have stores : g.Stores Schema.Ordered := .fresh _
  have made : (after (objectSchema {} (synthesizeWith {} nesting) 0 none overriding) g).1.toOption.map
      (fun s => ((s.property? "id").bind (·.type), (s.property? "note").isSome)) =
        some (some "string", true) := by decide +kernel
  obtain ⟨s, answer, both⟩ := Option.map_eq_some_iff.mp made
  have run := run_eq (ok_of_toOption answer)
  obtain ⟨bodies, own, _, _, _, declared, _, property, _⟩ := members_merge nesting stores run
  have note : s.property? "note" ≠ none := Option.isSome_iff_ne_none.mp (Prod.mk.inj both).2
  exact ⟨stores, s, _, run, (Prod.mk.inj both).1, note, bodies, own, declared, property⟩

end Synthesis

end ApiSchema
