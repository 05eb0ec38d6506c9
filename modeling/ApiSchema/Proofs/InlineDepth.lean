import ApiSchema.Proofs.Coverage
import ApiSchema.Proofs.OrderIndependence

/-! Synonyms may be written out in deeper arrays or in less deep ones. What is written out under one limit
is so under every higher limit, and as the same schema, since what it is made of is written out already. So
a higher limit takes synonyms away from the definitions and nothing else. -/

namespace ApiSchema

open Steps

def Config.inlining (config : Config) (depth : Nat) : Config := { config with maxInlineDepth := depth }

namespace Synthesis

open Generator (Finished Covered)

section Limits

variable {config : Config} {r : Registry} {id : DeclId} {deeper : Nat}

/-- Under a higher limit a synonym that was written out is so still, as the same schema. -/
theorem Inlined.siteAt_inlining {levels : Nat} (le : config.maxInlineDepth ≤ deeper)
    (simple : Inlined config r levels id) :
    siteAt (config.inlining deeper) r levels id = siteAt config r levels id := by
  induction levels generalizing id with
  | zero => exact absurd simple (not_simple_zero id)
  | succ levels ih => exact simple.siteStep_eq le fun used => ih used

theorem Inlined.inlining {levels : Nat} (le : config.maxInlineDepth ≤ deeper)
    (simple : Inlined config r levels id) : Inlined (config.inlining deeper) r levels id := by
  unfold Inlined
  rw [simple.siteAt_inlining le]
  exact Schema.isComplex_of_le le simple

theorem useSite_ref_iff (body : (r.get id).body ≠ .interface) {name : String} :
    useSite config r id = .ref name ↔ ¬Inlined config r r.size id ∧ name = (r.definitionName id).1 := by
  constructor
  · intro reference
    have complex : ¬Inlined config r r.size id := by
      intro simple
      have simple : (useSite config r id).isComplex config.maxInlineDepth = false := simple
      simp [reference] at simple
    have own : Schema.ref name = .ref (r.definitionName id).1 :=
      reference.symm.trans (useSite_of_complex complex body)
    exact ⟨complex, by simpa using congrArg Schema.refs own⟩
  · rintro ⟨complex, rfl⟩
    exact useSite_of_complex complex body

end Limits

/-- The second state keeps what is done, and a name that got a definition is referred to by the
declaration that was done for it. -/
structure Adds (g g' : Generator) : Prop where
  memo : ∀ id s, g.memo.lookup id = some s → g'.memo.lookup id = some s
  inProgress : g'.inProgress = g.inProgress
  owned : ∀ key, g'.definitions.get? key ≠ none →
    g.definitions.get? key ≠ none ∨ ∃ id, g'.memo.lookup id = some (.ref key)

namespace Adds

variable {g g' g'' : Generator}

theorem of_same (memo : g'.memo = g.memo) (inProgress : g'.inProgress = g.inProgress)
    (definitions : g'.definitions = g.definitions) : Adds g g' :=
  ⟨fun _ _ found => memo ▸ found, inProgress, fun _ found => .inl (definitions ▸ found)⟩

theorem trans (first : Adds g g') (second : Adds g' g'') : Adds g g'' where
  memo id s found := second.memo id s (first.memo id s found)
  inProgress := second.inProgress.trans first.inProgress
  owned key found := by
    rcases second.owned key found with found | own
    · exact (first.owned key found).imp_right fun ⟨id, own⟩ => ⟨id, second.memo id _ own⟩
    · exact .inr own

end Adds

def owning : Contract Failure Generator where
  holds g := ∀ id ∈ g.inProgress, g.memo.lookup id = none
  moves := Adds
  fails e _ _ := Fatal e
  refl _ := .of_same rfl rfl rfl
  trans first second := first.trans second
  fails_after _ failed := failed

theorem owning_law (config : Config) : Law config owning (fun _ _ => True) fun _ _ => True :=
  .of_any id (fun _ _ _ => trivial) fun _ _ =>
    resolving_of_grows fun _ _ holds _ => ⟨holds, .of_same rfl rfl rfl⟩

section Finished

variable {id : DeclId} {name : String} {placed : Bool} {x : Schema} {made : Option Schema}
  {g s t u : Generator}

theorem owning_begun (within : BegunUnder owning id name placed g s) : owning.holds s := by
  intro other busy
  rw [within.begun.memo]
  rw [within.begun.inProgress] at busy
  rcases List.mem_cons.mp busy with rfl | busy
  · exact within.ready.fresh
  · exact within.holds other busy

/-- A declaration that is over owns its name, if that got a placeholder or a definition. -/
theorem owning_finished (within : BegunUnder owning id name placed g s) (later : owning.holds t)
    (nested : Adds s t) (finished : Finished id name x made t u)
    (own : placed = true ∨ made ≠ none → x = .ref name) : owning.holds u ∧ Adds g u := by
  have stack : u.inProgress = g.inProgress := finished.inProgress.trans
    (Generator.leave_inProgress within.ready.idle (nested.inProgress.trans within.begun.inProgress))
  have under : t.inProgress = id :: g.inProgress := nested.inProgress.trans within.begun.inProgress
  have apart {other : DeclId} {y : Schema} (found : t.memo.lookup other = some y) : other ≠ id := by
    rintro rfl
    rw [later other (under ▸ List.mem_cons_self)] at found
    cases found
  have named (key : String) (same : name = key) (why : placed = true ∨ made ≠ none) :
      ∃ other, u.memo.lookup other = some (.ref key) := ⟨id, by rw [finished.own, own why, same]⟩
  refine ⟨fun other busy => ?_, ?_, stack, fun key found => ?_⟩
  · rw [stack] at busy
    have differs : other ≠ id := fun same => within.ready.idle (same ▸ busy)
    rw [finished.lookup differs]
    exact later other (under ▸ List.mem_cons_of_mem _ busy)
  · intro other y found
    have kept := nested.memo other y (within.begun.memo ▸ found)
    rw [finished.lookup (apart kept)]
    exact kept
  · rw [finished.definitions] at found
    split at found
    · next mine => exact .inr (named key mine.2 (.inr mine.1))
    · rcases nested.owned key found with before | ⟨other, done⟩
      · rw [within.begun.definitions] at before
        split at before
        · next mine => exact .inr (named key mine.2 (.inl mine.1))
        · exact .inl before
      · exact .inr ⟨other, by rw [finished.lookup (apart done), done]⟩

end Finished

theorem owning_cases : EachCaseKeeps owning owning fun _ _ => True where
  memo _ _ := trivial
  naming _ _ holds := ⟨holds, .of_same rfl rfl rfl⟩
  cycle {id _ g} holds _ _ := by
    obtain ⟨forced, same⟩ := Generator.force_frame id g
    rw [same]
    exact ⟨holds, .of_same rfl rfl rfl, trivial⟩
  begun within := owning_begun within
  defined within later nested _ finished := by
    obtain ⟨holds, adds⟩ := owning_finished within later nested finished fun _ => rfl
    exact ⟨holds, adds, trivial⟩
  inlined within later nested _ _ finished := by
    obtain ⟨holds, adds⟩ := owning_finished within later nested finished (by simp)
    exact ⟨holds, adds, trivial⟩
  undone _ failed := failed
  abandoned _ failed := failed

/-- Requests that all succeed keep to a contract that declarations meet. -/
theorem serveAll_meets {config : Config} {c : Contract Failure Generator}
    {good : Schema → Generator → Prop} {fit : Members → Generator → Prop} (law : Law config c good fit)
    {fuel : Nat} (each : ∀ id, Meets c (synthesizeWith config fuel id) good) {requests : List Request}
    {g : Generator} (holds : c.holds g)
    (succeed : ∀ outcome ∈ (serveAll config fuel requests g).1, outcome.isOk) :
    c.holds (serveAll config fuel requests g).2 ∧ c.moves g (serveAll config fuel requests g).2 := by
  induction requests generalizing g with
  | nil => exact ⟨holds, c.refl g⟩
  | cons request rest ih =>
    rcases run : after (request.serve config fuel) g with ⟨outcome, next⟩
    rw [serveAll_cons rest run] at succeed ⊢
    obtain ⟨ok, later⟩ := List.forall_mem_cons.mp succeed
    cases outcome with
    | error e => cases ok
    | ok x =>
      obtain ⟨holds, first, _⟩ := (serve_meets law fuel each request g holds).ok run
      obtain ⟨holds, others⟩ := ih holds later
      exact ⟨holds, c.trans first others⟩

theorem synthesizeWith_owning (config : Config) (fuel : Nat) (id : DeclId) :
    Meets owning (synthesizeWith config fuel id) fun _ _ => True :=
  synthesizeWith_meets (owning_law config) owning_cases (fun _ => trivial) fuel id

section Requests

variable {config : Config} {s : Resolver} {requests : List Request} {fuel : Nat} {id : DeclId}

/-- Requests that all succeed leave done what they lead to, and nothing under way. -/
theorem serveAll_done (off : config.parseDependencies = false) (plain : Plain s.registry)
    (succeed : ∀ outcome ∈ (serveAll config fuel requests { resolver := s }).1, outcome.isOk) :
    let g := (serveAll config fuel requests { resolver := s }).2
    CanonicalState config s.registry (Wanted config s.registry requests) g ∧ g.inProgress = [] ∧
      ∀ id, g.memo.lookup id ≠ none ↔
        Wanted config s.registry requests id ∧ (s.registry.get id).body ≠ .interface := by
  have closed (a b : DeclId) (wanted : Wanted config s.registry requests a)
      (uses : Uses config s.registry a b) : Wanted config s.registry requests b := by
    obtain ⟨request, member, root, leads, reaches⟩ := wanted
    exact ⟨request, member, root, leads, reaches.tail uses⟩
  have asked (request : Request) (member : request ∈ requests) (id : DeclId)
      (leads : request.leads s.registry = some id) : Wanted config s.registry requests id :=
    ⟨request, member, id, leads, .refl⟩
  obtain ⟨_, canonical, idle, _, all⟩ :=
    serveAll_ok off plain closed asked (canonical_fresh s) rfl succeed
  refine ⟨canonical, idle, canonical.done_iff idle fun id wanted => ?_⟩
  obtain ⟨request, member, root, leads, reaches⟩ := wanted
  exact ((all request member).2 root leads).reaches canonical idle reaches

/-- After requests that all succeed the definitions are under the names of the declarations that are done
and not written out. -/
theorem serveAll_key_iff (off : config.parseDependencies = false) (plain : Plain s.registry)
    (succeed : ∀ outcome ∈ (serveAll config fuel requests { resolver := s }).1, outcome.isOk)
    (key : String) :
    (serveAll config fuel requests { resolver := s }).2.definitions.get? key ≠ none ↔
      ∃ id, (Wanted config s.registry requests id ∧ (s.registry.get id).body ≠ .interface) ∧
        ¬Inlined config s.registry s.registry.size id ∧ key = (s.registry.definitionName id).1 := by
  obtain ⟨canonical, idle, done⟩ := serveAll_done off plain succeed
  simp only [← done]
  constructor
  · intro found
    obtain ⟨_, adds⟩ := serveAll_meets (owning_law config) (synthesizeWith_owning config fuel)
      (fun _ busy => by cases busy) succeed
    rcases adds.owned key found with before | ⟨id, own⟩
    · exact absurd rfl before
    · have done := canonical.memo id _ own
      exact ⟨id, by simp [own], (useSite_ref_iff done.body).mp done.schema.symm⟩
  · rintro ⟨id, made, complex, rfl⟩
    obtain ⟨x, found⟩ := Option.ne_none_iff_exists'.mp made
    have done := canonical.memo id x found
    have reference : x = .ref (s.registry.definitionName id).1 :=
      done.schema.trans (useSite_of_complex complex done.body)
    have fresh : Covered { resolver := s } := { memo := by simp, definitions := by simp [Table.get?] }
    have covered : Covered _ :=
      (serveAll_meets (covering_law config) (synthesizeWith_covered config fuel) fresh succeed).1
    have member : (s.registry.definitionName id).1 ∈ x.refs := by simp [reference]
    rcases covered.memo id x found _ member with here | ⟨other, _, busy, _⟩
    · exact here
    · simp [idle] at busy

end Requests

def Composite (d : Declaration) : Prop := d.body ≠ .interface ∧ ∀ target, d.body ≠ .synonym target

def CompositeKey (g : Generator) (key : String) : Prop :=
  g.definitions.get? key ≠ none ∧
    ∃ id, Composite (g.registry.get id) ∧ g.memo.lookup id ≠ none ∧ key = g.nameOf id

theorem wanted_inlining (config : Config) (r : Registry) (requests : List Request) (depth : Nat) :
    Wanted (config.inlining depth) r requests = Wanted config r requests := rfl

section Comparison

variable {config : Config} {s : Resolver} {requests : List Request} {fuel : Nat}

/-- A struct or an enumeration has its key if requests that all succeed lead to it. -/
theorem compositeKey_iff (off : config.parseDependencies = false) (plain : Plain s.registry)
    (succeed : ∀ outcome ∈ (serveAll config fuel requests { resolver := s }).1, outcome.isOk)
    (key : String) :
    CompositeKey (serveAll config fuel requests { resolver := s }).2 key ↔
      ∃ id, Composite (s.registry.get id) ∧ Wanted config s.registry requests id ∧
        key = (s.registry.definitionName id).1 := by
  obtain ⟨canonical, _, done⟩ := serveAll_done off plain succeed
  simp only [CompositeKey, serveAll_key_iff off plain succeed, done, Generator.nameOf,
    canonical.renamed.get, canonical.renamed.names]
  constructor
  · rintro ⟨_, id, composite, ⟨wanted, _⟩, same⟩
    exact ⟨id, composite, wanted, same⟩
  · rintro ⟨id, composite, wanted, same⟩
    have complex : ¬Inlined config s.registry s.registry.size id := not_simple_of_other composite.2 _
    exact ⟨⟨id, ⟨wanted, composite.1⟩, complex, same⟩, id, composite, ⟨wanted, composite.1⟩, same⟩

/-- Without generics and with nothing loaded, let the same requests all succeed from nothing made, under a
limit on what is written out and under a higher one. Then the higher limit leaves no key that the other does
not leave, and both leave the same keys of structs and enumerations: as keys of those that are done, and for
each of them, unless a synonym has its name, as the key it has or does not have. -/
theorem inlining_removes_synonyms {deeper fuel' : Nat} (off : config.parseDependencies = false)
    (plain : Plain s.registry) (le : config.maxInlineDepth ≤ deeper)
    (succeed : ∀ outcome ∈ (serveAll config fuel requests { resolver := s }).1, outcome.isOk)
    (succeed' : ∀ outcome ∈ (serveAll (config.inlining deeper) fuel' requests { resolver := s }).1,
      outcome.isOk) :
    let shallow := (serveAll config fuel requests { resolver := s }).2
    let deep := (serveAll (config.inlining deeper) fuel' requests { resolver := s }).2
    (∀ key, deep.definitions.get? key ≠ none → shallow.definitions.get? key ≠ none) ∧
      (∀ key, CompositeKey deep key ↔ CompositeKey shallow key) ∧
      ∀ id, (∀ other target, (s.registry.get other).body = .synonym target →
          (s.registry.definitionName other).1 ≠ (s.registry.definitionName id).1) →
        (deep.definitions.get? (s.registry.definitionName id).1 ≠ none ↔
          shallow.definitions.get? (s.registry.definitionName id).1 ≠ none) := by
  have off' : (config.inlining deeper).parseDependencies = false := off
  have drops (key : String)
      (found : (serveAll (config.inlining deeper) fuel' requests { resolver := s }).2.definitions.get? key ≠
        none) : (serveAll config fuel requests { resolver := s }).2.definitions.get? key ≠ none := by
    obtain ⟨id, made, complex, same⟩ := (serveAll_key_iff off' plain succeed' key).mp found
    refine (serveAll_key_iff off plain succeed key).mpr ⟨id, made, ?_, same⟩
    exact fun simple => complex (simple.inlining le)
  refine ⟨drops, fun key => ?_, fun id alone => ⟨drops _, fun found => ?_⟩⟩
  · rw [compositeKey_iff off plain succeed, compositeKey_iff off' plain succeed', wanted_inlining]
  · obtain ⟨other, made, _, same⟩ := (serveAll_key_iff off plain succeed _).mp found
    have complex : ¬Inlined (config.inlining deeper) s.registry s.registry.size other :=
      not_simple_of_other (fun target body => alone other target body same.symm) _
    exact (serveAll_key_iff off' plain succeed' _).mpr ⟨other, made, complex, same⟩

def grids : Registry :=
  (Registry.empty.addScope ⟨"src/models.rs", "crate::models", []⟩).insertAll
    [Builder.declared "Row" (.synonym (.array (.primitive .f32))),
      Builder.declared "Grid" (.synonym (.array (.named ["Row"] []))), Builder.declared "Cell" (.struct []),
      Builder.declared "Sheet" (.struct [Builder.member "grid" (.named ["Grid"] []) [],
        Builder.member "cells" (.array (.named ["Cell"] [])) []])]

def gridRun (depth : Nat) : List (Except Failure Schema) × Generator :=
  serveAll (Config.inlining {} depth) 5 [.reference 0 "Sheet"] { resolver := { registry := grids } }

theorem inlining_removes_synonyms_grids :
    Plain grids ∧ (∀ outcome ∈ (gridRun 0).1, outcome.isOk) ∧ (∀ outcome ∈ (gridRun 1).1, outcome.isOk) ∧
      (gridRun 0).2.definitions.entries.map Prod.fst =
        ["models.Cell", "models.Grid", "models.Row", "models.Sheet"] ∧
      (gridRun 1).2.definitions.entries.map Prod.fst = ["models.Cell", "models.Grid", "models.Sheet"] ∧
      (∀ key, (gridRun 1).2.definitions.get? key ≠ none → (gridRun 0).2.definitions.get? key ≠ none) ∧
      (∀ key, CompositeKey (gridRun 1).2 key ↔ CompositeKey (gridRun 0).2 key) := by
  have plain : Plain grids := by decide +kernel
  have shallow : ∀ outcome ∈ (gridRun 0).1, outcome.isOk := by decide +kernel
  have deep : ∀ outcome ∈ (gridRun 1).1, outcome.isOk := by decide +kernel
  have compared := @inlining_removes_synonyms (Config.inlining {} 0) { registry := grids }
    [.reference 0 "Sheet"] 5 1 5 rfl plain (by decide)
  have first : serveAll (Config.inlining {} 0) 5 [.reference 0 "Sheet"]
    { resolver := { registry := grids } } = gridRun 0 := rfl
  have second : serveAll ((Config.inlining {} 0).inlining 1) 5 [.reference 0 "Sheet"]
    { resolver := { registry := grids } } = gridRun 1 := rfl
  rw [first, second] at compared
  obtain ⟨drops, same, _⟩ := compared shallow deep
  exact ⟨plain, shallow, deep, by decide +kernel, by decide +kernel, drops, same⟩

end Comparison

end Synthesis

end ApiSchema
