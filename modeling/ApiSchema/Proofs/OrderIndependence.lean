import ApiSchema.Proofs.Failures

/-! Requests in any order. Over an unchanging registry a request has one answer, which is found
without synthesis; and requests that all succeed leave the definitions of just those declarations
that they lead to. So neither the answers nor the definitions depend on the order in which requests
are made, on how often they are made or on where a cycle of declarations is entered first. -/

namespace ApiSchema.Synthesis

open Steps

def serveAll (config : Config) (fuel : Nat) : List Request → Generator →
    List (Except Failure Schema) × Generator
  | [], g => ([], g)
  | request :: rest, g =>
    let (outcome, g) := after (request.serve config fuel) g
    let (outcomes, g) := serveAll config fuel rest g
    (outcome :: outcomes, g)

namespace Request

/-- The answer to the request, if a type is written and all names in it denote something. -/
def answer (config : Config) (r : Registry) : Request → Option Schema
  | reference context text => (TypeExpr.parse? text).bind (typeSite r (useSite config r) context)
  | type context expr => typeSite r (useSite config r) context expr
  | declaration id => some (useSite config r id)

def leads (r : Registry) : Request → Option DeclId
  | reference context text => (TypeExpr.parse? text).bind (typeUse r context)
  | type context expr => typeUse r context expr
  | declaration id => some id

end Request

def Wanted (config : Config) (r : Registry) (requests : List Request) (id : DeclId) : Prop :=
  ∃ request ∈ requests, ∃ root, request.leads r = some root ∧ Reaches config r root id

variable {config : Config} {r : Registry} {known : DeclId → Prop} {fuel : Nat} {g g' : Generator}
  {request : Request}

section Served

variable (off : config.parseDependencies = false) (plain : Plain r)
  (closed : ∀ a b, known a → Uses config r a b → known b)

include off plain closed

theorem type_answered {context : ScopeId} {type : TypeExpr} {x : Schema}
    (asked : ∀ id, typeUse r context type = some id → known id)
    (answered : typeSite r (useSite config r) context type = some x)
    (canonical : CanonicalState config r known g) (idle : g.inProgress = []) :
    MeetsAt (canonically config r known [])
      (exprSchema config (synthesizeWith config fuel) context type) g
      fun y g' => y = x ∧ ∀ id, typeUse r context type = some id → Met r id g' := by
  refine exprSchema_visits off plain (fun g holds => holds.1.renamed) ?_ answered ⟨canonical, idle⟩
  intro id leads
  exact synthesizeWith_canonical off plain closed fuel [] id (asked id leads) fun _ member => by
    cases member

/-- A request with an answer gets it, unless some declaration it leads to has a conflict. -/
theorem serve_answered (fuel : Nat) {x : Schema} (asked : ∀ id, request.leads r = some id → known id)
    (answered : request.answer config r = some x) (canonical : CanonicalState config r known g)
    (idle : g.inProgress = []) :
    MeetsAt (canonically config r known []) (request.serve config fuel) g fun y g' =>
      y = x ∧ ∀ id, request.leads r = some id → Met r id g' := by
  cases request with
  | reference context text =>
    unfold Request.serve schemaOfReferenceWith Request.leads Request.answer at *
    dsimp only at *
    cases read : TypeExpr.parse? text with
    | none =>
      rw [read] at answered
      cases answered
    | some type =>
      rw [read] at asked answered
      exact type_answered off plain closed asked answered canonical idle
  | type context expr => exact type_answered off plain closed asked answered canonical idle
  | declaration id =>
    obtain rfl : useSite config r id = x := Option.some.inj answered
    refine (synthesizeWith_canonical off plain closed fuel [] id (asked id rfl)
      (fun _ member => by cases member) g ⟨canonical, idle⟩).imp ?_
    rintro y g' _ _ ⟨result, met⟩
    refine ⟨result, ?_⟩
    rintro _ ⟨⟩
    exact met

omit closed in
/-- A request without an answer fails and leaves the state as it is. -/
theorem serve_unanswered (fuel : Nat) (unanswered : request.answer config r = none)
    (canonical : CanonicalState config r known g) :
    ∃ e, after (request.serve config fuel) g = (.error e, g) := by
  have absent {context : ScopeId} {type : TypeExpr}
      (unanswered : typeSite r (useSite config r) context type = none) :
      ∃ e, after (exprSchema config (synthesizeWith config fuel) context type) g = (.error e, g) := by
    obtain ⟨e, _, run⟩ := exprSchema_absent off plain (synthesizeWith config fuel) canonical.renamed
      unanswered
    exact ⟨e, run⟩
  cases request with
  | reference context text =>
    unfold Request.serve schemaOfReferenceWith Request.answer at *
    dsimp only at *
    cases read : TypeExpr.parse? text with
    | none => exact ⟨_, rfl⟩
    | some type =>
      rw [read] at unanswered
      exact absent unanswered
  | type context expr => exact absent unanswered
  | declaration id => cases unanswered

variable (asked : ∀ id, request.leads r = some id → known id) (canonical : CanonicalState config r known g)
  (idle : g.inProgress = [])

include asked canonical idle

theorem serve_ok {x : Schema} (run : after (request.serve config fuel) g = (.ok x, g')) :
    request.answer config r = some x ∧ CanonicalState config r known g' ∧ g'.inProgress = [] ∧
      Progress g g' ∧ ∀ id, request.leads r = some id → Met r id g' := by
  cases answered : request.answer config r with
  | none =>
    obtain ⟨e, failed⟩ := serve_unanswered off plain fuel answered canonical
    rw [run] at failed
    cases failed
  | some y =>
    have meets := serve_answered off plain closed fuel asked answered canonical idle
    obtain ⟨⟨later, left⟩, progress, rfl, met⟩ := meets.ok run
    exact ⟨rfl, later, left, progress, met⟩

theorem serve_error {e : Failure} (enough : r.size < fuel)
    (run : after (request.serve config fuel) g = (.error e, g')) :
    request.answer config r = none ∨ ∃ id cause, known id ∧ Conflict config r id cause := by
  cases answered : request.answer config r with
  | none => exact .inl rfl
  | some x =>
    have meets := serve_answered off plain closed fuel asked answered canonical idle
    have decls : g.registry.decls = r.decls := canonical.renamed.decls
    have nested : Nested g := ⟨by simp [idle], by simp [idle]⟩
    have ends := serve_ends off (by rwa [Plain, decls]) nested (by rwa [Registry.size, decls]) request
    rw [run] at ends
    obtain ⟨id, cause, wanted, conflict, _⟩ :=
      (meets.error run).resolve_left fun out => ends (by rw [out])
    exact .inr ⟨id, cause, wanted, conflict⟩

end Served

section All

theorem serveAll_cons (rest : List Request) {outcome : Except Failure Schema}
    (run : after (request.serve config fuel) g = (outcome, g')) :
    serveAll config fuel (request :: rest) g =
      (outcome :: (serveAll config fuel rest g').1, (serveAll config fuel rest g').2) := by
  simp only [serveAll, run]

variable (off : config.parseDependencies = false) (plain : Plain r)
  (closed : ∀ a b, known a → Uses config r a b → known b) {requests : List Request}

include off plain closed

/-- Requests that all succeed have answers and get them, and what they ask for is met at the end. -/
theorem serveAll_ok (asked : ∀ request ∈ requests, ∀ id, request.leads r = some id → known id)
    (canonical : CanonicalState config r known g) (idle : g.inProgress = [])
    (succeed : ∀ outcome ∈ (serveAll config fuel requests g).1, outcome.isOk) :
    let g' := (serveAll config fuel requests g).2
    (serveAll config fuel requests g).1 =
      requests.map (fun request => .ok ((request.answer config r).getD .object)) ∧
    CanonicalState config r known g' ∧ g'.inProgress = [] ∧ Progress g g' ∧
    ∀ request ∈ requests, request.answer config r ≠ none ∧
      ∀ id, request.leads r = some id → Met r id g' := by
  induction requests generalizing g with
  | nil => exact ⟨rfl, canonical, idle, ⟨rfl, fun _ done => done⟩, by simp⟩
  | cons request rest ih =>
    obtain ⟨first, others⟩ := List.forall_mem_cons.mp asked
    rcases run : after (request.serve config fuel) g with ⟨outcome, next⟩
    rw [serveAll_cons rest run] at succeed ⊢
    obtain ⟨ok, later⟩ := List.forall_mem_cons.mp succeed
    cases outcome with
    | error e => cases ok
    | ok x =>
      obtain ⟨answered, canonical, idle, progress, met⟩ :=
        serve_ok off plain closed first canonical idle run
      obtain ⟨answers, canonical, idle, onward, all⟩ := ih others canonical idle later
      refine ⟨by simp [answered, answers], canonical, idle,
        (canonically config r known []).trans progress onward, List.forall_mem_cons.mpr ⟨⟨?_, ?_⟩, all⟩⟩
      · simp [answered]
      · exact fun id leads => (met id leads).progress onward

/-- Requests that have answers and lead to no conflict all succeed. -/
theorem serveAll_succeeds (enough : r.size < fuel)
    (asked : ∀ request ∈ requests, ∀ id, request.leads r = some id → known id)
    (answered : ∀ request ∈ requests, request.answer config r ≠ none)
    (clean : ∀ id cause, known id → ¬Conflict config r id cause)
    (canonical : CanonicalState config r known g) (idle : g.inProgress = []) :
    ∀ outcome ∈ (serveAll config fuel requests g).1, outcome.isOk := by
  induction requests generalizing g with
  | nil => simp [serveAll]
  | cons request rest ih =>
    obtain ⟨first, others⟩ := List.forall_mem_cons.mp asked
    obtain ⟨here, answered⟩ := List.forall_mem_cons.mp answered
    rcases run : after (request.serve config fuel) g with ⟨e | x, next⟩
    · rcases serve_error off plain closed first canonical idle enough run with
        none | ⟨id, cause, wanted, conflict⟩
      · exact absurd none here
      · exact absurd conflict (clean id cause wanted)
    · obtain ⟨_, canonical, idle, _, _⟩ := serve_ok off plain closed first canonical idle run
      rw [serveAll_cons rest run]
      exact List.forall_mem_cons.mpr ⟨rfl, ih others answered canonical idle⟩

end All

/-- When nothing is under way and all that was asked for is met, just that is done. -/
theorem CanonicalState.done_iff (canonical : CanonicalState config r known g) (idle : g.inProgress = [])
    (met : ∀ id, known id → Met r id g) (id : DeclId) :
    g.memo.lookup id ≠ none ↔ known id ∧ (r.get id).body ≠ .interface := by
  constructor
  · intro done
    obtain ⟨x, found⟩ := Option.ne_none_iff_exists'.mp done
    exact ⟨(canonical.memo id x found).known, (canonical.memo id x found).body⟩
  · rintro ⟨wanted, body⟩
    rcases met id wanted with done | busy | nothing
    · exact done
    · simp [idle] at busy
    · exact absurd nothing body

/-- The definitions are then those that declarations get which were asked for. -/
theorem CanonicalState.definition_iff (tidy : Tidy config r) (canonical : CanonicalState config r known g)
    (idle : g.inProgress = []) (met : ∀ id, known id → Met r id g) (key : String) (x : Schema) :
    g.definitions.get? key = some x ↔ ∃ id, key = (r.definitionName id).1 ∧
      (known id ∧ (r.get id).body ≠ .interface) ∧ DefinitionOf config r id x := by
  obtain ⟨made, owned⟩ := canonical.tables tidy
  simp only [← canonical.done_iff idle met]
  constructor
  · intro found
    rcases owned key x found with own | ⟨id, busy, _⟩
    · exact own
    · simp [idle] at busy
  · rintro ⟨id, rfl, done, defines⟩
    exact made id x done defines

/-- Without generics, flattened fields and declarations of one name, and with nothing loaded, let two
generators with nothing made, and with fuel for all declarations, serve the same requests, in any
orders and as often as one likes. If all requests to the first one succeed, so do all to the second;
each request has one answer from both, and at the end both have the same definitions. -/
theorem requests_commute {s : Resolver} {first second : List Request}
    (off : config.parseDependencies = false) (plain : Plain s.registry) (tidy : Tidy config s.registry)
    (enough : s.registry.size < fuel) (same : ∀ request, request ∈ first ↔ request ∈ second)
    (succeed : ∀ outcome ∈ (serveAll config fuel first { resolver := s }).1, outcome.isOk) :
    ∃ answer : Request → Schema,
      (serveAll config fuel first { resolver := s }).1 =
        first.map (fun request => .ok (answer request)) ∧
      (serveAll config fuel second { resolver := s }).1 =
        second.map (fun request => .ok (answer request)) ∧
      (serveAll config fuel first { resolver := s }).2.definitions =
        (serveAll config fuel second { resolver := s }).2.definitions := by
  have closed (a b : DeclId) (wanted : Wanted config s.registry first a)
      (uses : Uses config s.registry a b) : Wanted config s.registry first b := by
    obtain ⟨request, member, root, leads, reaches⟩ := wanted
    exact ⟨request, member, root, leads, reaches.tail uses⟩
  have asked (request : Request) (member : request ∈ first) (id : DeclId)
      (leads : request.leads s.registry = some id) : Wanted config s.registry first id :=
    ⟨request, member, id, leads, .refl⟩
  have asked' (request : Request) (member : request ∈ second) :=
    asked request ((same request).mpr member)
  have fresh : CanonicalState config s.registry (Wanted config s.registry first) { resolver := s } :=
    canonical_fresh s
  obtain ⟨answers, canonical, idle, _, all⟩ := serveAll_ok off plain closed asked fresh rfl succeed
  -- all that is wanted is met at the end of the first run, so none of it has a conflict
  have met (id : DeclId) (wanted : Wanted config s.registry first id) :
      Met s.registry id (serveAll config fuel first { resolver := s }).2 := by
    obtain ⟨request, member, root, leads, reaches⟩ := wanted
    exact ((all request member).2 root leads).reaches canonical idle reaches
  have succeed' := serveAll_succeeds off plain closed enough asked'
    (fun request member => (all request ((same request).mpr member)).1)
    (fun id cause wanted => (met id wanted).clean canonical idle cause) fresh rfl
  obtain ⟨answers', canonical', idle', _, all'⟩ := serveAll_ok off plain closed asked' fresh rfl succeed'
  have met' (id : DeclId) (wanted : Wanted config s.registry first id) :
      Met s.registry id (serveAll config fuel second { resolver := s }).2 := by
    obtain ⟨request, member, root, leads, reaches⟩ := wanted
    exact ((all' request ((same request).mp member)).2 root leads).reaches canonical' idle' reaches
  refine ⟨_, answers, answers', canonical.sorted.ext canonical'.sorted fun key => Option.ext fun x => ?_⟩
  rw [canonical.definition_iff tidy idle met, canonical'.definition_iff tidy idle' met']

/-- An entry stands for a page, whose index lists entries, so many as a size says. -/
def listing : Registry :=
  (Registry.empty.addScope ⟨"src/models.rs", "crate::models", []⟩).insertAll
    [Builder.declared "Entry" (.synonym (.named ["Page"] [])),
      Builder.declared "Page" (.struct [Builder.member "index" (.named ["Index"] []) []]),
      Builder.declared "Index" (.struct [Builder.member "entries" (.array (.named ["Entry"] [])) [],
        Builder.member "size" (.named ["Size"] []) [.mk "minimum" (some "1") []]]),
      Builder.declared "Size" (.synonym (.primitive .u32))]

def entryFirst : List Request := [.reference 0 "Entry", .reference 0 "Index"]

def indexFirst : List Request := [.reference 0 "Index", .reference 0 "Entry", .reference 0 "Index"]

def listed (requests : List Request) : List (Except Failure Schema) × Generator :=
  serveAll {} 5 requests { resolver := { registry := listing } }

theorem requests_commute_listing :
    Plain listing ∧ Tidy {} listing ∧ listing.size < 5 ∧
      (∀ request, request ∈ entryFirst ↔ request ∈ indexFirst) ∧
      (∀ outcome ∈ (listed entryFirst).1, outcome.isOk) ∧
      ∃ answer : Request → Schema,
        (listed entryFirst).1 = entryFirst.map (fun request => .ok (answer request)) ∧
        (listed indexFirst).1 = indexFirst.map (fun request => .ok (answer request)) ∧
        (listed entryFirst).2.definitions = (listed indexFirst).2.definitions := by
  have plain : Plain listing := by decide +kernel
  have tidy : Tidy {} listing := ⟨by decide +kernel, by decide +kernel⟩
  have small : listing.size < 5 := by decide +kernel
  have succeed : ∀ outcome ∈ (listed entryFirst).1, outcome.isOk := by decide +kernel
  have forth : entryFirst ⊆ indexFirst := by decide +kernel
  have back : indexFirst ⊆ entryFirst := by decide +kernel
  have same (request : Request) : request ∈ entryFirst ↔ request ∈ indexFirst :=
    ⟨fun member => forth member, fun member => back member⟩
  have commute :=
    @requests_commute {} 5 { registry := listing } entryFirst indexFirst rfl plain tidy small same
  have run (requests : List Request) :
      serveAll {} 5 requests { resolver := { registry := listing } } = listed requests := rfl
  rw [run, run] at commute
  exact ⟨plain, tidy, small, same, succeed, commute succeed⟩

end ApiSchema.Synthesis
