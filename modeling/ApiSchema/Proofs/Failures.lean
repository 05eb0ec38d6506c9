import ApiSchema.Proofs.Requests
import ApiSchema.Proofs.StaticRuns

/-! When a request over an unchanging registry fails. A request for a type fails at once if a name
in it denotes nothing; a member with such a type does not fail. Any other failure is that of a
field whose annotations do not go with the schema of its type, in a declaration that the request
leads to; and one such field is enough for the request to fail. -/

namespace ApiSchema.Synthesis

open Steps
open Registry (Renamed)

/-- Members of the first declaration, members of what these lead to and so on lead to the second. -/
abbrev Reaches (config : Config) (r : Registry) : DeclId → DeclId → Prop :=
  Relation.ReflTransGen (Uses config r)

variable {config : Config} {r : Registry} {known : DeclId → Prop} {g : Generator} {id other : DeclId}

theorem canonical_fresh (s : Resolver) : CanonicalState config s.registry known { resolver := s } where
  renamed := .refl s.registry
  memo _ _ found := by cases found
  forced _ member := by cases member
  stack _ member := by cases member
  sorted := .nil
  tables _ := ⟨fun _ _ done => absurd rfl done, fun _ _ found => by cases found⟩

section Idle

variable (canonical : CanonicalState config r known g) (idle : g.inProgress = [])

include canonical idle

/-- When nothing is under way, what is met leads only to what is met. -/
theorem Met.reaches (met : Met r id g) (reaches : Reaches config r id other) : Met r other g := by
  induction reaches with
  | refl => exact met
  | @tail before after _ uses ih =>
    rcases ih with done | busy | nothing
    · obtain ⟨x, found⟩ := Option.ne_none_iff_exists'.mp done
      exact (canonical.memo before x found).closed after uses
    · simp [idle] at busy
    · obtain ⟨type, member, _⟩ := uses
      simp [nothing, Body.memberTypes] at member

theorem Met.clean (met : Met r id g) (e : Error) : ¬Conflict config r id e := by
  rcases met with done | busy | nothing
  · obtain ⟨x, found⟩ := Option.ne_none_iff_exists'.mp done
    exact (canonical.memo id x found).clean e
  · simp [idle] at busy
  · rintro ⟨field, member, _⟩
    simp [nothing, Body.keptFields] at member

end Idle

/-- Fuel for as many declarations as there are is enough. -/
theorem serve_ends {fuel : Nat} (off : config.parseDependencies = false) (plain : Plain g.registry)
    (nested : Nested g) (enough : g.registry.size < fuel) (request : Request) :
    (after (request.serve config fuel) g).1 ≠ .error .exhausted := by
  intro out
  have law := fixed_law off plain
  have static := serve_meets law fuel
    (synthesizeWith_meets law (fixed_cases _) (fun holds => ⟨trivial, holds⟩) fuel) request g rfl
  have deep := serve_meets (depth_law config fuel) fuel (synthesizeWith_depth config fuel) request g
    nested
  rcases run : after (request.serve config fuel) g with ⟨result, g'⟩
  rw [run] at out
  obtain rfl : result = .error .exhausted := out
  have same : g'.registry.decls = g.registry.decls := by
    rcases static.error run with ⟨_, same⟩ | ⟨mild, _⟩
    · exact same
    · exact absurd trivial mild
  rcases deep.error run with ⟨_, _, bound⟩ | ⟨mild, _⟩
  · have large := bound rfl
    rw [Registry.size, same, ← Registry.size] at large
    omega
  · exact mild trivial

/-- A declaration of a registry without generics, asked for with nothing loaded and nothing made
before, always comes to an end. It fails exactly if it leads to a direct field whose annotations fail
on the schema that the field's type has there, any object if a name in it denotes nothing; the failure
is that of such a field. Otherwise the declaration has the schema that it has wherever it is used. -/
theorem synthesize_fails_iff {s : Resolver} {fuel : Nat} (off : config.parseDependencies = false)
    (plain : Plain s.registry) (enough : s.registry.size < fuel) (id : DeclId) :
    let outcome := (after (synthesizeWith config fuel id) { resolver := s }).1
    outcome ≠ .error .exhausted ∧
    ((∃ e, outcome = .error e) ↔
      ∃ other cause, Reaches config s.registry id other ∧ Conflict config s.registry other cause) ∧
    (∀ e, outcome = .error e → ∃ other field message,
      Reaches config s.registry id other ∧
      Conflict config s.registry other (.annotationConflict field message) ∧
      e = .error (.annotationConflict field message)) ∧
    (∀ x, outcome = .ok x → x = useSite config s.registry id) := by
  intro outcome
  have nested : Nested { resolver := s } := ⟨.nil, fun _ member => by cases member⟩
  have ends : outcome ≠ .error .exhausted :=
    serve_ends (g := { resolver := s }) off plain nested enough (.declaration id)
  have closed (a b : DeclId) (reaches : Reaches config s.registry id a)
      (uses : Uses config s.registry a b) : Reaches config s.registry id b := reaches.tail uses
  have meets := synthesizeWith_canonical off plain closed fuel [] id .refl
    (fun _ member => by cases member) { resolver := s } ⟨canonical_fresh s, rfl⟩
  rcases run : after (synthesizeWith config fuel id) { resolver := s } with ⟨e | x, g⟩
  · have failed : outcome = .error e := congrArg Prod.fst run
    obtain ⟨other, cause, reaches, conflict, rfl⟩ :=
      (meets.error run).resolve_left fun out => ends (out ▸ failed)
    obtain ⟨field, message, rfl⟩ := conflict.annotation
    refine ⟨ends, ⟨fun _ => ⟨other, _, reaches, conflict⟩, fun _ => ⟨_, failed⟩⟩, ?_, ?_⟩
    · intro e same
      exact ⟨other, field, message, reaches, conflict, Except.error.inj (same.symm.trans failed)⟩
    · intro x same
      cases same.symm.trans failed
  · have made : outcome = .ok x := congrArg Prod.fst run
    obtain ⟨⟨canonical, idle⟩, _, rfl, met⟩ := meets.ok run
    refine ⟨ends, ⟨?_, ?_⟩, ?_, ?_⟩
    · rintro ⟨e, same⟩
      cases same.symm.trans made
    · rintro ⟨other, cause, reaches, conflict⟩
      exact absurd conflict ((met.reaches canonical idle reaches).clean canonical idle cause)
    · intro e same
      cases same.symm.trans made
    · intro x same
      exact Except.ok.inj (same.symm.trans made)

def entryAsked : Except Failure Schema × Generator :=
  after (synthesizeWith {} 5 0) { resolver := { registry := Builder.pages } }

theorem synthesize_fails_iff_pages :
    Plain Builder.pages ∧ Builder.pages.size < 5 ∧ entryAsked.1.toOption = none ∧
      ∃ other cause, Reaches {} Builder.pages 0 other ∧ Conflict {} Builder.pages other cause := by
  have plain : Plain Builder.pages := by decide +kernel
  have small : Builder.pages.size < 5 := by decide +kernel
  have fails : entryAsked.1.toOption = none := by decide +kernel
  obtain ⟨_, iff, _⟩ := @synthesize_fails_iff {} { registry := Builder.pages } 5 rfl plain small 0
  have run : after (synthesizeWith {} 5 0) { resolver := { registry := Builder.pages } } = entryAsked :=
    rfl
  rw [run] at iff
  refine ⟨plain, small, fails, iff.mp ?_⟩
  cases outcome : entryAsked.1 with
  | error e => exact ⟨e, rfl⟩
  | ok x =>
    rw [outcome] at fails
    cases fails

end ApiSchema.Synthesis
