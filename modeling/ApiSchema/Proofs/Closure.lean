import ApiSchema.Proofs.BuilderRules
import ApiSchema.Proofs.Coverage

/-! References of a published document. Operations are added one after another, and one that fails
is left out while the rest goes on with the state it left. A document made so has no reference
without a definition if no operation failed. After a failure there are two ways to such a
reference: two declarations have one name, and undoing the second took the definition of the first;
or a synonym was referred to while it was under way, and was given up with nothing undone. -/

namespace ApiSchema.Builder

open Steps Synthesis
open Generator (Backed Consistent Advances Present Covered Retains givenUp)

def draft (b : Builder) (g : Generator) : Document where
  openapi := "3.0.0"
  info := b.info
  paths := b.paths
  components := if g.definitions.isEmpty then none else some (some g.definitions)

theorem draft_components {b : Builder} {g : Generator} {definitions : Table Schema}
    (components : (b.draft g).components = some (some definitions)) : definitions = g.definitions := by
  simp only [draft] at components
  split at components
  · cases components
  · simpa using components.symm

theorem draft_defines {b : Builder} {g : Generator} {name : String}
    (found : g.definitions.get? name ≠ none) : (b.draft g).Defines name := by
  refine ⟨g.definitions, if_neg ?_, found⟩
  intro empty
  have none : g.definitions.entries = [] := List.isEmpty_iff.mp empty
  simp [Table.get?, none] at found

/-- The document mentions only what its operations and definitions mention. -/
theorem draft_mentions {P : String → Prop} {b : Builder} {g : Generator} {name : String}
    (holds : b.UsesOnly fun s => ∀ name ∈ s.refs, P name)
    (definitions : ∀ key s, g.definitions.get? key = some s → ∀ name ∈ s.refs, P name)
    (mentioned : (b.draft g).Mentions name) : P name := by
  rcases mentioned with ⟨op, s, ⟨entry, member, method, place⟩, used, inside⟩ |
    ⟨table, key, s, components, found, inside⟩
  · exact holds entry member method op place s used name (Schema.mem_refs_iff.mpr inside)
  · rw [draft_components components] at found
    exact definitions key s found name (Schema.mem_refs_iff.mpr inside)

section Run

variable {config : Config} {fuel : Nat} {b b' : Builder} {g g' : Generator} {op : Manifest.Operation}
  {e : Failure}

theorem addAll_ok (rest : List Manifest.Operation)
    (run : after (addOperationWith config fuel b op) g = (.ok b', g')) : addAllWith config fuel b (op :: rest) g =
      (none :: (addAllWith config fuel b' rest g').1, (addAllWith config fuel b' rest g').2) := by
  have run : (addOperationWith config fuel b op).run g = (.ok b', g') := run
  simp only [addAllWith, run]

theorem addAll_error (rest : List Manifest.Operation)
    (run : after (addOperationWith config fuel b op) g = (.error e, g')) : addAllWith config fuel b (op :: rest) g =
      (some e :: (addAllWith config fuel b rest g').1, (addAllWith config fuel b rest g').2) := by
  have run : (addOperationWith config fuel b op).run g = (.error e, g') := run
  simp only [addAllWith, run]

/-- Some of the operations leave the synonym forced, so that one of them gave it up. -/
def Abandoned (config : Config) (fuel : Nat) (b : Builder) (ops : List Manifest.Operation) (g : Generator)
    (id : DeclId) : Prop :=
  ∃ done, done <+: ops ∧ id ∈ (addAllWith config fuel b done g).2.2.forced

theorem Abandoned.of_ok {rest : List Manifest.Operation} {id : DeclId}
    (run : after (addOperationWith config fuel b op) g = (.ok b', g'))
    (abandoned : Abandoned config fuel b' rest g' id) : Abandoned config fuel b (op :: rest) g id := by
  obtain ⟨done, early, forced⟩ := abandoned
  refine ⟨op :: done, List.cons_prefix_cons.mpr ⟨rfl, early⟩, ?_⟩
  rwa [addAll_ok done run]

theorem Abandoned.of_error {rest : List Manifest.Operation} {id : DeclId}
    (run : after (addOperationWith config fuel b op) g = (.error e, g'))
    (abandoned : Abandoned config fuel b rest g' id) : Abandoned config fuel b (op :: rest) g id := by
  obtain ⟨done, early, forced⟩ := abandoned
  refine ⟨op :: done, List.cons_prefix_cons.mpr ⟨rfl, early⟩, ?_⟩
  rwa [addAll_error done run]

theorem abandoned_of_forced (rest : List Manifest.Operation) {id : DeclId} (forced : id ∈ g.forced) :
    Abandoned config fuel b rest g id := ⟨[], List.nil_prefix, forced⟩

structure IdleAccounted (lost : DeclId → Prop) (b : Builder) (g : Generator) : Prop where
  idle : g.inProgress = []
  consistent : Consistent lost g
  holds : b.UsesOnly (Accounted lost · g)

theorem IdleAccounted.mono {lost lost' : DeclId → Prop} (inv : IdleAccounted lost b g)
    (more : ∀ id, lost id → lost' id) : IdleAccounted lost' b g where
  idle := inv.idle
  consistent := inv.consistent.mono more
  holds := inv.holds.imp fun _ good name member => (good name member).mono more

variable (config fuel)

theorem IdleAccounted.step {lost : DeclId → Prop} (inv : IdleAccounted lost b g) (op : Manifest.Operation) :
    match after (addOperationWith config fuel b op) g with
    | (.ok b', g') => IdleAccounted lost b' g'
    | (.error _, g') => IdleAccounted (givenUp lost g') b g' := by
  have meets := addOperation_meets (accounting_law config lost)
    (synthesizeWith_accounted config lost fuel) b op inv.consistent inv.holds
  rcases run : after (addOperationWith config fuel b op) g with ⟨e | b', g'⟩
  · have left : Consistent (givenUp lost g') g' ∧ Advances g g' := by
      rcases meets.error run with ⟨_, consistent, advances⟩ | ⟨_, consistent, advances⟩
      · exact ⟨consistent, advances⟩
      · exact ⟨consistent.mono fun _ => .inl, advances⟩
    refine ⟨left.2.inProgress.trans inv.idle, left.1, inv.holds.imp ?_⟩
    exact fun s good name member => (left.2.backed (good name member)).mono fun _ => .inl
  · obtain ⟨consistent, advances, holds⟩ := meets.ok run
    exact ⟨advances.inProgress.trans inv.idle, consistent, holds⟩

/-- What holds between operations holds after all of them; each failure adds to what is lost. -/
theorem IdleAccounted.run {lost : DeclId → Prop} (inv : IdleAccounted lost b g)
    (ops : List Manifest.Operation) :
    IdleAccounted (fun id => lost id ∨ Abandoned config fuel b ops g id)
      (addAllWith config fuel b ops g).2.1 (addAllWith config fuel b ops g).2.2 := by
  induction ops generalizing lost b g with
  | nil => exact inv.mono fun _ => .inl
  | cons op rest ih =>
    have next := inv.step config fuel op
    rcases run : after (addOperationWith config fuel b op) g with ⟨e | b', g'⟩
    · rw [run] at next
      rw [addAll_error rest run]
      refine (ih next).mono ?_
      rintro id ((earlier | forced) | later)
      · exact .inl earlier
      · exact .inr (.of_error run (abandoned_of_forced rest forced))
      · exact .inr (.of_error run later)
    · rw [run] at next
      rw [addAll_ok rest run]
      refine (ih next).mono ?_
      rintro id (earlier | later)
      · exact .inl earlier
      · exact .inr (.of_ok run later)

structure Complete (b : Builder) (g : Generator) : Prop where
  idle : g.inProgress = []
  covered : Covered g
  holds : b.UsesOnly (RefsPresent · g)

theorem Complete.run (complete : Complete b g) (ops : List Manifest.Operation)
    (accepted : ∀ outcome ∈ (addAllWith config fuel b ops g).1, outcome = none) :
    Complete (addAllWith config fuel b ops g).2.1 (addAllWith config fuel b ops g).2.2 := by
  induction ops generalizing b g with
  | nil => exact complete
  | cons op rest ih =>
    have meets := addOperation_meets (covering_law config) (synthesizeWith_covered config fuel)
      b op complete.covered complete.holds
    rcases run : after (addOperationWith config fuel b op) g with ⟨e | b', g'⟩
    · rw [addAll_error rest run] at accepted
      cases accepted _ List.mem_cons_self
    · obtain ⟨covered, retains, holds⟩ := meets.ok run
      rw [addAll_ok rest run] at accepted ⊢
      exact ih ⟨retains.inProgress.trans complete.idle, covered, holds⟩
        fun outcome member => accepted outcome (List.mem_cons_of_mem _ member)

end Run

section Session

variable (config : Config) (fuel : Nat) (info : Document.Info) (s : Resolver) (ops : List Manifest.Operation)

def session : List (Option Failure) × Builder × Generator :=
  addAllWith config fuel { info } ops { resolver := s }

def document : Document := (session config fuel info s ops).2.1.build (session config fuel info s ops).2.2

/-- An operation failed, and the name belongs to two declarations or to a synonym given up. -/
def Exposed (name : String) : Prop :=
  (∃ outcome ∈ (session config fuel info s ops).1, outcome ≠ none) ∧
  ((session config fuel info s ops).2.2.registry.Shared name ∨
    ∃ id, (session config fuel info s ops).2.2.registry.Named id name ∧
      Abandoned config fuel { info } ops { resolver := s } id)

theorem settled_start : IdleAccounted (fun _ => False) { info } { resolver := s } where
  idle := rfl
  consistent := by constructor <;> simp [Table.get?]
  holds := .start info

theorem complete_start : Complete { info } { resolver := s } where
  idle := rfl
  covered := by constructor <;> simp [Table.get?]
  holds := .start info

/-- Whatever the operations mention is defined or exposed before anything is dropped. -/
theorem defined_or_exposed {name : String}
    (mentioned : ((session config fuel info s ops).2.1.draft (session config fuel info s ops).2.2).Mentions name) :
    (session config fuel info s ops).2.2.definitions.get? name ≠ none ∨ Exposed config fuel info s ops name := by
  by_cases accepted : ∀ outcome ∈ (session config fuel info s ops).1, outcome = none
  · have complete := (complete_start info s).run config fuel ops accepted
    rcases draft_mentions complete.holds complete.covered.definitions mentioned with
      found | ⟨id, _, busy, _⟩
    · exact .inl found
    · rw [complete.idle] at busy
      cases busy
  · have failed : ∃ outcome ∈ (session config fuel info s ops).1, outcome ≠ none := by
      simpa using accepted
    have inv := (settled_start info s).run config fuel ops
    rcases draft_mentions inv.holds inv.consistent.definitions mentioned with
      shared | found | ⟨id, named, given | ⟨busy, _⟩⟩
    · exact .inr ⟨failed, .inl shared⟩
    · exact .inl found
    · exact .inr ⟨failed, .inr ⟨id, named, given.resolve_left not_false⟩⟩
    · rw [inv.idle] at busy
      cases busy

/-- A document has no dangling reference unless one to an exposed name dangles; in particular it
has none if every operation could be added. -/
theorem document_closed_iff : (document config fuel info s ops).Closed ↔
    ∀ name, Exposed config fuel info s ops name → (document config fuel info s ops).Mentions name →
      (document config fuel info s ops).Defines name := by
  constructor
  · exact fun closed name _ mentioned => closed name mentioned
  · intro exposed name mentioned
    obtain ⟨before, survives⟩ := Document.Mentions.of_prune mentioned
    rcases defined_or_exposed config fuel info s ops before with found | suspect
    · exact survives (draft_defines found)
    · exact exposed name suspect mentioned

end Session

section Dangling

def member (name : String) (type : TypeExpr) (schema : List TagEntry) : Field :=
  { name, type, exported := true, embedded := false, tags := { schema }, doc := none }

def declared (name : String) (body : Body) : Declaration :=
  { package := "crate::models", name, scope := 0, params := [], body, tags := {}, doc := none }

/-- An entry stands for a page, whose index lists entries and whose limit asks for a number where
there is text. -/
def pages : Registry :=
  (Registry.empty.addScope ⟨"src/models.rs", "crate::models", []⟩).insertAll
    [declared "Entry" (.synonym (.named ["Page"] [])),
      declared "Page" (.struct [member "index" (.named ["Index"] []) [],
        member "limit" (.named ["Limit"] []) []]),
      declared "Index" (.struct [member "entries" (.array (.named ["Entry"] [])) []]),
      declared "Limit" (.struct [member "text" (.primitive .string) [.mk "minimum" (some "1") []]])]

def answering (path type : String) : Manifest.Operation where
  path := path
  method := .get
  id := none
  summary := none
  description := none
  tags := []
  context := "crate::models"
  parameters := []
  requestBody := none
  responses := .singleton "200" ⟨some type, none, "application/json"⟩

theorem dangles_of_entries {b : Builder} {g : Generator} {key name : String}
    (entries : g.definitions.entries.map (fun entry => (entry.1, entry.2.refs)) = [(key, [name])])
    (apart : key ≠ name) (root : key ∈ (b.draft g).roots) : ¬(b.build g).Closed := by
  obtain ⟨⟨own, body⟩, only, same⟩ := List.map_eq_singleton_iff.mp entries
  obtain ⟨rfl, refs⟩ : own = key ∧ body.refs = [name] := by simpa using same
  have defined : g.definitions.get? own = some body := by simp [Table.get?, only]
  have absent : g.definitions.get? name = none := by simp [Table.get?, only, apart]
  have components : (b.draft g).components = some (some g.definitions) :=
    if_neg (by simp [Table.isEmpty, only])
  have reached : (b.draft g).Reached g.definitions own :=
    Document.mem_reachable.mp (Document.mem_visit (.inr root))
  have mentioned : body.Mentions name := Schema.mem_refs_iff.mp (by simp [refs])
  exact Document.not_prune_closed components reached defined mentioned absent

/-- The first operation fails at the limit and gives up the entry, but the index stays and refers
to it; the second operation publishes the index. -/
theorem index_dangles : ¬(document {} nesting { title := "", version := "", description := none }
    { registry := pages } [answering "/entry" "Entry", answering "/index" "Index"]).Closed := by
  apply @dangles_of_entries _ _ "models.Index" "models.Entry"
  · decide +kernel
  · decide
  · decide +kernel

end Dangling

end ApiSchema.Builder
