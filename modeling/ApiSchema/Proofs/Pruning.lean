import ApiSchema.Document
import ApiSchema.Proofs.References

/-! Pruning keeps exactly the definitions that operations reach. Reachability is a relation of its
own: it starts at references in operations and follows references in definitions. The worklist is
tied to it by an invariant on the names reached and the names pending, which says nothing about the
order in which names are taken, so circles and references without a definition need no case. -/

namespace ApiSchema.Document

def Publishes (d : Document) (op : Operation) : Prop :=
  ∃ entry ∈ d.paths.entries, ∃ method, entry.2.slot method = some op

inductive Operation.Uses (op : Operation) : Schema → Prop where
  | parameter {parameters : List Parameter} {p : Parameter}
      (place : op.parameters = some parameters) (member : p ∈ parameters) : Uses op p.schema
  | body {body : RequestBody} {type : String} {s : Schema}
      (place : op.requestBody = some body) (member : (type, s) ∈ body.content.entries) : Uses op s
  | response {status : String} {response : Response} {content : Table Schema} {type : String}
      {s : Schema} (member : (status, response) ∈ op.responses.entries)
      (place : response.content = some content) (inside : (type, s) ∈ content.entries) : Uses op s

/-- Names that operations refer to, and those that definitions of such names refer to in turn. -/
inductive Reached (d : Document) (definitions : Table Schema) : String → Prop where
  | root {op : Operation} {s : Schema} {name : String} (published : d.Publishes op)
      (used : op.Uses s) (mentioned : s.Mentions name) : Reached d definitions name
  | step {via name : String} {s : Schema} (reached : Reached d definitions via)
      (defined : definitions.get? via = some s) (mentioned : s.Mentions name) :
      Reached d definitions name

def Mentions (d : Document) (name : String) : Prop :=
  (∃ op s, d.Publishes op ∧ op.Uses s ∧ s.Mentions name) ∨
  ∃ definitions key s, d.components = some (some definitions) ∧ definitions.get? key = some s ∧
    s.Mentions name

def Defines (d : Document) (name : String) : Prop :=
  ∃ definitions, d.components = some (some definitions) ∧ definitions.get? name ≠ none

def Closed (d : Document) : Prop := ∀ name, d.Mentions name → d.Defines name

theorem mem_operations {item : PathItem} {op : Operation} :
    op ∈ item.operations ↔ ∃ method, item.slot method = some op := by
  simp only [PathItem.operations, List.mem_filterMap]
  constructor
  · rintro ⟨method, _, found⟩
    exact ⟨method, found⟩
  · rintro ⟨method, found⟩
    exact ⟨method, by cases method <;> simp [Method.all], found⟩

theorem mem_schemas {op : Operation} {s : Schema} : s ∈ op.schemas ↔ op.Uses s := by
  simp only [Operation.schemas, Table.values, List.mem_append, List.mem_map, List.mem_flatMap]
  constructor
  · rintro ((⟨p, member, rfl⟩ | inBody) | ⟨response, ⟨⟨status, r⟩, member, rfl⟩, inResponse⟩)
    · cases place : op.parameters with
      | none => simp [place] at member
      | some parameters => exact .parameter place (by simpa [place] using member)
    · cases place : op.requestBody with
      | none => simp [place] at inBody
      | some body =>
        simp only [place, Option.map_some, Option.getD_some, List.mem_map] at inBody
        obtain ⟨⟨type, s⟩, member, rfl⟩ := inBody
        exact .body place member
    · cases place : r.content with
      | none => simp [place] at inResponse
      | some content =>
        simp only [place, Option.map_some, Option.getD_some, Table.values, List.mem_map] at inResponse
        obtain ⟨⟨type, s⟩, inside, rfl⟩ := inResponse
        exact .response member place inside
  · intro used
    cases used with
    | parameter place member => exact .inl (.inl ⟨_, by simpa [place] using member, rfl⟩)
    | body place member =>
      refine .inl (.inr ?_)
      simp only [place, Option.map_some, Option.getD_some, List.mem_map]
      exact ⟨_, member, rfl⟩
    | response member place inside =>
      refine .inr ⟨_, ⟨_, member, rfl⟩, ?_⟩
      simp only [place, Option.map_some, Option.getD_some, Table.values, List.mem_map]
      exact ⟨_, inside, rfl⟩

/-- The worklist starts with what operations refer to. -/
theorem mem_roots {d : Document} {name : String} :
    name ∈ d.roots ↔ ∃ op s, d.Publishes op ∧ op.Uses s ∧ s.Mentions name := by
  simp only [roots, Table.values, List.mem_flatMap, List.mem_map, mem_operations, mem_schemas,
    Schema.mem_refs_iff]
  constructor
  · rintro ⟨_, ⟨entry, member, rfl⟩, op, ⟨method, found⟩, s, used, mentioned⟩
    exact ⟨op, s, ⟨entry, member, method, found⟩, used, mentioned⟩
  · rintro ⟨op, s, ⟨entry, member, method, found⟩, used, mentioned⟩
    exact ⟨_, ⟨entry, member, rfl⟩, op, ⟨method, found⟩, s, used, mentioned⟩

theorem mem_successors {definitions : Table Schema} {via name : String} :
    name ∈ successors definitions via ↔
      ∃ s, definitions.get? via = some s ∧ s.Mentions name := by
  cases found : definitions.get? via <;> simp [successors, found, Schema.mem_refs_iff]

/-- What the worklist adds has every property that pending names have and references pass on. -/
theorem visit_induction {definitions : Table Schema} {P : String → Prop}
    (passes : ∀ via name, P via → name ∈ successors definitions via → P name)
    (reached pending : List String) (old : ∀ name ∈ reached, P name)
    (waiting : ∀ name ∈ pending, P name) : ∀ name ∈ visit definitions reached pending, P name := by
  fun_induction visit definitions reached pending with
  | case1 reached => exact old
  | case2 reached name pending seen ih =>
    exact ih old fun other member => waiting other (List.mem_cons_of_mem _ member)
  | case3 reached name pending new fresh ih =>
    have here : P name := waiting name List.mem_cons_self
    apply ih
    · intro other member
      rcases List.mem_cons.mp member with rfl | member
      · exact here
      · exact old other member
    · intro other member
      rcases List.mem_append.mp member with member | member
      · exact waiting other (List.mem_cons_of_mem _ member)
      · exact passes name other here (List.mem_filter.mp member).1

/-- Nothing reached or pending is lost. -/
theorem mem_visit {definitions : Table Schema} {reached pending : List String} {name : String}
    (member : name ∈ reached ∨ name ∈ pending) : name ∈ visit definitions reached pending := by
  fun_induction visit definitions reached pending with
  | case1 reached => simpa using member
  | case2 reached first pending seen ih =>
    apply ih
    rcases member with member | member
    · exact .inl member
    · rcases List.mem_cons.mp member with rfl | member
      · exact .inl seen
      · exact .inr member
  | case3 reached first pending new fresh ih =>
    apply ih
    rcases member with member | member
    · exact .inl (List.mem_cons_of_mem _ member)
    · rcases List.mem_cons.mp member with rfl | member
      · exact .inl List.mem_cons_self
      · exact .inr (List.mem_append_left _ member)

/-- References of a reached name are themselves reached or pending. -/
def Pursued (definitions : Table Schema) (reached pending : List String) : Prop :=
  ∀ via ∈ reached, ∀ name ∈ successors definitions via, name ∈ reached ∨ name ∈ pending

theorem visit_closed {definitions : Table Schema} {reached pending : List String}
    (pursued : Pursued definitions reached pending) :
    Pursued definitions (visit definitions reached pending) [] := by
  fun_induction visit definitions reached pending with
  | case1 reached => exact pursued
  | case2 reached name pending seen ih =>
    apply ih
    intro via member next follows
    rcases pursued via member next follows with member | member
    · exact .inl member
    · rcases List.mem_cons.mp member with rfl | member
      · exact .inl seen
      · exact .inr member
  | case3 reached name pending new fresh ih =>
    apply ih
    intro via member next follows
    by_cases visited : next ∈ name :: reached
    · exact .inl visited
    rcases List.mem_cons.mp member with rfl | member
    · exact .inr (List.mem_append_right _ (List.mem_filter.mpr ⟨follows, by simpa using visited⟩))
    · rcases pursued via member next follows with earlier | waiting
      · exact absurd (List.mem_cons_of_mem _ earlier) visited
      · rcases List.mem_cons.mp waiting with rfl | waiting
        · exact absurd List.mem_cons_self visited
        · exact .inr (List.mem_append_left _ waiting)

/-- The worklist finds exactly the names that are reached. -/
theorem mem_reachable {d : Document} {definitions : Table Schema} {name : String} :
    name ∈ reachable definitions d.roots ↔ d.Reached definitions name := by
  constructor
  · intro member
    refine visit_induction (P := d.Reached definitions) ?_ [] d.roots (by simp) ?_ name member
    · intro via next reached follows
      obtain ⟨s, defined, mentioned⟩ := mem_successors.mp follows
      exact .step reached defined mentioned
    · intro root member
      obtain ⟨op, s, published, used, mentioned⟩ := mem_roots.mp member
      exact .root published used mentioned
  · intro reached
    induction reached with
    | root published used mentioned =>
      exact mem_visit (.inr (mem_roots.mpr ⟨_, _, published, used, mentioned⟩))
    | step _ defined mentioned ih =>
      have start : Pursued definitions [] d.roots := by simp [Pursued]
      have next := visit_closed start _ ih _ (mem_successors.mpr ⟨_, defined, mentioned⟩)
      exact next.resolve_right List.not_mem_nil

def kept (d : Document) (definitions : Table Schema) : Table Schema :=
  definitions.filter (reachable definitions d.roots).contains

theorem prune_eq {d : Document} {definitions : Table Schema} (paths : d.paths.isEmpty = false)
    (components : d.components = some (some definitions)) :
    d.prune = { d with components := some (some (d.kept definitions)) } := by
  simp [prune, components, paths, kept]

theorem prune_eq_self {d : Document}
    (nothing : d.paths.isEmpty = true ∨ ∀ definitions, d.components ≠ some (some definitions)) :
    d.prune = d := by
  unfold prune
  split
  · next definitions components =>
    rcases nothing with empty | absent
    · simp [empty]
    · exact absurd components (absent definitions)
  · rfl

theorem mem_kept {d : Document} {definitions : Table Schema} {entry : String × Schema} :
    entry ∈ (d.kept definitions).entries ↔
      entry ∈ definitions.entries ∧ d.Reached definitions entry.1 := by
  simp [kept, Table.filter, mem_reachable]

theorem get?_kept {d : Document} {definitions : Table Schema} {name : String}
    (reached : d.Reached definitions name) :
    (d.kept definitions).get? name = definitions.get? name := by
  simp [kept, Table.get?_filter, mem_reachable, reached]

theorem get?_of_kept {d : Document} {definitions : Table Schema} {name : String} {s : Schema}
    (found : (d.kept definitions).get? name = some s) :
    d.Reached definitions name ∧ definitions.get? name = some s := by
  have reached : d.Reached definitions name := (mem_kept.mp (Table.mem_of_get? found)).2
  exact ⟨reached, get?_kept reached ▸ found⟩

/-- What was reached is still reached once the rest is gone. -/
theorem Reached.of_kept {d : Document} {definitions : Table Schema} {name : String}
    (reached : d.Reached definitions name) : d.Reached (d.kept definitions) name := by
  induction reached with
  | root published used mentioned => exact .root published used mentioned
  | step before defined mentioned ih =>
    exact .step ih ((get?_kept before).trans defined) mentioned

theorem kept_kept (d : Document) (definitions : Table Schema) (components) :
    ({ d with components } : Document).kept (d.kept definitions) = d.kept definitions := by
  have entries : (d.kept definitions).entries.filter
      (fun entry => (reachable (d.kept definitions) d.roots).contains entry.1) =
      (d.kept definitions).entries := by
    apply List.filter_eq_self.mpr
    intro entry member
    have reached := (mem_kept.mp member).2.of_kept
    simpa using mem_reachable.mpr reached
  exact congrArg Table.mk entries

/-- Pruning does nothing, or it drops definitions that are not reached. -/
theorem prune_cases (d : Document) : d.prune = d ∨ ∃ definitions, d.paths.isEmpty = false ∧
    d.components = some (some definitions) ∧
    d.prune = { d with components := some (some (d.kept definitions)) } := by
  by_cases paths : d.paths.isEmpty = true
  · exact .inl (prune_eq_self (.inl paths))
  have paths : d.paths.isEmpty = false := by simpa using paths
  by_cases defined : ∃ definitions, d.components = some (some definitions)
  · obtain ⟨definitions, components⟩ := defined
    exact .inr ⟨definitions, paths, components, prune_eq paths components⟩
  · exact .inl (prune_eq_self (.inr (by simpa using defined)))

theorem prune_prune (d : Document) : d.prune.prune = d.prune := by
  rcases d.prune_cases with same | ⟨definitions, paths, _, same⟩
  · rw [same, same]
  · have again := @prune_eq d.prune (d.kept definitions)
    rw [same] at again ⊢
    rw [again paths rfl, kept_kept]

/-- A name mentioned after pruning was mentioned before, and pruning took no definition of it. -/
theorem Mentions.of_prune {d : Document} {name : String} (mentioned : d.prune.Mentions name) :
    d.Mentions name ∧ (d.Defines name → d.prune.Defines name) := by
  rcases d.prune_cases with same | ⟨definitions, paths, components, same⟩
  · rw [same] at mentioned ⊢
    exact ⟨mentioned, id⟩
  rw [same] at mentioned ⊢
  have before : d.Mentions name ∧ d.Reached definitions name := by
    rcases mentioned with ⟨op, s, published, used, inside⟩ | ⟨table, key, s, components', found, inside⟩
    · exact ⟨.inl ⟨op, s, published, used, inside⟩, .root published used inside⟩
    · obtain rfl : d.kept definitions = table := by simpa using components'
      obtain ⟨reached, found⟩ := get?_of_kept found
      exact ⟨.inr ⟨definitions, key, s, components, found, inside⟩, .step reached found inside⟩
  refine ⟨before.1, ?_⟩
  rintro ⟨definitions', components', found⟩
  obtain rfl : definitions = definitions' := by simpa [components] using components'
  exact ⟨_, rfl, by rwa [get?_kept before.2]⟩

/-- Pruning leaves no reference without the definition it had before. -/
theorem prune_closed {d : Document} (closed : d.Closed) : d.prune.Closed := by
  intro name mentioned
  obtain ⟨before, survives⟩ := mentioned.of_prune
  exact survives (closed name before)

/-- Nor does it hide one: what a reached definition lacks is still missing. -/
theorem not_prune_closed {d : Document} {definitions : Table Schema} {via name : String} {s : Schema}
    (components : d.components = some (some definitions)) (reached : d.Reached definitions via)
    (defined : definitions.get? via = some s) (mentioned : s.Mentions name)
    (absent : definitions.get? name = none) : ¬d.prune.Closed := by
  intro closed
  rcases d.prune_cases with same | ⟨table, _, place, same⟩
  · rw [same] at closed
    obtain ⟨table, place, found⟩ := closed name (.inr ⟨definitions, via, s, components, defined, mentioned⟩)
    obtain rfl : definitions = table := by simpa [components] using place
    exact found absent
  · obtain rfl : definitions = table := by simpa [components] using place
    rw [same] at closed
    obtain ⟨kept, place, found⟩ := closed name
      (.inr ⟨_, via, s, rfl, (get?_kept reached).trans defined, mentioned⟩)
    obtain rfl : d.kept definitions = kept := by simpa using place
    obtain ⟨body, found⟩ := Option.ne_none_iff_exists'.mp found
    rw [(get?_of_kept found).2] at absent
    cases absent

/-- Of a document with paths and definitions exactly the reached definitions stay, in order and as
they were, and nothing else changes; any other document stays as it is. A second pruning does
nothing, and a document without dangling references has none afterwards. -/
theorem prune_exact (d : Document) :
    (∀ definitions, d.paths.isEmpty = false → d.components = some (some definitions) →
      ∃ table, d.prune = { d with components := some (some table) } ∧
        table.entries.Sublist definitions.entries ∧
        (∀ entry ∈ definitions.entries, entry ∈ table.entries ↔ d.Reached definitions entry.1) ∧
        ∀ name, d.Reached definitions name → table.get? name = definitions.get? name) ∧
    (d.paths.isEmpty = true ∨ (∀ definitions, d.components ≠ some (some definitions)) →
      d.prune = d) ∧
    d.prune.prune = d.prune ∧
    (d.Closed → d.prune.Closed) := by
  refine ⟨?_, prune_eq_self, prune_prune d, prune_closed⟩
  intro definitions paths components
  refine ⟨d.kept definitions, prune_eq paths components, List.filter_sublist, ?_, ?_⟩
  · intro entry member
    simp [mem_kept, member]
  · intro name reached
    exact get?_kept reached

end ApiSchema.Document
