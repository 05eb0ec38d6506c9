import ApiSchema.Proofs.MemberVisits

/-! Synthesis over a registry that does not change. What a declaration has in the memo is its
schema where it is used, whatever was asked for before and wherever a cycle was entered. The memo is
closed under use, up to what is under way, so when nothing is under way it holds all that its
declarations lead to; and synthesis fails only for a field among these whose annotations do not go
with its type. -/

namespace ApiSchema.Synthesis

open Steps
open Registry (Renamed)
open Generator (Begun Finished)

section Statements

variable (config : Config) (r : Registry)

def Uses (id other : DeclId) : Prop :=
  ∃ type ∈ (r.get id).body.memberTypes config, typeUse r (r.get id).scope type = some other

def Conflict (id : DeclId) (e : Error) : Prop :=
  ∃ field ∈ (r.get id).body.keptFields config, field.embedded = false ∧
    field.complement (memberSite r (useSite config r) (r.get id).scope field.type) = .error e

/-- The declaration is done or under way, or there is nothing to be done for it. -/
def Met (id : DeclId) (g : Generator) : Prop :=
  g.memo.lookup id ≠ none ∨ id ∈ g.inProgress ∨ (r.get id).body = .interface

def Seen (id : DeclId) (type : TypeExpr) (g : Generator) : Prop :=
  ∀ other, typeUse r (r.get id).scope type = some other → Met r other g

def DefinitionOf (id : DeclId) (s : Schema) : Prop :=
  match (r.get id).body with
  | .interface => False
  | .synonym target =>
    let body := memberSite r (useSite config r) (r.get id).scope target
    body.isComplex config.maxInlineDepth = true ∧ s = synonymBody (r.get id) body
  | _ => ∃ body, Computes r (bodySchema config (handing (useSite config r)) (r.get id)) body ∧
      s = { body with description := body.description.or (r.get id).doc }

/-- No field is flattened and no two declarations have one name. -/
structure Tidy : Prop where
  flat : ∀ d ∈ r.decls, ∀ field ∈ d.body.keptFields config, field.embedded = false
  distinct : ∀ a < r.size, ∀ b < r.size, (r.definitionName a).1 = (r.definitionName b).1 → a = b

/-- Definitions are those of declarations that are done, and placeholders of those under way. -/
structure Tables (g : Generator) : Prop where
  made : ∀ id s, g.memo.lookup id ≠ none → DefinitionOf config r id s →
    g.definitions.get? (r.definitionName id).1 = some s
  owned : ∀ key s, g.definitions.get? key = some s →
    (∃ id, key = (r.definitionName id).1 ∧ g.memo.lookup id ≠ none ∧ DefinitionOf config r id s) ∨
    (∃ id ∈ g.inProgress, key = (r.definitionName id).1 ∧ ∀ target, (r.get id).body ≠ .synonym target)

structure CanonicalEntry (known : DeclId → Prop) (id : DeclId) (s : Schema) (g : Generator) : Prop where
  schema : s = useSite config r id
  known : known id
  body : (r.get id).body ≠ .interface
  clean : ∀ e, ¬Conflict config r id e
  closed : ∀ other, Uses config r id other → Met r other g

/-- The invariant of synthesis over the registry, with declarations that were asked for known. -/
structure CanonicalState (known : DeclId → Prop) (g : Generator) : Prop where
  renamed : Renamed r g.registry
  memo : ∀ id s, g.memo.lookup id = some s → CanonicalEntry config r known id s g
  forced : ∀ id ∈ g.forced, ∀ levels, ¬Inlined config r levels id
  stack : ∀ id ∈ g.inProgress, (r.get id).body ≠ .interface
  sorted : g.definitions.Sorted
  tables : Tidy config r → Tables config r g

end Statements

variable {config : Config} {r : Registry} {known : DeclId → Prop} {g g' s t u : Generator} {id : DeclId}

theorem definitionOf_named {x : Schema} (other : ∀ target, (r.get id).body ≠ .synonym target)
    (solid : (r.get id).body ≠ .interface) :
    DefinitionOf config r id x ↔
      ∃ body, Computes r (bodySchema config (handing (useSite config r)) (r.get id)) body ∧
        x = { body with description := body.description.or (r.get id).doc } := by
  unfold DefinitionOf
  split
  · next place => exact absurd place solid
  · next target place => exact absurd place (other target)
  · exact Iff.rfl

theorem definitionOf_synonym {target : TypeExpr} {x : Schema} (body : (r.get id).body = .synonym target) :
    DefinitionOf config r id x ↔
      (memberSite r (useSite config r) (r.get id).scope target).isComplex config.maxInlineDepth = true ∧
        x = synonymBody (r.get id) (memberSite r (useSite config r) (r.get id).scope target) := by
  simp [DefinitionOf, body]

theorem Tidy.flat_get (tidy : Tidy config r) (id : DeclId) :
    ∀ field ∈ (r.get id).body.keptFields config, field.embedded = false := by
  by_cases body : (r.get id).body = .interface
  · simp [body, Body.keptFields]
  · refine tidy.flat _ ?_
    have registered : id < r.decls.length := registered_of_body body
    simp [Registry.get, Registry.get?, registered]

theorem CanonicalEntry.mono {x : Schema} (held : CanonicalEntry config r known id x g)
    (more : ∀ other, Met r other g → Met r other g') : CanonicalEntry config r known id x g' :=
  { held with closed := fun other uses => more other (held.closed other uses) }

/-- A step that touches neither memo nor stack nor definitions. -/
theorem CanonicalState.frame (canonical : CanonicalState config r known g) (renamed : Renamed r g'.registry)
    (memo : g'.memo = g.memo) (inProgress : g'.inProgress = g.inProgress)
    (definitions : g'.definitions = g.definitions)
    (forced : ∀ id ∈ g'.forced, ∀ levels, ¬Inlined config r levels id) : CanonicalState config r known g' where
  renamed := renamed
  memo other x found := by
    refine (canonical.memo other x (memo ▸ found)).mono fun _ met => ?_
    rwa [Met, memo, inProgress]
  forced := forced
  stack := inProgress ▸ canonical.stack
  sorted := definitions ▸ canonical.sorted
  tables tidy := by
    obtain ⟨made, owned⟩ := canonical.tables tidy
    constructor
    · rwa [memo, definitions]
    · rwa [memo, definitions, inProgress]

theorem CanonicalState.naming (canonical : CanonicalState config r known g) (id : DeclId) :
    CanonicalState config r known (g.naming id) :=
  canonical.frame (canonical.renamed.naming id) rfl rfl rfl canonical.forced

theorem CanonicalState.force (canonical : CanonicalState config r known g)
    (complex : ∀ levels, ¬Inlined config r levels id) : CanonicalState config r known (g.force id) := by
  have forced (other : DeclId) (member : other ∈ (g.force id).forced) :
      ∀ levels, ¬Inlined config r levels other := by
    rcases Generator.mem_force.mp member with rfl | member
    · exact complex
    · exact canonical.forced other member
  obtain ⟨_, same⟩ := Generator.force_frame id g
  rw [same] at forced ⊢
  exact canonical.frame canonical.renamed rfl rfl rfl forced

theorem CanonicalState.registered (canonical : CanonicalState config r known g)
    (done : g.memo.lookup id ≠ none) : id < r.size := by
  obtain ⟨x, found⟩ := Option.ne_none_iff_exists'.mp done
  exact registered_of_body (canonical.memo id x found).body

theorem Met.begun {name : String} {placed : Bool} {other : DeclId} (met : Met r other g)
    (begun : Begun id name placed g s) : Met r other s := by
  rw [Met, begun.memo, begun.inProgress]
  exact met.imp_right (.imp_left (List.mem_cons_of_mem _))

/-- Beginning a declaration overwrites no definition of one that is done. -/
theorem Tables.begun {placed : Bool} (tidy : Tidy config r) (canonical : CanonicalState config r known g)
    (begun : Begun id (r.definitionName id).1 placed g s) (fresh : g.memo.lookup id = none)
    (body : (r.get id).body ≠ .interface)
    (placeholder : placed = true → ∀ target, (r.get id).body ≠ .synonym target) :
    Tables config r s := by
  obtain ⟨made, owned⟩ := canonical.tables tidy
  constructor
  · intro other x done defines
    rw [begun.memo] at done
    rw [begun.definitions, if_neg]
    · exact made other x done defines
    · rintro ⟨_, same⟩
      obtain rfl := tidy.distinct id (registered_of_body body) other (canonical.registered done) same
      exact done fresh
  · intro key x found
    rw [begun.definitions] at found
    simp only [begun.memo, begun.inProgress]
    split at found
    · next here => exact .inr ⟨id, List.mem_cons_self, here.2.symm, placeholder here.1⟩
    · refine (owned key x found).imp_right ?_
      rintro ⟨other, member, rest⟩
      exact ⟨other, List.mem_cons_of_mem _ member, rest⟩

theorem CanonicalState.begun {placed : Bool} (canonical : CanonicalState config r known g)
    (begun : Begun id (r.definitionName id).1 placed g s) (fresh : g.memo.lookup id = none)
    (body : (r.get id).body ≠ .interface)
    (placeholder : placed = true → ∀ target, (r.get id).body ≠ .synonym target)
    (sorted : s.definitions.Sorted) : CanonicalState config r known s where
  renamed := begun.registry ▸ canonical.renamed
  memo other x found := by
    rw [begun.memo] at found
    exact (canonical.memo other x found).mono fun _ met => met.begun begun
  forced := begun.forced ▸ canonical.forced
  stack other member := by
    rw [begun.inProgress] at member
    rcases List.mem_cons.mp member with rfl | member
    · exact body
    · exact canonical.stack other member
  sorted := sorted
  tables tidy := Tables.begun tidy canonical begun fresh body placeholder

section Finished

variable {x : Schema} {made : Option Schema} (ended : Finished id (r.definitionName id).1 x made t u)
  (under : t.inProgress = id :: g.inProgress) (idle : id ∉ g.inProgress)

include ended

theorem done_of_done {other : DeclId} (done : t.memo.lookup other ≠ none) :
    u.memo.lookup other ≠ none := by
  by_cases same : other = id
  · subst same
    simp [ended.own]
  · rwa [ended.lookup same]

include under idle

/-- What was met inside the declaration is met after it. -/
theorem Met.finished {other : DeclId} (met : Met r other t) : Met r other u := by
  rcases met with done | busy | nothing
  · exact .inl (done_of_done ended done)
  · rw [under] at busy
    rcases List.mem_cons.mp busy with rfl | busy
    · exact .inl (by simp [ended.own])
    · refine .inr (.inl ?_)
      rwa [ended.inProgress, Generator.leave_inProgress idle under]
  · exact .inr (.inr nothing)

/-- A declaration that is over has its definition under its name, if it gets one, and no other
definition changed. -/
theorem Tables.finished (tidy : Tidy config r) (canonical : CanonicalState config r known t)
    (body : (r.get id).body ≠ .interface) (defines : ∀ x, made = some x ↔ DefinitionOf config r id x)
    (placeholder : (∀ target, (r.get id).body ≠ .synonym target) → made ≠ none) : Tables config r u := by
  obtain ⟨before, owned⟩ := canonical.tables tidy
  have stack : u.inProgress = g.inProgress :=
    ended.inProgress.trans (Generator.leave_inProgress idle under)
  constructor
  · intro other y done given
    rw [ended.definitions]
    by_cases same : other = id
    · subst same
      have own := (defines y).mpr given
      simp [own]
    · rw [ended.lookup same] at done
      rw [if_neg]
      · exact before other y done given
      · rintro ⟨_, clash⟩
        have registered := canonical.registered done
        exact same (tidy.distinct id (registered_of_body body) other registered clash).symm
  · intro key y found
    rw [ended.definitions] at found
    split at found
    · next here => exact .inl ⟨id, here.2.symm, by simp [ended.own], (defines y).mp found⟩
    · next elsewhere =>
      rcases owned key y found with ⟨other, rfl, done, given⟩ | ⟨other, busy, rfl, named⟩
      · exact .inl ⟨other, rfl, done_of_done ended done, given⟩
      · rw [under] at busy
        rcases List.mem_cons.mp busy with rfl | busy
        · exact absurd ⟨placeholder named, rfl⟩ elsewhere
        · exact .inr ⟨other, stack ▸ busy, rfl, named⟩

theorem CanonicalState.finished (canonical : CanonicalState config r known t)
    (held : CanonicalEntry config r known id x t) (sorted : u.definitions.Sorted)
    (defines : Tidy config r → ∀ x, made = some x ↔ DefinitionOf config r id x)
    (placeholder : (∀ target, (r.get id).body ≠ .synonym target) → made ≠ none) :
    CanonicalState config r known u where
  renamed := ended.registry ▸ canonical.renamed
  memo other y found := by
    have more (other : DeclId) (met : Met r other t) : Met r other u := met.finished ended under idle
    by_cases same : other = id
    · subst same
      obtain rfl : x = y := Option.some.inj (ended.own.symm.trans found)
      exact held.mono more
    · rw [ended.lookup same] at found
      exact (canonical.memo other y found).mono more
  forced other member := by
    rw [ended.forced] at member
    exact canonical.forced other (List.mem_of_mem_filter member)
  stack other member := by
    rw [ended.inProgress, Generator.leave_inProgress idle under] at member
    exact canonical.stack other (under ▸ List.mem_cons_of_mem _ member)
  sorted := sorted
  tables tidy :=
    Tables.finished ended under idle tidy canonical held.body (defines tidy) placeholder

end Finished

structure Progress (g g' : Generator) : Prop where
  inProgress : g'.inProgress = g.inProgress
  done : ∀ id, g.memo.lookup id ≠ none → g'.memo.lookup id ≠ none

theorem Met.progress (met : Met r id g) (progress : Progress g g') : Met r id g' :=
  met.imp (progress.done id) (.imp_left fun busy => progress.inProgress ▸ busy)

def canonically (config : Config) (r : Registry) (known : DeclId → Prop) (stack : List DeclId) :
    Contract Failure Generator where
  holds g := CanonicalState config r known g ∧ g.inProgress = stack
  moves := Progress
  fails e _ _ := e = .exhausted ∨ ∃ id cause, known id ∧ Conflict config r id cause ∧ e = .error cause
  refl _ := ⟨rfl, fun _ done => done⟩
  trans first second :=
    ⟨second.inProgress.trans first.inProgress, fun id done => second.done id (first.done id done)⟩
  fails_after _ failed := failed

theorem Conflict.annotation {e : Error} (conflict : Conflict config r id e) :
    ∃ field message, e = .annotationConflict field message := by
  obtain ⟨field, _, _, failed⟩ := conflict
  have layered := Field.complement_yields field
    (memberSite r (useSite config r) (r.get id).scope field.type)
  rw [failed] at layered
  exact layered

theorem canonically_fatal {stack : List DeclId} {e : Failure}
    (failed : (canonically config r known stack).fails e g g') : Fatal e := by
  rcases failed with rfl | ⟨id, cause, _, conflict, rfl⟩
  · trivial
  · obtain ⟨field, message, rfl⟩ := conflict.annotation
    trivial

/-- Whatever is under way is written out with more levels than the declaration, if at all. So what
leads back to itself is never written out. -/
def Descends (config : Config) (r : Registry) (stack : List DeclId) (id : DeclId) : Prop :=
  ∀ a ∈ stack, ∀ levels, Inlined config r (levels + 1) a → Inlined config r levels id

theorem Descends.uses {stack : List DeclId} {other : DeclId} (descends : Descends config r stack id)
    (uses : Uses config r id other) : Descends config r (id :: stack) other := by
  have next (levels : Nat) (simple : Inlined config r (levels + 1) id) :
      Inlined config r levels other := by
    obtain ⟨target, body, _⟩ := simple.synonym
    obtain ⟨type, member, leads⟩ := uses
    obtain rfl : type = target := by simpa [body, Body.memberTypes] using member
    exact simple.used body leads
  intro a member levels simple
  rcases List.mem_cons.mp member with rfl | member
  · exact next levels simple
  · -- one level is lost on the way to `id`, and only one needs to be lost on the way to `other`
    cases levels with
    | zero => exact absurd (descends a member 0 simple) (not_simple_zero id)
    | succ levels => exact (next levels (descends a member (levels + 1) simple)).succ

section Run

variable (off : config.parseDependencies = false) (plain : Plain r)
  (closed : ∀ a b, known a → Uses config r a b → known b)

def Nests (config : Config) (r : Registry) (known : DeclId → Prop) (synth : DeclId → Synth Schema) :
    Prop :=
  ∀ stack id, known id → Descends config r stack id →
    Meets (canonically config r known stack) (synth id) fun x g => x = useSite config r id ∧ Met r id g

variable {synth : DeclId → Synth Schema} {stack : List DeclId}

include off plain closed

/-- The members of a declaration under way can be visited. -/
theorem Nests.visiting (nests : Nests config r known synth) (asked : known id)
    (descends : Descends config r stack id) :
    Visiting r (canonically config r known (id :: stack)) (Tidy config r) config synth (useSite config r)
      (r.get id).scope (Seen r id) ((r.get id).body.memberTypes config)
      ((r.get id).body.keptFields config) where
  stable type _ _ _ progress seen other leads := (seen other leads).progress progress
  each type member := by
    refine memberSchema_visits off plain (fun g holds => holds.1.renamed) canonically_fatal ?_
    intro other leads
    have uses : Uses config r id other := ⟨type, member, leads⟩
    exact nests (id :: stack) other (closed id other asked uses) (descends.uses uses)
  handed := memberSchema_handed off plain (useSite config r) (r.get id).scope
  flat tidy := tidy.flat_get id
  conflict field member direct e g holds failed :=
    .inr ⟨id, e, asked, ⟨field, member, direct, failed⟩, rfl⟩

omit off plain closed in
/-- A declaration whose members were all visited may be remembered. -/
theorem SeenAndFit.canonicalEntry (asked : known id) (body : (r.get id).body ≠ .interface)
    (visited : SeenAndFit r (useSite config r) (r.get id).scope (Seen r id)
      ((r.get id).body.memberTypes config) ((r.get id).body.keptFields config) g) :
    CanonicalEntry config r known id (useSite config r id) g where
  schema := rfl
  known := asked
  body := body
  clean e := by
    rintro ⟨field, member, direct, failed⟩
    obtain ⟨x, fits⟩ := visited.2 field member direct
    rw [failed] at fits
    cases fits
  closed := by
    rintro other ⟨type, member, leads⟩
    exact visited.1 type member other leads

omit off plain closed in
/-- What is owed at the end of a declaration. -/
theorem CanonicalState.ended {placed : Bool} {x : Schema} {made : Option Schema}
    (canonical : CanonicalState config r known t) (idle : id ∉ g.inProgress)
    (begun : Begun id (r.definitionName id).1 placed g s)
    (progress : Progress s t) (ended : Finished id (r.definitionName id).1 x made t u)
    (held : CanonicalEntry config r known id x t) (sorted : u.definitions.Sorted)
    (defines : Tidy config r → ∀ x, made = some x ↔ DefinitionOf config r id x)
    (placeholder : (∀ target, (r.get id).body ≠ .synonym target) → made ≠ none) :
    (CanonicalState config r known u ∧ u.inProgress = g.inProgress) ∧ Progress g u ∧
      x = useSite config r id ∧ Met r id u := by
  have under : t.inProgress = id :: g.inProgress := progress.inProgress.trans begun.inProgress
  have left : u.inProgress = g.inProgress :=
    ended.inProgress.trans (Generator.leave_inProgress idle under)
  refine ⟨⟨canonical.finished ended under idle held sorted defines placeholder, left⟩,
    ⟨left, fun other done => ?_⟩, held.schema, .inl (by simp [ended.own])⟩
  rw [← begun.memo] at done
  exact done_of_done ended (progress.done other done)

section Begin

variable (nests : Nests config r known synth) (canonical : CanonicalState config r known g) (asked : known id)
  (descends : Descends config r g.inProgress id) (fresh : g.memo.lookup id = none)
  (idle : id ∉ g.inProgress)

include nests canonical asked descends fresh idle

/-- A struct or an enumeration is referred to, and its definition is what its members make of it. -/
theorem synthesizeNamed_canonical (body : (r.get id).body ≠ .interface)
    (named : ∀ target, (r.get id).body ≠ .synonym target) :
    MeetsAt (canonically config r known g.inProgress)
      (synthesizeNamed config synth id (r.definitionName id).1 (r.get id)) g
      fun x g' => x = useSite config r id ∧ Met r id g' := by
  have begun := Generator.begun_opened id (r.definitionName id).1 g
  have inside : CanonicalState config r known (opened id (r.definitionName id).1 g) :=
    canonical.begun begun fresh body (fun _ => named) (Table.sorted_insert canonical.sorted _ _)
  have visiting := nests.visiting off plain closed asked descends
  have meets := bodySchema_matches named visiting _ ⟨inside, begun.inProgress⟩
  rcases run : after (bodySchema config synth (r.get id)) (opened id (r.definitionName id).1 g) with
    ⟨e | made, t⟩
  · exact .of_error (synthesizeNamed_error run) (meets.error run)
  · obtain ⟨⟨later, _⟩, progress, visited, gives⟩ := meets.ok run
    have held := visited.canonicalEntry asked body
    rw [useSite_named named body] at held
    have defines (tidy : Tidy config r) (x : Schema) :
        some { made with description := made.description.or (r.get id).doc } = some x ↔
          DefinitionOf config r id x := by
      rw [definitionOf_named named body]
      constructor
      · rintro ⟨⟩
        exact ⟨made, gives tidy, rfl⟩
      · rintro ⟨made', gives', rfl⟩
        rw [(gives tidy).unique gives']
    obtain ⟨holds, moves, result⟩ := later.ended idle begun progress
      (Generator.finished_definition _ _ _ _ t) held (Table.sorted_insert later.sorted _ _) defines
      (fun _ => by simp)
    exact .of_ok (synthesizeNamed_ok run) holds moves result

/-- A synonym is written out if its schema is simple. It cannot have been forced then, since what
leads back to itself is never simple. -/
theorem synthesizeSynonym_canonical {target : TypeExpr} (body : (r.get id).body = .synonym target) :
    MeetsAt (canonically config r known g.inProgress)
      (synthesizeSynonym config synth id (r.definitionName id).1 (r.get id) target) g
      fun x g' => x = useSite config r id ∧ Met r id g' := by
  have solid : (r.get id).body ≠ .interface := by simp [body]
  have begun := Generator.begun_enter id (r.definitionName id).1 g
  have inside : CanonicalState config r known (g.enter id) :=
    canonical.begun begun fresh solid (by simp) canonical.sorted
  have visiting := nests.visiting off plain closed asked descends
  have meets := visiting.each target (by simp [body, Body.memberTypes]) _ ⟨inside, begun.inProgress⟩
  have used : useSite config r id = _ := useSite_synonym body
  rcases run : after (memberSchema config synth (r.get id).scope target) (g.enter id) with ⟨e | made, t⟩
  · exact .of_error (synthesizeSynonym_error run) (meets.error run)
  · obtain ⟨⟨later, _⟩, progress, rfl, seen⟩ := meets.ok run
    have visited : SeenAndFit r (useSite config r) (r.get id).scope (Seen r id)
        ((r.get id).body.memberTypes config) ((r.get id).body.keptFields config) t := by
      constructor
      · simpa [body, Body.memberTypes] using seen
      · simp [body, Body.keptFields]
    have held := visited.canonicalEntry asked solid
    by_cases complex : (memberSite r (useSite config r) (r.get id).scope target).isComplex
        config.maxInlineDepth = true
    · rw [used, if_pos complex] at held
      have apart : ¬Inline config id (memberSite r (useSite config r) (r.get id).scope target) t := by
        simp [Inline, complex]
      have defines (x : Schema) : some (synonymBody (r.get id)
          (memberSite r (useSite config r) (r.get id).scope target)) = some x ↔
            DefinitionOf config r id x := by
        simp [definitionOf_synonym body, complex, eq_comm]
      obtain ⟨holds, moves, result⟩ := later.ended idle begun progress
        (Generator.finished_definition _ _ _ _ t) held (Table.sorted_insert later.sorted _ _)
        (fun _ => defines) (fun _ => by simp)
      exact .of_ok (synthesizeSynonym_definition apart run) holds moves result
    · rw [used, if_neg complex] at held
      have unforced : id ∉ t.forced := fun forced =>
        later.forced id forced _ (simple_of_synonym body complex)
      have inline : Inline config id (memberSite r (useSite config r) (r.get id).scope target) t := by
        simp [Inline, unforced, complex]
      have defines (x : Schema) : none = some x ↔ DefinitionOf config r id x := by
        simp [definitionOf_synonym body, complex]
      obtain ⟨holds, moves, result⟩ := later.ended idle begun progress
        (Generator.finished_inline _ _ _ t) held later.sorted (fun _ => defines)
        (fun named => absurd body (named target))
      exact .of_ok (synthesizeSynonym_inline inline run) holds moves result

end Begin

theorem synthesizeOne_canonical (nests : Nests config r known synth) :
    Nests config r known (synthesizeOne config synth) := by
  rintro _ id asked descends g ⟨canonical, rfl⟩
  have name : g.nameOf id = (r.definitionName id).1 := canonical.renamed.names id
  have get : g.registry.get id = r.get id := canonical.renamed.get id
  have named := canonical.naming id
  cases found : g.memo.lookup id with
  | some x =>
    refine .of_ok (synthesizeOne_memo found) ⟨canonical, rfl⟩ (Contract.refl _ g) ?_
    exact ⟨(canonical.memo id x found).schema, .inl (by simp [found])⟩
  | none =>
    by_cases busy : id ∈ g.inProgress
    · -- it is on the stack that leads to it, so its levels go down for ever
      have complex := never_simple (descends id busy)
      have used := useSite_of_complex (complex _) (canonical.stack id busy)
      have forced := named.force complex
      obtain ⟨_, same⟩ := Generator.force_frame id (g.naming id)
      have run : after (synthesizeOne config synth id) g = _ := synthesizeOne_cycle found busy
      rw [same] at forced run
      refine .of_ok run ⟨forced, rfl⟩ ⟨rfl, fun _ done => done⟩ ⟨?_, .inr (.inl busy)⟩
      rw [used, name]
    · refine .onward (synthesizeOne_start found busy) ⟨rfl, fun _ done => done⟩ ?_
      rw [get, name]
      split
      · next target body =>
        exact synthesizeSynonym_canonical off plain closed nests named asked descends found busy body
      · next body =>
        exact .pure ⟨named, rfl⟩ ⟨(useSite_interface body).symm, .inr (.inr body)⟩
      · next other solid =>
        exact synthesizeNamed_canonical off plain closed nests named asked descends found busy solid
          other

/-- With any fuel a declaration comes to its schema, below any stack that leads to it. -/
theorem synthesizeWith_canonical (fuel : Nat) : Nests config r known (synthesizeWith config fuel) := by
  induction fuel with
  | zero => exact fun stack id _ _ g _ => .throw (.inl rfl)
  | succ fuel ih => exact synthesizeOne_canonical off plain closed ih

end Run

end ApiSchema.Synthesis
