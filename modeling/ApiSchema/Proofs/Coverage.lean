import ApiSchema.Proofs.SynthesisClosure

/-! Synthesis that does not fail erases nothing. Then every reference has its definition or is to a
declaration under way that is forced to become one, also when two declarations have one name. -/

namespace ApiSchema

open Steps
open Registry (Grows)

namespace Generator

/-- The name has a definition or is certain to get one. -/
def Present (g : Generator) (name : String) : Prop :=
  g.definitions.get? name ≠ none ∨ ∃ id, g.registry.Named id name ∧ id ∈ g.inProgress ∧ id ∈ g.forced

structure Covered (g : Generator) : Prop where
  memo : ∀ id s, g.memo.lookup id = some s → ∀ name ∈ s.refs, Present g name
  definitions : ∀ key s, g.definitions.get? key = some s → ∀ name ∈ s.refs, Present g name

structure Retains (g g' : Generator) : Prop where
  grows : Grows g.registry g'.registry
  inProgress : g'.inProgress = g.inProgress
  definitions : ∀ key, g.definitions.get? key ≠ none → g'.definitions.get? key ≠ none
  forced : ∀ id ∈ g.inProgress, id ∈ g.forced → id ∈ g'.forced

namespace Retains

variable {g g' g'' : Generator}

theorem refl (g : Generator) : Retains g g := ⟨.refl _, rfl, fun _ => id, fun _ _ => id⟩

theorem trans (first : Retains g g') (second : Retains g' g'') : Retains g g'' where
  grows := first.grows.trans second.grows
  inProgress := second.inProgress.trans first.inProgress
  definitions key found := second.definitions key (first.definitions key found)
  forced id busy member := second.forced id (first.inProgress ▸ busy) (first.forced id busy member)

theorem present {name : String} (retains : Retains g g') (present : Present g name) :
    Present g' name := by
  rcases present with found | ⟨id, named, busy, forced⟩
  · exact .inl (retains.definitions name found)
  · refine .inr ⟨id, retains.grows.named named, ?_, retains.forced id busy forced⟩
    exact retains.inProgress ▸ busy

/-- The same memo and definitions are covered after as before. -/
theorem covered (retains : Retains g g') (memo : g'.memo = g.memo)
    (definitions : g'.definitions = g.definitions) (covered : Covered g) : Covered g' where
  memo id s found name member := retains.present (covered.memo id s (memo ▸ found) name member)
  definitions key s found name member :=
    retains.present (covered.definitions key s (definitions ▸ found) name member)

end Retains

theorem retains_of_grows {g : Generator} {s : Resolver} (grows : Grows g.registry s.registry) :
    Retains g { g with resolver := s } := ⟨grows, rfl, fun _ => id, fun _ _ => id⟩

theorem retains_force (id : DeclId) (g : Generator) : Retains g (g.force id) := by
  obtain ⟨forced, same⟩ := force_frame id g
  have more : ∀ other ∈ g.forced, other ∈ (g.force id).forced :=
    fun other member => mem_force.mpr (.inr member)
  rw [same] at more ⊢
  exact ⟨.refl _, rfl, fun _ => fun found => found, fun other _ member => more other member⟩

section Nested

variable {id : DeclId} {name : String} {placed : Bool} {g s t u : Generator} {x : Schema}
  {made : Option Schema} (ready : Ready id name g) (begun : Begun id name placed g s)

include begun

theorem Begun.present {other : String} (present : Present g other) : Present s other := by
  rcases present with found | ⟨owner, named, busy, forced⟩
  · refine .inl ?_
    rw [begun.definitions]
    split
    · exact Option.some_ne_none _
    · exact found
  · refine .inr ⟨owner, begun.registry ▸ named, ?_, begun.forced ▸ forced⟩
    rw [begun.inProgress]
    exact List.mem_cons_of_mem _ busy

theorem Begun.covered (covered : Covered g) : Covered s where
  memo other y found name member :=
    begun.present (covered.memo other y (begun.memo ▸ found) name member)
  definitions key y found := by
    rw [begun.definitions] at found
    split at found
    · cases found
      simp
    · exact fun name member => begun.present (covered.definitions key y found name member)

variable (nested : Retains s t) (finished : Finished id name x made t u)

include ready nested finished

theorem Finished.retains : Retains g u where
  grows := by
    rw [finished.registry, ← begun.registry]
    exact nested.grows
  inProgress := finished.inProgress.trans
    (leave_inProgress ready.idle (nested.inProgress.trans begun.inProgress))
  definitions key found := by
    have still : t.definitions.get? key ≠ none := by
      refine nested.definitions key ?_
      rw [begun.definitions]
      split
      · exact Option.some_ne_none _
      · exact found
    rw [finished.definitions]
    split
    · next own => exact own.1
    · exact still
  forced other busy member := by
    have apart : other ≠ id := by
      rintro rfl
      exact ready.idle busy
    have still : other ∈ t.forced := by
      refine nested.forced other ?_ (begun.forced ▸ member)
      rw [begun.inProgress]
      exact List.mem_cons_of_mem _ busy
    rw [finished.forced]
    exact List.mem_filter.mpr ⟨still, by simpa using apart⟩

variable (inline : made = none → id ∉ t.forced)

include inline

/-- A declaration that was referred to while under way has its definition when it is over. -/
theorem Finished.present {other : String} (present : Present t other) : Present u other := by
  rcases present with found | ⟨owner, named, busy, forced⟩
  · refine .inl ?_
    rw [finished.definitions]
    split
    · next own => exact own.1
    · exact found
  · by_cases own : owner = id
    · subst own
      have same : name = other := (nested.grows.named (begun.registry ▸ ready.named)).unique named
      refine .inl ?_
      rw [finished.definitions]
      cases made with
      | none => exact absurd forced (inline rfl)
      | some body => simp [same]
    · refine .inr ⟨owner, finished.registry ▸ named, ?_, ?_⟩
      · rw [nested.inProgress, begun.inProgress] at busy
        rw [(Finished.retains ready begun nested finished).inProgress]
        exact (List.mem_cons.mp busy).resolve_left own
      · rw [finished.forced]
        exact List.mem_filter.mpr ⟨forced, by simpa using own⟩

theorem Finished.covered (after : Covered t) (used : ∀ other ∈ x.refs, Present u other)
    (body : ∀ b, made = some b → ∀ other ∈ b.refs, Present t other) : Covered u where
  memo other y found name' member := by
    by_cases same : other = id
    · subst same
      obtain rfl : x = y := Option.some.inj (finished.own.symm.trans found)
      exact used name' member
    · rw [finished.lookup same] at found
      exact Finished.present ready begun nested finished inline (after.memo other y found name' member)
  definitions key y found name' member := by
    rw [finished.definitions] at found
    refine Finished.present ready begun nested finished inline ?_
    split at found
    · exact body y found name' member
    · exact after.definitions key y found name' member

end Nested

end Generator

namespace Synthesis

open Generator (Present Covered Retains Ready)

def covering : Contract Failure Generator where
  holds := Covered
  moves := Retains
  fails e _ _ := Fatal e
  refl := .refl
  trans first second := first.trans second
  fails_after _ failed := failed

def RefsPresent (s : Schema) (g : Generator) : Prop := ∀ name ∈ s.refs, Present g name

theorem covering_law (config : Config) :
    Law config covering RefsPresent (fun m g => MembersIn (Present g) m) where
  builds g := refs_building (Present g)
  stable _ _ _ _ retains good name member := retains.present (good name member)
  stableMembers _ _ _ _ retains fits :=
    ⟨fun entry member name inside => retains.present (fits.1 entry member name inside),
      fun s place name inside => retains.present (fits.2 s place name inside)⟩
  fatal failed := failed
  conflict _ _ _ := trivial
  resolves _ _ := resolving_of_grows fun _ _ covered grows =>
    ⟨(Generator.retains_of_grows grows).covered rfl rfl covered, Generator.retains_of_grows grows⟩
  defined covered found := covered.definitions _ _ found

theorem ref_present {id : DeclId} {name : String} {x body : Schema} {t u : Generator}
    (finished : Generator.Finished id name x (some body) t u) : RefsPresent (.ref name) u := by
  intro other member
  obtain rfl : other = name := by simpa using member
  refine .inl ?_
  rw [finished.definitions]
  simp

theorem covering_cases : EachCaseKeeps covering covering RefsPresent where
  memo covered found := covered.memo _ _ found
  naming id g covered := by
    have retains : Retains g (g.naming id) :=
      Generator.retains_of_grows (Registry.definitionName_grows g.registry id)
    exact ⟨retains.covered rfl rfl covered, retains⟩
  cycle {id name g} covered named busy := by
    have retains := Generator.retains_force id g
    obtain ⟨names, same⟩ := Generator.force_frame id g
    refine ⟨retains.covered (by rw [same]) (by rw [same]) covered, retains, ?_⟩
    intro other member
    obtain rfl : other = name := by simpa using member
    refine .inr ⟨id, retains.grows.named named, ?_, Generator.mem_force.mpr (.inl rfl)⟩
    rw [retains.inProgress]
    exact busy
  begun within := within.begun.covered within.holds
  defined within later nested result finished := by
    have used := ref_present finished
    refine ⟨?_, finished.retains within.ready within.begun nested, used⟩
    exact finished.covered within.ready within.begun nested (by simp) later used
      fun b same => Option.some.inj same ▸ result
  inlined within later nested result unforced finished := by
    have used : RefsPresent _ _ := fun other member =>
      finished.present within.ready within.begun nested (fun _ => unforced) (result other member)
    refine ⟨?_, finished.retains within.ready within.begun nested, used⟩
    exact finished.covered within.ready within.begun nested (fun _ => unforced) later used (by simp)
  undone _ failed := failed
  abandoned _ failed := failed

theorem synthesizeWith_covered (config : Config) (fuel : Nat) (id : DeclId) :
    Meets covering (synthesizeWith config fuel id) RefsPresent :=
  synthesizeWith_meets (covering_law config) covering_cases (fun _ => trivial) fuel id

end Synthesis

end ApiSchema
