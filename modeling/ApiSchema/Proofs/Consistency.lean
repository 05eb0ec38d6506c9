import ApiSchema.Proofs.Rollback
import ApiSchema.Proofs.SynthesisCases
import Mathlib.Data.List.Nodup

/-! What every reference in a generator's state stands for. While declarations are under way a
reference may be to one of them, which then is forced to become a definition. Apart from that each
reference has its definition, unless its name belongs to two declarations or to a synonym that was
forced and then given up. Synthesis keeps to this when it succeeds; when it fails, undoing keeps
to it for the declarations that are made by name, and the forced synonyms under way are given up. -/

namespace ApiSchema

open Steps
open Registry (Grows)

namespace Registry

def Shared (r : Registry) (name : String) : Prop :=
  ∃ a b, a ≠ b ∧ r.Named a name ∧ r.Named b name

theorem Grows.named {r r' : Registry} (grows : Grows r r') {id : DeclId} {name : String}
    (named : r.Named id name) : r'.Named id name := grows.names id name named

theorem Grows.shared {r r' : Registry} (grows : Grows r r') {name : String} (shared : r.Shared name) :
    r'.Shared name := by
  obtain ⟨a, b, apart, first, second⟩ := shared
  exact ⟨a, b, apart, grows.named first, grows.named second⟩

theorem Named.unique {r : Registry} {id : DeclId} {name other : String} (first : r.Named id name)
    (second : r.Named id other) : name = other := Option.some.inj (first.symm.trans second)

end Registry

namespace Generator

/-- A reference to the name is accounted for; `lost` are the declarations that were given up. -/
def Backed (lost : DeclId → Prop) (g : Generator) (name : String) : Prop :=
  g.registry.Shared name ∨ g.definitions.get? name ≠ none ∨
    ∃ id, g.registry.Named id name ∧ (lost id ∨ (id ∈ g.inProgress ∧ id ∈ g.forced))

structure Consistent (lost : DeclId → Prop) (g : Generator) : Prop where
  memo : ∀ id s, g.memo.lookup id = some s → ∀ name ∈ s.refs, Backed lost g name
  definitions : ∀ key s, g.definitions.get? key = some s → ∀ name ∈ s.refs, Backed lost g name
  /-- A definition is that of a declaration that is done or under way. -/
  owned : ∀ key, g.definitions.get? key ≠ none →
    ∃ id, g.registry.Named id key ∧ (g.memo.lookup id ≠ none ∨ id ∈ g.inProgress)
  fresh : ∀ id ∈ g.inProgress, g.memo.lookup id = none
  forced : ∀ id ∈ g.forced, id ∈ g.inProgress ∨ lost id

structure Recorded (recent : List Entry) (g g' : Generator) : Prop where
  nodup : (recent.map Prod.fst).Nodup
  fresh : ∀ entry ∈ recent, g.memo.lookup entry.1 = none
  made : ∀ entry ∈ recent, g'.memo.lookup entry.1 ≠ none
  named : ∀ entry ∈ recent, ∀ key, entry.2 = some key → g'.registry.Named entry.1 key
  memo : ∀ id s, g'.memo.lookup id = some s → g.memo.lookup id = some s ∨ id ∈ recent.map Prod.fst
  definitions : ∀ key s, g'.definitions.get? key = some s →
    g.definitions.get? key = some s ∨ some key ∈ recent.map Prod.snd

/-- What a synthesis does to the state: it adds to it, and the journal says what. -/
structure Advances (g g' : Generator) : Prop where
  grows : Grows g.registry g'.registry
  inProgress : g'.inProgress = g.inProgress
  memo : ∀ id s, g.memo.lookup id = some s → g'.memo.lookup id = some s
  definitions : ∀ key s, g.definitions.get? key = some s →
    g'.registry.Shared key ∨ g'.definitions.get? key = some s
  forced : ∀ id ∈ g.inProgress, id ∈ g.forced → id ∈ g'.forced
  journal : g.inProgress ≠ [] → ∃ recent, g'.journal = g.journal ++ recent ∧ Recorded recent g g'

variable {lost lost' : DeclId → Prop} {g g' g'' : Generator} {name : String}

theorem Backed.step (backed : Backed lost g name) (grows : Grows g.registry g'.registry)
    (defined : g.definitions.get? name ≠ none → g'.registry.Shared name ∨ g'.definitions.get? name ≠ none)
    (owned : ∀ id, g.registry.Named id name → lost id ∨ (id ∈ g.inProgress ∧ id ∈ g.forced) →
      Backed lost' g' name) : Backed lost' g' name := by
  rcases backed with shared | found | ⟨id, named, owner⟩
  · exact .inl (grows.shared shared)
  · rcases defined found with shared | found
    · exact .inl shared
    · exact .inr (.inl found)
  · exact owned id named owner

theorem Backed.mono (backed : Backed lost g name) (more : ∀ id, lost id → lost' id) :
    Backed lost' g name := by
  refine backed.step (.refl _) .inr fun id named owner => ?_
  exact .inr (.inr ⟨id, named, owner.imp_left (more id)⟩)

theorem Consistent.mono (consistent : Consistent lost g) (more : ∀ id, lost id → lost' id) :
    Consistent lost' g where
  memo id s found name member := (consistent.memo id s found name member).mono more
  definitions key s found name member := (consistent.definitions key s found name member).mono more
  owned := consistent.owned
  fresh := consistent.fresh
  forced id member := (consistent.forced id member).imp_right (more id)

/-- A definition of another declaration with the same name. -/
theorem Consistent.shared {id : DeclId} (consistent : Consistent lost g)
    (named : g.registry.Named id name) (fresh : g.memo.lookup id = none) (idle : id ∉ g.inProgress)
    (found : g.definitions.get? name ≠ none) : g.registry.Shared name := by
  obtain ⟨owner, own, done⟩ := consistent.owned name found
  refine ⟨id, owner, ?_, named, own⟩
  rintro rfl
  rcases done with memo | busy
  · exact memo fresh
  · exact idle busy

theorem Recorded.refl (g : Generator) : Recorded [] g g := by
  constructor <;> simp

theorem Recorded.append {first second : List Entry} (left : Recorded first g g')
    (right : Recorded second g' g'') (grows : Grows g'.registry g''.registry)
    (memo : ∀ id s, g.memo.lookup id = some s → g'.memo.lookup id = some s)
    (memo' : ∀ id s, g'.memo.lookup id = some s → g''.memo.lookup id = some s) :
    Recorded (first ++ second) g g'' where
  nodup := by
    rw [List.map_append, List.nodup_append]
    refine ⟨left.nodup, right.nodup, ?_⟩
    intro a early b late same
    subst same
    obtain ⟨entry, member, rfl⟩ := List.mem_map.mp early
    obtain ⟨other, member', same⟩ := List.mem_map.mp late
    exact left.made entry member (same ▸ right.fresh other member')
  fresh entry member := by
    rcases List.mem_append.mp member with early | late
    · exact left.fresh entry early
    · cases found : g.memo.lookup entry.1 with
      | none => rfl
      | some s =>
        have still := memo _ _ found
        rw [right.fresh entry late] at still
        cases still
  made entry member := by
    rcases List.mem_append.mp member with early | late
    · obtain ⟨s, found⟩ := Option.ne_none_iff_exists'.mp (left.made entry early)
      rw [memo' _ _ found]
      exact Option.some_ne_none s
    · exact right.made entry late
  named entry member key place := by
    rcases List.mem_append.mp member with early | late
    · exact grows.named (left.named entry early key place)
    · exact right.named entry late key place
  memo id s found := by
    rw [List.map_append, List.mem_append]
    rcases right.memo id s found with earlier | late
    · exact (left.memo id s earlier).imp_right .inl
    · exact .inr (.inr late)
  definitions key s found := by
    rw [List.map_append, List.mem_append]
    rcases right.definitions key s found with earlier | late
    · exact (left.definitions key s earlier).imp_right .inl
    · exact .inr (.inr late)

namespace Advances

theorem refl (g : Generator) : Advances g g where
  grows := .refl _
  inProgress := rfl
  memo _ _ found := found
  definitions _ _ found := .inr found
  forced _ _ member := member
  journal _ := ⟨[], by simp, .refl g⟩

theorem trans (first : Advances g g') (second : Advances g' g'') : Advances g g'' where
  grows := first.grows.trans second.grows
  inProgress := second.inProgress.trans first.inProgress
  memo id s found := second.memo id s (first.memo id s found)
  definitions key s found := by
    rcases first.definitions key s found with shared | found
    · exact .inl (second.grows.shared shared)
    · exact second.definitions key s found
  forced id busy member := second.forced id (first.inProgress ▸ busy) (first.forced id busy member)
  journal nested := by
    obtain ⟨early, journal, recorded⟩ := first.journal nested
    obtain ⟨late, journal', recorded'⟩ := second.journal (first.inProgress ▸ nested)
    refine ⟨early ++ late, ?_, recorded.append recorded' second.grows first.memo second.memo⟩
    rw [journal', journal, List.append_assoc]

/-- What was accounted for stays so. -/
theorem backed (advances : Advances g g') (backed : Backed lost g name) : Backed lost g' name := by
  refine backed.step advances.grows ?_ ?_
  · intro found
    obtain ⟨s, found⟩ := Option.ne_none_iff_exists'.mp found
    refine (advances.definitions name s found).imp_right fun same => ?_
    rw [same]
    exact Option.some_ne_none s
  · rintro id named (given | ⟨busy, forced⟩)
    · exact .inr (.inr ⟨id, advances.grows.named named, .inl given⟩)
    · refine .inr (.inr ⟨id, advances.grows.named named, .inr ⟨?_, advances.forced id busy forced⟩⟩)
      exact advances.inProgress ▸ busy

end Advances

theorem advances_of_grows {s : Resolver} (grows : Grows g.registry s.registry) :
    Advances g { g with resolver := s } :=
  { Advances.refl g with
    grows
    definitions := fun _ _ found => .inr found
    journal := fun _ => ⟨[], by simp, by constructor <;> simp⟩ }

/-- More names change nothing. -/
theorem Consistent.grows {s : Resolver} (consistent : Consistent lost g)
    (grows : Grows g.registry s.registry) : Consistent lost { g with resolver := s } where
  memo id s found name member := (advances_of_grows grows).backed (consistent.memo id s found name member)
  definitions key s found name member :=
    (advances_of_grows grows).backed (consistent.definitions key s found name member)
  owned key found := by
    obtain ⟨id, named, done⟩ := consistent.owned key found
    exact ⟨id, grows.named named, done⟩
  fresh := consistent.fresh
  forced := consistent.forced

theorem advances_force (id : DeclId) (g : Generator) : Advances g (g.force id) := by
  obtain ⟨forced, same⟩ := force_frame id g
  have more : ∀ other ∈ g.forced, other ∈ (g.force id).forced :=
    fun other member => mem_force.mpr (.inr member)
  rw [same] at more ⊢
  exact {
    grows := .refl _
    inProgress := rfl
    memo := fun _ _ found => found
    definitions := fun _ _ found => .inr found
    forced := fun id _ member => more id member
    journal := fun _ => ⟨[], by simp, by constructor <;> simp⟩ }

/-- A declaration that is under way may be referred to from now on. -/
theorem Consistent.force {id : DeclId} (consistent : Consistent lost g) (busy : id ∈ g.inProgress) :
    Consistent lost (g.force id) := by
  have advances := advances_force id g
  have forced : ∀ other ∈ (g.force id).forced, other ∈ g.inProgress ∨ lost other := by
    intro other member
    rcases mem_force.mp member with rfl | member
    · exact .inl busy
    · exact consistent.forced other member
  obtain ⟨names, same⟩ := force_frame id g
  rw [same] at advances forced ⊢
  exact {
    memo := fun id s found name member => advances.backed (consistent.memo id s found name member)
    definitions := fun key s found name member =>
      advances.backed (consistent.definitions key s found name member)
    owned := consistent.owned
    fresh := consistent.fresh
    forced }

variable {id : DeclId} {placed : Bool} {s t u : Generator}

theorem Consistent.begun (consistent : Consistent lost g) (ready : Ready id name g)
    (begun : Begun id name placed g s) : Consistent lost s := by
  have backed {other : String} (old : Backed lost g other) : Backed lost s other := by
    refine old.step (begun.registry ▸ .refl _) ?_ ?_
    · intro found
      rw [begun.definitions]
      split
      · exact .inr (Option.some_ne_none _)
      · exact .inr found
    · rintro owner named (given | ⟨busy, forced⟩)
      · exact .inr (.inr ⟨owner, begun.registry ▸ named, .inl given⟩)
      · refine .inr (.inr ⟨owner, begun.registry ▸ named, .inr ⟨?_, begun.forced ▸ forced⟩⟩)
        rw [begun.inProgress]
        exact List.mem_cons_of_mem _ busy
  constructor
  · intro other x found
    rw [begun.memo] at found
    exact fun name member => backed (consistent.memo other x found name member)
  · intro key x found
    rw [begun.definitions] at found
    split at found
    · cases found
      simp
    · exact fun name member => backed (consistent.definitions key x found name member)
  · intro key found
    rw [begun.definitions] at found
    rw [begun.registry, begun.memo, begun.inProgress]
    split at found
    · next same =>
      obtain ⟨_, rfl⟩ := same
      exact ⟨id, ready.named, .inr List.mem_cons_self⟩
    · obtain ⟨owner, named, done⟩ := consistent.owned key found
      exact ⟨owner, named, done.imp_right (List.mem_cons_of_mem _)⟩
  · intro other member
    rw [begun.inProgress] at member
    rw [begun.memo]
    rcases List.mem_cons.mp member with rfl | member
    · exact ready.fresh
    · exact consistent.fresh other member
  · intro other member
    rw [begun.forced] at member
    rw [begun.inProgress]
    exact (consistent.forced other member).imp_left (List.mem_cons_of_mem _)

/-- What happened between the state before a declaration was begun and the end of what is nested
in it; `placed` excepts its own name. -/
structure Inner (id : DeclId) (name : String) (placed : Bool) (recent : List Entry) (g t : Generator) :
    Prop where
  grows : Grows g.registry t.registry
  inProgress : t.inProgress = id :: g.inProgress
  memo : ∀ other x, g.memo.lookup other = some x → t.memo.lookup other = some x
  definitions : ∀ key x, ¬(placed = true ∧ name = key) → g.definitions.get? key = some x →
    t.registry.Shared key ∨ t.definitions.get? key = some x
  forced : ∀ other ∈ g.inProgress, other ∈ g.forced → other ∈ t.forced
  journal : t.journal = g.journal ++ recent
  nodup : (recent.map Prod.fst).Nodup
  fresh : ∀ entry ∈ recent, g.memo.lookup entry.1 = none
  made : ∀ entry ∈ recent, t.memo.lookup entry.1 ≠ none
  named : ∀ entry ∈ recent, ∀ key, entry.2 = some key → t.registry.Named entry.1 key
  recentMemo : ∀ other x, t.memo.lookup other = some x →
    g.memo.lookup other = some x ∨ other ∈ recent.map Prod.fst
  recentDefinitions : ∀ key x, ¬(placed = true ∧ name = key) → t.definitions.get? key = some x →
    g.definitions.get? key = some x ∨ some key ∈ recent.map Prod.snd

theorem Begun.inner (begun : Begun id name placed g s) (advances : Advances s t) :
    ∃ recent, Inner id name placed recent g t := by
  obtain ⟨recent, journal, recorded⟩ := advances.journal (by simp [begun.inProgress])
  refine ⟨recent, ?_⟩
  have definitions {key : String} (apart : ¬(placed = true ∧ name = key)) :
      s.definitions.get? key = g.definitions.get? key := (begun.definitions key).trans (if_neg apart)
  constructor
  · exact begun.registry ▸ advances.grows
  · exact advances.inProgress.trans begun.inProgress
  · exact begun.memo ▸ advances.memo
  · intro key x apart found
    exact advances.definitions key x ((definitions apart).trans found)
  · intro other busy member
    refine advances.forced other ?_ (begun.forced ▸ member)
    rw [begun.inProgress]
    exact List.mem_cons_of_mem _ busy
  · exact begun.journal ▸ journal
  · exact recorded.nodup
  · exact begun.memo ▸ recorded.fresh
  · exact recorded.made
  · exact recorded.named
  · exact begun.memo ▸ recorded.memo
  · intro key x apart found
    rw [← definitions apart]
    exact recorded.definitions key x found

section Finish

variable {x : Schema} {made : Option Schema} {recent : List Entry}
  (ready : Ready id name g) (inner : Inner id name placed recent g t) (after : Consistent lost t)
  (finished : Finished id name x made t u)
  (inline : made = none → placed = false ∧ id ∉ t.forced)

include ready inner finished

theorem Finished.stack : u.inProgress = g.inProgress :=
  finished.inProgress.trans (leave_inProgress ready.idle inner.inProgress)

include inline

/-- The declaration itself may have been referred to. Then it was forced and has become a
definition, so such references are still accounted for when it is off the stack. -/
theorem Finished.backed {other : String} (backed : Backed lost t other) : Backed lost u other := by
  refine backed.step (finished.registry ▸ .refl _) ?_ ?_
  · intro found
    refine .inr ?_
    rw [finished.definitions]
    split
    · next here => exact here.1
    · exact found
  · rintro owner named (given | ⟨busy, forced⟩)
    · exact .inr (.inr ⟨owner, finished.registry ▸ named, .inl given⟩)
    · by_cases own : owner = id
      · subst own
        have same : name = other := (inner.grows.named ready.named).unique named
        refine .inr (.inl ?_)
        rw [finished.definitions]
        cases made with
        | none => exact absurd forced (inline rfl).2
        | some body => simp [same]
      · refine .inr (.inr ⟨owner, finished.registry ▸ named, .inr ⟨?_, ?_⟩⟩)
        · rw [inner.inProgress] at busy
          rw [Finished.stack ready inner finished]
          exact (List.mem_cons.mp busy).resolve_left own
        · rw [finished.forced]
          exact List.mem_filter.mpr ⟨forced, by simpa using own⟩

include after

theorem Finished.consistent (used : ∀ other ∈ x.refs, Backed lost u other)
    (body : ∀ b, made = some b → ∀ other ∈ b.refs, Backed lost t other) : Consistent lost u := by
  have stack := Finished.stack ready inner finished
  have backed {other : String} (old : Backed lost t other) : Backed lost u other :=
    Finished.backed ready inner finished inline old
  constructor
  · intro other y found
    by_cases same : other = id
    · subst same
      rw [finished.own] at found
      cases found
      exact used
    · rw [finished.lookup same] at found
      exact fun name member => backed (after.memo other y found name member)
  · intro key y found
    rw [finished.definitions] at found
    split at found
    · exact fun name member => backed (body y found name member)
    · exact fun name member => backed (after.definitions key y found name member)
  · intro key found
    rw [finished.definitions] at found
    rw [finished.registry, stack]
    split at found
    · next here =>
      refine ⟨id, here.2 ▸ inner.grows.named ready.named, .inl ?_⟩
      rw [finished.own]
      exact Option.some_ne_none x
    · obtain ⟨owner, named, done⟩ := after.owned key found
      refine ⟨owner, named, ?_⟩
      by_cases same : owner = id
      · subst same
        rw [finished.own]
        exact .inl (Option.some_ne_none x)
      · rw [finished.lookup same]
        rw [inner.inProgress] at done
        exact done.imp_right fun busy => (List.mem_cons.mp busy).resolve_left same
  · intro other busy
    rw [stack] at busy
    have apart : other ≠ id := by
      rintro rfl
      exact ready.idle busy
    rw [finished.lookup apart]
    refine after.fresh other ?_
    rw [inner.inProgress]
    exact List.mem_cons_of_mem _ busy
  · intro other member
    rw [finished.forced] at member
    obtain ⟨member, apart⟩ := List.mem_filter.mp member
    rw [stack]
    have apart : other ≠ id := by simpa using apart
    have busy := after.forced other member
    rw [inner.inProgress] at busy
    exact busy.imp_left fun busy => (List.mem_cons.mp busy).resolve_left apart

theorem Finished.recorded : Recorded (recent ++ [(id, made.map fun _ => name)]) g u := by
  have outside : t.memo.lookup id = none := after.fresh id (by simp [inner.inProgress])
  have apart : ∀ entry ∈ recent, entry.1 ≠ id := by
    rintro entry member rfl
    exact inner.made entry member outside
  constructor
  · rw [List.map_append, List.nodup_append]
    refine ⟨inner.nodup, by simp, ?_⟩
    intro a early b late same
    obtain ⟨entry, member, rfl⟩ := List.mem_map.mp early
    exact apart entry member (same.trans (by simpa using late))
  · intro entry member
    rcases List.mem_append.mp member with early | last
    · exact inner.fresh entry early
    · rw [List.mem_singleton.mp last]
      exact ready.fresh
  · intro entry member
    rcases List.mem_append.mp member with early | last
    · rw [finished.lookup (apart entry early)]
      exact inner.made entry early
    · rw [List.mem_singleton.mp last, finished.own]
      exact Option.some_ne_none x
  · intro entry member key place
    rw [finished.registry]
    rcases List.mem_append.mp member with early | last
    · exact inner.named entry early key place
    · rw [List.mem_singleton.mp last] at place ⊢
      obtain ⟨_, _, rfl⟩ := Option.map_eq_some_iff.mp place
      exact inner.grows.named ready.named
  · intro other y found
    rw [List.map_append, List.mem_append]
    by_cases same : other = id
    · exact .inr (.inr (by simp [same]))
    · rw [finished.lookup same] at found
      exact (inner.recentMemo other y found).imp_right .inl
  · intro key y found
    rw [List.map_append, List.mem_append]
    rw [finished.definitions] at found
    split at found
    · next here =>
      obtain ⟨_, rfl⟩ := here
      exact .inr (.inr (by simp [found]))
    · next elsewhere =>
      have unplaced : ¬(placed = true ∧ name = key) := by
        rintro ⟨isPlaced, same⟩
        refine elsewhere ⟨fun absent => ?_, same⟩
        rw [(inline absent).1] at isPlaced
        cases isPlaced
      exact (inner.recentDefinitions key y unplaced found).imp_right .inl

theorem Finished.advances (before : Consistent lost g) : Advances g u := by
  have stack := Finished.stack ready inner finished
  constructor
  · exact finished.registry ▸ inner.grows
  · exact stack
  · intro other y found
    have apart : other ≠ id := by
      rintro rfl
      rw [ready.fresh] at found
      cases found
    rw [finished.lookup apart]
    exact inner.memo other y found
  · intro key y found
    rw [finished.registry]
    by_cases same : name = key
    · subst same
      have shared := before.shared ready.named ready.fresh ready.idle (by simp [found])
      exact .inl (inner.grows.shared shared)
    · rw [finished.definitions, if_neg fun here => same here.2]
      exact inner.definitions key y (fun here => same here.2) found
  · intro other busy member
    rw [finished.forced]
    have apart : other ≠ id := by
      rintro rfl
      exact ready.idle busy
    exact List.mem_filter.mpr ⟨inner.forced other busy member, by simpa using apart⟩
  · intro nested
    refine ⟨recent ++ [(id, made.map fun _ => name)], ?_, ?_⟩
    · rw [finished.journal (stack ▸ nested), inner.journal, List.append_assoc]
    · exact Finished.recorded ready inner after finished inline

end Finish

def givenUp (lost : DeclId → Prop) (g : Generator) (id : DeclId) : Prop := lost id ∨ id ∈ g.forced

section Abandon

variable {recent : List Entry} (ready : Ready id name g) (inner : Inner id name false recent g t)
  (before : Consistent lost g) (after : Consistent (givenUp lost t) t)

include ready inner

theorem abandon_advances : Advances g (t.leave id) where
  grows := inner.grows
  inProgress := leave_inProgress ready.idle inner.inProgress
  memo := inner.memo
  definitions key y := inner.definitions key y (by simp)
  forced := inner.forced
  journal _ := by
    refine ⟨recent, inner.journal, inner.nodup, inner.fresh, inner.made, inner.named, inner.recentMemo, ?_⟩
    exact fun key y => inner.recentDefinitions key y (by simp)

include before after

/-- A synonym that fails is not undone. References to it stay, and it stays forced. -/
theorem abandon_consistent : Consistent (givenUp lost (t.leave id)) (t.leave id) := by
  have stack : (t.leave id).inProgress = g.inProgress := leave_inProgress ready.idle inner.inProgress
  have backed {other : String} (old : Backed (givenUp lost t) t other) :
      Backed (givenUp lost (t.leave id)) (t.leave id) other := by
    refine old.step (.refl _) .inr ?_
    rintro owner named (given | ⟨_, forced⟩)
    · exact .inr (.inr ⟨owner, named, .inl given⟩)
    · exact .inr (.inr ⟨owner, named, .inl (.inr forced)⟩)
  constructor
  · exact fun other y found name member => backed (after.memo other y found name member)
  · exact fun key y found name member => backed (after.definitions key y found name member)
  · intro key found
    obtain ⟨y, found⟩ := Option.ne_none_iff_exists'.mp found
    rw [stack]
    rcases inner.recentDefinitions key y (by simp) found with old | recent
    · obtain ⟨owner, named, done⟩ := before.owned key (by simp [old])
      refine ⟨owner, inner.grows.named named, done.imp_left fun done => ?_⟩
      obtain ⟨z, done⟩ := Option.ne_none_iff_exists'.mp done
      exact (inner.memo owner z done) ▸ Option.some_ne_none z
    · obtain ⟨entry, member, place⟩ := List.mem_map.mp recent
      exact ⟨entry.1, inner.named entry member key place, .inl (inner.made entry member)⟩
  · intro other busy
    rw [stack] at busy
    refine after.fresh other ?_
    rw [inner.inProgress]
    exact List.mem_cons_of_mem _ busy
  · exact fun other member => .inr (.inr member)

end Abandon

section Undo

/-- A declaration made by name has failed: its placeholder and what refers to it are gone. -/
structure Failed (id : DeclId) (name : String) (recent kept gone : List Entry) (g t u : Generator) :
    Prop where
  registry : u.registry = t.registry
  inProgress : u.inProgress = (t.leave id).inProgress
  forced : u.forced = t.forced.filter (· ≠ id)
  journal : u.journal = g.journal ++ kept
  rolled : RolledBack [name] recent kept gone (t.undefine name) u

theorem failed_rollback {recent : List Entry} (journal : t.journal = g.journal ++ recent) :
    ∃ kept gone, Failed id name recent kept gone g t
      ((((t.leave id).unforce id).undefine name).rollback g.journal.length name) := by
  obtain ⟨kept, gone, left, rolled⟩ := rollback_rolledBack g.journal.length name
    (((t.leave id).unforce id).undefine name)
  obtain ⟨memo, definitions, rest, frame⟩ := rollback_frame g.journal.length name
    (((t.leave id).unforce id).undefine name)
  have same : (((t.leave id).unforce id).undefine name).journal = g.journal ++ recent := journal
  rw [same, List.take_left] at left
  rw [same, List.drop_left] at rolled
  rw [frame] at left rolled ⊢
  refine ⟨kept, gone, rfl, rfl, rfl, left, rolled.sublist, rolled.parted, ?_, rolled.clean⟩
  exact ⟨rolled.undone.memo, rolled.undone.definitions⟩

variable {recent kept gone : List Entry} (ready : Ready id name g)
  (inner : Inner id name true recent g t) (before : Consistent lost g)
  (after : Consistent (givenUp lost t) t) (failed : Failed id name recent kept gone g t u)

include inner failed

/-- Entries of the journal with one id are one entry, so none is both kept and gone. -/
theorem Failed.kept_memo {entry : Entry} (member : entry ∈ kept) :
    u.memo.lookup entry.1 = t.memo.lookup entry.1 := by
  rw [failed.rolled.undone.memo]
  refine if_neg fun gone => ?_
  obtain ⟨other, lost, same⟩ := List.mem_map.mp gone
  obtain ⟨here, absent⟩ := (failed.rolled.parted other).mp lost
  have one : other = entry :=
    List.inj_on_of_nodup_map inner.nodup here (failed.rolled.sublist.subset member) same
  exact absent (one ▸ member)

theorem Failed.old_memo {other : DeclId} {y : Schema} (found : g.memo.lookup other = some y) :
    u.memo.lookup other = some y := by
  rw [failed.rolled.undone.memo]
  have spared : other ∉ gone.map Prod.fst := by
    intro gone
    obtain ⟨entry, lost, rfl⟩ := List.mem_map.mp gone
    have fresh := inner.fresh entry ((failed.rolled.parted entry).mp lost).1
    rw [fresh] at found
    cases found
  rw [if_neg spared]
  exact inner.memo other y found

theorem Failed.entry_of_memo {other : DeclId} {y : Schema} (found : u.memo.lookup other = some y) :
    t.memo.lookup other = some y ∧
      (g.memo.lookup other = some y ∨ ∃ entry ∈ kept, entry.1 = other) := by
  rw [failed.rolled.undone.memo] at found
  split at found
  · cases found
  · next spared =>
    refine ⟨found, (inner.recentMemo other y found).imp_right fun recent => ?_⟩
    obtain ⟨entry, member, rfl⟩ := List.mem_map.mp recent
    refine ⟨entry, ?_, rfl⟩
    by_contra absent
    exact spared (List.mem_map.mpr ⟨entry, (failed.rolled.parted entry).mpr ⟨member, absent⟩, rfl⟩)

omit inner in
theorem Failed.definition_iff {key : String} {y : Schema} : u.definitions.get? key = some y ↔
    name ≠ key ∧ some key ∉ gone.map Prod.snd ∧ t.definitions.get? key = some y := by
  rw [failed.rolled.undone.definitions]
  simp only [undefine, Table.get?_erase]
  by_cases lost : some key ∈ gone.map Prod.snd <;> by_cases own : name = key <;> simp [lost, own]

theorem Failed.entry_of_definition {key : String} {y : Schema} (found : u.definitions.get? key = some y) :
    g.definitions.get? key = some y ∨ ∃ entry ∈ kept, entry.2 = some key := by
  obtain ⟨own, spared, found⟩ := failed.definition_iff.mp found
  refine (inner.recentDefinitions key y (fun here => own here.2) found).imp_right fun recent => ?_
  obtain ⟨entry, member, place⟩ := List.mem_map.mp recent
  refine ⟨entry, ?_, place⟩
  by_contra absent
  exact spared (List.mem_map.mpr ⟨entry, (failed.rolled.parted entry).mpr ⟨member, absent⟩, place⟩)

include ready

theorem Failed.stack : u.inProgress = g.inProgress :=
  failed.inProgress.trans (leave_inProgress ready.idle inner.inProgress)

/-- No entry that is kept refers to what is gone. -/
theorem Failed.kept_backed {entry : Entry} {other : String} (member : entry ∈ kept)
    (refers : u.Refers entry other) (old : Backed (givenUp lost t) t other) :
    Backed (givenUp lost u) u other := by
  have apart : name ≠ other := fun same =>
    failed.rolled.clean entry member other (.inl (by simp [same])) refers
  have spared : some other ∉ gone.map Prod.snd := fun lost =>
    failed.rolled.clean entry member other (.inr lost) refers
  refine old.step (failed.registry ▸ .refl _) ?_ ?_
  · intro found
    obtain ⟨y, found⟩ := Option.ne_none_iff_exists'.mp found
    refine .inr ?_
    rw [failed.definition_iff.mpr ⟨apart, spared, found⟩]
    exact Option.some_ne_none y
  · intro owner named given
    have forced : lost owner ∨ owner ∈ t.forced := by
      rcases given with given | ⟨_, forced⟩
      · exact given
      · exact .inr forced
    refine .inr (.inr ⟨owner, failed.registry ▸ named, .inl (forced.imp_right fun forced => ?_)⟩)
    rw [failed.forced]
    have other : owner ≠ id := by
      rintro rfl
      exact apart ((inner.grows.named ready.named).unique named)
    exact List.mem_filter.mpr ⟨forced, by simpa using other⟩

include before after

/-- What is gone was made since; if it took the name of an older definition, two declarations
share that name. -/
theorem Failed.old_definition {key : String} {y : Schema} (found : g.definitions.get? key = some y) :
    u.registry.Shared key ∨ u.definitions.get? key = some y := by
  rw [failed.registry]
  by_cases own : name = key
  · subst own
    have shared := before.shared ready.named ready.fresh ready.idle (by simp [found])
    exact .inl (inner.grows.shared shared)
  by_cases lost : some key ∈ gone.map Prod.snd
  · obtain ⟨entry, member, place⟩ := List.mem_map.mp lost
    have recent := ((failed.rolled.parted entry).mp member).1
    obtain ⟨owner, named, done⟩ := before.owned key (by simp [found])
    refine .inl ⟨entry.1, owner, ?_, inner.named entry recent key place, inner.grows.named named⟩
    rintro rfl
    rcases done with memo | busy
    · exact memo (inner.fresh entry recent)
    · refine inner.made entry recent (after.fresh _ ?_)
      rw [inner.inProgress]
      exact List.mem_cons_of_mem _ busy
  · rcases inner.definitions key y (fun here => own here.2) found with shared | found
    · exact .inl shared
    · exact .inr (failed.definition_iff.mpr ⟨own, lost, found⟩)

theorem Failed.advances : Advances g u where
  grows := failed.registry ▸ inner.grows
  inProgress := Failed.stack ready inner failed
  memo other y found := Failed.old_memo inner failed found
  definitions key y found := Failed.old_definition ready inner before after failed found
  forced other busy member := by
    have apart : other ≠ id := by
      rintro rfl
      exact ready.idle busy
    rw [failed.forced]
    exact List.mem_filter.mpr ⟨inner.forced other busy member, by simpa using apart⟩
  journal _ := by
    have inside := failed.rolled.sublist.subset
    refine ⟨kept, failed.journal, ?_, ?_, ?_, ?_, ?_, ?_⟩
    · exact (failed.rolled.sublist.map Prod.fst).nodup inner.nodup
    · exact fun entry member => inner.fresh entry (inside member)
    · intro entry member
      rw [Failed.kept_memo inner failed member]
      exact inner.made entry (inside member)
    · intro entry member key place
      rw [failed.registry]
      exact inner.named entry (inside member) key place
    · intro other y found
      refine (Failed.entry_of_memo inner failed found).2.imp_right fun recent => ?_
      obtain ⟨entry, member, same⟩ := recent
      exact List.mem_map.mpr ⟨entry, member, same⟩
    · intro key y found
      refine (Failed.entry_of_definition inner failed found).imp_right fun recent => ?_
      obtain ⟨entry, member, place⟩ := recent
      exact List.mem_map.mpr ⟨entry, member, place⟩

/-- Undoing leaves a state in which every reference is accounted for. -/
theorem Failed.consistent : Consistent (givenUp lost u) u := by
  have advances := Failed.advances ready inner before after failed
  have old {other : String} (backed : Backed lost g other) : Backed (givenUp lost u) u other :=
    (advances.backed backed).mono fun _ => .inl
  constructor
  · intro other y found name' member
    obtain ⟨earlier, old' | ⟨entry, kept, rfl⟩⟩ := Failed.entry_of_memo inner failed found
    · exact old (before.memo other y old' name' member)
    · refine Failed.kept_backed ready inner failed kept (.inl ⟨y, found, member⟩) ?_
      exact after.memo _ y earlier name' member
  · intro key y found name' member
    rcases Failed.entry_of_definition inner failed found with old' | ⟨entry, kept, place⟩
    · exact old (before.definitions key y old' name' member)
    · refine Failed.kept_backed ready inner failed kept (.inr ⟨key, y, place, found, member⟩) ?_
      exact after.definitions key y (failed.definition_iff.mp found).2.2 name' member
  · intro key found
    obtain ⟨y, found⟩ := Option.ne_none_iff_exists'.mp found
    rw [Failed.stack ready inner failed]
    rcases Failed.entry_of_definition inner failed found with old' | ⟨entry, kept, place⟩
    · obtain ⟨owner, named, done⟩ := before.owned key (by simp [old'])
      refine ⟨owner, advances.grows.named named, done.imp_left fun done => ?_⟩
      obtain ⟨z, done⟩ := Option.ne_none_iff_exists'.mp done
      exact (advances.memo owner z done) ▸ Option.some_ne_none z
    · have recent := failed.rolled.sublist.subset kept
      refine ⟨entry.1, ?_, .inl ?_⟩
      · rw [failed.registry]
        exact inner.named entry recent key place
      · rw [Failed.kept_memo inner failed kept]
        exact inner.made entry recent
  · intro other busy
    rw [Failed.stack ready inner failed] at busy
    rw [failed.rolled.undone.memo]
    split
    · rfl
    · refine after.fresh other ?_
      rw [inner.inProgress]
      exact List.mem_cons_of_mem _ busy
  · exact fun other member => .inr (.inr member)

end Undo

end Generator

end ApiSchema
