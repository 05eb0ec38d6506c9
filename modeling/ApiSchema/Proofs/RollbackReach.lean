import ApiSchema.Proofs.Closure
import Mathlib.Data.List.Nodup
import Mathlib.Data.List.Pairwise
import Mathlib.Data.List.Perm.Subperm

/-! How far undoing reaches. The entries that are taken back are those made since the mark from which
references lead to the failed definition through entries made since the mark, and no others: each pass takes
entries that refer to a name which such an entry gave up, and the loop ends only when none is left. Earlier
entries are not looked at, so a reference that leads over one of them does not count. In a synthesis the mark
is never past the end of the journal, because inside a declaration the journal is only ever extended or cut
back to a later mark. -/

namespace ApiSchema

open Steps

namespace Generator

/-- Of the recent entries, those that refer to the failed definition, or to the definition of an entry
that is one of them. -/
inductive Tainted (g : Generator) (recent : List Entry) (failed : String) : Entry → Prop where
  | direct {entry : Entry} (member : entry ∈ recent) (refers : g.Refers entry failed) :
      Tainted g recent failed entry
  | through {entry other : Entry} {name : String} (tainted : Tainted g recent failed other)
      (named : other.2 = some name) (member : entry ∈ recent) (refers : g.Refers entry name) :
      Tainted g recent failed entry

/-- The loop of undoing without a bound on its passes: from the dropped names, the entries that are left
and the state to the entries and the state at its end. -/
inductive UndoLoop : List String → List Entry → Generator → List Entry × Generator → Prop where
  | done {dropped : List String} {kept : List Entry} {g : Generator}
      (clean : kept.filter (g.refersTo dropped) = []) : UndoLoop dropped kept g (kept, g)
  | again {dropped : List String} {kept : List Entry} {g : Generator} {ended : List Entry × Generator}
      (tainted : kept.filter (g.refersTo dropped) ≠ [])
      (rest : UndoLoop ((kept.filter (g.refersTo dropped)).filterMap Prod.snd ++ dropped)
        (kept.filter fun entry => !g.refersTo dropped entry)
        ((kept.filter (g.refersTo dropped)).foldl forget g) ended) : UndoLoop dropped kept g ended

variable {g g' : Generator} {recent kept gone : List Entry} {failed name : String} {entry : Entry}

theorem Tainted.member (tainted : Tainted g recent failed entry) : entry ∈ recent := by
  cases tainted with
  | direct member => exact member
  | through _ _ member => exact member

/-- What has been undone adds no references. -/
theorem Undone.refers (undone : Undone gone g g') (refers : g'.Refers entry name) : g.Refers entry name := by
  rcases refers with ⟨s, found, inside⟩ | ⟨key, s, made, found, inside⟩
  · rw [undone.memo] at found
    exact .inl ⟨s, (Option.ite_none_left_eq_some.mp found).2, inside⟩
  · rw [undone.definitions] at found
    exact .inr ⟨key, s, made, (Option.ite_none_left_eq_some.mp found).2, inside⟩

/-- An entry that shares neither declaration nor name with what was undone refers to what it did. -/
theorem Undone.refers_of_apart (undone : Undone gone g g') (refers : g.Refers entry name)
    (id : entry.1 ∉ gone.map Prod.fst) (definition : ∀ key, entry.2 = some key → some key ∉ gone.map Prod.snd) :
    g'.Refers entry name := by
  rcases refers with ⟨s, found, inside⟩ | ⟨key, s, made, found, inside⟩
  · exact .inl ⟨s, by rw [undone.memo, if_neg id, found], inside⟩
  · exact .inr ⟨key, s, made, by rw [undone.definitions, if_neg (definition key made), found], inside⟩

/-- With a pass for each entry and one more, the loop comes to its end. -/
theorem settle_loop {fuel : Nat} {dropped : List String} (enough : kept.length < fuel) :
    UndoLoop dropped kept g (settle fuel dropped kept g) := by
  induction fuel generalizing dropped kept g with
  | zero => omega
  | succ fuel ih =>
    simp only [settle]
    split
    · next none => exact .done (List.isEmpty_iff.mp none)
    · next some =>
      have fewer : (kept.filter fun entry => !g.refersTo dropped entry).length < kept.length := by
        refine List.length_filter_lt_length_iff_exists.mpr ?_
        simpa using some
      exact .again (fun none => some (List.isEmpty_iff.mpr none))
        (ih (Nat.lt_of_lt_of_le fewer (Nat.le_of_lt_succ enough)))

/-- Every pass takes only tainted entries, as long as the names dropped so far are the failed one and
those of tainted entries. -/
theorem UndoLoop.taken {g₀ : Generator} {dropped : List String} {ended : List Entry × Generator}
    (loop : UndoLoop dropped kept g ended) (recent : List Entry) (inside : kept ⊆ recent)
    (less : ∀ entry name, g.Refers entry name → g₀.Refers entry name)
    (names : ∀ name ∈ dropped, name = failed ∨ ∃ other, Tainted g₀ recent failed other ∧ other.2 = some name) :
    ∀ entry ∈ kept, entry ∉ ended.1 → Tainted g₀ recent failed entry := by
  induction loop with
  | done => exact fun entry member out => absurd member out
  | @again dropped kept g ended _ rest ih =>
    have taken : ∀ entry ∈ kept, g.refersTo dropped entry = true → Tainted g₀ recent failed entry := by
      intro entry member refers
      obtain ⟨name, given, refers⟩ := refersTo_iff.mp refers
      rcases names name given with rfl | ⟨other, tainted, named⟩
      · exact .direct (inside member) (less _ _ refers)
      · exact .through tainted named (inside member) (less _ _ refers)
    have undone := forgetAll_undone (kept.filter (g.refersTo dropped)) g
    intro entry member out
    by_cases refers : g.refersTo dropped entry = true
    · exact taken entry member refers
    · refine ih (fun other left => inside (List.mem_filter.mp left).1)
        (fun other name refers => less other name (undone.refers refers)) ?_ entry ?_ out
      · intro name given
        rcases List.mem_append.mp given with new | old
        · obtain ⟨other, lost, named⟩ := List.mem_filterMap.mp new
          obtain ⟨member, refers⟩ := List.mem_filter.mp lost
          exact .inr ⟨other, taken other member refers, named⟩
        · exact names name old
      · exact List.mem_filter.mpr ⟨member, by simpa using refers⟩

structure Distinct (entries : List Entry) : Prop where
  ids : (entries.map Prod.fst).Nodup
  names : (entries.filterMap Prod.snd).Nodup

theorem Distinct.drop (distinct : Distinct recent) (n : Nat) : Distinct (recent.drop n) where
  ids := distinct.ids.sublist ((List.drop_sublist n recent).map _)
  names := distinct.names.sublist ((List.drop_sublist n recent).filterMap _)

theorem Distinct.nodup (distinct : Distinct recent) : recent.Nodup := .of_map _ distinct.ids

theorem Distinct.of_id (distinct : Distinct recent) {other : Entry} (here : entry ∈ recent)
    (there : other ∈ recent) (same : entry.1 = other.1) : entry = other :=
  List.inj_on_of_nodup_map distinct.ids here there same

theorem Distinct.of_name (distinct : Distinct recent) {other : Entry} (here : entry ∈ recent)
    (there : other ∈ recent) (made : entry.2 = some name) (also : other.2 = some name) : entry = other := by
  by_contra apart
  have : Std.Symm fun a b : Entry => ∀ x, a.2 = some x → ∀ y, b.2 = some y → x ≠ y :=
    ⟨fun _ _ differ x left y right => (differ y right x left).symm⟩
  exact (List.pairwise_filterMap.mp distinct.names).forall here there apart name made name also rfl

/-- At the end of the loop the tainted entries are gone, and only these. -/
theorem RolledBack.gone_iff (distinct : Distinct recent) (rolled : RolledBack [failed] recent kept gone g g')
    (taken : ∀ entry ∈ recent, entry ∉ kept → Tainted g recent failed entry) :
    entry ∈ gone ↔ Tainted g recent failed entry := by
  constructor
  · intro lost
    obtain ⟨member, out⟩ := (rolled.parted entry).mp lost
    exact taken entry member out
  · -- A tainted entry that was kept would still refer to a dropped name, for nothing of it was undone.
    have stays {entry : Entry} {name : String} (member : entry ∈ recent) (refers : g.Refers entry name)
        (dropped : name ∈ [failed] ∨ some name ∈ gone.map Prod.snd) : entry ∈ gone := by
      by_contra here
      have kept : entry ∈ kept := by
        by_contra out
        exact here ((rolled.parted entry).mpr ⟨member, out⟩)
      refine rolled.clean entry kept name dropped (rolled.undone.refers_of_apart refers ?_ ?_)
      · intro lost
        obtain ⟨other, lost, same⟩ := List.mem_map.mp lost
        exact here (distinct.of_id ((rolled.parted other).mp lost).1 member same ▸ lost)
      · intro key made lost
        obtain ⟨other, lost, also⟩ := List.mem_map.mp lost
        exact here (distinct.of_name ((rolled.parted other).mp lost).1 member also made ▸ lost)
    intro tainted
    induction tainted with
    | direct member refers => exact stays member refers (.inl (List.mem_singleton.mpr rfl))
    | through _ named member refers ih =>
      exact stays member refers (.inr (List.mem_map.mpr ⟨_, ih, named⟩))

/-- What is kept are the entries that are not gone, in their order. -/
theorem RolledBack.kept_eq (distinct : Distinct recent) (rolled : RolledBack [failed] recent kept gone g g') :
    kept = recent.filter (· ∉ gone) := by
  have own : kept.filter (· ∉ gone) = kept := by
    refine List.filter_eq_self.mpr fun entry member => ?_
    simpa using fun lost => ((rolled.parted entry).mp lost).2 member
  have here : kept.Sublist (recent.filter (· ∉ gone)) := own ▸ rolled.sublist.filter _
  refine here.eq_of_length_le ((distinct.nodup.filter _).subperm fun entry left => ?_).length_le
  obtain ⟨member, still⟩ := List.mem_filter.mp left
  by_contra out
  exact of_decide_eq_true still ((rolled.parted entry).mpr ⟨member, out⟩)

theorem Tainted.mono (tainted : Tainted g recent failed entry) {journal : List Entry}
    (inside : recent ⊆ journal) : Tainted g journal failed entry := by
  induction tainted with
  | direct member refers => exact .direct (inside member) refers
  | through _ named member refers ih => exact .through ih named (inside member) refers

/-- Entries before the mark make no difference as long as none of them is tainted. -/
theorem tainted_drop_iff {mark : Nat} (clear : ∀ entry ∈ g.journal.take mark, ¬Tainted g g.journal failed entry) :
    Tainted g g.journal failed entry ↔ Tainted g (g.journal.drop mark) failed entry := by
  have late {entry : Entry} (tainted : Tainted g g.journal failed entry) : entry ∈ g.journal.drop mark := by
    have member := tainted.member
    rw [← List.take_append_drop mark g.journal] at member
    exact (List.mem_append.mp member).resolve_left fun early => clear entry early tainted
  constructor
  · intro tainted
    induction tainted with
    | direct member refers => exact .direct (late (.direct member refers)) refers
    | through other named member refers ih =>
      exact .through ih named (late (.through other named member refers)) refers
  · exact fun tainted => tainted.mono (List.drop_subset mark g.journal)

end Generator

namespace Synthesis

open Generator (Ready Begun Finished)

structure JournalExtends (g g' : Generator) : Prop where
  inProgress : g'.inProgress = g.inProgress
  journal : g.journal <+: g'.journal

theorem JournalExtends.refl (g : Generator) : JournalExtends g g := ⟨rfl, List.prefix_rfl⟩

theorem JournalExtends.trans {g g' g'' : Generator} (first : JournalExtends g g')
    (second : JournalExtends g' g'') : JournalExtends g g'' :=
  ⟨second.inProgress.trans first.inProgress, first.journal.trans second.journal⟩

theorem JournalExtends.busy {g g' : Generator} (extended : JournalExtends g g') (busy : g.inProgress ≠ []) :
    g'.inProgress ≠ [] := by rwa [extended.inProgress]

def journaling : Contract Failure Generator where
  holds g := g.inProgress ≠ []
  moves := JournalExtends
  fails e g g' := Fatal e ∧ g'.inProgress ≠ [] ∧ JournalExtends g g'
  refl := .refl
  trans first second := first.trans second
  fails_after first failed := ⟨failed.1, failed.2.1, first.trans failed.2.2⟩

theorem journaling_law (config : Config) : Law config journaling (fun _ _ => True) fun _ _ => True :=
  .of_any (fun failed => failed.1) (fun _ _ busy => ⟨trivial, busy, .refl _⟩) fun _ _ =>
    resolving_of_grows fun _ _ busy _ => ⟨busy, rfl, List.prefix_rfl⟩

section Step

variable {id : DeclId} {name : String} {placed : Bool} {g s t u : Generator} (ready : Ready id name g)
  (begun : Begun id name placed g s) (inside : JournalExtends s t)

include ready begun inside

/-- When a declaration is over, what was under way around it is so again. -/
theorem JournalExtends.left (left : u.inProgress = (t.leave id).inProgress) : u.inProgress = g.inProgress :=
  left.trans (Generator.leave_inProgress ready.idle (inside.inProgress.trans begun.inProgress))

theorem JournalExtends.finished {x : Schema} {made : Option Schema} (busy : g.inProgress ≠ [])
    (finished : Finished id name x made t u) : JournalExtends g u := by
  have same : u.inProgress = g.inProgress := inside.left ready begun finished.inProgress
  refine ⟨same, ?_⟩
  rw [finished.journal (by rwa [same]), ← begun.journal]
  exact inside.journal.trans (List.prefix_append _ _)

/-- Undoing cuts the journal back to its mark at most. -/
theorem JournalExtends.undone :
    JournalExtends g ((((t.leave id).unforce id).undefine name).rollback g.journal.length name) := by
  obtain ⟨kept, gone, journal, _⟩ :=
    Generator.rollback_rolledBack g.journal.length name (((t.leave id).unforce id).undefine name)
  obtain ⟨memo, definitions, _, frame⟩ :=
    Generator.rollback_frame g.journal.length name (((t.leave id).unforce id).undefine name)
  refine ⟨inside.left ready begun (by rw [frame]; rfl), ?_⟩
  have mark : t.journal.take g.journal.length = g.journal :=
    (List.prefix_iff_eq_take.mp (begun.journal ▸ inside.journal)).symm
  rw [journal]
  change g.journal <+: t.journal.take g.journal.length ++ kept
  rw [mark]
  exact List.prefix_append _ _

end Step

theorem journaling_cases : EachCaseKeeps journaling journaling fun _ _ => True where
  memo _ _ := trivial
  naming _ _ busy := ⟨busy, rfl, List.prefix_rfl⟩
  cycle {id _ g} busy _ _ := by
    obtain ⟨forced, same⟩ := Generator.force_frame id g
    rw [same]
    exact ⟨busy, ⟨rfl, List.prefix_rfl⟩, trivial⟩
  begun within := by
    simp only [journaling, within.begun.inProgress]
    exact List.cons_ne_nil _ _
  defined within _ inside _ finished := by
    have extended := inside.finished within.ready within.begun within.holds finished
    exact ⟨extended.busy within.holds, extended, trivial⟩
  inlined within _ inside _ _ finished := by
    have extended := inside.finished within.ready within.begun within.holds finished
    exact ⟨extended.busy within.holds, extended, trivial⟩
  undone within failed := by
    have extended := failed.2.2.undone within.ready within.begun
    exact ⟨failed.1, extended.busy within.holds, extended⟩
  abandoned {id _ _ g s t} within failed := by
    obtain ⟨fatal, _, inside⟩ := failed
    have extended : JournalExtends g (t.leave id) :=
      ⟨inside.left within.ready within.begun rfl, within.begun.journal ▸ inside.journal⟩
    exact ⟨fatal, extended.busy within.holds, extended⟩

/-- Whatever the state in which a struct or an enumeration is begun, the journal is no shorter when its
body has failed. -/
theorem opened_extends (config : Config) (fuel : Nat) (id : DeclId) (name : String) (d : Declaration)
    (g : Generator) : JournalExtends (opened id name g)
      (after (bodySchema config (synthesizeWith config fuel) d) (opened id name g)).2 := by
  have busy : (opened id name g).inProgress ≠ [] := List.cons_ne_nil _ _
  have each := synthesizeWith_meets (journaling_law config) journaling_cases
    (fun busy => ⟨trivial, busy, .refl _⟩) fuel
  exact ((bodySchema_meets (journaling_law config) each d _ busy).lasting
    fun _ _ _ failed => failed.2).2

open Generator (Distinct UndoLoop Tainted Undone)

/-- Undoing a failed declaration ends, and takes back exactly those of the entries made since the mark that
are tainted among themselves, in whatever state whose journal has one entry for a declaration and for a name.
The whole journal taints no others of them unless an earlier entry is tainted. And when the body of a struct
or an enumeration fails, what is undone starts from a mark that is not past the end of the journal. -/
theorem rollback_exact :
    (∀ (g : Generator) (mark : Nat) (failed : String), Distinct g.journal →
      let recent := g.journal.drop mark
      let undone := g.rollback mark failed
      (∃ kept settled, UndoLoop [failed] recent g (kept, settled) ∧
        undone = { settled with journal := g.journal.take mark ++ kept }) ∧
      (∃ gone, (∀ entry, entry ∈ gone ↔ Tainted g recent failed entry) ∧ Undone gone g undone ∧
        undone.journal = g.journal.take mark ++ recent.filter (· ∉ gone)) ∧
      ((∀ entry ∈ g.journal.take mark, ¬Tainted g g.journal failed entry) →
        ∀ entry, Tainted g g.journal failed entry ↔ Tainted g recent failed entry)) ∧
    (∀ (config : Config) (fuel : Nat) (id : DeclId) (name : String) (d : Declaration) (g g' : Generator)
      (e : Failure), after (bodySchema config (synthesizeWith config fuel) d) (opened id name g) = (.error e, g') →
      let left := ((g'.leave id).unforce id).undefine name
      after (synthesizeNamed config (synthesizeWith config fuel) id name d) g =
        (.error e, left.rollback g.journal.length name) ∧ g.journal.length ≤ left.journal.length) := by
  constructor
  · intro g mark failed distinct recent undone
    have distinct : Distinct recent := distinct.drop mark
    have loop : UndoLoop [failed] recent g (Generator.settle (recent.length + 1) [failed] recent g) :=
      Generator.settle_loop (Nat.lt_succ_self _)
    refine ⟨⟨_, _, loop, rfl⟩, ?_, fun clear entry => Generator.tainted_drop_iff clear⟩
    obtain ⟨gone, rolled⟩ := @Generator.settle_rolledBack _ [failed] recent g (Nat.lt_succ_self _)
    have taken := loop.taken recent (List.Subset.refl _) (fun _ _ refers => refers)
      fun name given => .inl (List.mem_singleton.mp given)
    have removed : Undone gone g undone := ⟨rolled.undone.memo, rolled.undone.definitions⟩
    refine ⟨gone, fun entry => rolled.gone_iff distinct taken, removed, ?_⟩
    rw [← rolled.kept_eq distinct]
    rfl
  · intro config fuel id name d g g' e run left
    have extended := opened_extends config fuel id name d g
    rw [run] at extended
    exact ⟨synthesizeNamed_error run, extended.journal.length_le⟩

/-- A journal in which the second entry refers to what failed, and the third to the second. -/
def doomed : Generator where
  memo := [(3, .ref "web.Kept"), (2, .ref "web.Outer"), (1, .ref "web.Inner"), (0, .ref "web.Early")]
  definitions := .ofList [("web.Early", .object), ("web.Inner", .array (.ref "web.Failed")),
    ("web.Outer", .map (.ref "web.Inner")), ("web.Kept", .array (.ref "web.Early"))]
  journal := [(0, some "web.Early"), (1, some "web.Inner"), (2, some "web.Outer"), (3, some "web.Kept")]

/-- A page is synthesized below another declaration, of which something was made before. -/
def nested : Generator :=
  { resolver := { registry := Builder.pages }, inProgress := [0], memo := [(4, .object)], journal := [(4, none)] }

/-- The entry is undone that refers to what failed only through another one. And a page, which fails at its
limit, is undone from a mark that its body has not cut off. -/
theorem rollback_exact_outer :
    (Distinct doomed.journal ∧ Tainted doomed (doomed.journal.drop 1) "web.Failed" (2, some "web.Outer") ∧
      (doomed.rollback 1 "web.Failed").memo.lookup 2 = none ∧
      (doomed.rollback 1 "web.Failed").definitions.get? "web.Outer" = none) ∧
    ∃ e g', after (bodySchema {} (synthesizeWith {} nesting) (Builder.pages.get 1))
        (opened 1 "models.Page" nested) = (.error e, g') ∧
      nested.journal.length ≤ (((g'.leave 1).unforce 1).undefine "models.Page").journal.length := by
  constructor
  · have distinct : Distinct doomed.journal := ⟨by decide, by decide⟩
    have inner : Tainted doomed (doomed.journal.drop 1) "web.Failed" (1, some "web.Inner") :=
      .direct (by decide)
        (.inr ⟨"web.Inner", .array (.ref "web.Failed"), rfl, by decide +kernel, by decide +kernel⟩)
    have outer : Tainted doomed (doomed.journal.drop 1) "web.Failed" (2, some "web.Outer") :=
      .through inner rfl (by decide)
        (.inr ⟨"web.Outer", .map (.ref "web.Inner"), rfl, by decide +kernel, by decide +kernel⟩)
    obtain ⟨_, ⟨gone, lost, undone, _⟩, _⟩ := rollback_exact.1 doomed 1 "web.Failed" distinct
    have member := (lost _).mpr outer
    refine ⟨distinct, outer, ?_, ?_⟩
    · rw [undone.memo, if_pos (List.mem_map.mpr ⟨_, member, rfl⟩)]
    · rw [undone.definitions, if_pos (List.mem_map.mpr ⟨_, member, rfl⟩)]
  · rcases run : after (bodySchema {} (synthesizeWith {} nesting) (Builder.pages.get 1))
      (opened 1 "models.Page" nested) with ⟨e | s, g'⟩
    · exact ⟨e, g', rfl, (rollback_exact.2 {} nesting 1 "models.Page" _ nested g' e run).2⟩
    · have failed : (after (bodySchema {} (synthesizeWith {} nesting) (Builder.pages.get 1))
        (opened 1 "models.Page" nested)).1.toOption = none := by decide +kernel
      rw [run] at failed
      cases failed

/-- An entry from before the mark refers to what failed, and the one after the mark to it. -/
def shadowed : Generator where
  memo := [(1, .ref "web.Late"), (0, .ref "models.Early")]
  definitions := .ofList [("models.Early", .array (.ref "web.Post")), ("web.Late", .array (.ref "models.Early"))]
  journal := [(0, some "models.Early"), (1, some "web.Late")]

/-- In the whole journal the later entry is tainted, but it is kept. -/
theorem rollback_spares :
    Distinct shadowed.journal ∧ shadowed.journal.drop 1 = [(1, some "web.Late")] ∧
      Tainted shadowed shadowed.journal "web.Post" (1, some "web.Late") ∧
      (shadowed.rollback 1 "web.Post").journal = shadowed.journal ∧
      (shadowed.rollback 1 "web.Post").memo.lookup 1 = some (.ref "web.Late") ∧
      (shadowed.rollback 1 "web.Post").definitions.get? "web.Late" = some (.array (.ref "models.Early")) := by
  have early : Tainted shadowed shadowed.journal "web.Post" (0, some "models.Early") :=
    .direct (by decide)
      (.inr ⟨"models.Early", .array (.ref "web.Post"), rfl, by decide +kernel, by decide +kernel⟩)
  have late : Tainted shadowed shadowed.journal "web.Post" (1, some "web.Late") :=
    .through early rfl (by decide)
      (.inr ⟨"web.Late", .array (.ref "models.Early"), rfl, by decide +kernel, by decide +kernel⟩)
  exact ⟨⟨by decide, by decide⟩, rfl, late, by decide +kernel, by decide +kernel, by decide +kernel⟩

end Synthesis

end ApiSchema
