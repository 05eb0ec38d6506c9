import ApiSchema.Proofs.Repetition

/-! Whether a failure stays. When a path is not found, the crates that its lookup came across are loaded;
the outcomes are remembered, so that no crate is loaded twice. The crates are those of the lookup before
the first load, though: what is loaded is searched for the path, but not for further crates. So a failure
is final if no file came with it, and in general exactly if the lookup that follows it comes across no
crate that has not been tried. -/

namespace ApiSchema.Registry

variable {r r' : Registry}

/-- Where no package has become known, nothing disturbs a lookup. -/
theorem undisturbed_of_absent (absent : ∀ path, r.package? path = none → r'.package? path = none)
    (context : ScopeId) (segments : List String) : Undisturbed r r' context segments where
  tried _ _ missing := absent _ missing.2
  unmatched _ path p unknown found := by
    rw [absent path unknown] at found
    cases found

theorem Orderly.mem_keys (orderly : Orderly r) {path : String} :
    path ∈ r.packages.keys ↔ ∃ p, r.package? path = some p := by
  constructor
  · intro member
    obtain ⟨entry, inside, rfl⟩ := List.mem_map.mp member
    exact ⟨entry.2, orderly.sorted.mem_iff.mp inside⟩
  · rintro ⟨p, found⟩
    exact List.mem_map.mpr ⟨(path, p), Table.mem_of_get? found, rfl⟩

/-- Where no package has become known, the same crates are unknown. -/
theorem unknownCrates_same (orderly : Orderly r) (orderly' : Orderly r') (wider : KeepsWrittenNames r r')
    (absent : ∀ path, r.package? path = none → r'.package? path = none) (tried : List (List String)) :
    r'.unknownCrates tried = r.unknownCrates tried := by
  have keys (path : String) : path ∈ r'.packages.keys ↔ path ∈ r.packages.keys := by
    rw [orderly.mem_keys, orderly'.mem_keys]
    constructor
    · rintro ⟨p', found⟩
      cases before : r.package? path with
      | none => simp [absent path before] at found
      | some p => exact ⟨p, rfl⟩
    · rintro ⟨p, found⟩
      obtain ⟨p', found', _⟩ := wider.packages path p found
      exact ⟨p', found'⟩
  have same : r'.hasCrate = r.hasCrate := by
    funext crate
    rw [Bool.eq_iff_iff]
    simp only [hasCrate, List.any_eq_true, keys]
  unfold unknownCrates
  rw [same]

end ApiSchema.Registry

namespace ApiSchema.Resolver

open Registry (Undisturbed)
open Steps
open Text (Unmarked)

section Loads

variable {s t : Resolver} {context : ScopeId} {segments crates : List String} {crate : String}
  {failed : Option Error} {e : Error}

def failureOf : Except String Bool → Option String
  | .ok _ => none
  | .error message => some message

/-- The failure to load that counts after one more crate: its own, or else the one before. -/
def counted (failed : Option Error) (crate : String) : Option String → Option Error
  | some message => some (.externalLoad crate message)
  | none => failed

def recalled (s : Resolver) (failed : Option Error) (crates : List String) : Option Error :=
  crates.foldl (fun failed crate => counted failed crate (s.loads.lookup crate).join) failed

theorem recalled_cons (s : Resolver) (failed : Option Error) (crate : String) (crates : List String) :
    s.recalled failed (crate :: crates) =
      s.recalled (counted failed crate (s.loads.lookup crate).join) crates := rfl

theorem load_noted (s : Resolver) (crate : String) :
    (s.load crate).2.loads.lookup crate = some (failureOf (s.load crate).1) := by
  unfold load
  split
  · next found => exact found
  · next found => exact found
  · split
    · simp [failureOf]
    · split <;> simp [failureOf]

theorem load_keeps (crate : String) {other : String} {outcome : Option String}
    (found : s.loads.lookup other = some outcome) :
    (s.load crate).2.loads.lookup other = some outcome := by
  unfold load
  split
  · exact found
  · exact found
  next new =>
  split
  · exact lookup_cons_kept new _ found
  · split
    · exact lookup_cons_kept new _ found
    · exact lookup_cons_kept new _ found

/-- A path that is not found is not found after the first crate is loaded either. -/
theorem loadUntilFound_cons (run : loadUntilFound segments context (crate :: crates) failed s = (.error e, t)) :
    loadUntilFound segments context crates (counted failed crate (failureOf (s.load crate).1))
      (s.load crate).2 = (.error e, t) := by
  simp only [loadUntilFound] at run
  split at run
  · next outcome =>
    rw [outcome]
    exact run
  · next outcome =>
    rw [outcome]
    exact run
  · next outcome =>
    rw [outcome]
    split at run
    · cases run
    · exact run

/-- When a path is not found, all the crates were tried, the error is the one that is remembered, and
nothing else is forgotten. -/
theorem loadUntilFound_missed (run : loadUntilFound segments context crates failed s = (.error e, t)) :
    (∀ crate ∈ crates, (t.loads.lookup crate).isSome = true) ∧
      (t.recalled failed crates).getD (.unresolvable (Text.joinSegments segments)) = e ∧
      ∀ crate outcome, s.loads.lookup crate = some outcome → t.loads.lookup crate = some outcome := by
  induction crates generalizing failed s with
  | nil =>
    cases run
    exact ⟨by simp, rfl, fun _ _ found => found⟩
  | cons crate rest ih =>
    obtain ⟨others, same, kept⟩ := ih (loadUntilFound_cons run)
    have noted := kept crate _ (load_noted s crate)
    refine ⟨fun other member => ?_, ?_, fun other outcome found => kept other outcome (load_keeps crate found)⟩
    · rcases List.mem_cons.mp member with rfl | member
      · simp [noted]
      · exact others other member
    · rw [recalled_cons, noted]
      exact same

/-- Where all the crates were tried before, the path is given up with the error that is remembered. -/
theorem loadUntilFound_idle (noted : ∀ crate ∈ crates, (s.loads.lookup crate).isSome = true) :
    loadUntilFound segments context crates failed s =
      (.error ((s.recalled failed crates).getD (.unresolvable (Text.joinSegments segments))), s) := by
  induction crates generalizing failed with
  | nil => rfl
  | cons crate rest ih =>
    obtain ⟨outcome, found⟩ := Option.isSome_iff_exists.mp (noted crate List.mem_cons_self)
    have others : ∀ other ∈ rest, (s.loads.lookup other).isSome = true :=
      fun other member => noted other (List.mem_cons_of_mem _ member)
    cases outcome with
    | none =>
      simp only [loadUntilFound, load, found, recalled_cons]
      exact ih others
    | some message =>
      simp only [loadUntilFound, load, found, recalled_cons]
      exact ih others

theorem recalled_congr (same : ∀ crate ∈ crates, t.loads.lookup crate = s.loads.lookup crate) :
    t.recalled failed crates = s.recalled failed crates := by
  induction crates generalizing failed with
  | nil => rfl
  | cons crate rest ih =>
    rw [recalled_cons, recalled_cons, same crate List.mem_cons_self]
    exact ih fun other member => same other (List.mem_cons_of_mem _ member)

theorem load_asked (s : Resolver) (crate : String) : s.asked <+: (s.load crate).2.asked := by
  unfold load
  split
  · exact List.prefix_refl _
  · exact List.prefix_refl _
  · split
    · exact List.prefix_refl _
    · split <;> exact List.prefix_append _ _

theorem loadUntilFound_asked (run : loadUntilFound segments context crates failed s = (.error e, t)) :
    s.asked <+: t.asked := by
  induction crates generalizing failed s with
  | nil =>
    cases run
    exact List.prefix_refl _
  | cons crate rest ih => exact (load_asked s crate).trans (ih (loadUntilFound_cons run))

/-- A loader that is not asked had been asked for all the crates before. -/
theorem noted_of_unasked {loader : Loader} (configured : s.loader = some loader)
    (run : loadUntilFound segments context crates failed s = (.error e, t)) (unasked : t.asked = s.asked) :
    ∀ crate ∈ crates, (s.loads.lookup crate).isSome = true := by
  induction crates generalizing failed with
  | nil => simp
  | cons crate rest ih =>
    have onward := loadUntilFound_cons run
    cases found : s.loads.lookup crate with
    | some outcome =>
      have idle : (s.load crate).2 = s := by
        cases outcome <;> simp [load, found]
      rw [idle] at onward
      intro other member
      rcases List.mem_cons.mp member with rfl | member
      · simp [found]
      · exact ih onward other member
    | none =>
      have asked : (s.load crate).2.asked = s.asked ++ [crate] := by
        simp only [load, found, configured]
        split <;> rfl
      have shorter := (loadUntilFound_asked onward).length_le
      simp [asked, unasked] at shorter

theorem load_loader (s : Resolver) (crate : String) : (s.load crate).2.loader = s.loader ∧
    (s.loader = none → (s.load crate).2.registry = s.registry) := by
  unfold load
  split
  · exact ⟨rfl, fun _ => rfl⟩
  · exact ⟨rfl, fun _ => rfl⟩
  · split
    · exact ⟨rfl, fun _ => rfl⟩
    · next configured => split <;> exact ⟨rfl, fun none => by simp [none] at configured⟩

/-- The loader stays, and without one nothing comes to be known. -/
theorem loadUntilFound_loader (run : loadUntilFound segments context crates failed s = (.error e, t)) :
    t.loader = s.loader ∧ (s.loader = none → t.registry = s.registry) := by
  induction crates generalizing failed s with
  | nil =>
    cases run
    exact ⟨rfl, fun _ => rfl⟩
  | cons crate rest ih =>
    obtain ⟨same, idle⟩ := load_loader s crate
    obtain ⟨same', idle'⟩ := ih (loadUntilFound_cons run)
    exact ⟨same'.trans same, fun none => (idle' (same.trans none)).trans (idle none)⟩

end Loads

/-- The crates that a lookup of the path comes across and that are not known. -/
def pending (s : Resolver) (context : ScopeId) (segments : List String) : List String :=
  s.registry.unknownCrates (s.registry.lookupPath segments context).tried

/-- There is nothing left to try for the path, and the error is the one that is remembered. -/
structure Exhausted (s : Resolver) (context : ScopeId) (segments : List String) (e : Error) : Prop where
  absent : s.registry.atHand? true context segments = none
  noted : ∀ crate ∈ s.pending context segments, (s.loads.lookup crate).isSome = true
  remembered : (s.recalled none (s.pending context segments)).getD
    (.unresolvable (Text.joinSegments segments)) = e

section Paths

variable {context : ScopeId} {segments : List String} {s t : Resolver} {e : Error}

theorem Exhausted.fails (exhausted : t.Exhausted context segments e) :
    resolvePath true context segments t = (.error e, t) := by
  rw [resolvePath_run, exhausted.absent, ← exhausted.remembered]
  exact loadUntilFound_idle exhausted.noted

/-- What a failure to resolve a path says of the lookup before it and of the crates. -/
theorem resolvePath_error' (failed : resolvePath true context segments s = (.error e, t)) :
    s.registry.atHand? true context segments = none ∧
      loadUntilFound segments context (s.pending context segments) none s = (.error e, t) := by
  rw [resolvePath_run] at failed
  split at failed
  · cases failed
  · next none => exact ⟨none, failed⟩

/-- A path that was not found fails again in the same way, with no crate asked for, exactly if there is
nothing left to try. -/
theorem fails_again_iff (failed : resolvePath true context segments s = (.error e, t)) :
    (∃ u, resolvePath true context segments t = (.error e, u) ∧ u.asked = t.asked) ↔
      t.Exhausted context segments e := by
  constructor
  · rintro ⟨u, again, unasked⟩
    obtain ⟨absent, run⟩ := resolvePath_error' again
    obtain ⟨_, earlier⟩ := resolvePath_error' failed
    have noted : ∀ crate ∈ t.pending context segments, (t.loads.lookup crate).isSome = true := by
      cases configured : t.loader with
      | some loader => exact noted_of_unasked configured run unasked
      | none =>
        -- nothing was loaded, so the lookup came across the crates that it had come across before
        obtain ⟨same, idle⟩ := loadUntilFound_loader earlier
        have tried := (loadUntilFound_missed earlier).1
        rwa [pending, ← idle (same.symm.trans configured)] at tried
    rw [loadUntilFound_idle noted] at run
    exact ⟨absent, noted, Except.error.inj (congrArg Prod.fst run)⟩
  · intro exhausted
    exact ⟨t, exhausted.fails, rfl⟩

end Paths

/-- The outcome of a visited path is final: where it was found, nothing has turned up that was looked for
in vain, and where it was not, there is nothing left to try. -/
def Final (later : Resolver) (context : ScopeId) (visit : Resolver × List String) : Prop :=
  match resolvePath true context visit.2 visit.1 with
  | (.ok _, t) => Undisturbed t.registry later.registry context visit.2
  | (.error e, _) => later.Exhausted context visit.2 e

section Visits

variable {context : ScopeId} {later : Resolver} {visit : Resolver × List String}

theorem repeats_of_final (inv : CleanRooted visit.1) (inv' : CleanRooted later)
    (kept : KeepsLookups (resolvePath true context visit.2 visit.1).2 later)
    (written : ∀ segment ∈ visit.2, Unmarked segment) (known : context < visit.1.registry.scopes.length)
    (final : later.Final context visit) : Repeats true context later visit := by
  unfold Final at final
  rcases run : resolvePath true context visit.2 visit.1 with ⟨e | x, t⟩
  · rw [run] at final
    rw [Repeats, run]
    exact Exhausted.fails final
  · refine repeats_of_undisturbed inv inv' kept written known (by rw [run]; rfl) ?_
    rw [run] at final ⊢
    exact final

/-- Where no file came in between, every outcome is final. -/
theorem final_of_unchanged (inv : CleanRooted visit.1) (inv' : CleanRooted later)
    (kept : KeepsLookups (resolvePath true context visit.2 visit.1).2 later)
    (written : ∀ segment ∈ visit.2, Unmarked segment) (known : context < visit.1.registry.scopes.length)
    (unchanged : later.registry.indexed = visit.1.registry.indexed) : later.Final context visit := by
  obtain ⟨_, before⟩ := resolvePath_keeps inv true context visit.2
  have whole := before.trans kept
  have middle : later.registry.indexed = (resolvePath true context visit.2 visit.1).2.registry.indexed :=
    (kept.noted.eq_of_length_le (unchanged ▸ before.noted.length_le)).symm
  unfold Final
  rcases run : resolvePath true context visit.2 visit.1 with ⟨e | x, t⟩ <;> rw [run] at kept middle
  · obtain ⟨absent, tried⟩ := resolvePath_error' run
    obtain ⟨noted, remembered, _⟩ := loadUntilFound_missed tried
    have undisturbed := Registry.undisturbed_of_absent (whole.absent unchanged) context visit.2
    have lookup := Registry.lookupPath_same inv.clean.orderly inv.clean.undashed whole.wider
      inv'.clean.orderly written known undisturbed.tried
    have same : later.pending context visit.2 = visit.1.pending context visit.2 := by
      rw [pending, lookup]
      exact Registry.unknownCrates_same inv.clean.orderly inv'.clean.orderly whole.wider
        (whole.absent unchanged) _
    have kept : ∀ crate ∈ visit.1.pending context visit.2,
        later.loads.lookup crate = t.loads.lookup crate := by
      intro crate member
      obtain ⟨outcome, found⟩ := Option.isSome_iff_exists.mp (noted crate member)
      rw [found, kept.loads crate outcome found]
    refine ⟨?_, fun crate member => ?_, ?_⟩
    · rw [← absent]
      exact Registry.atHand?_same inv.clean inv'.clean.orderly whole.wider true written known
        undisturbed
    · rw [same] at member
      rw [kept crate member]
      exact noted crate member
    · rw [same, recalled_congr kept, remembered]
  · exact Registry.undisturbed_of_absent (kept.absent middle) context visit.2

end Visits

section References

variable {s t : Resolver} {context : ScopeId} {reference : String} {e : Error}

/-- A visited path on the way to a failure: its names are written ones, its scope is known, and what
comes after it leads to the end. -/
theorem visited_failing (inv : CleanRooted s) (known : context < s.registry.scopes.length)
    (named : ∀ name ∈ TypeExpr.namesIn reference, Unmarked name)
    (failed : after (resolve true context reference) s = (.error e, t)) {visit : Resolver × List String}
    (member : visit ∈ visits true context reference s) :
    CleanRooted visit.1 ∧ (∀ segment ∈ visit.2, Unmarked segment) ∧
      context < visit.1.registry.scopes.length ∧ KeepsLookups s visit.1 ∧
      KeepsLookups (resolvePath true context visit.2 visit.1).2 t := by
  have visited := visits_visited inv visit member
  have onward := visited.onward.kept
  rw [failed] at onward
  exact ⟨visited.holds, fun segment inside => named segment (visited.named segment inside),
    Nat.lt_of_lt_of_le known visited.before.wider.scopes.length_le, visited.before, onward⟩

/-- Where no file came with a failure, the outcomes of all paths on the way to it are final. -/
theorem visits_final (inv : CleanRooted s) (inv' : CleanRooted t)
    (known : context < s.registry.scopes.length)
    (named : ∀ name ∈ TypeExpr.namesIn reference, Unmarked name)
    (failed : after (resolve true context reference) s = (.error e, t))
    (unchanged : t.registry.indexed = s.registry.indexed) :
    ∀ visit ∈ visits true context reference s, t.Final context visit := by
  intro visit member
  obtain ⟨here, written, inside, before, onward⟩ := visited_failing inv known named failed member
  have between := (resolvePath_keeps here true context visit.2).2.trans onward
  have same : s.registry.indexed = visit.1.registry.indexed :=
    before.noted.eq_of_length_le (unchanged ▸ between.noted.length_le)
  exact final_of_unchanged here inv' onward written inside (unchanged.trans same)

/-- Where the outcomes of all paths on the way to it are final, the failure stays. -/
theorem resolve_fails_again (inv : CleanRooted s) (inv' : CleanRooted t)
    (known : context < s.registry.scopes.length)
    (named : ∀ name ∈ TypeExpr.namesIn reference, Unmarked name)
    (failed : after (resolve true context reference) s = (.error e, t))
    (final : ∀ visit ∈ visits true context reference s, t.Final context visit) :
    after (resolve true context reference) t = (.error e, t) := by
  have each : ∀ visit ∈ visits true context reference s, Repeats true context t visit := by
    intro visit member
    obtain ⟨here, written, inside, _, onward⟩ := visited_failing inv known named failed member
    exact repeats_of_final here inv' onward written inside (final visit member)
  have again := resolve_repeats inv each (by rw [failed]; exact .refl _)
  rw [again, failed]

/-- A reference of one path without arguments is resolved as the path is. -/
theorem resolve_single {expr : TypeExpr} {segments : List String}
    (parsed : TypeExpr.parse? reference = some expr) (peeled : expr.peel = .named segments [])
    (u : Resolver) :
    after (resolve true context reference) u = resolvePath true context segments u := by
  unfold resolve
  simp only [parsed, resolveExpr, peeled]
  rw [resolveApplied_run]
  rcases resolvePath true context segments u with ⟨e | resolution, v⟩
  · rfl
  · cases resolution <;> rfl

end References

/-- A failure stays if the outcomes of all the paths on the way to it are final, as they are when no file
came with it; that of a single path stays, with no crate asked for, exactly if nothing is left to try. -/
theorem failure_final {calls : List Registry.Call} {s t : Resolver} {context : ScopeId}
    {reference : String} {e : Error} (reached : s.registry = Registry.run calls .empty)
    (written : ∀ scope ∈ s.registry.scopes, scope.Unmarked)
    (rooted : ∀ loader, s.loader = some loader → loader.Rooted)
    (known : context < s.registry.scopes.length)
    (named : ∀ name ∈ TypeExpr.namesIn reference, Unmarked name)
    (failed : after (resolve true context reference) s = (.error e, t)) :
    ((∀ visit ∈ visits true context reference s, t.Final context visit) →
        after (resolve true context reference) t = (.error e, t)) ∧
      (t.registry.indexed = s.registry.indexed →
        ∀ visit ∈ visits true context reference s, t.Final context visit) ∧
      ∀ expr segments, TypeExpr.parse? reference = some expr → expr.peel = .named segments [] →
        ((∃ u, after (resolve true context reference) t = (.error e, u) ∧ u.asked = t.asked) ↔
          t.Exhausted context segments e) := by
  have undashed : ∀ scope ∈ s.registry.scopes, scope.Undashed := fun scope member =>
    (written scope member).undashed
  have inv : CleanRooted s := ⟨⟨reached ▸ Registry.orderly_run calls, undashed⟩, rooted⟩
  have inv' := (steady_after (resolve_meets (steady_law true context) reference s inv)).1
  rw [failed] at inv'
  refine ⟨resolve_fails_again inv inv' known named failed,
    visits_final inv inv' known named failed, fun expr segments parsed peeled => ?_⟩
  have single (u : Resolver) : after (resolve true context reference) u =
      resolvePath true context segments u := resolve_single parsed peeled u
  simp only [single] at failed ⊢
  exact fails_again_iff failed

/-- A page of something in a crate that cannot be loaded, and a name that is missing in a crate that can:
the first failure brings no file, the second does, and both are final. -/
theorem failure_final_missing :
    let calls := [Registry.Call.index "crate::web" (.plain "src/web.rs" "crate::web" [] [("Page", ["T"])]),
      .index "crate::api" (.plain "src/api.rs" "crate::api" [.path "crate" (.path "web" .glob),
        .path "gone" (.name "Gone"), .path "front" (.name "Missing")] [])]
    let loader := Loader.plain [("front", [], [("Post", [])])]
    let s : Resolver := { registry := Registry.run calls .empty, loader := some loader }
    let gone := (after (resolve true 1 "Page<Gone>") s).2
    let missing := (after (resolve true 1 "Missing") s).2
    (loader.Rooted ∧ gone.registry.indexed = s.registry.indexed ∧
        missing.registry.indexed ≠ s.registry.indexed) ∧
      after (resolve true 1 "Page<Gone>") gone = (.error (.externalLoad "gone" "no such crate"), gone) ∧
      ∃ u, after (resolve true 1 "Missing") missing = (.error (.unresolvable "Missing"), u) ∧
        u.asked = missing.asked := by
  intro calls loader s gone missing
  have rooted : loader.Rooted := Loader.plain_rooted (by decide +kernel)
  have written : ∀ scope ∈ s.registry.scopes, scope.Unmarked := by decide +kernel
  have failedGone : after (resolve true 1 "Page<Gone>") s =
      (.error (.externalLoad "gone" "no such crate"), gone) := run_eq (by decide +kernel)
  have failedMissing : after (resolve true 1 "Missing") s =
      (.error (.unresolvable "Missing"), missing) := run_eq (by decide +kernel)
  have unchanged : gone.registry.indexed = s.registry.indexed := by decide +kernel
  have first := failure_final rfl written (fun _ given => by cases given; exact rooted) (by decide +kernel)
    (by decide +kernel) failedGone
  have second := failure_final rfl written (fun _ given => by cases given; exact rooted)
    (by decide +kernel) (by decide +kernel) failedMissing
  refine ⟨⟨rooted, unchanged, by decide +kernel⟩, first.1 (first.2.1 unchanged), ?_⟩
  refine (second.2.2 (.named ["Missing"] []) ["Missing"] (by decide +kernel) rfl).mpr ?_
  exact ⟨by decide +kernel, by decide +kernel, by decide +kernel⟩

/-- A name that a loaded crate takes from a second crate: the second crate is not loaded in the call that
loads the first one, but when the call is repeated. -/
theorem failure_gives_way :
    let loader := Loader.plain [("front", [.path "back" (.name "Post")], []), ("back", [], [("Post", [])])]
    let s : Resolver :=
      { registry := Registry.run [.index "crate::api" (.plain "src/api.rs" "crate::api"
          [.path "front" (.name "Post")] [])] .empty
        loader := some loader }
    let first := after (resolve true 0 "Post") s
    let second := after (resolve true 0 "Post") first.2
    loader.Rooted ∧ first.1 = .error (.unresolvable "Post") ∧ first.2.asked = ["front"] ∧
      second.1 = .ok (.declaration 0) ∧ second.2.asked = ["front", "back"] :=
  ⟨Loader.plain_rooted (by decide +kernel), by decide +kernel, by decide +kernel, by decide +kernel,
    by decide +kernel⟩

end ApiSchema.Resolver
