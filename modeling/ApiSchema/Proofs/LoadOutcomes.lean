import ApiSchema.Proofs.RepeatedFailures

/-! What a resolver asks its loader for. A crate is loaded only if it is not known and nothing is
remembered of it, and what comes of it is remembered, so the loader is asked for it once, over any
session of calls and of changes to the registry between them. Calls that may not load do not come to
the loader at all: they leave nothing behind but instances. -/

namespace ApiSchema

/-- The crate at hand is none that is loaded. -/
theorem Registry.unknownCrates_foreign (r : Registry) (tried : List (List String)) :
    "crate" ∉ r.unknownCrates tried := by
  unfold unknownCrates
  refine List.foldlRecOn (motive := fun crates : List String => "crate" ∉ crates) tried _ (by simp) ?_
  rintro crates foreign candidate -
  cases candidate with
  | nil => exact foreign
  | cons head rest =>
    dsimp only
    split
    · exact foreign
    · next new =>
      have apart : head ≠ "crate" := by
        rintro rfl
        simp at new
      simp [foreign, Ne.symm apart]

namespace Resolver

open Registry (Grows Orderly OnlyMarkedAdded)
open Steps

/-- What a resolver can be asked for in a scope: what a written reference or a type denotes, or a type
with what its names denote in their place. -/
inductive Inquiry where
  | reference (text : String)
  | type (expr : TypeExpr)
  | argument (expr : TypeExpr)

def Inquiry.pursue (external : Bool) (context : ScopeId) : Inquiry → Resolver → Resolver
  | reference text, s => (after (resolve external context text) s).2
  | type expr, s => (after (resolveExpr external context expr) s).2
  | argument expr, s => (after (bindArgument external context expr) s).2

/-- What happens to a resolver: it is asked for something, or its registry is changed in between. A
loader may remember what it was asked for, so every call has the one of the moment. -/
inductive Turn where
  | call (loader : Option Loader) (external : Bool) (context : ScopeId) (inquiry : Inquiry)
  | change (step : Registry.Call)

def Turn.take : Turn → Resolver → Resolver
  | .call loader external context inquiry, s => inquiry.pursue external context { s with loader }
  | .change step, s => { s with registry := step.apply s.registry }

def session (turns : List Turn) (s : Resolver) : Resolver :=
  turns.foldl (fun s turn => turn.take s) s

/-- A contract that makes no difference between success and failure is kept by every inquiry. -/
theorem Inquiry.pursue_keeps {c : Contract Error Resolver} {external : Bool} {context : ScopeId}
    (lasts : Lasts external context c) (inquiry : Inquiry) {s : Resolver} (start : c.holds s) :
    c.holds (inquiry.pursue external context s) ∧ c.moves s (inquiry.pursue external context s) := by
  cases inquiry with
  | reference text => exact (resolve_meets lasts.law text s start).lasting lasts.lasting
  | type expr => exact (resolveExpr_meets lasts.law expr s start).lasting lasts.lasting
  | argument expr => exact (bindArgument_meets lasts.law expr s start).lasting lasts.lasting

section Loads

/-- The loader was asked for each crate once and for none that is at hand, each outcome is remembered,
and the registry is in order. -/
structure Booked (s : Resolver) : Prop where
  orderly : Orderly s.registry
  distinct : s.asked.Nodup
  foreign : "crate" ∉ s.asked
  noted : ∀ crate ∈ s.asked, (s.loads.lookup crate).isSome = true

/-- How resolution changes what is remembered of loads: nothing is forgotten, and for a crate that the
loader is asked for, its answer is remembered. -/
structure Books (s t : Resolver) : Prop where
  loader : t.loader = s.loader
  grows : Grows s.registry t.registry
  asked : s.asked <+: t.asked
  kept : ∀ crate outcome, s.loads.lookup crate = some outcome → t.loads.lookup crate = some outcome
  answered : ∀ crate ∈ t.asked, crate ∉ s.asked → ∃ loader, s.loader = some loader ∧
    t.loads.lookup crate = some (failureOf ((loader crate).map fun _ => true))

namespace Books

theorem refl (s : Resolver) : Books s s :=
  ⟨rfl, .refl _, List.prefix_refl _, fun _ _ found => found, fun _ member new => absurd member new⟩

theorem trans {s t u : Resolver} (first : Books s t) (second : Books t u) : Books s u where
  loader := second.loader.trans first.loader
  grows := first.grows.trans second.grows
  asked := first.asked.trans second.asked
  kept crate outcome found := second.kept crate outcome (first.kept crate outcome found)
  answered crate member new := by
    by_cases early : crate ∈ t.asked
    · obtain ⟨loader, given, found⟩ := first.answered crate early new
      exact ⟨loader, given, second.kept crate _ found⟩
    · obtain ⟨loader, given, found⟩ := second.answered crate member early
      exact ⟨loader, first.loader ▸ given, found⟩

end Books

variable {s : Resolver} {crate : String}

def reported : Option String → Except String Bool
  | none => .ok false
  | some message => .error message

/-- A crate of which something is remembered is not loaded. -/
theorem load_remembered {outcome : Option String} (found : s.loads.lookup crate = some outcome) :
    s.load crate = (reported outcome, s) := by
  cases outcome <;> simp [load, found, reported]

/-- A crate of which nothing is remembered is noted, and the loader is asked for it if there is one. -/
theorem load_new (new : s.loads.lookup crate = none) : ∃ registry,
    (s.load crate).2 = { s with
      registry
      asked := s.asked ++ if s.loader.isSome then [crate] else []
      loads := (crate, failureOf (s.load crate).1) :: s.loads } ∧
    ∀ loader, s.loader = some loader →
      failureOf (s.load crate).1 = failureOf ((loader crate).map fun _ => true) := by
  cases configured : s.loader with
  | none => exact ⟨s.registry, by simp [load, new, configured, failureOf], by simp⟩
  | some loader =>
    cases given : loader crate with
    | error message =>
      refine ⟨s.registry, by simp [load, new, configured, given, failureOf], ?_⟩
      rintro _ ⟨⟩
      simp [load, new, configured, given, Except.map, failureOf]
    | ok files =>
      refine ⟨files.foldl (fun r file => (r.indexFile file).2) s.registry,
        by simp [load, new, configured, given, failureOf], ?_⟩
      rintro _ ⟨⟩
      simp [load, new, configured, given, Except.map, failureOf]

theorem load_orderly (orderly : Orderly s.registry) (crate : String) :
    Orderly (s.load crate).2.registry := by
  refine load_maintains (fun files r orderly => ?_) crate orderly
  exact Registry.indexFiles_keeps (fun _ _ => ⟨fun _ orderly => orderly.openScope _ _ _, .inner⟩)
    (fun r indexed orderly => orderly.frame indexed r.names) orderly

/-- Whatever comes of a load, the loader is asked for the crate for the first time. -/
theorem load_books (booked : Booked s) (foreign : crate ≠ "crate") :
    Booked (s.load crate).2 ∧ Books s (s.load crate).2 := by
  cases known : s.loads.lookup crate with
  | some outcome =>
    rw [load_remembered known]
    exact ⟨booked, .refl s⟩
  | none =>
    have orderly := load_orderly booked.orderly crate
    have grows := load_grows s crate
    have kept {other : String} {outcome : Option String} (found : s.loads.lookup other = some outcome) :=
      load_keeps crate found
    have noted := load_noted s crate
    obtain ⟨registry, same, answer⟩ := load_new known
    rw [same] at orderly grows kept noted ⊢
    have new : crate ∉ s.asked := fun member => by
      simpa [known] using booked.noted crate member
    have last {other : String} (member : other ∈ s.asked ++ if s.loader.isSome then [crate] else [])
        (fresh : other ∉ s.asked) : other = crate ∧ s.loader.isSome = true := by
      rcases List.mem_append.mp member with old | added
      · exact absurd old fresh
      · split at added
        · next some => exact ⟨List.mem_singleton.mp added, some⟩
        · cases added
    refine ⟨⟨orderly, ?_, ?_, ?_⟩, ⟨rfl, grows, List.prefix_append _ _, fun _ _ => kept, ?_⟩⟩
    · dsimp only
      split
      · exact List.concat_eq_append ▸ booked.distinct.concat new
      · simpa using booked.distinct
    · intro member
      exact foreign (last member booked.foreign).1.symm
    · intro other member
      by_cases old : other ∈ s.asked
      · obtain ⟨outcome, found⟩ := Option.isSome_iff_exists.mp (booked.noted other old)
        rw [kept found]
        rfl
      · rw [(last member old).1, noted]
        rfl
    · intro other member fresh
      obtain ⟨rfl, configured⟩ := last member fresh
      obtain ⟨loader, given⟩ := Option.isSome_iff_exists.mp configured
      exact ⟨loader, given, by rw [noted, answer loader given]⟩

theorem loadUntilFound_books (booked : Booked s) (segments : List String) (context : ScopeId)
    {crates : List String} (failed : Option Error) (foreign : "crate" ∉ crates) :
    Booked (loadUntilFound segments context crates failed s).2 ∧
      Books s (loadUntilFound segments context crates failed s).2 := by
  induction crates generalizing failed s with
  | nil => exact ⟨booked, .refl s⟩
  | cons crate rest ih =>
    obtain ⟨apart, foreign⟩ := List.mem_cons.not.mp foreign |> not_or.mp
    obtain ⟨booked', books⟩ := load_books booked (Ne.symm apart)
    have further (failed : Option Error) := ih booked' failed foreign
    simp only [loadUntilFound]
    split
    · exact ⟨(further _).1, books.trans (further _).2⟩
    · exact ⟨(further _).1, books.trans (further _).2⟩
    · split
      · exact ⟨booked', books⟩
      · exact ⟨(further _).1, books.trans (further _).2⟩

def bookkeeping : Contract Error Resolver := .always Booked Books .refl .trans

theorem bookkeeping_law (external : Bool) (context : ScopeId) : Law external context bookkeeping where
  path segments := by
    refine Meets.of_lasting fun s booked => ?_
    change Booked (resolvePath external context segments s).2 ∧
      Books s (resolvePath external context segments s).2
    rw [resolvePath_run]
    split
    · exact ⟨booked, .refl s⟩
    · split
      · exact loadUntilFound_books booked _ _ _ (Registry.unknownCrates_foreign _ _)
      · exact ⟨booked, .refl s⟩
  made {s id} args booked _ := ⟨⟨booked.orderly.instantiate id args, booked.distinct, booked.foreign,
    booked.noted⟩, rfl,
    Registry.instantiate_grows _ _ args, List.prefix_refl _, fun _ _ found => found,
    fun _ member new => absurd member new⟩
  generic books generic := books.grows.isGeneric generic
  refused booked _ := ⟨booked, .refl _⟩

theorem bookkeeping_lasts (external : Bool) (context : ScopeId) : Lasts external context bookkeeping :=
  ⟨bookkeeping_law external context, Contract.always_lasting, fun _ booked => booked.orderly⟩

theorem Turn.take_booked (turn : Turn) (booked : Booked s) : Booked (turn.take s) ∧
    ∀ crate outcome, s.loads.lookup crate = some outcome →
      (turn.take s).loads.lookup crate = some outcome := by
  cases turn with
  | call loader external context inquiry =>
    have start : Booked { s with loader } := ⟨booked.orderly, booked.distinct, booked.foreign, booked.noted⟩
    obtain ⟨booked', books⟩ := inquiry.pursue_keeps (bookkeeping_lasts external context) start
    exact ⟨booked', books.kept⟩
  | change step => exact ⟨⟨booked.orderly.call step, booked.distinct, booked.foreign, booked.noted⟩,
      fun _ _ found => found⟩

theorem session_booked (turns : List Turn) (booked : Booked s) : Booked (session turns s) ∧
    ∀ crate outcome, s.loads.lookup crate = some outcome →
      (session turns s).loads.lookup crate = some outcome := by
  induction turns generalizing s with
  | nil => exact ⟨booked, fun _ _ found => found⟩
  | cons turn rest ih =>
    obtain ⟨booked', kept⟩ := turn.take_booked booked
    obtain ⟨booked'', kept'⟩ := ih booked'
    exact ⟨booked'', fun crate outcome found => kept' crate outcome (kept crate outcome found)⟩

end Loads

section Offline

/-- How resolution changes a resolver when it may not load: instances come to known packages, and
that is all. -/
structure Offline (s t : Resolver) : Prop where
  only : t = { s with registry := t.registry }
  grows : Grows s.registry t.registry
  added : OnlyMarkedAdded s.registry t.registry

namespace Offline

theorem refl (s : Resolver) : Offline s s := ⟨rfl, .refl _, .refl _⟩

theorem trans {s t u : Resolver} (first : Offline s t) (second : Offline t u) : Offline s u where
  only := by
    rw [second.only, first.only]
  grows := first.grows.trans second.grows
  added := first.added.trans second.added

/-- The same packages are known. -/
theorem packages {s t : Resolver} (offline : Offline s t) (path : String) :
    (t.registry.package? path).isSome = (s.registry.package? path).isSome := by
  cases found : s.registry.package? path with
  | none => rw [offline.added.absent path found]
  | some p =>
    obtain ⟨p', found', _⟩ := offline.added.wider.packages path p found
    rw [found']
    rfl

end Offline

def offline : Contract Error Resolver := .always (fun s => Orderly s.registry) Offline .refl .trans

theorem offline_law (context : ScopeId) : Law false context offline where
  path segments := by
    refine Meets.of_lasting fun s orderly => ?_
    change Orderly (resolvePath false context segments s).2.registry ∧
      Offline s (resolvePath false context segments s).2
    rw [resolvePath_run]
    split
    · exact ⟨orderly, .refl s⟩
    · exact ⟨orderly, .refl s⟩
  made {s id} args orderly generic := ⟨orderly.instantiate id args, rfl,
    Registry.instantiate_grows _ _ args, .instantiate orderly generic args⟩
  generic offline generic := offline.grows.isGeneric generic
  refused orderly _ := ⟨orderly, .refl _⟩

theorem offline_lasts (context : ScopeId) : Lasts false context offline :=
  ⟨offline_law context, Contract.always_lasting, fun _ orderly => orderly⟩

end Offline

/-- Over any session of calls, whatever the loader answers and whichever calls may load, the loader is
asked for each crate at most once and never for the crate at hand. What it answers is remembered for
good, a failure like a success: if the crate is needed again, the answer is the remembered one, and a path
that is not found fails with the last message that is remembered for its crates. A call that may not load
does not come to the loader, and no file or package comes to the registry. -/
theorem loads_once (calls : List Registry.Call) (turns : List Turn) :
    let s := session turns { registry := Registry.run calls .empty }
    (s.asked.Nodup ∧ "crate" ∉ s.asked) ∧
    (∀ crate ∈ s.asked, ∃ outcome, s.loads.lookup crate = some outcome) ∧
    (∀ crate outcome, s.loads.lookup crate = some outcome →
      (∀ later, (session later s).loads.lookup crate = some outcome) ∧
        s.load crate = (reported outcome, s)) ∧
    (∀ loader external context inquiry,
      let t := (Turn.call loader external context inquiry).take s
      ∀ crate ∈ t.asked, crate ∉ s.asked → ∃ given, loader = some given ∧
        t.loads.lookup crate = some (failureOf ((given crate).map fun _ => true))) ∧
    (∀ loader context segments e t,
      resolvePath true context segments { s with loader } = (.error e, t) →
        e = (t.recalled none (s.pending context segments)).getD
          (.unresolvable (Text.joinSegments segments))) ∧
    ∀ loader context inquiry,
      let t := (Turn.call loader false context inquiry).take s
      t.asked = s.asked ∧ t.loads = s.loads ∧ t.registry.indexed = s.registry.indexed ∧
        t.registry.scopes = s.registry.scopes ∧
          ∀ path, (t.registry.package? path).isSome = (s.registry.package? path).isSome := by
  intro s
  have empty : Booked { registry := Registry.run calls .empty } :=
    ⟨Registry.orderly_run calls, List.nodup_nil, by simp, by simp⟩
  have booked : Booked s := (session_booked turns empty).1
  have given (loader : Option Loader) : Booked { s with loader } :=
    ⟨booked.orderly, booked.distinct, booked.foreign, booked.noted⟩
  refine ⟨⟨booked.distinct, booked.foreign⟩, fun crate member => ?_, fun crate outcome found => ?_,
    fun loader external context inquiry => ?_, fun loader context segments e t failed => ?_,
    fun loader context inquiry => ?_⟩
  · exact Option.isSome_iff_exists.mp (booked.noted crate member)
  · exact ⟨fun later => (session_booked later booked).2 crate outcome found, load_remembered found⟩
  · exact (inquiry.pursue_keeps (bookkeeping_lasts external context) (given loader)).2.answered
  · obtain ⟨_, missed⟩ := resolvePath_error' failed
    exact (loadUntilFound_missed missed).2.1.symm
  · intro t
    have offline := (inquiry.pursue_keeps (offline_lasts context) (given loader).orderly).2
    have same : t = { s with loader, registry := t.registry } := offline.only
    refine ⟨?_, ?_, offline.added.indexed, offline.added.scopes, offline.packages⟩
    · rw [same]
    · rw [same]

end Resolver

end ApiSchema
