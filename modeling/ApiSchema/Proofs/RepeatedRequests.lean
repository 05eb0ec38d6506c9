import ApiSchema.Proofs.LoadOutcomes
import ApiSchema.Proofs.Requests
import ApiSchema.Proofs.WrittenNames

/-! A request that is made again. The first time it may add instances, names and definitions; the second
time every path it comes to is looked up as before, because instances have names that no path can spell,
every instance is found that was made, and the declaration it leads to is in the memo. So it has the same
answer and leaves the state as it is. -/

namespace ApiSchema

open Steps
open Text (Undashed Unmarked)

namespace Registry

variable {r r' : Registry}

/-- Instances change nothing of what a path denotes. -/
theorem atHand?_added (clean : Clean r) (added : OnlyMarkedAdded r r') (orderly' : Orderly r') (context : ScopeId)
    {segments : List String} (written : ∀ segment ∈ segments, Unmarked segment) :
    r'.atHand? false context segments = r.atHand? false context segments := by
  by_cases known : context < r.scopes.length
  · exact atHand?_same clean orderly' added.wider false written known
      (undisturbed_of_absent added.absent context segments)
  · -- nothing is found in a scope that is not there
    have absent : r.scope? context = none := List.getElem?_eq_none (Nat.le_of_not_lt known)
    have absent' : r'.scope? context = none := by rw [scope?, added.scopes]; exact absent
    simp only [atHand?, lookupPath, absent, absent', Search.nothing, Bool.false_and, Bool.false_eq_true,
      if_false]

/-- The call indexes only what was read from a text, under a path without the mark of instances. -/
def Call.Sourced : Call → Prop
  | index package file => Undashed package ∧ ∃ text, Source.parseFile? text = some file.items
  | _ => True

theorem Clean.call {call : Call} (clean : Clean r) (sourced : call.Sourced) : Clean (call.apply r) := by
  rcases call_cases call r with ⟨package, file, rfl⟩ | ⟨scopes, _⟩
  · obtain ⟨home, text, parsed⟩ := sourced
    have undashed : SourceFile.Undashed { file with module := package } :=
      SourceFile.undashed_of_parsed home parsed
    have indexed := @Clean.indexFiles r clean [{ file with module := package }] (by simpa using undashed)
    exact indexed
  · exact ⟨clean.orderly.call call, by rw [scopes]; exact clean.undashed⟩

end Registry

namespace Resolver

open Registry (Clean Grows Orderly OnlyMarkedAdded)

variable {context : ScopeId} {s later : Resolver} {segments : List String} {args : List TypeExpr}

/-- A path that was resolved while only instances came to the registry is resolved as before when more
have come. -/
theorem repeats_offline {α : Type} {names : List String} {last : Except Error α × Resolver}
    {visit : Resolver × List String} (visited : Visited offline false context names s last visit)
    (clean : Clean s.registry) (written : ∀ name ∈ names, Unmarked name)
    (added : OnlyMarkedAdded s.registry later.registry) (orderly : Orderly later.registry) :
    Repeats false context later visit := by
  have plain (segment : String) (member : segment ∈ visit.2) := written segment (visited.named segment member)
  have first := Registry.atHand?_added clean visited.before.added visited.holds context plain
  have again := Registry.atHand?_added clean added orderly context plain
  unfold Repeats
  rw [resolvePath_run, resolvePath_run, first, again]
  cases s.registry.atHand? false context visit.2 <;> rfl

/-- A type that was resolved without loading is resolved as before, and the state stays as it is. -/
theorem resolveExpr_again (clean : Clean s.registry)
    (written : ∀ name ∈ TypeExpr.names (.named segments args), Unmarked name)
    (added : OnlyMarkedAdded s.registry later.registry) (orderly : Orderly later.registry)
    (grows : Grows (after (resolveExpr false context (.named segments args)) s).2.registry later.registry) :
    after (resolveExpr false context (.named segments args)) later =
      ((after (resolveExpr false context (.named segments args)) s).1, later) := by
  have lasts := offline_lasts context
  have start : offline.holds s := clean.orderly
  refine named_repeats lasts start (fun next => bindArguments_repeats lasts args next) ?_ grows
  intro visit member
  have visited := named_visited lasts start (fun next => argumentsVisits_visited lasts args next) visit member
  exact repeats_offline visited clean written added orderly

end Resolver

namespace Synthesis

open Registry (Clean Grows Orderly OnlyMarkedAdded)

section Still

/-- How a synthesis changes the registry when nothing may be loaded: names are asked for and instances
come to it. -/
structure Still (g g' : Generator) : Prop where
  grows : Grows g.registry g'.registry
  added : OnlyMarkedAdded g.registry g'.registry

namespace Still

variable {g g' g'' : Generator}

theorem refl (g : Generator) : Still g g := ⟨.refl _, .refl _⟩

theorem trans (first : Still g g') (second : Still g' g'') : Still g g'' :=
  ⟨first.grows.trans second.grows, first.added.trans second.added⟩

/-- What is done to the rest of the state does not matter. -/
theorem congr {t t' : Generator} (still : Still g g') (first : t.registry = g.registry)
    (last : t'.registry = g'.registry) : Still t t' :=
  ⟨by rw [first, last]; exact still.grows, by rw [first, last]; exact still.added⟩

theorem naming (id : DeclId) (g : Generator) : Still g (g.naming id) := by
  obtain ⟨names, same⟩ := Registry.definitionName_frame id g.registry
  refine ⟨Registry.definitionName_grows _ _, ?_⟩
  change OnlyMarkedAdded g.registry (g.registry.definitionName id).2
  rw [same]
  exact .frame _ names

end Still

def stillness : Contract Failure Generator where
  holds g := Orderly g.registry
  moves := Still
  fails e _ g' := Fatal e ∧ Orderly g'.registry ∧ Still _ g'
  refl := .refl
  trans := .trans
  fails_after first failed := ⟨failed.1, failed.2.1, first.trans failed.2.2⟩

theorem offline_still {g : Generator} {s : Resolver} (offline : Resolver.Offline g.resolver s) :
    Still g { g with resolver := s } := ⟨offline.grows, offline.added⟩

/-- Whatever comes of it, resolution keeps the tables in order and is still. -/
theorem resolving_still {context : ScopeId} {type : TypeExpr} {g : Generator} {s : Resolver}
    {answer : Except Error Resolution} (orderly : Orderly g.registry)
    (run : after (Resolver.resolveExpr false context type) g.resolver = (answer, s)) :
    Orderly s.registry ∧ Still g { g with resolver := s } := by
  have lasting := (Resolver.resolveExpr_meets (Resolver.offline_law context) type g.resolver orderly).lasting
    Contract.always_lasting
  rw [run] at lasting
  exact ⟨lasting.1, offline_still lasting.2⟩

theorem stillness_law {config : Config} (off : config.parseDependencies = false) :
    Law config stillness (fun _ _ => True) (fun _ _ => True) := by
  refine .of_any (fun failed => failed.1) (fun _ _ orderly => ⟨trivial, orderly, .refl _⟩)
    fun context type => ?_
  rw [off]
  exact resolving_of_left fun g orderly => resolving_still orderly rfl

theorem stillness_cases : EachCaseKeeps stillness stillness fun _ _ => True where
  memo _ _ := trivial
  naming id g orderly := ⟨orderly.call (.definitionName id), .naming id g⟩
  cycle {id name g} orderly _ _ := by
    obtain ⟨forced, same⟩ := Generator.force_frame id g
    rw [same]
    exact ⟨orderly, .congr (.refl g) rfl rfl, trivial⟩
  begun within := by
    change Orderly _
    rw [within.begun.registry]
    exact within.holds
  defined within orderly still _ finished := by
    have last := finished.registry
    refine ⟨?_, still.congr within.begun.registry.symm last, trivial⟩
    change Orderly _
    rw [last]
    exact orderly
  inlined within orderly still _ _ finished := by
    have last := finished.registry
    refine ⟨?_, still.congr within.begun.registry.symm last, trivial⟩
    change Orderly _
    rw [last]
    exact orderly
  undone {id name e g s t} within failed := by
    obtain ⟨fatal, orderly, still⟩ := failed
    obtain ⟨memo, definitions, journal, same⟩ :=
      Generator.rollback_frame g.journal.length name (((t.leave id).unforce id).undefine name)
    rw [same]
    exact ⟨fatal, orderly, still.congr within.begun.registry.symm rfl⟩
  abandoned within failed := by
    obtain ⟨fatal, orderly, still⟩ := failed
    exact ⟨fatal, orderly, still.congr within.begun.registry.symm rfl⟩

theorem synthesizeWith_still {config : Config} (off : config.parseDependencies = false) (fuel : Nat)
    (id : DeclId) : Meets stillness (synthesizeWith config fuel id) fun _ _ => True :=
  synthesizeWith_meets (stillness_law off) stillness_cases
    (fun orderly => ⟨trivial, orderly, .refl _⟩) fuel id

end Still

section Again

variable {config : Config} {synth : DeclId → Synth Schema} {id : DeclId} {g g' : Generator} {x : Schema}

/-- What a declaration got that was not under way is remembered, unless there is nothing to make of it
but its name. -/
theorem synthesizeOne_remembers (idle : id ∉ g.inProgress)
    (run : after (synthesizeOne config synth id) g = (.ok x, g')) : g'.memo.lookup id = some x ∨
      (g.memo.lookup id = none ∧ (g.registry.get id).body = .interface ∧ g' = g.naming id ∧
        x = { Schema.object with description := (g.registry.get id).doc }) := by
  cases found : g.memo.lookup id with
  | some y =>
    rw [synthesizeOne_memo found] at run
    cases run
    exact .inl found
  | none =>
    rw [synthesizeOne_start found idle] at run
    split at run
    · next target body =>
      rcases member : after (memberSchema config synth (g.registry.get id).scope target)
        ((g.naming id).enter id) with ⟨e | made, t⟩
      · rw [synthesizeSynonym_error member] at run
        cases run
      · by_cases inline : Inline config id made t
        · rw [synthesizeSynonym_inline inline member] at run
          cases run
          exact .inl (Generator.finished_inline id (g.nameOf id) _ t).own
        · rw [synthesizeSynonym_definition inline member] at run
          cases run
          exact .inl (Generator.finished_definition id (g.nameOf id) _ _ t).own
    · next body =>
      cases run
      exact .inr ⟨rfl, body, rfl, rfl⟩
    · next body =>
      rcases member : after (bodySchema config synth (g.registry.get id))
        (opened id (g.nameOf id) (g.naming id)) with ⟨e | made, t⟩
      · rw [synthesizeNamed_error member] at run
        cases run
      · rw [synthesizeNamed_ok member] at run
        cases run
        exact .inl (Generator.finished_definition id (g.nameOf id) _ _ t).own

/-- Once it has its name, asking for it changes nothing. -/
theorem naming_again (id : DeclId) (g : Generator) : (g.naming id).naming id = g.naming id := by
  have same : (g.naming id).registry.definitionName id = (g.nameOf id, (g.naming id).registry) :=
    Registry.Grows.called_eq (.refl _)
  simp only [Generator.naming, Generator.registry] at same ⊢
  rw [same]

/-- A declaration that got a schema gets the same one when it is asked for again, and nothing changes. -/
theorem synthesizeWith_again {fuel fuel' : Nat} (enough : fuel ≤ fuel') (idle : g.inProgress = [])
    (run : after (synthesizeWith config fuel id) g = (.ok x, g')) :
    after (synthesizeWith config fuel' id) g' = (.ok x, g') := by
  cases fuel with
  | zero => cases run
  | succ fuel =>
    obtain ⟨more, rfl⟩ : ∃ more, fuel' = more + 1 := ⟨fuel' - 1, by omega⟩
    rw [synthesizeWith] at run ⊢
    rcases synthesizeOne_remembers (by simp [idle]) run with found | ⟨fresh, body, rfl, rfl⟩
    · exact synthesizeOne_memo found
    · have same : (g.naming id).registry.get id = g.registry.get id :=
        Registry.definitionName_get g.registry id id
      have fresh' : (g.naming id).memo.lookup id = none := fresh
      have idle' : id ∉ (g.naming id).inProgress := by simp [Generator.naming, idle]
      rw [synthesizeOne_start fresh' idle', same, naming_again]
      simp only [body]
      rfl

theorem map_again {α β : Type} {first second : Synth α} (f : α → β) {b : β}
    (again : ∀ a, after first g = (.ok a, g') → after second g' = (.ok a, g'))
    (run : after (do return f (← first)) g = (.ok b, g')) :
    after (do return f (← second)) g' = (.ok b, g') := by
  rw [run_map] at run ⊢
  rcases inner : after first g with ⟨e | a, t⟩
  · rw [inner] at run
    cases run
  · rw [inner] at run
    cases run
    rw [again a inner]
    rfl

/-- What a resolved reference leads to, made in a state where nothing is under way, is still and is the
same when it is asked for again. -/
theorem resolutionSchema_again (off : config.parseDependencies = false) {fuel fuel' : Nat}
    (enough : fuel ≤ fuel') (orderly : Orderly g.registry) (idle : g.inProgress = [])
    {resolution : Resolution}
    (run : after (resolutionSchema (synthesizeWith config fuel) resolution) g = (.ok x, g')) :
    Orderly g'.registry ∧ Still g g' ∧
      after (resolutionSchema (synthesizeWith config fuel') resolution) g' = (.ok x, g') := by
  cases resolution with
  | primitive p =>
    cases run
    exact ⟨orderly, .refl g, rfl⟩
  | any =>
    cases run
    exact ⟨orderly, .refl g, rfl⟩
  | declaration id =>
    obtain ⟨orderly', still, _⟩ := (synthesizeWith_still off fuel id g orderly).ok run
    exact ⟨orderly', still, synthesizeWith_again enough idle run⟩

/-- A type that got a schema gets the same one when it is asked for again, and nothing changes. -/
theorem exprSchema_again (off : config.parseDependencies = false) {context : ScopeId} {fuel fuel' : Nat}
    (enough : fuel ≤ fuel') : (type : TypeExpr) → {g g' : Generator} → {x : Schema} →
    Clean g.registry → g.inProgress = [] → (∀ name ∈ type.names, Unmarked name) →
    after (exprSchema config (synthesizeWith config fuel) context type) g = (.ok x, g') →
      after (exprSchema config (synthesizeWith config fuel') context type) g' = (.ok x, g')
  | .primitive p, g, g', x, _, _, _, run => by
    cases run
    rfl
  | .interface, g, g', x, _, _, _, run => by
    cases run
    rfl
  | .function, g, g', x, _, _, _, run => by
    cases run
    rfl
  | .param _, g, g', x, _, _, _, run => by
    cases run
    rfl
  | .resolved id, g, g', x, _, idle, _, run => synthesizeWith_again enough idle run
  | .optional inner, g, g', x, clean, idle, plain, run =>
    exprSchema_again off enough inner clean idle plain run
  | .pointer inner, g, g', x, clean, idle, plain, run =>
    exprSchema_again off enough inner clean idle plain run
  | .array inner, g, g', x, clean, idle, plain, run =>
    map_again Schema.array (fun _ => exprSchema_again off enough inner clean idle plain) run
  | .map key value, g, g', x, clean, idle, plain, run =>
    map_again Schema.map (fun _ => exprSchema_again off enough value clean idle fun name member =>
      plain name (List.mem_append_right _ member)) run
  | .named segments args, g, g', x, clean, idle, plain, run => by
    rw [exprSchema, off] at run ⊢
    rcases first : after (Resolver.resolveExpr false context (.named segments args)) g.resolver with
      ⟨e | resolution, s⟩
    · rw [run_bind_error (after_resolving_error first)] at run
      cases run
    · rw [run_bind_ok (after_resolving_ok first)] at run
      have meets := Resolver.resolveExpr_meets (Resolver.offline_law context) (.named segments args)
        g.resolver clean.orderly
      obtain ⟨orderly, offline, _⟩ := meets.ok first
      have orderly : Orderly (Generator.registry { g with resolver := s }) := orderly
      obtain ⟨orderly', still, again⟩ := resolutionSchema_again off enough orderly idle run
      have same := Resolver.resolveExpr_again clean plain (offline.added.trans still.added) orderly'
        (by rw [first]; exact still.grows)
      rw [first] at same
      rw [run_bind_ok (after_resolving_ok same)]
      exact again

end Again

section Runs

/-- The states of a generator over any run: declarations and files come to its registry, and it serves
requests of any kind, with any fuel, whether they succeed or not. -/
inductive Ran (config : Config) : Generator → Prop where
  | fresh (loader : Option Loader) : Ran config { resolver := { loader } }
  | changed {g : Generator} (call : Registry.Call) (sourced : call.Sourced) (ran : Ran config g) :
      Ran config { g with resolver := { g.resolver with registry := call.apply g.registry } }
  | served {g : Generator} (fuel : Nat) (request : Request) (ran : Ran config g) :
      Ran config (after (request.serve config fuel) g).2

variable {config : Config} {g g' : Generator}

theorem serve_still (off : config.parseDependencies = false) (clean : Clean g.registry) (fuel : Nat)
    (request : Request) : Clean (after (request.serve config fuel) g).2.registry := by
  have meets := serve_meets (stillness_law off) fuel (synthesizeWith_still off fuel) request g clean.orderly
  obtain ⟨orderly, still⟩ := meets.lasting (lenient_lasting fun _ _ _ failed => failed.2)
  refine ⟨orderly, ?_⟩
  rw [still.added.scopes]
  exact clean.undashed

theorem Ran.clean (off : config.parseDependencies = false) (ran : Ran config g) : Clean g.registry := by
  induction ran with
  | fresh loader => exact ⟨Registry.orderly_empty, by simp [Generator.registry]⟩
  | changed call sourced _ ih => exact ih.call sourced
  | served fuel request _ ih => exact serve_still off ih fuel request

theorem Ran.idle (ran : Ran config g) : g.inProgress = [] ∧ ∃ lost, Generator.Consistent lost g := by
  induction ran with
  | fresh loader => exact idle_consistent_fresh _
  | changed call _ _ ih =>
    obtain ⟨idle, lost, consistent⟩ := ih
    exact ⟨idle, lost, consistent.grows (Registry.call_grows call _)⟩
  | served fuel request _ ih => exact serve_idle_consistent ih fuel request

theorem Ran.run (calls : List Registry.Call) (sourced : ∀ call ∈ calls, call.Sourced) (ran : Ran config g) :
    Ran config { g with resolver := { g.resolver with registry := Registry.run calls g.registry } } := by
  induction calls generalizing g with
  | nil => exact ran
  | cons call rest ih =>
    exact ih (fun next later => sourced next (.tail _ later)) (.changed call (sourced call (.head _)) ran)

def indexing (files : List (String × String × String)) : List Registry.Call :=
  files.map fun (path, module, text) =>
    .index module { path, module, items := (Source.parseFile? text).getD [] }

def knowing (files : List (String × String × String)) : Generator :=
  { resolver := { registry := Registry.run (indexing files) .empty } }

theorem Ran.knowing {files : List (String × String × String)}
    (plain : ∀ file ∈ files, Undashed file.2.1 ∧ (Source.parseFile? file.2.2).isSome) :
    Ran config (knowing files) := by
  refine (Ran.fresh none).run (indexing files) ?_
  intro call member
  obtain ⟨file, given, rfl⟩ := List.mem_map.mp member
  obtain ⟨home, parses⟩ := plain file given
  obtain ⟨items, parsed⟩ := Option.isSome_iff_exists.mp parses
  exact ⟨home, file.2.2, by rw [parsed]; rfl⟩

/-- Let nothing be loaded, and let all files that are indexed be read from texts, under paths without the
mark of instances. Whatever has happened before, a reference that got a schema gets the same one when it is asked
for again, and the state stays as it is: no definition, memo entry or declaration comes or goes. -/
theorem request_repeats (off : config.parseDependencies = false) (ran : Ran config g) {context : ScopeId}
    {text : String} {fuel fuel' : Nat} (enough : fuel ≤ fuel') {x : Schema}
    (first : after ((Request.reference context text).serve config fuel) g = (.ok x, g')) :
    after ((Request.reference context text).serve config fuel') g' = (.ok x, g') := by
  have plain := TypeExpr.namesIn_unmarked text
  unfold TypeExpr.namesIn at plain
  unfold Request.serve schemaOfReferenceWith at first ⊢
  cases parsed : TypeExpr.parse? text with
  | none =>
    simp only [parsed] at first
    cases first
  | some expr =>
    simp only [parsed] at plain first ⊢
    exact exprSchema_again off enough expr (ran.clean off) ran.idle.1 plain first

/-- A page of pages asked for twice, in a module that imports it. -/
theorem request_repeats_page :
    let g := knowing [("src/web.rs", "crate::web", "pub struct Page<T> { pub items: Vec<T> }"),
      ("src/api.rs", "crate::api", "use super::web::Page;")]
    let request := Request.reference 1 "Vec<Page<Option<Page<i32>>>>"
    let first := after (request.serve {} nesting) g
    let x := Schema.array (.ref "web.Page-web_Page-i32")
    (first.1 = .ok x ∧ first.2.definitions.keys = ["web.Page-i32", "web.Page-web_Page-i32"]) ∧
      after (request.serve {} nesting) first.2 = (.ok x, first.2) := by
  intro g request first x
  have made : first.1 = .ok x ∧ first.2.definitions.keys = ["web.Page-i32", "web.Page-web_Page-i32"] := by
    decide +kernel
  have ran : Ran {} g := Ran.knowing (by decide +kernel)
  have run : after (request.serve {} nesting) g = (.ok x, first.2) := by rw [← made.1]
  exact ⟨made, request_repeats rfl ran (Nat.le_refl _) run⟩

/-- An import of the parent, in a module whose parent has the name of an instance. -/
def strayFiles : List (String × String × String) :=
  [("src/lib.rs", "crate", "pub struct Page<T> { pub items: Vec<T> }"),
    ("src/other.rs", "crate::other", "pub struct X { pub page: crate::Page<i32> }"),
    ("src/x.rs", "crate::Page-i32::x", "use super as X; use crate::other::*;")]

/-- The instance that the first request makes is what the import stands for in the second. -/
theorem request_strays :
    let first := after (schemaOfReference {} 2 "X") (knowing strayFiles)
    let second := after (schemaOfReference {} 2 "X") first.2
    first.1 = .ok (.ref "other.X") ∧ second.1 = .ok (.ref "crate.Page-i32") := by
  decide +kernel

end Runs

end Synthesis

end ApiSchema
