import ApiSchema.Proofs.Repetition

/-! Whether an answer stays. A resolver serves calls one after another and may load crates for each.
Where a reference was resolved, the same call gives the same answer later and changes nothing, as long as
no package that was looked for in vain has become known in between. A path is looked up by what is known
at the time, though, so an import whose crate is not loaded is passed over, and comes first once another
call has loaded the crate. -/

namespace ApiSchema.Resolver

open Registry (Undisturbed)
open Steps
open Text (Unmarked)

structure Query where
  external : Bool
  context : ScopeId
  reference : String

def serve (queries : List Query) (s : Resolver) : Resolver :=
  queries.foldl (fun s query => (after (resolve query.external query.context query.reference) s).2) s

def start (files : List SourceFile) (loader : Option Loader) : Resolver :=
  { registry := files.foldl (fun r file => (r.indexFile file).2) .empty, loader }

theorem start_cleanRooted {files : List SourceFile} {loader : Option Loader}
    (written : ∀ file ∈ files, file.Written) (rooted : ∀ given, loader = some given → given.Rooted) :
    CleanRooted (start files loader) where
  clean := Registry.Clean.indexFiles ⟨Registry.orderly_empty, by simp [Registry.empty]⟩
    fun file member => (written file member).undashed
  rooted := rooted

theorem serve_keeps (queries : List Query) {s : Resolver} (inv : CleanRooted s) :
    CleanRooted (serve queries s) ∧ KeepsLookups s (serve queries s) := by
  induction queries generalizing s with
  | nil => exact ⟨inv, .refl s⟩
  | cons query rest ih =>
    have meets := resolve_meets (steady_law query.external query.context) query.reference
    obtain ⟨inv', kept⟩ := steady_after (meets s inv)
    obtain ⟨inv'', kept'⟩ := ih inv'
    exact ⟨inv'', kept.trans kept'⟩

/-- An answer is kept over all later calls, as long as nothing disturbs the lookup of one of the paths. -/
theorem answer_kept {files : List SourceFile} {loader : Option Loader}
    (written : ∀ file ∈ files, file.Written) (rooted : ∀ given, loader = some given → given.Rooted)
    (earlier later : List Query) {context : ScopeId} {reference : String} {x : Resolution}
    (known : context < (serve earlier (start files loader)).registry.scopes.length)
    (named : ∀ name ∈ TypeExpr.namesIn reference, Unmarked name)
    (found : (after (resolve true context reference) (serve earlier (start files loader))).1 = .ok x) :
    let first := serve earlier (start files loader)
    let last := serve later (after (resolve true context reference) first).2
    (∀ visit ∈ visits true context reference first,
      Undisturbed (resolvePath true context visit.2 visit.1).2.registry last.registry context visit.2) →
    after (resolve true context reference) last = (.ok x, last) := by
  intro first last undisturbed
  have inv : CleanRooted first := (serve_keeps earlier (start_cleanRooted written rooted)).1
  obtain ⟨inv', kept⟩ := steady_after (resolve_meets (steady_law true context) reference first inv)
  obtain ⟨inv'', kept'⟩ := serve_keeps later inv'
  have each : ∀ visit ∈ visits true context reference first, Repeats true context last visit := by
    intro visit member
    have visited := visits_visited inv visit member
    refine repeats_of_undisturbed visited.holds inv'' (visited.onward.kept.trans kept')
      (fun segment inside => named segment (visited.named segment inside)) ?_
      (visited.onward.ok (by rw [found]; rfl)) (undisturbed visit member)
    exact Nat.lt_of_lt_of_le known visited.before.wider.scopes.length_le
  rw [resolve_repeats inv each kept'.grows, found]

/-- A page of a post that has to be loaded, asked for again after a crate with another post has been
loaded. -/
theorem answer_kept_page :
    let files := [SourceFile.plain "src/web.rs" "crate::web" [] [("Page", ["T"])],
      .plain "src/api.rs" "crate::api" [.path "crate" (.path "web" .glob), .path "ext" (.name "Post")] []]
    let loader := Loader.plain [("ext", [], [("Post", [])]), ("more", [], [("Post", [])])]
    let first := serve [⟨false, 1, "Page<Post>"⟩] (start files (some loader))
    let last := serve [⟨true, 1, "more::Post"⟩] (after (resolve true 1 "Page<Post>") first).2
    (loader.Rooted ∧ first.asked = [] ∧ last.asked = ["ext", "more"]) ∧
      after (resolve true 1 "Page<Post>") last = (.ok (.declaration 2), last) := by
  intro files loader first last
  have written : ∀ file ∈ files, file.Written := by
    intro file member
    rcases List.mem_cons.mp member with rfl | member
    · exact SourceFile.plain_written (by decide +kernel)
    · rw [List.mem_singleton.mp member]
      exact SourceFile.plain_written (by decide +kernel)
  have rooted : loader.Rooted := Loader.plain_rooted (by decide +kernel)
  have found : (after (resolve true 1 "Page<Post>") first).1 = .ok (.declaration 2) :=
    ok_of_toOption (by decide +kernel)
  have undisturbed : ∀ visit ∈ visits true 1 "Page<Post>" first,
      ((resolvePath true 1 visit.2 visit.1).2.registry.lookupPath visit.2 1).found.isSome = true ∧
        ∀ path ∈ ((resolvePath true 1 visit.2 visit.1).2.registry.lookupPath visit.2 1).tried,
          Registry.Unchanged (resolvePath true 1 visit.2 visit.1).2.registry last.registry path := by
    decide +kernel
  refine ⟨⟨rooted, by decide +kernel⟩, ?_⟩
  exact answer_kept written (fun _ given => by cases given; exact rooted) [⟨false, 1, "Page<Post>"⟩]
    [⟨true, 1, "more::Post"⟩] (by decide +kernel) (by decide +kernel) found
    fun visit member => Registry.undisturbed_of_found (undisturbed visit member).1
      (undisturbed visit member).2

/-- The import of `Post` is passed over for the glob while its crate is not loaded; once another call has
loaded the crate, the import comes first. -/
theorem import_passed_over :
    let files := [SourceFile.plain "src/models.rs" "crate::models" [] [("Post", [])],
      .plain "src/api.rs" "crate::api" [.path "ext" (.name "Post"), .path "crate" (.path "models" .glob)] []]
    let loader := Loader.plain [("ext", [], [("Post", []), ("Other", [])])]
    let first := after (resolve true 1 "Post") (start files (some loader))
    let last := serve [⟨true, 1, "ext::Other"⟩] first.2
    loader.Rooted ∧ first.1.toOption = some (.declaration 0) ∧
      (after (resolve true 1 "Post") last).1.toOption = some (.declaration 1) :=
  ⟨Loader.plain_rooted (by decide +kernel), by decide +kernel, by decide +kernel⟩

end ApiSchema.Resolver
