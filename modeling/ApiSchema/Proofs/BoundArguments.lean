import ApiSchema.Proofs.RepeatedRequests

/-! Arguments that are bound. A type is made a schema where it stands, and its paths are resolved on the way;
as an argument of a generic its paths are resolved first, and what they denote takes their place. Resolution
goes by the same paths in both, only later in the first: then the instances that binding has made are there.
They are found by no path, so the type says what it said before, and the bound one says it in any scope. -/

namespace ApiSchema

open Steps
open Text (Unmarked)

namespace Resolver

open Registry (Clean)

variable {context : ScopeId} {s t : Resolver}

/-- A path with its arguments is bound to what it resolves to. -/
theorem bindArgument_named {segments : List String} {args : List TypeExpr} {bound : TypeExpr}
    (run : after (bindArgument false context (.named segments args)) s = (.ok bound, t)) :
    ∃ resolution, after (resolveExpr false context (.named segments args)) s = (.ok resolution, t) ∧
      bound = resolution.toExpr := by
  rw [bindArgument] at run
  obtain ⟨resolution, u, first, last⟩ := of_bind_ok run
  cases last
  exact ⟨resolution, first, rfl⟩

theorem bindArgument_clean {type bound : TypeExpr} (clean : Clean s.registry)
    (run : after (bindArgument false context type) s = (.ok bound, t)) : Clean t.registry := by
  obtain ⟨orderly, offline, _⟩ := (bindArgument_meets (offline_law context) type s clean.orderly).ok run
  exact ⟨orderly, by rw [offline.added.scopes]; exact clean.undashed⟩

/-- A path that has just been resolved is resolved again as it was, and the state stays as it is. -/
theorem resolveExpr_at_once (clean : Clean s.registry) {segments : List String} {args : List TypeExpr}
    (written : ∀ name ∈ TypeExpr.names (.named segments args), Unmarked name) {resolution : Resolution}
    (run : after (resolveExpr false context (.named segments args)) s = (.ok resolution, t)) :
    after (resolveExpr false context (.named segments args)) t = (.ok resolution, t) := by
  obtain ⟨orderly, offline, _⟩ := (resolveExpr_meets (offline_law context) _ s clean.orderly).ok run
  have again := resolveExpr_again clean written offline.added orderly (by rw [run]; exact .refl _)
  rwa [run] at again

end Resolver

namespace Synthesis

open Registry (Clean)

section Binding

variable {config : Config} {synth : DeclId → Synth Schema} {context context' : ScopeId}

/-- What a path denotes has the same schema when it is written as a type. -/
theorem exprSchema_toExpr (resolution : Resolution) :
    exprSchema config synth context resolution.toExpr = resolutionSchema synth resolution := by
  cases resolution <;> rfl

/-- In the state that binding leaves, the type and what it is bound to are made the same schema, and on the
way the same is done. By recursion on the type: only a path needs the state to be the one binding has left. -/
theorem exprSchema_bound (off : config.parseDependencies = false) : (type : TypeExpr) →
    {s t : Resolver} → {bound : TypeExpr} → Clean s.registry → (∀ name ∈ type.names, Unmarked name) →
    after (Resolver.bindArgument false context type) s = (.ok bound, t) →
    ∀ g : Generator, g.resolver = t →
      after (exprSchema config synth context type) g = after (exprSchema config synth context' bound) g
  | .named segments args, s, t, bound, clean, plain, run, g, there => by
    obtain ⟨resolution, first, rfl⟩ := Resolver.bindArgument_named run
    have again := Resolver.resolveExpr_at_once clean plain first
    rw [← there] at again
    rw [exprSchema, off, run_bind_ok (after_resolving_ok again), exprSchema_toExpr]
  | .array inner, s, t, bound, clean, plain, run, g, there => by
    rw [Resolver.bindArgument] at run
    obtain ⟨element, u, first, last⟩ := of_bind_ok run
    cases last
    rw [exprSchema, exprSchema, run_map, run_map, exprSchema_bound off inner clean plain first g there]
  | .map key value, s, t, bound, clean, plain, run, g, there => by
    -- the keys leave no trace in a schema, but binding them comes first
    rw [Resolver.bindArgument] at run
    obtain ⟨keys, u, first, rest⟩ := of_bind_ok run
    obtain ⟨values, v, second, last⟩ := of_bind_ok rest
    cases last
    have plain' (name : String) (member : name ∈ value.names) : Unmarked name :=
      plain name (List.mem_append_right _ member)
    rw [exprSchema, exprSchema, run_map, run_map,
      exprSchema_bound off value (Resolver.bindArgument_clean clean first) plain' second g there]
  | .pointer inner, s, t, bound, clean, plain, run, g, there => by
    rw [Resolver.bindArgument] at run
    exact exprSchema_bound off inner clean plain run g there
  | .optional inner, s, t, bound, clean, plain, run, g, there => by
    rw [Resolver.bindArgument] at run
    exact exprSchema_bound off inner clean plain run g there
  | .primitive _, _, _, _, _, _, run, _, _ => by
    cases run
    rfl
  | .param _, _, _, _, _, _, run, _, _ => by
    cases run
    rfl
  | .interface, _, _, _, _, _, run, _, _ => by
    cases run
    rfl
  | .function, _, _, _, _, _, run, _, _ => by
    cases run
    rfl
  | .resolved _, _, _, _, _, _, run, _, _ => by
    cases run
    rfl

end Binding

section Meaning

variable {config : Config} {g : Generator} {params : List String} {text : String} {type bound : TypeExpr}
  {context : ScopeId} {s : Resolver}

/-- Let nothing be loaded, and let all files that are indexed be read from texts, under paths without the
mark of instances. Whatever has happened before, a type that is read from a text is bound to one without
names and without wrappers. In the state that binding leaves, whatever else there is in it, both are made
the same schema or fail with the same error, the bound one in any scope, and what they leave is the same. -/
theorem binding_keeps_meaning (off : config.parseDependencies = false) (ran : Ran config g)
    (read : (Source.parseType? text).map (TypeExpr.ofTerm params) = some type)
    (run : after (Resolver.bindArgument config.parseDependencies context type) g.resolver =
      (.ok bound, s)) :
    TypeExpr.Bound bound ∧ ∀ (fuel : Nat) (context' : ScopeId) (later : Generator), later.resolver = s →
      after (exprSchema config (synthesizeWith config fuel) context type) later =
        after (exprSchema config (synthesizeWith config fuel) context' bound) later := by
  obtain ⟨term, parsed, rfl⟩ := Option.map_eq_some_iff.mp read
  have clean := ran.clean off
  have plain := @TypeExpr.names_ofTerm params term (Source.parseType?_written parsed)
  rw [off] at run
  have meets := Resolver.bindArgument_meets (Resolver.offline_law context)
    (TypeExpr.ofTerm params term) g.resolver clean.orderly
  exact ⟨(meets.ok run).2.2, fun fuel context' later there =>
    exprSchema_bound off _ clean plain run later there⟩

/-- Pages of pages, bound in a module that imports the generic and used in the one that declares it. -/
theorem binding_keeps_meaning_pages :
    let g := knowing [("src/web.rs", "crate::web", "pub struct Page<T> { pub items: Vec<T> }"),
      ("src/api.rs", "crate::api", "use super::web::Page;")]
    let type := TypeExpr.array (.named ["Page"] [.optional (.named ["Page"] [.primitive .i32])])
    let bound := TypeExpr.array (.resolved 2)
    let binding := after (Resolver.bindArgument false 1 type) g.resolver
    binding.1 = .ok bound ∧ bound.Bound ∧ ∀ later : Generator, later.resolver = binding.2 →
      after (exprSchema {} (synthesizeWith {} nesting) 1 type) later =
        after (exprSchema {} (synthesizeWith {} nesting) 0 bound) later := by
  intro g type bound binding
  have read : (Source.parseType? "Vec<Page<Option<Page<i32>>>>").map (TypeExpr.ofTerm []) = some type := by
    decide +kernel
  have made : binding.1 = .ok bound := by decide +kernel
  have ran : Ran {} g := Ran.knowing (by decide +kernel)
  have run : after (Resolver.bindArgument false 1 type) g.resolver = (.ok bound, binding.2) := by
    rw [← made]
  obtain ⟨closed, same⟩ := binding_keeps_meaning rfl ran read run
  exact ⟨made, closed, same nesting 0⟩

/-- Where a parent has the name of an instance, an import of it denotes a declaration when the type is bound,
and the instance that binding makes when the type is used. -/
theorem binding_strays :
    let type := TypeExpr.named ["crate", "Page"]
      [.map (.named ["X"] []) (.named ["crate", "Page"] [.primitive .i32])]
    let binding := after (Resolver.bindArgument false 2 type) (knowing strayFiles).resolver
    let later := { knowing strayFiles with resolver := binding.2 }
    (Source.parseType? "crate::Page<HashMap<X, crate::Page<i32>>>").map (TypeExpr.ofTerm []) = some type ∧
      binding.1 = .ok (.resolved 3) ∧
      (after (exprSchema {} (synthesizeWith {} nesting) 2 type) later).1 =
        .ok (.ref "crate.Page-map_crate_Page-i32_crate_Page-i32") ∧
      (after (exprSchema {} (synthesizeWith {} nesting) 2 (.resolved 3)) later).1 =
        .ok (.ref "crate.Page-map_other_X_crate_Page-i32") := by
  decide +kernel

end Meaning

end Synthesis

end ApiSchema
