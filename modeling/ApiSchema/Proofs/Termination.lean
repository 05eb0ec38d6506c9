import ApiSchema.Proofs.Fuel
import ApiSchema.Proofs.SynthesisCases
import Mathlib.Data.List.Perm.Subperm

/-! When a request for a schema ends. Declarations under way are pairwise different and all
registered, so synthesis can nest no deeper than the registry is long: whatever cycles declarations
form, only a registry that keeps growing while it is walked keeps a request from its end. Instances
of generics are what makes it grow, and a generic that asks for ever larger instances of itself
does so for ever. -/

namespace ApiSchema.Synthesis

open Steps
open Registry (Grows)
open Generator (Ready Begun Finished)

structure Nested (g : Generator) : Prop where
  nodup : g.inProgress.Nodup
  registered : ∀ id ∈ g.inProgress, id < g.registry.size

theorem Nested.length_le {g : Generator} (nested : Nested g) : g.inProgress.length ≤ g.registry.size := by
  have inside : g.inProgress ⊆ List.range g.registry.size := fun id member =>
    List.mem_range.mpr (nested.registered id member)
  simpa using (nested.nodup.subperm inside).length_le

/-- An id beyond the registry has a body that nests nothing. -/
theorem registered_of_body {r : Registry} {id : DeclId} (body : (r.get id).body ≠ .interface) :
    id < r.size := by
  by_contra outside
  have absent : r.get? id = none := List.getElem?_eq_none (Nat.le_of_not_lt outside)
  apply body
  simp only [Registry.get, absent]
  rfl

theorem Nested.begun {id : DeclId} {name : String} {placed : Bool} {g s : Generator} (nested : Nested g)
    (ready : Ready id name g) (begun : Begun id name placed g s) : Nested s where
  nodup := by
    rw [begun.inProgress]
    exact List.nodup_cons.mpr ⟨ready.idle, nested.nodup⟩
  registered other member := by
    rw [begun.inProgress] at member
    rw [begun.registry]
    rcases List.mem_cons.mp member with rfl | member
    · exact registered_of_body ready.body
    · exact nested.registered other member

structure Deepens (g g' : Generator) : Prop where
  grows : Grows g.registry g'.registry
  inProgress : g'.inProgress = g.inProgress

theorem Deepens.trans {g g' g'' : Generator} (first : Deepens g g') (second : Deepens g' g'') :
    Deepens g g'' := ⟨first.grows.trans second.grows, second.inProgress.trans first.inProgress⟩

theorem Nested.deepens {g g' : Generator} (nested : Nested g) (deepens : Deepens g g') : Nested g' where
  nodup := deepens.inProgress ▸ nested.nodup
  registered id member := by
    rw [deepens.inProgress] at member
    exact Nat.lt_of_lt_of_le (nested.registered id member) deepens.grows.size_le

/-- Fuel runs out only below a stack of declarations as long as the fuel. -/
def depth (fuel : Nat) : Contract Failure Generator where
  holds := Nested
  moves := Deepens
  fails e g g' := Fatal e ∧ Deepens g g' ∧
    (e = .exhausted → g.inProgress.length + fuel ≤ g'.registry.size)
  refl g := ⟨.refl _, rfl⟩
  trans first second := first.trans second
  fails_after first failed := by
    obtain ⟨fatal, second, deep⟩ := failed
    refine ⟨fatal, first.trans second, fun out => ?_⟩
    have same := first.inProgress
    rw [← same]
    exact deep out

theorem depth_law (config : Config) (fuel : Nat) :
    Law config (depth fuel) (fun _ _ => True) (fun _ _ => True) := by
  refine .of_any (fun failed => failed.1) ?conflict fun _ _ => resolving_of_grows ?grows
  case conflict =>
    intro g field message _
    exact ⟨trivial, ⟨.refl _, rfl⟩, fun out => by cases out⟩
  case grows =>
    intro g s nested grown
    have deepens : Deepens g { g with resolver := s } := ⟨grown, rfl⟩
    exact ⟨nested.deepens deepens, deepens⟩

section Step

variable {id : DeclId} {name : String} {placed : Bool} {g s t u : Generator} (ready : Ready id name g)
  (begun : Begun id name placed g s)

include ready begun

/-- Leaving a declaration gives back the stack as it was before. -/
theorem Deepens.left (deepens : Deepens s t) (registry : u.registry = t.registry)
    (left : u.inProgress = (t.leave id).inProgress) : Deepens g u := by
  constructor
  · rw [registry, ← begun.registry]
    exact deepens.grows
  · rw [left]
    exact Generator.leave_inProgress ready.idle (deepens.inProgress.trans begun.inProgress)

/-- Inside a declaration the stack is longer by one, which is what one unit of fuel pays for. -/
theorem depth_fails {fuel : Nat} {e : Failure} (failed : (depth fuel).fails e s t)
    (registry : u.registry = t.registry) (left : u.inProgress = (t.leave id).inProgress) :
    (depth (fuel + 1)).fails e g u := by
  obtain ⟨fatal, deepens, deep⟩ := failed
  refine ⟨fatal, deepens.left ready begun registry left, fun out => ?_⟩
  have bound := deep out
  simp only [begun.inProgress, List.length_cons] at bound
  rw [registry]
  omega

end Step

theorem depth_cases (fuel : Nat) : EachCaseKeeps (depth fuel) (depth (fuel + 1)) fun _ _ => True where
  memo _ _ := trivial
  naming id g nested := by
    have deepens : Deepens g (g.naming id) := ⟨Registry.definitionName_grows _ _, rfl⟩
    exact ⟨nested.deepens deepens, deepens⟩
  cycle {id _ g} nested _ _ := by
    obtain ⟨forced, same⟩ := Generator.force_frame id g
    have deepens : Deepens g (g.force id) := by
      rw [same]
      exact ⟨.refl _, rfl⟩
    exact ⟨nested.deepens deepens, deepens, trivial⟩
  begun within := within.holds.begun within.ready within.begun
  defined within _ deepens _ finished := by
    have ended := deepens.left within.ready within.begun finished.registry finished.inProgress
    exact ⟨within.holds.deepens ended, ended, trivial⟩
  inlined within _ deepens _ _ finished := by
    have ended := deepens.left within.ready within.begun finished.registry finished.inProgress
    exact ⟨within.holds.deepens ended, ended, trivial⟩
  undone within failed := by
    obtain ⟨memo, definitions, journal, frame⟩ := Generator.rollback_frame _ _ _
    rw [frame]
    exact depth_fails within.ready within.begun failed rfl rfl
  abandoned within failed := depth_fails within.ready within.begun failed rfl rfl

theorem synthesizeWith_depth (config : Config) (fuel : Nat) (id : DeclId) :
    Meets (depth fuel) (synthesizeWith config fuel id) fun _ _ => True := by
  induction fuel generalizing id with
  | zero =>
    intro g nested
    refine .throw ⟨trivial, ⟨.refl _, rfl⟩, fun _ => ?_⟩
    exact nested.length_le
  | succ fuel ih => exact synthesizeOne_meets (depth_law config fuel) (depth_cases fuel) ih id

def request (config : Config) (fuel : Nat) (context : ScopeId) (type : TypeExpr) : Synth Schema :=
  exprSchema config (synthesizeWith config fuel) context type

inductive Reachable (config : Config) : Generator → Prop where
  | fresh (s : Resolver) : Reachable config { resolver := s }
  | request {g : Generator} (fuel : Nat) (context : ScopeId) (type : TypeExpr)
      (reached : Reachable config g) :
      Reachable config (after (request config fuel context type) g).2

/-- The request comes to a schema or an error with enough fuel, and more changes nothing. -/
def Ends (config : Config) (context : ScopeId) (type : TypeExpr) (g : Generator) : Prop :=
  ∃ fuel, (after (request config fuel context type) g).1 ≠ .error .exhausted ∧
    ∀ more, fuel ≤ more →
      after (request config more context type) g = after (request config fuel context type) g

section Request

variable {config : Config} {context : ScopeId} {type : TypeExpr} {g : Generator}

theorem request_meets (config : Config) (fuel : Nat) (context : ScopeId) (type : TypeExpr) :
    Meets (lenient (depth fuel)) (request config fuel context type) fun _ _ => True :=
  exprSchema_meets (depth_law config fuel).uses (synthesizeWith_depth config fuel) context type

theorem request_deepens (fuel : Nat) (nested : Nested g) :
    Deepens g (after (request config fuel context type) g).2 := by
  have meets := request_meets config fuel context type g nested
  rcases run : after (request config fuel context type) g with ⟨e | s, g'⟩
  · rcases meets.error run with ⟨_, deepens, _⟩ | ⟨_, _, deepens⟩
    · exact deepens
    · exact deepens
  · exact (meets.ok run).2.1

theorem Reachable.idle (reached : Reachable config g) : g.inProgress = [] := by
  induction reached with
  | fresh s => rfl
  | @request g fuel context type _ ih =>
    have nested : Nested g := ⟨by simp [ih], by simp [ih]⟩
    exact (request_deepens fuel nested).inProgress.trans ih

theorem Reachable.nested (reached : Reachable config g) : Nested g :=
  ⟨by simp [reached.idle], by simp [reached.idle]⟩

theorem ends_of_outcome {fuel : Nat}
    (done : (after (request config fuel context type) g).1 ≠ .error .exhausted) :
    Ends config context type g := by
  refine ⟨fuel, done, fun more le => ?_⟩
  have refined := @exprSchema_refines config _ _ (synthesizeWith_refines config le) context type g
  exact refined.resolve_left done

/-- Fuel beyond the number of declarations there will be is enough. -/
theorem ends_of_bounded {bound : Nat} (nested : Nested g)
    (bounded : ∀ fuel, (after (request config fuel context type) g).2.registry.size ≤ bound) :
    Ends config context type g := by
  apply @ends_of_outcome _ _ _ _ (bound + 1)
  intro out
  have meets := request_meets config (bound + 1) context type g nested
  have small := bounded (bound + 1)
  rcases run : after (request config (bound + 1) context type) g with ⟨result, g'⟩
  rw [run] at out small
  cases out
  rcases meets.error run with ⟨_, _, deep⟩ | ⟨mild, _, _⟩
  · have large := deep rfl
    simp only at small
    omega
  · exact mild trivial

theorem bounded_of_ends (ends : Ends config context type g) :
    ∃ bound, ∀ fuel, (after (request config fuel context type) g).2.registry.size ≤ bound := by
  obtain ⟨enough, _, same⟩ := ends
  have below (n : Nat) : ∃ bound, ∀ fuel, fuel ≤ n →
      (after (request config fuel context type) g).2.registry.size ≤ bound := by
    induction n with
    | zero =>
      refine ⟨(after (request config 0 context type) g).2.registry.size, ?_⟩
      intro fuel le
      obtain rfl := Nat.le_zero.mp le
      exact Nat.le_refl _
    | succ n ih =>
      obtain ⟨bound, small⟩ := ih
      refine ⟨bound + (after (request config (n + 1) context type) g).2.registry.size, ?_⟩
      intro fuel le
      by_cases last : fuel = n + 1
      · subst last
        omega
      · have earlier := small fuel (by omega)
        omega
  obtain ⟨bound, small⟩ := below enough
  refine ⟨bound, fun fuel => ?_⟩
  by_cases le : fuel ≤ enough
  · exact small fuel le
  · rw [same fuel (by omega)]
    exact small enough (Nat.le_refl _)

end Request

def fixed (decls : List Declaration) : Contract Failure Generator where
  holds g := g.registry.decls = decls
  moves _ _ := True
  fails e _ g' := Fatal e ∧ g'.registry.decls = decls
  refl _ := trivial
  trans _ _ := trivial
  fails_after _ failed := failed

/-- Without generics and loading, resolution leaves the registry as it is. -/
theorem resolveExpr_static {s : Resolver} (plain : ∀ d ∈ s.registry.decls, d.isGeneric = false)
    (context : ScopeId) (type : TypeExpr) :
    (after (Resolver.resolveExpr false context type) s).2 = s := by
  have notGeneric (id : DeclId) : (s.registry.get id).isGeneric = false := by
    cases found : s.registry.get? id with
    | none =>
      simp only [Registry.get, found]
      rfl
    | some d =>
      simp only [Registry.get, found]
      exact plain d (List.mem_of_getElem? found)
  have path (segments : List String) : (Resolver.resolvePath false context segments s).2 = s := by
    simp only [Resolver.resolvePath]
    split
    · rfl
    · split
      · rfl
      · simp
  unfold Resolver.resolveExpr
  split
  · rfl
  · rfl
  · rfl
  · next segments args _ =>
    unfold Resolver.resolveApplied
    rcases found : Resolver.resolvePath false context segments s with ⟨e | resolution, t⟩
    · have same : t = s := by simpa [found] using path segments
      subst same
      rw [run_bind_error (show after (ExceptT.mk (Resolver.resolvePath false context segments)) t = _
        from found)]
    · have same : t = s := by simpa [found] using path segments
      subst same
      rw [run_bind_ok (show after (ExceptT.mk (Resolver.resolvePath false context segments)) t = _
        from found)]
      cases resolution with
      | primitive p => rfl
      | any => rfl
      | declaration id =>
        rw [run_bind_get]
        simp [notGeneric]
  · rfl

theorem fixed_law {config : Config} {decls : List Declaration} (off : config.parseDependencies = false)
    (plain : ∀ d ∈ decls, d.isGeneric = false) :
    Law config (fixed decls) (fun _ _ => True) (fun _ _ => True) := by
  refine .of_any (fun failed => failed.1) (fun _ _ holds => ⟨trivial, holds⟩) fun context type => ?_
  rw [off]
  refine resolving_of_left fun g holds => ?_
  have same := resolveExpr_static (s := g.resolver) (holds ▸ plain) context type
  rw [same]
  exact ⟨holds, trivial⟩

theorem fixed_cases (decls : List Declaration) : EachCaseKeeps (fixed decls) (fixed decls) fun _ _ => True where
  memo _ _ := trivial
  naming id g holds := ⟨(Registry.definitionName_decls g.registry id).trans holds, trivial⟩
  cycle {id _ g} holds _ _ := by
    obtain ⟨forced, same⟩ := Generator.force_frame id g
    rw [same]
    exact ⟨holds, trivial, trivial⟩
  begun within := (congrArg Registry.decls within.begun.registry).trans within.holds
  defined _ holds _ _ finished :=
    ⟨(congrArg Registry.decls finished.registry).trans holds, trivial, trivial⟩
  inlined _ holds _ _ _ finished :=
    ⟨(congrArg Registry.decls finished.registry).trans holds, trivial, trivial⟩
  undone _ failed := by
    obtain ⟨memo, definitions, journal, frame⟩ := Generator.rollback_frame _ _ _
    rw [frame]
    exact failed
  abandoned _ failed := failed

theorem request_fixed {config : Config} {decls : List Declaration}
    (off : config.parseDependencies = false) (plain : ∀ d ∈ decls, d.isGeneric = false) (fuel : Nat)
    (context : ScopeId) (type : TypeExpr) :
    Meets (lenient (fixed decls)) (request config fuel context type) fun _ _ => True := by
  have law := fixed_law off plain
  have each := synthesizeWith_meets law (fixed_cases decls) (fun holds => ⟨trivial, holds⟩) fuel
  exact exprSchema_meets law.uses each context type

theorem request_decls {config : Config} {g : Generator} (off : config.parseDependencies = false)
    (plain : ∀ d ∈ g.registry.decls, d.isGeneric = false) (fuel : Nat) (context : ScopeId)
    (type : TypeExpr) :
    (after (request config fuel context type) g).2.registry.decls = g.registry.decls := by
  have meets := request_fixed off plain fuel context type g rfl
  rcases run : after (request config fuel context type) g with ⟨e | s, g'⟩
  · rcases meets.error run with ⟨_, same⟩ | ⟨_, same, _⟩
    · exact same
    · exact same
  · exact (meets.ok run).1

/-- A request ends exactly if the registry it is walked over stops growing, and it does end where
no declaration is generic and nothing is loaded. -/
theorem ends_iff_bounded (config : Config) {g : Generator} (reached : Reachable config g)
    (context : ScopeId) (type : TypeExpr) :
    (Ends config context type g ↔
      ∃ bound, ∀ fuel, (after (request config fuel context type) g).2.registry.size ≤ bound) ∧
    (config.parseDependencies = false → (∀ d ∈ g.registry.decls, d.isGeneric = false) →
      Ends config context type g) := by
  refine ⟨⟨bounded_of_ends, ?_⟩, ?_⟩
  · rintro ⟨bound, bounded⟩
    exact ends_of_bounded reached.nested bounded
  · intro off plain
    apply @ends_of_bounded _ _ _ _ g.registry.size reached.nested
    intro fuel
    rw [Registry.size, request_decls off plain]
    exact Nat.le_refl _

def nodeFile : SourceFile where
  path := "src/list.rs"
  module := "crate::list"
  items := [.struct ⟨[], "Node", []⟩ (.named [⟨[], "next", true,
    .path {} ["Option"] [.path {} ["Box"] [.path {} ["Node"] []]]⟩])]

theorem ends_iff_bounded_node :
    let g : Generator := { resolver := { registry := (Registry.empty.indexFile nodeFile).2 } }
    Reachable {} g ∧ (g.registry.decls.all fun d => !d.isGeneric) = true ∧
      (Ends {} 0 (.named ["Node"] []) g ↔
        ∃ bound, ∀ fuel, (after (request {} fuel 0 (.named ["Node"] [])) g).2.registry.size ≤ bound) ∧
      Ends {} 0 (.named ["Node"] []) g := by
  intro g
  have reached : Reachable {} g := .fresh _
  have plain : (g.registry.decls.all fun d => !d.isGeneric) = true := by rfl
  have ends := ends_iff_bounded {} reached 0 (.named ["Node"] [])
  refine ⟨reached, plain, ends.1, ends.2 rfl fun d member => ?_⟩
  simpa using List.all_eq_true.mp plain d member

section Divergence

def wrapped : Nat → TypeExpr
  | 0 => .primitive .i32
  | n + 1 => .array (wrapped n)

def wrappedName : Nat → String
  | 0 => "i32"
  | n + 1 => "array_" ++ wrappedName n

/-- A generic struct whose member is an instance of it for lists of its argument. -/
def growFile : SourceFile :=
  let app (name : String) (arg : Source.TypeTerm) : Source.TypeTerm := .path {} [name] [arg]
  { path := "src/web.rs"
    module := "crate::web"
    items := [.struct ⟨[], "Grow", ["T"]⟩ (.named [⟨[], "next", true,
      app "Option" (app "Box" (app "Grow" (app "Vec" (.path {} ["T"] []))))⟩])] }

def growRegistry : Registry := (Registry.empty.indexFile growFile).2

def growMember (arg : TypeExpr) : Field :=
  { name := "next", type := .optional (.pointer (.named ["Grow"] [.array arg])), exported := true,
    embedded := false, tags := {}, doc := none }

def grow : Declaration :=
  { package := "crate::web", name := "Grow", scope := 0, params := ["T"],
    body := .struct [growMember (.param "T")], tags := {}, doc := none }

def grown (n : Nat) : Declaration :=
  { grow with
    name := "Grow-" ++ wrappedName n
    params := []
    body := .struct [growMember (wrapped n)] }

theorem growRegistry_decls : growRegistry.decls = [grow] := by
  rfl

theorem growRegistry_scope : growRegistry.scope? 0 = some ⟨"src/web.rs", "crate::web", []⟩ := by
  rfl

theorem growRegistry_package :
    growRegistry.package? "crate::web" = some ⟨"crate::web", [0], .singleton "Grow" 0⟩ := by
  rfl

theorem growRegistry_lookup (name : String) :
    growRegistry.lookup? "crate::web" name = if "Grow" = name then some 0 else none := by
  simp only [Registry.lookup?, growRegistry_package, Option.bind_some, Table.get?, Table.singleton,
    List.find?_singleton]
  split <;> simp_all

theorem growRegistry_global : growRegistry.lookupGlobal? "web.Grow" = some 0 := by
  decide +kernel

variable {r : Registry}

theorem grow_get (grows : Grows growRegistry r) : r.get 0 = grow := by
  have inside : 0 < growRegistry.size := by simp [Registry.size, growRegistry_decls]
  rw [grows.get_eq inside]
  simp [Registry.get, Registry.get?, growRegistry_decls]

/-- The generic is found however the registry has grown, also if its full name became ambiguous. -/
theorem grow_found (grows : Grows growRegistry r) :
    (r.lookupPath ["Grow"] 0).found = some (.declaration 0) := by
  obtain ⟨more, same⟩ := grows.scopes
  have scope : r.scope? 0 = some ⟨"src/web.rs", "crate::web", []⟩ := by
    have first := growRegistry_scope
    rw [Registry.scope?] at first ⊢
    rw [← same, List.getElem?_append_left (List.getElem?_eq_some_iff.mp first).1]
    exact first
  have own : r.lookup? "crate::web" "Grow" = some 0 := grows.types _ _ _ (growRegistry_lookup _)
  have key : displayName "crate::web" ++ "." ++ "Grow" = "web.Grow" := by decide +kernel
  have either : (r.globalShortcut? "Grow" ⟨"src/web.rs", "crate::web", []⟩).or
      (r.lookup? "crate::web" "Grow") = some 0 := by
    rw [Registry.globalShortcut?, key, own]
    rcases grows.entered _ _ growRegistry_global with still | gone
    · have home : (r.get 0).package = "crate::web" := by rw [grow_get grows]; rfl
      simp [still, Option.filter, home]
    · simp [gone.2]
  simp only [Registry.lookupPath, scope, Registry.resolveUnqualified, either]

theorem resolvePath_grow {s : Resolver} (grows : Grows growRegistry s.registry) :
    Resolver.resolvePath false 0 ["Grow"] s = (.ok (.declaration 0), s) := by
  have builtin : Primitive.ofName? "Grow" = none := by decide +kernel
  simp only [Resolver.resolvePath, builtin, grow_found grows]

theorem bindArgument_wrapped (n : Nat) (s : Resolver) :
    after (Resolver.bindArgument false 0 (wrapped n)) s = (.ok (wrapped n), s) := by
  induction n with
  | zero => rfl
  | succ n ih =>
    rw [wrapped, Resolver.bindArgument, run_bind_ok ih]
    rfl

theorem argumentName_wrapped (n : Nat) (r : Registry) :
    Registry.argumentName (wrapped n) r = (wrappedName n, r) := by
  induction n with
  | zero => rfl
  | succ n ih => simp only [wrapped, Registry.argumentName, ih, wrappedName]

theorem wrappedName_length (n : Nat) : (wrappedName n).length = 3 + 6 * n := by
  induction n with
  | zero => rfl
  | succ n ih =>
    have front : "array_".length = 6 := rfl
    rw [wrappedName, String.length_append, ih, front]
    omega

theorem wrappedName_injective {m n : Nat} (same : "Grow-" ++ wrappedName m = "Grow-" ++ wrappedName n) :
    m = n := by
  have lengths := congrArg String.length same
  simp only [String.length_append, wrappedName_length] at lengths
  omega

/-- The state when `n` instances were asked for, none of which is finished. -/
structure InstancesOpen (n : Nat) (g : Generator) : Prop where
  grows : Grows growRegistry g.registry
  size : g.registry.size = n + 1
  unused : ∀ m, n ≤ m → g.registry.lookup? "crate::web" ("Grow-" ++ wrappedName m) = none
  memo : g.memo = []
  inProgress : ∀ id ∈ g.inProgress, id ≤ n

theorem instantiate_grow {n : Nat} (grows : Grows growRegistry r)
    (unused : r.lookup? "crate::web" ("Grow-" ++ wrappedName n) = none) :
    r.instantiate 0 [wrapped n] = (.ok r.size, (r.insert (grown n)).2) := by
  have made : Registry.instanceOf grow ("Grow-" ++ wrappedName n) [wrapped n] = grown n := rfl
  have named : Registry.instanceName "Grow" [wrapped n] r = ("Grow-" ++ wrappedName n, r) := by
    simp only [Registry.instanceName, argumentName_wrapped]
    rfl
  have first : (r.insert (grown n)).1 = r.size := (Registry.insert_unused unused).1
  simp only [Registry.instantiate, grow_get grows]
  rw [if_neg (by simp [grow])]
  simp only [show grow.name = "Grow" from rfl, show grow.package = "crate::web" from rfl, named, unused,
    made, first]

theorem resolveExpr_grow {n : Nat} {s : Resolver} (grows : Grows growRegistry s.registry)
    (unused : s.registry.lookup? "crate::web" ("Grow-" ++ wrappedName n) = none) :
    after (Resolver.resolveExpr false 0 (.named ["Grow"] [wrapped n])) s =
      (.ok (.declaration s.registry.size),
        { s with registry := (s.registry.insert (grown n)).2 }) := by
  have path : after (ExceptT.mk (Resolver.resolvePath false 0 ["Grow"])) s = _ := resolvePath_grow grows
  have bound : after (Resolver.bindArguments false 0 [wrapped n]) s = (.ok [wrapped n], s) := by
    rw [Resolver.bindArguments, run_bind_ok (bindArgument_wrapped n s)]
    rfl
  have generic : (s.registry.get 0).isGeneric = true := by
    rw [grow_get grows]
    rfl
  change after (Resolver.resolveApplied false 0 ["Grow"] true (Resolver.bindArguments false 0 [wrapped n])) s = _
  unfold Resolver.resolveApplied
  rw [run_bind_ok path]
  simp only [run_bind_get, generic, Bool.and_self, if_true]
  rw [run_bind_ok bound]
  simp only [run_bind_get, instantiate_grow grows unused]
  rfl

/-- Asking for the next instance registers it. -/
theorem InstancesOpen.next {n : Nat} {g : Generator} (growing : InstancesOpen n g) :
    ∃ g', after (Synth.resolving (Resolver.resolveExpr false 0 (.named ["Grow"] [wrapped n]))) g =
        (.ok (.declaration (n + 1)), g') ∧
      InstancesOpen (n + 1) g' ∧ g'.registry.get (n + 1) = grown n ∧ g'.inProgress = g.inProgress := by
  have unused := growing.unused n (Nat.le_refl n)
  obtain ⟨_, decls, lookup⟩ := @Registry.insert_unused g.registry (grown n) unused
  have size := growing.size
  have run := resolveExpr_grow growing.grows unused
  refine ⟨{ g with resolver := { g.resolver with registry := (g.registry.insert (grown n)).2 } },
    ?_, ?_, ?_, rfl⟩
  · rw [after_resolving_ok run]
    exact congrArg (fun id => (Except.ok (Resolution.declaration id), _)) size
  · constructor
    · exact growing.grows.trans (Registry.insert_grows _ _)
    · change (g.registry.insert (grown n)).2.decls.length = n + 1 + 1
      rw [decls, List.length_append]
      simpa [Registry.size] using size
    · intro m later
      have apart : ¬("Grow-" ++ wrappedName n = "Grow-" ++ wrappedName m) := fun same => by
        have := wrappedName_injective same
        omega
      refine (lookup _ _).trans ?_
      rw [if_neg fun same => apart same.2]
      exact growing.unused m (by omega)
    · exact growing.memo
    · intro id member
      exact Nat.le_succ_of_le (growing.inProgress id member)
  · change (g.registry.insert (grown n)).2.get (n + 1) = grown n
    have last : (g.registry.insert (grown n)).2.get? (n + 1) = some (grown n) := by
      rw [Registry.get?, decls, ← size]
      exact List.getElem?_concat_length
    simp [Registry.get, last]

/-- Beginning an instance gives it a name, a placeholder and a place on the stack. -/
theorem InstancesOpen.opened {n : Nat} {g : Generator} (growing : InstancesOpen n g) :
    InstancesOpen n (opened n (g.nameOf n) (g.naming n)) where
  grows := growing.grows.trans (Registry.definitionName_grows _ _)
  size := by
    change (g.registry.definitionName n).2.decls.length = n + 1
    rw [Registry.definitionName_decls]
    exact growing.size
  unused m later := by
    change (g.registry.definitionName n).2.lookup? _ _ = none
    have same : (g.registry.definitionName n).2.packages = g.registry.packages := by
      unfold Registry.definitionName
      split <;> rfl
    simp only [Registry.lookup?, Registry.package?, same]
    exact growing.unused m later
  memo := growing.memo
  inProgress id member := by
    rcases List.mem_cons.mp member with rfl | member
    · exact Nat.le_refl _
    · exact growing.inProgress id member

/-- The member of an instance asks for the next one, so whatever it fails with comes up. -/
theorem growBody_error {synth : DeclId → Synth Schema} {n : Nat} {g g' : Generator} {e : Failure}
    (fatal : Fatal e)
    (run : after (exprSchema {} synth 0 (.named ["Grow"] [wrapped (n + 1)])) g = (.error e, g')) :
    after (bodySchema {} synth (grown n)) g = (.error e, g') := by
  have member : after (memberSchema {} synth 0 (growMember (wrapped n)).type) g = (.error e, g') := by
    refine memberSchema_fatal fatal ?_
    simp only [growMember, exprSchema]
    exact run
  have added (m : Members) :
      after (addField {} synth 0 none m (growMember (wrapped n))) g = (.error e, g') := by
    unfold addField
    rw [run_bind_error member]
  have direct : [growMember (wrapped n)].filter (fun field => !field.isSkipped {}) =
    [growMember (wrapped n)] := by rfl
  change after (objectSchema {} synth 0 none [growMember (wrapped n)]) g = _
  unfold objectSchema
  have spliced : [growMember (wrapped n)].filter Field.embedded = [] := rfl
  have plain : [growMember (wrapped n)].filter (fun field => !field.embedded) =
    [growMember (wrapped n)] := rfl
  simp only [direct, spliced, plain, List.foldlM_nil, List.foldlM_cons, run_bind_pure]
  rw [run_bind_error (run_bind_error (added _))]

/-- An instance that is begun runs out of any fuel. -/
theorem InstancesOpen.exhausted (fuel : Nat) {n : Nat} {g : Generator} (growing : InstancesOpen (n + 1) g)
    (here : g.registry.get (n + 1) = grown n) (idle : n + 1 ∉ g.inProgress) :
    (after (synthesizeWith {} fuel (n + 1)) g).1 = .error .exhausted := by
  induction fuel generalizing n g with
  | zero => rfl
  | succ fuel ih =>
    have fresh : g.memo.lookup (n + 1) = none := by rw [growing.memo]; rfl
    rw [synthesizeWith, synthesizeOne_start fresh idle, here]
    have opened := growing.opened
    obtain ⟨g', resolved, growing', here', stack⟩ := opened.next
    have idle' : n + 1 + 1 ∉ g'.inProgress := by
      rw [stack]
      intro member
      exact absurd (opened.inProgress _ member) (Nat.not_succ_le_self _)
    have out := ih growing' here' idle'
    rcases run : after (synthesizeWith {} fuel (n + 1 + 1)) g' with ⟨result, g''⟩
    rw [run] at out
    cases out
    have asked : after (exprSchema {} (synthesizeWith {} fuel) 0 (.named ["Grow"] [wrapped (n + 1)]))
        (Synthesis.opened (n + 1) (g.nameOf (n + 1)) (g.naming (n + 1))) = (.error .exhausted, g'') := by
      rw [exprSchema, run_bind_ok resolved]
      exact run
    have body := growBody_error (e := .exhausted) trivial asked
    exact congrArg Prod.fst (synthesizeNamed_error body)

/-- A generic that mentions itself for lists of its argument is never done. -/
theorem grow_never_ends :
    ¬Ends {} 0 (.named ["Grow"] [.primitive .i32]) { resolver := { registry := growRegistry } } := by
  rintro ⟨fuel, done, _⟩
  have start : InstancesOpen 0 { resolver := { registry := growRegistry } } := by
    refine ⟨.refl _, by simp [Generator.registry, Registry.size, growRegistry_decls], ?_, rfl, by simp⟩
    intro m _
    refine (growRegistry_lookup _).trans (if_neg fun same => ?_)
    have lengths := congrArg String.length same
    rw [String.length_append, wrappedName_length] at lengths
    have short : "Grow".length = 4 := rfl
    have front : "Grow-".length = 5 := rfl
    omega
  obtain ⟨g, resolved, growing, here, stack⟩ := start.next
  apply done
  change (after (exprSchema {} (synthesizeWith {} fuel) 0 (.named ["Grow"] [wrapped 0])) _).1 = _
  rw [exprSchema, run_bind_ok resolved]
  exact growing.exhausted fuel here (by simp [stack])

end Divergence

end ApiSchema.Synthesis
