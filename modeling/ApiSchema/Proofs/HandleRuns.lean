import ApiSchema.Proofs.HandleSynthesis

/-! Handles over the life of a generator. It starts with nothing, and then files are indexed, declarations and
instances made, names asked for, types resolved and schemas synthesized, in any order and with any failures.
At every moment of such a run, also while declarations are under way, all handles that are kept anywhere are
numbers of declarations, these never change, and whatever is looked up by its number is there. -/

namespace ApiSchema

open Registry (Call Grows)
open Resolver (Inquiry)
open Source (TypeTerm)
open Steps

namespace Generator

inductive HoldsHandle (g : Generator) : DeclId → Prop where
  | filed {path name : String} {p : Package} {id : DeclId} (home : g.registry.package? path = some p)
      (type : p.types.get? name = some id) : HoldsHandle g id
  | global {key : String} {id : DeclId} (filed : g.registry.lookupGlobal? key = some id) :
      HoldsHandle g id
  | named {id : DeclId} {name : String} (entry : (id, name) ∈ g.registry.names) : HoldsHandle g id
  /-- It stands in the type of a member of a declaration. -/
  | bound {d : Declaration} {type : TypeExpr} {id : DeclId} (registered : d ∈ g.registry.decls)
      (member : type ∈ d.body.types) (inside : id ∈ type.handles) : HoldsHandle g id
  | memo {id : DeclId} {s : Schema} (entry : (id, s) ∈ g.memo) : HoldsHandle g id
  | journal {id : DeclId} {definition : Option String} (entry : (id, definition) ∈ g.journal) : HoldsHandle g id
  | underWay {id : DeclId} (member : id ∈ g.inProgress) : HoldsHandle g id
  | forced {id : DeclId} (member : id ∈ g.forced) : HoldsHandle g id

inductive HoldsScope (g : Generator) : ScopeId → Prop where
  | listed {path : String} {p : Package} {id : ScopeId} (home : g.registry.package? path = some p)
      (member : id ∈ p.scopes) : HoldsScope g id
  | governs {d : Declaration} (registered : d ∈ g.registry.decls) : HoldsScope g d.scope

/-- A call, or the resolution of a type, that starts now and is given known handles looks up a declaration by
its number, in the registry as it is by then. -/
inductive LooksUp (g : Generator) : Registry → DeclId → Prop where
  | call {call : Call} {r : Registry} {id : DeclId} (known : call.Known g.registry)
      (looks : call.LooksUp g.registry r id) : LooksUp g r id
  | resolution {external : Bool} {context : ScopeId} {type : TypeExpr} {r : Registry} {id : DeclId}
      (known : type.Within g.registry.size) (looks : Resolver.LooksUp external context [type] g.resolver r id) :
      LooksUp g r id

structure Secure (config : Config) (g : Generator) : Prop where
  kept : ∀ id, g.HoldsHandle id → id < g.registry.size
  scopes : ∀ id, g.HoldsScope id → id < g.registry.scopes.length
  /-- A package has under a name the declaration of that package and that name. -/
  filed : ∀ package name id, g.registry.lookup? package name = some id →
    ∃ d, g.registry.get? id = some d ∧ d.package = package ∧ d.name = name
  distinct : ∀ a b d e, g.registry.get? a = some d → g.registry.get? b = some e → d.package = e.package →
    d.name = e.name → a = b
  /-- Whatever is looked up by its number is there. -/
  found : ∀ r id, g.LooksUp r id → ∃ d, r.get? id = some d
  /-- It makes no difference what synthesis would do with a number that no declaration has. -/
  guarded : ∀ (stray : DeclId → Synth Schema) (fuel : Nat) (request : Synthesis.Request), request.Known g →
    after (request.serveGuarded config stray fuel) g = after (request.serve config fuel) g

theorem Anchored.kept {g : Generator} (anchored : g.Anchored) {id : DeclId} (held : g.HoldsHandle id) :
    id < g.registry.size := by
  cases held with
  | filed home type => exact anchored.registry.orderly.type_registered home type
  | global filed => exact anchored.registry.global filed
  | named entry => exact anchored.registry.named _ entry
  | bound registered member inside => exact (anchored.registry.members _ registered).types _ member id inside
  | memo entry => exact anchored.memo _ entry
  | journal entry => exact anchored.journal _ entry
  | underWay member => exact anchored.inProgress id member
  | forced member => exact anchored.forced id member

theorem Anchored.found {g : Generator} (anchored : g.Anchored) {r : Registry} {id : DeclId}
    (looks : g.LooksUp r id) : ∃ d, r.get? id = some d := by
  have inside : id < r.size := by
    cases looks with
    | call known looks => exact anchored.registry.looksUp known looks
    | resolution known looks =>
      exact Resolver.looksUp_known looks anchored.registry fun _ member => List.mem_singleton.mp member ▸ known
  exact ⟨_, List.getElem?_eq_getElem inside⟩

theorem Anchored.secure {g : Generator} (anchored : g.Anchored) (config : Config) : g.Secure config where
  kept _ := anchored.kept
  scopes id held := by
    cases held with
    | listed home member => exact anchored.registry.orderly.listed _ _ id home member
    | governs registered => exact (anchored.registry.members _ registered).scope
  filed package name id := (anchored.registry.orderly.filed package name id).mp
  distinct a b d e first second home called := by
    have own := (anchored.registry.orderly.filed d.package d.name a).mpr ⟨d, first, rfl, rfl⟩
    have other := (anchored.registry.orderly.filed d.package d.name b).mpr ⟨e, second, home.symm, called.symm⟩
    exact Option.some.inj (own.symm.trans other)
  found _ _ := anchored.found
  guarded stray fuel _ known := (Synthesis.Request.serve_agrees config stray fuel anchored known).same

end Generator

namespace Synthesis

/-- The states of a generator in the course of a run from a start. Whoever calls gives handles that are known
by then. Between calls a loader may be given; inside a synthesis declarations have been begun. -/
inductive Course (config : Config) (start : Generator) : Generator → Prop where
  | start : Course config start start
  | equipped {g : Generator} (before : Course config start g) (loader : Option Loader) :
      Course config start { g with resolver := { g.resolver with loader } }
  | called {g : Generator} (before : Course config start g) (call : Call) (known : call.Known g.registry) :
      Course config start { g with resolver := { g.resolver with registry := call.apply g.registry } }
  | asked {g : Generator} (before : Course config start g) (external : Bool) (context : ScopeId)
      (inquiry : Inquiry) (known : inquiry.Known g.resolver) :
      Course config start { g with resolver := inquiry.pursue external context g.resolver }
  | served {g : Generator} (before : Course config start g) (fuel : Nat) (request : Request)
      (known : request.Known g) : Course config start (after (request.serve config fuel) g).2
  | opened {g : Generator} (before : Course config start g) {id : DeclId} (known : id < g.registry.size) :
      Course config start (opened id (g.nameOf id) (g.naming id))
  | entered {g : Generator} (before : Course config start g) {id : DeclId} (known : id < g.registry.size) :
      Course config start ((g.naming id).enter id)

/-- Handles stay anchored along a run, and the registry only grows. -/
theorem Course.anchored {config : Config} {start g : Generator} (course : Course config start g)
    (anchored : start.Anchored) : g.Anchored ∧ Grows start.registry g.registry := by
  induction course with
  | start => exact ⟨anchored, .refl _⟩
  | equipped _ loader ih => exact ⟨ih.1.resolver ih.1.registry (.refl _), ih.2⟩
  | @called g _ call known ih =>
    have grows : Grows g.registry (call.apply g.registry) := Registry.call_grows call g.registry
    exact ⟨ih.1.resolver (ih.1.registry.call known) grows, ih.2.trans grows⟩
  | asked _ external context inquiry known ih =>
    obtain ⟨holds, grows⟩ := @inquiry.pursue_anchored external context _ known ih.1.registry
    exact ⟨ih.1.resolver holds grows, ih.2.trans grows⟩
  | served _ fuel request known ih =>
    have agrees := request.serve_agrees config (fun _ => throw .exhausted) fuel ih.1 known
    exact ⟨agrees.anchored, ih.2.trans agrees.grows⟩
  | @opened g _ id known ih =>
    have grows : Grows g.registry (g.naming id).registry := Registry.definitionName_grows g.registry id
    have still : id < (g.naming id).registry.size := Nat.lt_of_lt_of_le known grows.size_le
    exact ⟨((ih.1.naming known).define _ _).enter still, ih.2.trans grows⟩
  | @entered g _ id known ih =>
    have grows : Grows g.registry (g.naming id).registry := Registry.definitionName_grows g.registry id
    exact ⟨(ih.1.naming known).enter (Nat.lt_of_lt_of_le known grows.size_le), ih.2.trans grows⟩

/-- Handles never dangle. At every moment of a run from nothing, whatever was called, resolved or synthesized
until then and however it ended, all handles that are kept are numbers of declarations and all numbers of scopes
that are kept are numbers of scopes, a package has under each name the declaration of that name and only one,
and every declaration that is looked up by its number is there; and at every later moment the number still
stands for the same declaration. -/
theorem course_secure {config : Config} {g : Generator} (reached : Course config {} g) :
    g.Secure config ∧ ∀ later, Course config g later → ∀ id d, g.registry.get? id = some d →
      later.registry.get? id = some d := by
  have anchored := (reached.anchored (Generator.anchored_fresh Registry.anchored_empty)).1
  exact ⟨anchored.secure config, fun later goes id d found => (goes.anchored anchored).2.get?_eq found⟩

def blog : SourceFile :=
  let list := TypeTerm.path { applied := true } ["Vec"] [.path { applied := false } ["T"] []]
  { path := "src/web.rs"
    module := "crate::web"
    items := [.struct ⟨[], "Page", ["T"]⟩ (.named [⟨[], "items", true, list⟩]), .struct ⟨[], "Post", []⟩ .unit] }

/-- The file is indexed, a page of posts is made, and then a page of pages of posts is asked for. -/
def pagesListed : Generator :=
  let r := (Call.instantiate 0 [.resolved 1]).apply ((Call.index "crate::web" blog).apply {})
  (after (schemaOfReference {} 0 "Page<Page<Post>>") { resolver := { registry := r } }).2

/-- The handle of the first instance stands in a type of the second one, which is in the memo. -/
theorem course_secure_pages : Course {} {} pagesListed ∧ pagesListed.registry.size = 4 ∧
    (∃ d, pagesListed.registry.get? 3 = some d ∧ d.name = "Page-web_Page-web_Post" ∧
      d.body.types = [.array (.resolved 2)]) ∧
    pagesListed.HoldsHandle 2 ∧ (∀ id, pagesListed.HoldsHandle id → id < 4) ∧
    ∀ package name id, pagesListed.registry.lookup? package name = some id →
      ∃ d, pagesListed.registry.get? id = some d ∧ d.package = package ∧ d.name = name := by
  have indexed : 0 < ((Call.index "crate::web" blog).apply {}).size ∧
      1 < ((Call.index "crate::web" blog).apply {}).size := by decide +kernel
  have known : (Call.instantiate 0 [.resolved 1]).Known ((Call.index "crate::web" blog).apply {}) :=
    ⟨indexed.1, by simpa using indexed.2⟩
  have once : Course {} {} { resolver := { registry := (Call.index "crate::web" blog).apply {} } } :=
    .called .start (.index "crate::web" blog) trivial
  have twice : Course {} {} { resolver := { registry :=
      (Call.instantiate 0 [.resolved 1]).apply ((Call.index "crate::web" blog).apply {}) } } :=
    .called once (.instantiate 0 [.resolved 1]) known
  have run : Course {} {} pagesListed := .served twice nesting (.reference 0 "Page<Page<Post>>") trivial
  have size : pagesListed.registry.size = 4 := by decide +kernel
  have last : (pagesListed.registry.get? 3).map (fun d => (d.name, d.body.types)) =
      some ("Page-web_Page-web_Post", [.array (.resolved 2)]) := by decide +kernel
  obtain ⟨d, found, same⟩ := Option.map_eq_some_iff.mp last
  obtain ⟨called, types⟩ := Prod.mk.inj same
  have inside : pagesListed.HoldsHandle 2 :=
    .bound (List.mem_of_getElem? found) (types ▸ List.mem_singleton_self _) (List.mem_singleton_self 2)
  have secure := (course_secure run).1
  exact ⟨run, size, ⟨d, found, called, types⟩, inside, fun id held => size ▸ secure.kept id held, secure.filed⟩

end Synthesis

end ApiSchema
