import ApiSchema.Proofs.Handles
import ApiSchema.Proofs.LoadOutcomes

/-! Handles under resolution. What a path denotes is found in tables of the registry, or by making an instance
for arguments that were bound before; so handles that come out of resolution are numbers of declarations if those
that are in the type are, and whatever is found, loaded or made, the registry stays anchored. -/

namespace ApiSchema

theorem TypeExpr.within_peel {n : Nat} {type : TypeExpr} (within : type.Within n) : type.peel.Within n := by
  fun_induction peel type with
  | case1 inner ih | case2 inner ih => exact ih within
  | case3 => exact within

namespace Resolver

open Registry (Anchored Grows)
open Steps

def anchoring : Contract Error Resolver :=
  .always (fun s => s.registry.Anchored) growth.moves growth.refl growth.trans

theorem anchoring_lasting : anchoring.Lasting := fun _ _ _ failed => failed

abbrev HandleWithin (x : Resolution) (s : Resolver) : Prop := x.toExpr.Within s.registry.size

variable {external : Bool} {context : ScopeId} {s : Resolver}

theorem handleWithin_of_plain {x : Resolution} (plain : ∀ id, x ≠ .declaration id) : HandleWithin x s := by
  cases x with
  | primitive p => exact TypeExpr.within_of_none rfl
  | any => exact TypeExpr.within_of_none rfl
  | declaration id => exact absurd rfl (plain id)

/-- What a path denotes is in the tables, whether it was there before or is loaded for it. -/
theorem resolvePath_anchors (segments : List String) (anchored : s.registry.Anchored) :
    MeetsAt anchoring (ExceptT.mk (resolvePath external context segments)) s HandleWithin := by
  have holds := resolvePath_maintains (P := Anchored) (fun files _ anchored => anchored.indexFiles files) external
    context segments anchored
  have grows := resolvePath_grows external context segments s
  constructor
  · intro x t run
    obtain rfl : (resolvePath external context segments s).2 = t := congrArg Prod.snd run
    refine ⟨holds, grows, ?_⟩
    cases x with
    | primitive p => exact handleWithin_of_plain (by simp)
    | any => exact handleWithin_of_plain (by simp)
    | declaration id =>
      exact TypeExpr.within_resolved.mpr (resolvePath_registered holds.orderly id (congrArg Prod.fst run))
  · intro e t run
    obtain rfl : (resolvePath external context segments s).2 = t := congrArg Prod.snd run
    exact ⟨holds, grows⟩

theorem resolveApplied_anchors (segments : List String) (applied : Bool) {bound : Resolving (List TypeExpr)}
    (anchored : s.registry.Anchored)
    (binds : ∀ t : Resolver, t.registry.Anchored → Grows s.registry t.registry →
      MeetsAt anchoring bound t fun args u => ∀ arg ∈ args, arg.Within u.registry.size) :
    MeetsAt anchoring (resolveApplied external context segments applied bound) s HandleWithin := by
  unfold resolveApplied
  refine (resolvePath_anchors segments anchored).bind fun x t anchored grows reached => ?_
  cases x with
  | primitive p => exact .pure anchored reached
  | any => exact .pure anchored reached
  | declaration id =>
    refine .get ?_
    split
    · refine (binds t anchored grows).bind fun args u anchored later within => ?_
      have known : id < u.registry.size := Nat.lt_of_lt_of_le (TypeExpr.within_resolved.mp reached) later.size_le
      have holds := anchored.instantiate known within
      have grown := Registry.instantiate_grows u.registry id args
      have registered := anchored.instantiate_registered known within
      refine .get ?_
      rcases made : u.registry.instantiate id args with ⟨outcome, registry⟩
      rw [made] at holds grown registered
      refine .set grown ?_
      cases outcome with
      | ok other => exact .pure holds (TypeExpr.within_resolved.mpr (registered other rfl))
      | error e => exact .throw ⟨holds, .refl registry⟩
    · exact .pure anchored reached

mutual

/-- The handles of a bound argument are known if those of the argument are. -/
theorem bindArgument_anchors : (type : TypeExpr) → {s : Resolver} → s.registry.Anchored →
    type.Within s.registry.size →
      MeetsAt anchoring (bindArgument external context type) s fun arg t => arg.Within t.registry.size
  | .named segments args, s, anchored, within => by
    rw [bindArgument]
    have each := TypeExpr.within_named.mp within
    refine (resolveApplied_anchors segments _ anchored fun t anchored grows => ?_).bind
      fun x t anchored _ reached => .pure anchored reached
    exact bindArguments_anchors args anchored fun arg member => (each arg member).mono grows.size_le
  | .array inner, s, anchored, within => by
    rw [bindArgument]
    exact (bindArgument_anchors inner anchored within).bind fun _ _ anchored _ within => .pure anchored within
  | .pointer inner, s, anchored, within => by
    rw [bindArgument]
    exact bindArgument_anchors inner anchored within
  | .optional inner, s, anchored, within => by
    rw [bindArgument]
    exact bindArgument_anchors inner anchored within
  | .map key value, s, anchored, within => by
    obtain ⟨keys, values⟩ := TypeExpr.within_map.mp within
    rw [bindArgument]
    refine (bindArgument_anchors key anchored keys).bind fun key t anchored grows keys => ?_
    refine (bindArgument_anchors value anchored (values.mono grows.size_le)).bind
      fun value u anchored grows values => ?_
    exact .pure anchored (TypeExpr.within_map.mpr ⟨keys.mono grows.size_le, values⟩)
  | .primitive _, _, anchored, within => .pure anchored within
  | .param _, _, anchored, within => .pure anchored within
  | .interface, _, anchored, within => .pure anchored within
  | .function, _, anchored, within => .pure anchored within
  | .resolved _, _, anchored, within => .pure anchored within

theorem bindArguments_anchors : (types : List TypeExpr) → {s : Resolver} → s.registry.Anchored →
    (∀ type ∈ types, type.Within s.registry.size) →
      MeetsAt anchoring (bindArguments external context types) s fun args t =>
        ∀ arg ∈ args, arg.Within t.registry.size
  | [], _, anchored, _ => .pure anchored (by simp)
  | type :: rest, s, anchored, each => by
    rw [bindArguments]
    refine (bindArgument_anchors type anchored (each type List.mem_cons_self)).bind
      fun first t anchored grows known => ?_
    refine (bindArguments_anchors rest anchored fun other member =>
      (each other (List.mem_cons_of_mem _ member)).mono grows.size_le).bind fun others u anchored grows known' => ?_
    refine .pure anchored fun arg member => ?_
    rcases List.mem_cons.mp member with rfl | later
    · exact known.mono grows.size_le
    · exact known' arg later

end

theorem resolveExpr_anchors {type : TypeExpr} (anchored : s.registry.Anchored)
    (within : type.Within s.registry.size) :
    MeetsAt anchoring (resolveExpr external context type) s HandleWithin := by
  have inside := TypeExpr.within_peel within
  unfold resolveExpr
  split
  · exact .pure anchored (handleWithin_of_plain (by simp))
  · exact .pure anchored (handleWithin_of_plain (by simp))
  · next same =>
    rw [same] at inside
    exact .pure anchored inside
  · next segments args same =>
    rw [same] at inside
    have each := TypeExpr.within_named.mp inside
    exact resolveApplied_anchors segments _ anchored fun t anchored grows =>
      bindArguments_anchors args anchored fun arg member => (each arg member).mono grows.size_le
  · exact .throw ⟨anchored, .refl _⟩

theorem resolve_anchors (reference : String) (anchored : s.registry.Anchored) :
    MeetsAt anchoring (resolve external context reference) s HandleWithin := by
  unfold resolve
  split
  · next read => exact resolveExpr_anchors anchored (TypeExpr.within_of_none (TypeExpr.handles_parse read))
  · exact .throw ⟨anchored, .refl _⟩

def Inquiry.Known (s : Resolver) : Inquiry → Prop
  | reference _ => True
  | type expr => expr.Within s.registry.size
  | argument expr => expr.Within s.registry.size

/-- An inquiry keeps handles anchored, whether there is an answer or not. -/
theorem Inquiry.pursue_anchored {inquiry : Inquiry} (known : inquiry.Known s) (anchored : s.registry.Anchored) :
    (inquiry.pursue external context s).registry.Anchored ∧
      Grows s.registry (inquiry.pursue external context s).registry := by
  cases inquiry with
  | reference text => exact (resolve_anchors text anchored).lasting anchoring_lasting
  | type expr => exact (resolveExpr_anchors anchored known).lasting anchoring_lasting
  | argument expr => exact (bindArgument_anchors expr anchored known).lasting anchoring_lasting

/-- While a path is resolved a declaration is looked up by its number: one that has a full name of the package,
or one that has the key of a declaration in a file that is loaded. -/
inductive PathLooksUp : Resolver → Registry → DeclId → Prop where
  | shortcut {s : Resolver} {key : String} {id : DeclId} (held : s.registry.lookupGlobal? key = some id) :
      PathLooksUp s s.registry id
  | loading {s : Resolver} {loader : Loader} {crate : String} {front back : List SourceFile} {file : SourceFile}
      {r : Registry} {id : DeclId} (configured : s.loader = some loader)
      (given : loader crate = .ok (front ++ file :: back))
      (inner : Registry.Call.LooksUp (.index file.module file)
        (front.foldl (fun r file => (r.indexFile file).2) s.registry) r id) : PathLooksUp s r id
  | later {s : Resolver} {r : Registry} {id : DeclId} (crate : String) (inner : PathLooksUp (s.load crate).2 r id) :
      PathLooksUp s r id

/-- While types are bound one after another, or resolved, a declaration is looked up by its number. -/
inductive LooksUp (external : Bool) (context : ScopeId) : List TypeExpr → Resolver → Registry → DeclId → Prop where
  | rest {type arg : TypeExpr} {types : List TypeExpr} {s t : Resolver} {r : Registry} {id : DeclId}
      (bound : after (bindArgument external context type) s = (.ok arg, t))
      (inner : LooksUp external context types t r id) : LooksUp external context (type :: types) s r id
  | array {type : TypeExpr} {types : List TypeExpr} {s : Resolver} {r : Registry} {id : DeclId}
      (inner : LooksUp external context [type] s r id) : LooksUp external context (.array type :: types) s r id
  | pointer {type : TypeExpr} {types : List TypeExpr} {s : Resolver} {r : Registry} {id : DeclId}
      (inner : LooksUp external context [type] s r id) : LooksUp external context (.pointer type :: types) s r id
  | optional {type : TypeExpr} {types : List TypeExpr} {s : Resolver} {r : Registry} {id : DeclId}
      (inner : LooksUp external context [type] s r id) : LooksUp external context (.optional type :: types) s r id
  | map {key value : TypeExpr} {types : List TypeExpr} {s : Resolver} {r : Registry} {id : DeclId}
      (inner : LooksUp external context [key, value] s r id) :
      LooksUp external context (.map key value :: types) s r id
  | path {segments : List String} {args types : List TypeExpr} {s : Resolver} {r : Registry} {id : DeclId}
      (inner : PathLooksUp s r id) : LooksUp external context (.named segments args :: types) s r id
  /-- What the path denotes is asked whether it is generic. -/
  | denoted {segments : List String} {args types : List TypeExpr} {s t : Resolver} {id : DeclId}
      (found : resolvePath external context segments s = (.ok (.declaration id), t)) :
      LooksUp external context (.named segments args :: types) s t.registry id
  | args {segments : List String} {args types : List TypeExpr} {s t : Resolver} {r : Registry} {generic id : DeclId}
      (found : resolvePath external context segments s = (.ok (.declaration generic), t))
      (inner : LooksUp external context args t r id) : LooksUp external context (.named segments args :: types) s r id
  /-- The instance is made once the arguments are bound. -/
  | made {segments : List String} {args bound types : List TypeExpr} {s t u : Resolver} {r : Registry}
      {generic id : DeclId} (found : resolvePath external context segments s = (.ok (.declaration generic), t))
      (binds : after (bindArguments external context args) t = (.ok bound, u))
      (inner : Registry.Call.LooksUp (.instantiate generic bound) u.registry r id) :
      LooksUp external context (.named segments args :: types) s r id

theorem pathLooksUp_known {r : Registry} {id : DeclId} (looks : PathLooksUp s r id)
    (anchored : s.registry.Anchored) : id < r.size := by
  induction looks with
  | shortcut held => exact anchored.global held
  | @loading s _ _ front _ file _ _ _ _ inner =>
    have call : (Registry.Call.index file.module file).Known
      (front.foldl (fun r file => (r.indexFile file).2) s.registry) := trivial
    exact (anchored.indexFiles front).looksUp call inner
  | later crate _ ih => exact ih (load_maintains (fun files _ anchored => anchored.indexFiles files) crate anchored)

theorem looksUp_known {types : List TypeExpr} {r : Registry} {id : DeclId}
    (looks : LooksUp external context types s r id) (anchored : s.registry.Anchored)
    (within : ∀ type ∈ types, type.Within s.registry.size) : id < r.size := by
  induction looks with
  | rest bound inner ih =>
    obtain ⟨anchored', grows, _⟩ := (bindArgument_anchors _ anchored (within _ List.mem_cons_self)).ok bound
    exact ih anchored' fun other member => (within other (List.mem_cons_of_mem _ member)).mono grows.size_le
  | @array type _ _ _ _ _ ih =>
    have here : type.Within _ := within (.array type) List.mem_cons_self
    exact ih anchored (by simpa using here)
  | @pointer type _ _ _ _ _ ih =>
    have here : type.Within _ := within (.pointer type) List.mem_cons_self
    exact ih anchored (by simpa using here)
  | @optional type _ _ _ _ _ ih =>
    have here : type.Within _ := within (.optional type) List.mem_cons_self
    exact ih anchored (by simpa using here)
  | map inner ih =>
    obtain ⟨keys, values⟩ := TypeExpr.within_map.mp (within _ List.mem_cons_self)
    exact ih anchored (by simpa using ⟨keys, values⟩)
  | path inner => exact pathLooksUp_known inner anchored
  | denoted found =>
    obtain ⟨_, _, reached⟩ := (resolvePath_anchors _ anchored).ok found
    exact TypeExpr.within_resolved.mp reached
  | args found inner ih =>
    have each := TypeExpr.within_named.mp (within _ List.mem_cons_self)
    obtain ⟨anchored', grows, _⟩ := (resolvePath_anchors _ anchored).ok found
    exact ih anchored' fun arg member => (each arg member).mono grows.size_le
  | @made _ args bound _ _ t u _ generic _ found binds inner =>
    have each := TypeExpr.within_named.mp (within _ List.mem_cons_self)
    obtain ⟨anchored', grows, reached⟩ := (resolvePath_anchors _ anchored).ok found
    obtain ⟨anchored'', later, within'⟩ :=
      (bindArguments_anchors _ anchored' fun arg member => (each arg member).mono grows.size_le).ok binds
    have known := Nat.lt_of_lt_of_le (TypeExpr.within_resolved.mp reached) (Grows.size_le later)
    have call : (Registry.Call.instantiate generic bound).Known u.registry := ⟨known, within'⟩
    exact anchored''.looksUp call inner

end Resolver

end ApiSchema
