import ApiSchema.Proofs.Steps
import ApiSchema.Resolution

/-! What all of resolution owes to its two steps that change a resolver: looking up a path, which may
load crates, and making an instance. A contract that both meet is met by every resolution, however
its arguments nest. -/

def ApiSchema.Error.IsConflict : Error → Prop
  | .annotationConflict _ _ => True
  | _ => False

namespace ApiSchema.TypeExpr

def isAtom : TypeExpr → Bool
  | .primitive _ | .param _ | .interface | .function | .resolved _ => true
  | _ => false

/-- Arguments as binding leaves them: no names, no wrappers but arrays and maps. -/
inductive Bound : TypeExpr → Prop where
  | atom {arg : TypeExpr} (single : isAtom arg = true) : Bound arg
  | array {inner : TypeExpr} (element : Bound inner) : Bound (.array inner)
  | map {key value : TypeExpr} (keys : Bound key) (values : Bound value) : Bound (.map key value)

theorem bound_resolution (resolution : Resolution) : Bound resolution.toExpr := by
  cases resolution <;> exact .atom rfl

end ApiSchema.TypeExpr

namespace ApiSchema.Registry

theorem instantiate_error {r : Registry} {id : DeclId} {args : List TypeExpr} {e : Error}
    (failed : (r.instantiate id args).1 = .error e) :
    ¬e.IsConflict ∧ (r.instantiate id args).2 = r := by
  simp only [instantiate] at failed ⊢
  split at failed
  · next mismatch =>
    cases failed
    exact ⟨not_false, by rw [if_pos mismatch]⟩
  · split at failed <;> cases failed

end ApiSchema.Registry

namespace ApiSchema.Resolver

open Steps

open TypeExpr (Bound)

structure Law (external : Bool) (context : ScopeId) (c : Contract Error Resolver) : Prop where
  path : ∀ segments, Meets c (ExceptT.mk (resolvePath external context segments)) fun _ _ => True
  made : ∀ {s : Resolver} {id : DeclId} (args : List TypeExpr), c.holds s →
    (s.registry.get id).isGeneric = true →
      c.holds { s with registry := (s.registry.instantiate id args).2 } ∧
        c.moves s { s with registry := (s.registry.instantiate id args).2 }
  /-- A generic stays one. -/
  generic : ∀ {s t : Resolver} {id : DeclId}, c.moves s t → (s.registry.get id).isGeneric = true →
    (t.registry.get id).isGeneric = true
  refused : ∀ {s : Resolver} {e : Error}, c.holds s → ¬e.IsConflict → c.fails e s s

section

variable {external : Bool} {context : ScopeId} {c : Contract Error Resolver}

theorem resolveApplied_meets (law : Law external context c) (segments : List String) (applied : Bool)
    {bound : Resolving (List TypeExpr)} (args : Meets c bound fun _ _ => True) :
    Meets c (resolveApplied external context segments applied bound) fun _ _ => True := by
  intro s holds
  unfold resolveApplied
  refine (law.path segments s holds).bind ?_
  intro resolution t holds _ _
  cases resolution with
  | primitive p => exact .pure holds trivial
  | any => exact .pure holds trivial
  | declaration id =>
    refine .get ?_
    split
    · next generic =>
      refine (args t holds).bind ?_
      intro bound u holds moves _
      refine .get ?_
      have ready := law.made bound holds (law.generic moves (Bool.and_eq_true_iff.mp generic).2)
      rcases made : u.registry.instantiate id bound with ⟨outcome, registry⟩
      rw [made] at ready
      refine .set ready.2 ?_
      cases outcome with
      | ok id => exact .pure ready.1 trivial
      | error e =>
        have mild := (Registry.instantiate_error (congrArg Prod.fst made)).1
        exact .throw (law.refused ready.1 mild)
    · exact .pure holds trivial

mutual

theorem bindArgument_meets (law : Law external context c) : (type : TypeExpr) →
    Meets c (bindArgument external context type) fun arg _ => Bound arg
  | .named segments args => fun s holds => by
    rw [bindArgument]
    refine (resolveApplied_meets law segments (!args.isEmpty) (bindArguments_meets law args) s
      holds).bind ?_
    exact fun resolution _ holds _ _ => .pure holds (TypeExpr.bound_resolution resolution)
  | .array inner => fun s holds => by
    rw [bindArgument]
    refine (bindArgument_meets law inner s holds).bind ?_
    exact fun _ _ holds _ bound => .pure holds (.array bound)
  | .pointer inner => by
    rw [bindArgument]
    exact bindArgument_meets law inner
  | .optional inner => by
    rw [bindArgument]
    exact bindArgument_meets law inner
  | .map key value => fun s holds => by
    rw [bindArgument]
    refine (bindArgument_meets law key s holds).bind ?_
    intro _ t holds _ keys
    refine (bindArgument_meets law value t holds).bind ?_
    exact fun _ _ holds _ values => .pure holds (.map keys values)
  | .primitive _ => fun _ holds => .pure holds (.atom rfl)
  | .param _ => fun _ holds => .pure holds (.atom rfl)
  | .interface => fun _ holds => .pure holds (.atom rfl)
  | .function => fun _ holds => .pure holds (.atom rfl)
  | .resolved _ => fun _ holds => .pure holds (.atom rfl)

theorem bindArguments_meets (law : Law external context c) : (types : List TypeExpr) →
    Meets c (bindArguments external context types) fun _ _ => True
  | [] => fun _ holds => .pure holds trivial
  | type :: rest => fun s holds => by
    rw [bindArguments]
    refine (bindArgument_meets law type s holds).bind ?_
    intro _ t holds _ _
    refine (bindArguments_meets law rest t holds).bind ?_
    exact fun _ _ holds _ _ => .pure holds trivial

end

theorem resolveExpr_meets (law : Law external context c) (type : TypeExpr) :
    Meets c (resolveExpr external context type) fun _ _ => True := by
  intro s holds
  unfold resolveExpr
  split
  · exact .pure holds trivial
  · exact .pure holds trivial
  · exact .pure holds trivial
  · exact resolveApplied_meets law _ _ (bindArguments_meets law _) s holds
  · exact .throw (law.refused holds not_false)

theorem resolve_meets (law : Law external context c) (reference : String) :
    Meets c (resolve external context reference) fun _ _ => True := by
  intro s holds
  unfold resolve
  split
  · exact resolveExpr_meets law _ s holds
  · exact .throw (law.refused holds not_false)

end

end ApiSchema.Resolver
