import ApiSchema.Proofs.Repetition
import ApiSchema.Proofs.UseSites

/-! A declaration that was asked for its name beforehand. Only the names of instances are made from names
that were handed out, and the one name that was handed out early is the one the declaration gets later,
since no instance can make it ambiguous. So resolution comes to the same in both registries. -/

namespace ApiSchema

open Steps
open Text (Undashed)

namespace Registry

section Names

variable (r : Registry) (names : List (DeclId × String))

theorem registerGlobal_names (key : String) (id : DeclId) :
    ({ r with names } : Registry).registerGlobal key id = { r.registerGlobal key id with names } := by
  have ambiguous : ({ r with names } : Registry).isAmbiguous key = r.isAmbiguous key := rfl
  have global : ({ r with names } : Registry).lookupGlobal? key = r.lookupGlobal? key := rfl
  have get (id : DeclId) : ({ r with names } : Registry).get id = r.get id := rfl
  simp only [registerGlobal, ambiguous, global, get]
  split
  · rfl
  · split
    · rfl
    · split <;> rfl

theorem registerAll_names (keys : List String) (id : DeclId) :
    keys.foldl (fun acc key => acc.registerGlobal key id) { r with names } =
      { keys.foldl (fun acc key => acc.registerGlobal key id) r with names } := by
  induction keys generalizing r with
  | nil => rfl
  | cons key rest ih => rw [List.foldl_cons, List.foldl_cons, registerGlobal_names, ih]

theorem insert_names (d : Declaration) :
    ({ r with names } : Registry).insert d = ((r.insert d).1, { (r.insert d).2 with names }) := by
  cases used : r.lookup? d.package d.name with
  | some id => rw [insert_used used, insert_used (r := { r with names }) used]
  | none =>
    rw [insert_new used, insert_new (r := { r with names }) used]
    exact congrArg (Prod.mk r.size) (registerAll_names (r.append d) names _ _)

end Names

/-- The name of a declaration is the one it has, else the one it would get now. -/
theorem definitionName_eq (r : Registry) (id : DeclId) :
    (r.definitionName id).1 = (r.names.lookup id).getD (r.freshName id) := by
  cases named : r.names.lookup id <;> simp [definitionName, named]

theorem definitionName_lookup (r : Registry) (id other : DeclId) :
    (r.definitionName id).2.names.lookup other =
      if other = id then some (r.definitionName id).1 else r.names.lookup other := by
  by_cases same : other = id
  · subst same
    rw [if_pos rfl]
    exact definitionName_named r other
  · rw [if_neg same]
    cases named : r.names.lookup id with
    | some name => simp [definitionName, named]
    | none => simp [definitionName, named, lookup_cons_of_ne _ _ same]

/-- The key that is entered is the only one whose entry changes. -/
theorem lookupGlobal?_registerAll {keys : List String} {key : String} (apart : key ∉ keys) (id : DeclId)
    (r : Registry) :
    (keys.foldl (fun acc key => acc.registerGlobal key id) r).lookupGlobal? key = r.lookupGlobal? key := by
  induction keys generalizing r with
  | nil => rfl
  | cons first rest ih =>
    have other : first ≠ key := fun same => apart (same ▸ List.mem_cons_self)
    rw [List.foldl_cons, ih fun later => apart (List.mem_cons_of_mem _ later)]
    unfold registerGlobal
    split
    · rfl
    · split
      · simp [lookupGlobal?, other]
      · split
        · rfl
        · simp [lookupGlobal?, other]

/-- A declaration keeps the name it would get now when another comes to the registry that has none of its
global keys. -/
theorem freshName_insert {r : Registry} {id : DeclId} (known : id < r.size) (d : Declaration)
    (apart : (r.get id).fullName ∉ globalKeys d) : (r.insert d).2.freshName id = r.freshName id := by
  have same : (r.insert d).2.get id = r.get id := (insert_grows r d).get_eq known
  have global : (r.insert d).2.lookupGlobal? (r.get id).fullName = r.lookupGlobal? (r.get id).fullName := by
    cases used : r.lookup? d.package d.name with
    | some other => rw [insert_used used]
    | none =>
      rw [insert_new used]
      exact lookupGlobal?_registerAll apart r.size (r.append d)
  simp only [freshName, same, global]

/-- The registries are the same but for the names handed out, and these are the same but that one
declaration may have its name in one of them only. It is a known one whose name no instance can have. -/
structure Ahead (id : DeclId) (r r' : Registry) : Prop where
  same : ∃ names, r' = { r with names }
  others : ∀ other, other ≠ id → r'.names.lookup other = r.names.lookup other
  own : (r'.definitionName id).1 = (r.definitionName id).1
  known : id < r.size
  plain : Undashed (r.get id).fullName

namespace Ahead

variable {id : DeclId} {r r' : Registry}

/-- Asking for the name puts a registry ahead. -/
theorem asked (known : id < r.size) (plain : Undashed (r.get id).fullName) :
    Ahead id r (r.definitionName id).2 := by
  refine ⟨definitionName_frame id r, fun other apart => ?_, definitionName_twice r id id, known, plain⟩
  rw [definitionName_lookup, if_neg apart]

theorem symm (ahead : Ahead id r r') : Ahead id r' r := by
  obtain ⟨⟨names, rfl⟩, others, own, known, plain⟩ := ahead
  exact ⟨⟨r.names, rfl⟩, fun other apart => (others other apart).symm, own.symm, known, plain⟩

theorem trans {r'' : Registry} (first : Ahead id r r') (second : Ahead id r' r'') : Ahead id r r'' := by
  obtain ⟨⟨names, rfl⟩, others, own, known, plain⟩ := first
  obtain ⟨⟨names', rfl⟩, others', own', _, _⟩ := second
  exact ⟨⟨names', rfl⟩, fun other apart => (others' other apart).trans (others other apart), own'.trans own,
    known, plain⟩

theorem renamed (ahead : Ahead id r r') : Renamed r r' := by
  refine ⟨ahead.same, fun other => ?_⟩
  by_cases same : other = id
  · rw [same, ahead.own]
  · obtain ⟨names, rfl⟩ := ahead.same
    simp only [definitionName, ahead.others other same]
    cases r.names.lookup other <;> rfl

/-- Either registry gives the same name to any declaration. -/
theorem naming (ahead : Ahead id r r') (other : DeclId) :
    (r'.definitionName other).1 = (r.definitionName other).1 ∧
      Ahead id (r.definitionName other).2 (r'.definitionName other).2 := by
  have answer := ahead.renamed.names other
  refine ⟨answer, ?_, fun another apart => ?_, ?_, ?_, ?_⟩
  · obtain ⟨names, first⟩ := definitionName_frame other r
    obtain ⟨names', second⟩ := definitionName_frame other r'
    obtain ⟨_, rfl⟩ := ahead.same
    exact ⟨names', by rw [first]; exact second⟩
  · rw [definitionName_lookup, definitionName_lookup, answer, ahead.others another apart]
  · rw [definitionName_twice, definitionName_twice, ahead.own]
  · rw [size, definitionName_decls]
    exact ahead.known
  · rw [definitionName_get]
    exact ahead.plain

/-- A declaration with a mark in its full name comes to either registry in the same way. -/
theorem insert (ahead : Ahead id r r') {d : Declaration} (plain : d.params = [])
    (marked : ¬Undashed d.fullName) :
    (r'.insert d).1 = (r.insert d).1 ∧ Ahead id (r.insert d).2 (r'.insert d).2 := by
  obtain ⟨⟨names, rfl⟩, others, own, known, undashed⟩ := ahead
  have handed : (r.insert d).2.names = r.names := (insert_frame r d).names
  have keys : (r.get id).fullName ∉ globalKeys d := by
    simp only [globalKeys, Declaration.isGeneric, plain, List.isEmpty_nil, Bool.not_true,
      Bool.false_eq_true, if_false, List.mem_singleton]
    rintro same
    exact marked (same ▸ undashed)
  have get : (r.insert d).2.get id = r.get id := (insert_grows r d).get_eq known
  rw [insert_names]
  refine ⟨rfl, ⟨_, rfl⟩, fun other apart => ?_, ?_, ?_, ?_⟩
  · rw [handed]
    exact others other apart
  · have fresh := freshName_insert known d keys
    have fresh' : ({ (r.insert d).2 with names } : Registry).freshName id =
        ({ r with names } : Registry).freshName id := fresh
    rw [definitionName_eq, definitionName_eq] at own
    rw [definitionName_eq, definitionName_eq, fresh, fresh', handed]
    exact own
  · exact Nat.lt_of_lt_of_le known (insert_grows r d).size_le
  · rw [get]
    exact undashed

theorem argumentName : (arg : TypeExpr) → {r r' : Registry} → Ahead id r r' →
    (Registry.argumentName arg r').1 = (Registry.argumentName arg r).1 ∧
      Ahead id (Registry.argumentName arg r).2 (Registry.argumentName arg r').2
  | .resolved other, _, _, ahead => ⟨congrArg flatName (ahead.naming other).1, (ahead.naming other).2⟩
  | .array inner, _, _, ahead => by
    obtain ⟨answer, later⟩ := argumentName inner ahead
    exact ⟨congrArg ("array_" ++ ·) answer, later⟩
  | .map key value, _, _, ahead => by
    obtain ⟨first, between⟩ := argumentName key ahead
    obtain ⟨second, later⟩ := argumentName value between
    refine ⟨?_, later⟩
    simp only [Registry.argumentName, first, second]
  | .pointer inner, _, _, ahead => argumentName inner ahead
  | .optional inner, _, _, ahead => argumentName inner ahead
  | .primitive _, _, _, ahead => ⟨rfl, ahead⟩
  | .named _ _, _, _, ahead => ⟨rfl, ahead⟩
  | .param _, _, _, ahead => ⟨rfl, ahead⟩
  | .interface, _, _, ahead => ⟨rfl, ahead⟩
  | .function, _, _, ahead => ⟨rfl, ahead⟩

theorem instanceName (ahead : Ahead id r r') (args : List TypeExpr) (base : String) :
    (Registry.instanceName base args r').1 = (Registry.instanceName base args r).1 ∧
      Ahead id (Registry.instanceName base args r).2 (Registry.instanceName base args r').2 := by
  induction args generalizing base r r' with
  | nil => exact ⟨rfl, ahead⟩
  | cons arg rest ih =>
    obtain ⟨answer, between⟩ := argumentName arg ahead
    simp only [Registry.instanceName, answer]
    exact ih between _

/-- The same instance comes of it, whichever of the registries it is made in. -/
theorem instantiate (ahead : Ahead id r r') {generic : DeclId}
    (applied : (r.get generic).isGeneric = true) (args : List TypeExpr) :
    (r'.instantiate generic args).1 = (r.instantiate generic args).1 ∧
      Ahead id (r.instantiate generic args).2 (r'.instantiate generic args).2 := by
  have same : r'.get generic = r.get generic := ahead.renamed.get generic
  simp only [Registry.instantiate, same]
  split
  · exact ⟨rfl, ahead⟩
  next arity =>
  obtain ⟨answer, later⟩ := ahead.instanceName args (r.get generic).name
  have given : args ≠ [] := by
    rintro rfl
    cases params : (r.get generic).params with
    | nil => simp [Declaration.isGeneric, params] at applied
    | cons _ _ => simp [params] at arity
  have marked := instanceName_marked given (r.get generic).name r
  rw [answer]
  generalize (Registry.instanceName (r.get generic).name args r).1 = name at marked ⊢
  generalize (Registry.instanceName (r.get generic).name args r).2 = t at later ⊢
  generalize (Registry.instanceName (r.get generic).name args r').2 = t' at later ⊢
  have lookup : t'.lookup? (r.get generic).package name = t.lookup? (r.get generic).package name := by
    obtain ⟨_, rfl⟩ := later.same
    rfl
  rw [lookup]
  split
  · exact ⟨rfl, later⟩
  · have dashed : ¬Undashed (instanceOf (r.get generic) name args).fullName := by
      simp [Undashed, Declaration.fullName, instanceOf, marked]
    obtain ⟨first, last⟩ := later.insert rfl dashed
    exact ⟨congrArg Except.ok first, last⟩

end Ahead

end Registry

namespace Resolver

structure Ahead (id : DeclId) (s s' : Resolver) : Prop where
  only : s' = { s with registry := s'.registry }
  registry : s.registry.Ahead id s'.registry

structure Alike (id : DeclId) {α : Type} (first second : Except Error α × Resolver) : Prop where
  answer : second.1 = first.1
  ahead : Ahead id first.2 second.2

variable {id : DeclId} {context : ScopeId} {s s' : Resolver}

theorem Ahead.symm (ahead : Ahead id s s') : Ahead id s' s where
  only := by rw [ahead.only]
  registry := ahead.registry.symm

theorem Ahead.trans {s'' : Resolver} (first : Ahead id s s') (second : Ahead id s' s'') : Ahead id s s'' where
  only := by
    rw [second.only, first.only]
  registry := first.registry.trans second.registry

theorem Ahead.with {r r' : Registry} (ahead : Ahead id s s') (later : r.Ahead id r') :
    Ahead id { s with registry := r } { s' with registry := r' } where
  only := by rw [ahead.only]
  registry := later

theorem resolvePath_ahead (segments : List String) (ahead : Ahead id s s') :
    ∃ answer, resolvePath false context segments s = (answer, s) ∧
      resolvePath false context segments s' = (answer, s') := by
  have lookup := ahead.registry.renamed.lookupPath segments context
  have same : s'.registry.atHand? false context segments = s.registry.atHand? false context segments := by
    simp only [Registry.atHand?, lookup, Bool.false_and, Bool.false_eq_true, if_false]
  rw [resolvePath_run, resolvePath_run, same]
  cases s.registry.atHand? false context segments with
  | some found => exact ⟨_, rfl, rfl⟩
  | none => exact ⟨_, rfl, rfl⟩

theorem resolveApplied_ahead (segments : List String) (applied : Bool)
    {bound : Resolving (List TypeExpr)} (growing : OnlyGrows bound)
    (inner : Alike id (after bound s) (after bound s')) (ahead : Ahead id s s') :
    Alike id (after (resolveApplied false context segments applied bound) s)
      (after (resolveApplied false context segments applied bound) s') := by
  obtain ⟨answer, first, second⟩ := resolvePath_ahead segments ahead
  have get (other : DeclId) : s'.registry.get other = s.registry.get other := ahead.registry.renamed.get other
  rw [resolveApplied_run, resolveApplied_run, first, second]
  rcases answer with e | p | _ | generic
  · exact ⟨rfl, ahead⟩
  · exact ⟨rfl, ahead⟩
  · exact ⟨rfl, ahead⟩
  dsimp only
  rw [get]
  split
  · next condition =>
    have grows := onlyGrows_after growing s
    obtain ⟨same, later⟩ := inner
    rcases run : after bound s with ⟨e | args, t⟩
    · rcases run' : after bound s' with ⟨other, t'⟩
      rw [run, run'] at same later
      obtain rfl : other = .error e := same
      exact ⟨rfl, later⟩
    · rcases run' : after bound s' with ⟨other, t'⟩
      rw [run, run'] at same later
      rw [run] at grows
      obtain rfl : other = .ok args := same
      have applied := grows.isGeneric (Bool.and_eq_true_iff.mp condition).2
      obtain ⟨made, last⟩ := later.registry.instantiate applied args
      exact ⟨congrArg (Except.map Resolution.declaration) made, later.with last⟩
  · exact ⟨rfl, ahead⟩

theorem Alike.map {α β : Type} {x : Resolving α} (f : α → β) (inner : Alike id (after x s) (after x s')) :
    Alike id (after (do return f (← x)) s) (after (do return f (← x)) s') := by
  rw [run_map, run_map]
  exact ⟨congrArg (Except.map f) inner.answer, inner.ahead⟩

theorem Alike.pair {α β γ : Type} {x : Resolving α} {y : Resolving β} (f : α → β → γ)
    (first : Alike id (after x s) (after x s'))
    (second : ∀ {t t'}, Ahead id t t' → Alike id (after y t) (after y t')) :
    Alike id (after (do let a ← x; let b ← y; return f a b) s)
      (after (do let a ← x; let b ← y; return f a b) s') := by
  rw [run_pair, run_pair]
  rcases run : after x s with ⟨e | a, t⟩
  · rcases run' : after x s' with ⟨other, t'⟩
    rw [run, run'] at first
    obtain rfl : other = .error e := first.answer
    exact ⟨rfl, first.ahead⟩
  · rcases run' : after x s' with ⟨other, t'⟩
    rw [run, run'] at first
    obtain rfl : other = .ok a := first.answer
    have later : Ahead id t t' := first.ahead
    obtain ⟨same, last⟩ := second later
    exact ⟨congrArg (Except.map (f a)) same, last⟩

mutual

theorem bindArgument_ahead : (type : TypeExpr) → {s s' : Resolver} → Ahead id s s' →
    Alike id (after (bindArgument false context type) s) (after (bindArgument false context type) s')
  | .named segments args, s, s', ahead => by
    rw [bindArgument]
    refine .map Resolution.toExpr (resolveApplied_ahead segments _ ?_ (bindArguments_ahead args ahead) ahead)
    exact (bindArguments_meets (growth_law false context) args)
  | .array inner, s, s', ahead => by
    rw [bindArgument]
    exact .map TypeExpr.array (bindArgument_ahead inner ahead)
  | .pointer inner, s, s', ahead => by
    rw [bindArgument]
    exact bindArgument_ahead inner ahead
  | .optional inner, s, s', ahead => by
    rw [bindArgument]
    exact bindArgument_ahead inner ahead
  | .map key value, s, s', ahead => by
    rw [bindArgument]
    exact .pair TypeExpr.map (bindArgument_ahead key ahead) (bindArgument_ahead value)
  | .primitive _, s, s', ahead => ⟨rfl, ahead⟩
  | .param _, s, s', ahead => ⟨rfl, ahead⟩
  | .interface, s, s', ahead => ⟨rfl, ahead⟩
  | .function, s, s', ahead => ⟨rfl, ahead⟩
  | .resolved _, s, s', ahead => ⟨rfl, ahead⟩

theorem bindArguments_ahead : (types : List TypeExpr) → {s s' : Resolver} → Ahead id s s' →
    Alike id (after (bindArguments false context types) s) (after (bindArguments false context types) s')
  | [], s, s', ahead => ⟨rfl, ahead⟩
  | type :: rest, s, s', ahead => by
    rw [bindArguments]
    exact .pair List.cons (bindArgument_ahead type ahead) (bindArguments_ahead rest)

end

/-- A type denotes the same in either state. -/
theorem resolveExpr_ahead (type : TypeExpr) (ahead : Ahead id s s') :
    Alike id (after (resolveExpr false context type) s) (after (resolveExpr false context type) s') := by
  unfold resolveExpr
  split
  · exact ⟨rfl, ahead⟩
  · exact ⟨rfl, ahead⟩
  · exact ⟨rfl, ahead⟩
  · exact resolveApplied_ahead _ _ (bindArguments_meets (growth_law false context) _)
      (bindArguments_ahead _ ahead) ahead
  · exact ⟨rfl, ahead⟩

end Resolver

end ApiSchema
