import ApiSchema.Proofs.Loading

/-! Asking again for what was asked before. A reference is resolved path by path, each in the state
that the paths before it have left. If every path has the outcome it had, so has the reference, and the
state stays as it is, for an instance that was made is found. A path has the outcome it had if nothing
that was looked for in vain has turned up since. -/

namespace ApiSchema

open Text (Unmarked)

namespace TypeExpr

mutual

def names : TypeExpr → List String
  | named segments args => segments ++ allNames args
  | array inner => inner.names
  | pointer inner => inner.names
  | optional inner => inner.names
  | map key value => key.names ++ value.names
  | _ => []

def allNames : List TypeExpr → List String
  | [] => []
  | arg :: rest => arg.names ++ allNames rest

end

theorem names_peel (type : TypeExpr) : type.peel.names = type.names := by
  fun_induction peel type with
  | case1 inner ih => rw [ih, names]
  | case2 inner ih => rw [ih, names]
  | case3 other => rfl

def namesIn (reference : String) : List String :=
  match parse? reference with
  | some expr => expr.names
  | none => []

end TypeExpr

namespace Registry

/-- The outcome of making an instance is the same one later. -/
theorem instantiate_repeats {r r' : Registry} {g : DeclId} {args : List TypeExpr} (known : g < r.size)
    (grows : Grows (r.instantiate g args).2 r') :
    r'.instantiate g args = ((r.instantiate g args).1, r') := by
  rcases made : r.instantiate g args with ⟨e | id, later⟩
  · rw [made] at grows
    obtain rfl : later = r := by
      simpa [made] using (instantiate_error (congrArg Prod.fst made)).2
    have same : r'.get g = later.get g := grows.get_eq known
    simp only [instantiate] at made ⊢
    rw [same]
    split at made
    · next mismatch =>
      rw [if_pos mismatch]
      exact congrArg (Prod.mk · r') (congrArg Prod.fst made)
    · split at made <;> cases made
  · rw [made] at grows
    exact instantiate_again known made grows

def builtin? : List String → Option Primitive
  | [name] => Primitive.ofName? name
  | _ => none

/-- What a path denotes as far as it is known without loading. -/
def atHand? (r : Registry) (external : Bool) (context : ScopeId) (segments : List String) :
    Option Resolution :=
  match builtin? segments with
  | some p => some (.primitive p)
  | none =>
    match (r.lookupPath segments context).found with
    | some found => some found
    | none =>
      if external && !segments.dropLast.isEmpty then
        r.suffixMatch? segments.dropLast (segments.getLastD "")
      else none

theorem atHand?_registered {r : Registry} (orderly : Orderly r) {external : Bool} {context : ScopeId}
    {segments : List String} {id : DeclId}
    (found : r.atHand? external context segments = some (.declaration id)) : id < r.size := by
  unfold atHand? at found
  split at found
  · cases found
  · split at found
    · next here =>
      cases found
      exact registers_lookupPath orderly segments context id here
    · split at found
      · exact suffixMatch_registered orderly found
      · cases found

/-- No package that a lookup of the path looked for in vain has become known; nor, where it found nothing,
one that matches the path by its last segments. -/
structure Undisturbed (r r' : Registry) (context : ScopeId) (segments : List String) : Prop where
  tried : ∀ path ∈ (r.lookupPath segments context).tried, Unchanged r r' path
  unmatched : (r.lookupPath segments context).found = none → ∀ path p, r.package? path = none →
    r'.package? path = some p → matching segments.dropLast (segments.getLastD "") p = none

theorem undisturbed_of_found {r r' : Registry} {context : ScopeId} {segments : List String}
    (found : (r.lookupPath segments context).found.isSome = true)
    (tried : ∀ path ∈ (r.lookupPath segments context).tried, Unchanged r r' path) :
    Undisturbed r r' context segments :=
  ⟨tried, fun none => by simp [none] at found⟩

theorem atHand?_same {r r' : Registry} (clean : Clean r) (orderly' : Orderly r') (wider : KeepsWrittenNames r r')
    (external : Bool) {context : ScopeId} {segments : List String}
    (written : ∀ segment ∈ segments, Unmarked segment) (known : context < r.scopes.length)
    (undisturbed : Undisturbed r r' context segments) :
    r'.atHand? external context segments = r.atHand? external context segments := by
  have lookup := lookupPath_same clean.orderly clean.undashed wider orderly' written known
    undisturbed.tried
  unfold atHand?
  rw [lookup]
  split
  · rfl
  · split
    · rfl
    · next none =>
      split
      · next qualified =>
        have last : segments.getLastD "" ∈ segments := by
          cases segments with
          | nil => simp at qualified
          | cons head rest =>
            rw [List.getLastD_cons]
            exact List.getLastD_mem_cons
        exact suffixMatch_same wider clean.orderly orderly' (written _ last).undashed (undisturbed.unmatched none)
      · rfl

end Registry

namespace Resolver

open Registry (Grows Orderly)
open Steps

def visitsIfOk {α : Type} (outcome : Except Error α × Resolver)
    (second : Resolver → List (Resolver × List String)) : List (Resolver × List String) :=
  match outcome with
  | (.ok _, t) => second t
  | (.error _, _) => []

section Visits

variable (external : Bool) (context : ScopeId)

mutual

def argumentVisits : TypeExpr → Resolver → List (Resolver × List String)
  | .named segments args, s =>
    (s, segments) ::
      match resolvePath external context segments s with
      | (.ok (.declaration id), t) =>
        if !args.isEmpty && (t.registry.get id).isGeneric then argumentsVisits args t else []
      | _ => []
  | .array inner, s => argumentVisits inner s
  | .pointer inner, s => argumentVisits inner s
  | .optional inner, s => argumentVisits inner s
  | .map key value, s =>
    argumentVisits key s ++
      visitsIfOk (after (bindArgument external context key) s) fun t => argumentVisits value t
  | _, _ => []

def argumentsVisits : List TypeExpr → Resolver → List (Resolver × List String)
  | [], _ => []
  | arg :: rest, s =>
    argumentVisits arg s ++
      visitsIfOk (after (bindArgument external context arg) s) fun t => argumentsVisits rest t

end

def visits (reference : String) (s : Resolver) : List (Resolver × List String) :=
  match TypeExpr.parse? reference with
  | some expr =>
    match expr.peel with
    | .named segments args => argumentVisits external context (.named segments args) s
    | _ => []
  | none => []

end Visits

section Runs

variable {external : Bool} {context : ScopeId}

/-- A path is resolved by what is at hand; else crates are loaded until it is found. -/
theorem resolvePath_run (segments : List String) (s : Resolver) :
    resolvePath external context segments s =
      match s.registry.atHand? external context segments with
      | some found => (.ok found, s)
      | none =>
        if external then
          loadUntilFound segments context
            (s.registry.unknownCrates (s.registry.lookupPath segments context).tried) none s
        else (.error (.unresolvable (Text.joinSegments segments)), s) := by
  change (match Registry.builtin? segments with | some p => _ | none => _) = _
  unfold Registry.atHand?
  cases Registry.builtin? segments with
  | some p => rfl
  | none =>
    dsimp only
    cases (s.registry.lookupPath segments context).found with
    | some found => rfl
    | none =>
      cases external with
      | false => rfl
      | true => cases segments.dropLast.isEmpty <;> rfl

theorem loadUntilFound_ok {segments : List String} {crates : List String} {failed : Option Error}
    {s t : Resolver} {x : Resolution}
    (run : loadUntilFound segments context crates failed s = (.ok x, t)) :
    (t.registry.lookupPath segments context).found = some x := by
  induction crates generalizing failed s with
  | nil => cases run
  | cons crate rest ih =>
    simp only [loadUntilFound] at run
    split at run
    · exact ih run
    · exact ih run
    · split at run
      · next found =>
        cases run
        exact found
      · exact ih run

/-- What a path was resolved to is at hand from then on. -/
theorem resolvePath_ok {segments : List String} {s t : Resolver} {x : Resolution}
    (run : resolvePath external context segments s = (.ok x, t)) :
    t.registry.atHand? external context segments = some x := by
  rw [resolvePath_run] at run
  split at run
  · next found =>
    cases run
    exact found
  · next none =>
    split at run
    · have found := loadUntilFound_ok run
      unfold Registry.atHand? at none ⊢
      split at none
      · cases none
      · simp only [found]
    · cases run

theorem resolvePath_registered {s : Resolver} {segments : List String}
    (orderly : Orderly (resolvePath external context segments s).2.registry) (id : DeclId)
    (found : (resolvePath external context segments s).1 = .ok (.declaration id)) :
    id < (resolvePath external context segments s).2.registry.size :=
  Registry.atHand?_registered orderly (resolvePath_ok (Prod.ext found rfl))

theorem resolveApplied_run (segments : List String) (applied : Bool) (bound : Resolving (List TypeExpr))
    (s : Resolver) :
    after (resolveApplied external context segments applied bound) s =
      match resolvePath external context segments s with
      | (.error e, t) => (.error e, t)
      | (.ok (.declaration id), t) =>
        if applied && (t.registry.get id).isGeneric then
          match after bound t with
          | (.error e, u) => (.error e, u)
          | (.ok args, u) =>
            ((u.registry.instantiate id args).1.map .declaration,
              { u with registry := (u.registry.instantiate id args).2 })
        else (.ok (.declaration id), t)
      | (.ok other, t) => (.ok other, t) := by
  unfold resolveApplied
  rcases path : resolvePath external context segments s with ⟨e | resolution, t⟩
  · exact run_bind_error path
  · rw [run_bind_ok (show after (ExceptT.mk (resolvePath external context segments)) s = _ from path)]
    cases resolution with
    | primitive p => rfl
    | any => rfl
    | declaration id =>
      dsimp only
      rw [run_bind_get]
      split
      · rcases args : after bound t with ⟨e | args', u⟩
        · exact run_bind_error args
        · rw [run_bind_ok args, run_bind_get]
          dsimp only
          rcases made : u.registry.instantiate id args' with ⟨e | id', registry⟩
          · rfl
          · rfl
      · rfl

/-- In the later state the path has the outcome that it had when it was visited, and leaves the state
as it is. -/
def Repeats (external : Bool) (context : ScopeId) (later : Resolver) (visit : Resolver × List String) :
    Prop :=
  resolvePath external context visit.2 later =
    ((resolvePath external context visit.2 visit.1).1, later)

/-- A path that was resolved has the same answer where nothing has disturbed its lookup. -/
theorem repeats_of_undisturbed {later : Resolver}
    {visit : Resolver × List String} (inv : CleanRooted visit.1) (inv' : CleanRooted later)
    (kept : KeepsLookups (resolvePath external context visit.2 visit.1).2 later)
    (written : ∀ segment ∈ visit.2, Unmarked segment)
    (known : context < visit.1.registry.scopes.length)
    (ok : (resolvePath external context visit.2 visit.1).1.isOk = true)
    (undisturbed : Registry.Undisturbed (resolvePath external context visit.2 visit.1).2.registry later.registry
      context visit.2) : Repeats external context later visit := by
  obtain ⟨middle, before⟩ := resolvePath_keeps inv external context visit.2
  unfold Repeats
  rcases run : resolvePath external context visit.2 visit.1 with ⟨e | x, t⟩
  · rw [run] at ok
    cases ok
  rw [run] at middle before kept undisturbed
  have known' : context < t.registry.scopes.length :=
    Nat.lt_of_lt_of_le known before.wider.scopes.length_le
  have same := Registry.atHand?_same middle.clean inv'.clean.orderly kept.wider external written
    known' undisturbed
  rw [resolvePath_run, same, resolvePath_ok run]

theorem resolveApplied_repeats {s later : Resolver} {segments : List String} {applied : Bool}
    {bound : Resolving (List TypeExpr)}
    (orderly : Orderly (resolvePath external context segments s).2.registry)
    (path : Repeats external context later (s, segments)) (growing : OnlyGrows bound)
    (args : ∀ id t, resolvePath external context segments s = (.ok (.declaration id), t) →
      (applied && (t.registry.get id).isGeneric) = true →
      Grows (after bound t).2.registry later.registry → after bound later = ((after bound t).1, later))
    (grows : Grows (after (resolveApplied external context segments applied bound) s).2.registry
      later.registry) :
    after (resolveApplied external context segments applied bound) later =
      ((after (resolveApplied external context segments applied bound) s).1, later) := by
  have registered := resolvePath_registered orderly
  simp only [Repeats] at path
  rw [resolveApplied_run] at grows
  rw [resolveApplied_run, resolveApplied_run, path]
  rcases run : resolvePath external context segments s with ⟨e | resolution, t⟩
  · rfl
  rw [run] at registered grows
  cases resolution with
  | primitive p => rfl
  | any => rfl
  | declaration id =>
    have inside : id < t.registry.size := registered id rfl
    dsimp only at grows ⊢
    by_cases generic : (applied && (t.registry.get id).isGeneric) = true
    · rw [if_pos generic] at grows
      have binding := onlyGrows_after growing t
      rcases bind : after bound t with ⟨e | args', u⟩
      · rw [bind] at grows binding
        have again := args id t run generic (by rw [bind]; exact grows)
        have same : later.registry.get id = t.registry.get id := (binding.trans grows).get_eq inside
        rw [same, if_pos generic, if_pos generic, again, bind]
      · rw [bind] at grows binding
        have making := Registry.instantiate_grows u.registry id args'
        have again := args id t run generic (by rw [bind]; exact making.trans grows)
        have same : later.registry.get id = t.registry.get id :=
          (binding.trans (making.trans grows)).get_eq inside
        have made := Registry.instantiate_repeats (Nat.lt_of_lt_of_le inside binding.size_le) grows
        rw [same, if_pos generic, if_pos generic, again, bind]
        dsimp only
        rw [made]
    · rw [if_neg generic] at grows
      have same : later.registry.get id = t.registry.get id := grows.get_eq inside
      rw [same, if_neg generic, if_neg generic]

theorem pair_repeats {α β γ : Type} {x : Resolving α} {y : Resolving β} (f : α → β → γ) {s later : Resolver}
    (growing : OnlyGrows y)
    (first : Grows (after x s).2.registry later.registry → after x later = ((after x s).1, later))
    (second : ∀ a t, after x s = (.ok a, t) → Grows (after y t).2.registry later.registry →
      after y later = ((after y t).1, later))
    (grows : Grows (after (do let a ← x; let b ← y; return f a b) s).2.registry later.registry) :
    after (do let a ← x; let b ← y; return f a b) later =
      ((after (do let a ← x; let b ← y; return f a b) s).1, later) := by
  rw [run_pair] at grows
  rw [run_pair, run_pair]
  rcases run : after x s with ⟨e | a, t⟩
  · rw [run] at grows first
    rw [first grows]
  · rw [run] at grows first
    rw [first ((onlyGrows_after growing t).trans grows)]
    dsimp only
    rw [second a t run grows]

section Outcomes

variable {α β γ : Type} {c : Contract Error Resolver}

structure Leads (c : Contract Error Resolver) (first : Except Error α × Resolver)
    (last : Except Error β × Resolver) : Prop where
  kept : c.moves first.2 last.2
  ok : last.1.isOk = true → first.1.isOk = true

namespace Leads

theorem refl (outcome : Except Error α × Resolver) : Leads c outcome outcome := ⟨c.refl _, id⟩

theorem trans {first : Except Error α × Resolver} {second : Except Error β × Resolver}
    {third : Except Error γ × Resolver} (onward : Leads c first second) (further : Leads c second third) :
    Leads c first third := ⟨c.trans onward.kept further.kept, onward.ok ∘ further.ok⟩

theorem map (f : α → β) (outcome : Except Error α × Resolver) :
    Leads c outcome (outcome.1.map f, outcome.2) := by
  obtain ⟨e | a, t⟩ := outcome
  · exact ⟨c.refl t, id⟩
  · exact ⟨c.refl t, fun _ => rfl⟩

/-- What comes after a success is bound to nothing but the state. -/
theorem of_ok {a : α} {t : Resolver} {last : Except Error β × Resolver} (kept : c.moves t last.2) :
    Leads c (.ok a, t) last := ⟨kept, fun _ => rfl⟩

end Leads

structure Visited (c : Contract Error Resolver) (external : Bool) (context : ScopeId)
    (names : List String) (s : Resolver) (last : Except Error α × Resolver)
    (visit : Resolver × List String) : Prop where
  named : ∀ segment ∈ visit.2, segment ∈ names
  holds : c.holds visit.1
  before : c.moves s visit.1
  onward : Leads c (resolvePath external context visit.2 visit.1) last

theorem Visited.within {names names' : List String} {s s' : Resolver}
    {last : Except Error α × Resolver} {last' : Except Error β × Resolver} {visit : Resolver × List String}
    (visited : Visited c external context names s last visit) (wider : names ⊆ names')
    (before : c.moves s' s) (onward : Leads c last last') :
    Visited c external context names' s' last' visit where
  named segment member := wider (visited.named segment member)
  holds := visited.holds
  before := c.trans before visited.before
  onward := visited.onward.trans onward

end Outcomes

structure Lasts (external : Bool) (context : ScopeId) (c : Contract Error Resolver) : Prop where
  law : Law external context c
  lasting : c.Lasting
  orderly : ∀ s, c.holds s → Orderly s.registry

theorem steady_lasts (external : Bool) (context : ScopeId) : Lasts external context steady :=
  ⟨steady_law external context, steady_lasting, fun _ inv => inv.clean.orderly⟩

section Lawful

variable {c : Contract Error Resolver} (lasts : Lasts external context c)

include lasts

theorem named_repeats {segments : List String} {args : List TypeExpr} {s later : Resolver}
    (start : c.holds s)
    (inner : ∀ {t : Resolver}, c.holds t →
      (∀ visit ∈ argumentsVisits external context args t, Repeats external context later visit) →
      Grows (after (bindArguments external context args) t).2.registry later.registry →
      after (bindArguments external context args) later =
        ((after (bindArguments external context args) t).1, later))
    (each : ∀ visit ∈ argumentVisits external context (.named segments args) s,
      Repeats external context later visit)
    (grows : Grows (after (resolveApplied external context segments (!args.isEmpty)
      (bindArguments external context args)) s).2.registry later.registry) :
    after (resolveApplied external context segments (!args.isEmpty)
        (bindArguments external context args)) later =
      ((after (resolveApplied external context segments (!args.isEmpty)
        (bindArguments external context args)) s).1, later) := by
  rw [argumentVisits] at each
  have next : c.holds (resolvePath external context segments s).2 :=
    ((lasts.law.path segments s start).lasting lasts.lasting).1
  refine resolveApplied_repeats (lasts.orderly _ next) (each _ List.mem_cons_self)
    (bindArguments_meets (growth_law external context) args) (fun id t path generic => ?_) grows
  rw [path] at each next
  simp only [if_pos generic] at each
  exact inner next fun visit member => each visit (List.mem_cons_of_mem _ member)

mutual

/-- If all paths in an argument have the outcomes that they had, binding it has the one it had. -/
theorem bindArgument_repeats {later : Resolver} : (type : TypeExpr) → {s : Resolver} → c.holds s →
    (∀ visit ∈ argumentVisits external context type s, Repeats external context later visit) →
    Grows (after (bindArgument external context type) s).2.registry later.registry →
      after (bindArgument external context type) later =
        ((after (bindArgument external context type) s).1, later)
  | .named segments args, s, start, each, grows => by
    simp only [bindArgument, run_map] at grows ⊢
    rw [named_repeats lasts start (fun next => bindArguments_repeats args next) each grows]
  | .array inner, s, start, each, grows => by
    simp only [bindArgument, run_map] at grows ⊢
    rw [bindArgument_repeats inner start each grows]
  | .pointer inner, s, start, each, grows => by
    rw [bindArgument] at grows ⊢
    exact bindArgument_repeats inner start each grows
  | .optional inner, s, start, each, grows => by
    rw [bindArgument] at grows ⊢
    exact bindArgument_repeats inner start each grows
  | .map key value, s, start, each, grows => by
    rw [argumentVisits] at each
    rw [bindArgument] at grows ⊢
    refine pair_repeats TypeExpr.map (bindArgument_meets (growth_law external context) value).forget
      (bindArgument_repeats key start fun visit member => each visit (List.mem_append_left _ member))
      (fun _ t run => ?_) grows
    have next := ((bindArgument_meets lasts.law key s start).lasting lasts.lasting).1
    rw [run] at each next
    exact bindArgument_repeats value next fun visit member =>
      each visit (List.mem_append_right _ member)
  | .primitive _, _, _, _, _ => rfl
  | .param _, _, _, _, _ => rfl
  | .interface, _, _, _, _ => rfl
  | .function, _, _, _, _ => rfl
  | .resolved _, _, _, _, _ => rfl

theorem bindArguments_repeats {later : Resolver} : (types : List TypeExpr) → {s : Resolver} → c.holds s →
    (∀ visit ∈ argumentsVisits external context types s, Repeats external context later visit) →
    Grows (after (bindArguments external context types) s).2.registry later.registry →
      after (bindArguments external context types) later =
        ((after (bindArguments external context types) s).1, later)
  | [], _, _, _, _ => rfl
  | type :: rest, s, start, each, grows => by
    rw [argumentsVisits] at each
    rw [bindArguments] at grows ⊢
    refine pair_repeats List.cons (bindArguments_meets (growth_law external context) rest)
      (bindArgument_repeats type start fun visit member => each visit (List.mem_append_left _ member))
      (fun _ t run => ?_) grows
    have next := ((bindArgument_meets lasts.law type s start).lasting lasts.lasting).1
    rw [run] at each next
    exact bindArguments_repeats rest next fun visit member =>
      each visit (List.mem_append_right _ member)

end

theorem resolveApplied_onward {s : Resolver} (segments : List String) (applied : Bool)
    {bound : Resolving (List TypeExpr)} (start : c.holds s)
    (args : Meets c bound fun _ _ => True) :
    Leads c (resolvePath external context segments s)
        (after (resolveApplied external context segments applied bound) s) ∧
      ∀ id t, resolvePath external context segments s = (.ok (.declaration id), t) →
        (applied && (t.registry.get id).isGeneric) = true →
        Leads c (after bound t) (after (resolveApplied external context segments applied bound) s) := by
  have next : c.holds (resolvePath external context segments s).2 :=
    ((lasts.law.path segments s start).lasting lasts.lasting).1
  rw [resolveApplied_run]
  rcases path : resolvePath external context segments s with ⟨e | resolution, t⟩
  · exact ⟨.refl _, fun _ _ same => by cases same⟩
  rw [path] at next
  cases resolution with
  | primitive p => exact ⟨.refl _, fun _ _ same => by cases same⟩
  | any => exact ⟨.refl _, fun _ _ same => by cases same⟩
  | declaration id =>
    dsimp only
    by_cases generic : (applied && (t.registry.get id).isGeneric) = true
    · rw [if_pos generic]
      obtain ⟨bound', kept⟩ := (args t next).lasting lasts.lasting
      rcases bind : after bound t with ⟨e | args, u⟩ <;> rw [bind] at bound' kept
      · exact ⟨.of_ok kept, fun _ _ same _ => by cases same; rw [bind]; exact ⟨c.refl u, fun ok => ok⟩⟩
      · have still := lasts.law.generic kept (Bool.and_eq_true_iff.mp generic).2
        have making : c.moves u _ := (lasts.law.made args bound' still).2
        exact ⟨.of_ok (c.trans kept making), fun _ _ same _ => by
          cases same
          rw [bind]
          exact .of_ok making⟩
    · rw [if_neg generic]
      exact ⟨.refl _, fun _ _ same generic' => by cases same; exact absurd generic' generic⟩

theorem named_visited {segments : List String} {args : List TypeExpr} {s : Resolver} (start : c.holds s)
    (inner : ∀ {t : Resolver}, c.holds t → ∀ visit ∈ argumentsVisits external context args t,
      Visited c external context (TypeExpr.allNames args) t (after (bindArguments external context args) t)
        visit) :
    ∀ visit ∈ argumentVisits external context (.named segments args) s,
      Visited c external context (TypeExpr.names (.named segments args)) s
        (after (resolveApplied external context segments (!args.isEmpty)
          (bindArguments external context args)) s) visit := by
  obtain ⟨onward, further⟩ := resolveApplied_onward lasts segments (!args.isEmpty) start
    (bindArguments_meets lasts.law args)
  obtain ⟨next, kept⟩ : c.holds (resolvePath external context segments s).2 ∧
      c.moves s (resolvePath external context segments s).2 := (lasts.law.path segments s start).lasting lasts.lasting
  rw [argumentVisits, TypeExpr.names]
  intro visit member
  rcases List.mem_cons.mp member with rfl | later
  · exact ⟨fun _ => List.mem_append_left _, start, c.refl s, onward⟩
  · split at later
    · next id t path =>
      rw [path] at next kept
      split at later
      · next generic =>
        exact (inner next visit later).within (List.subset_append_right _ _) kept
          (further id t path generic)
      · cases later
    · cases later

theorem pair_visited {α β γ : Type} {x : Resolving α} {y : Resolving β} (f : α → β → γ) {s : Resolver}
    {first : List (Resolver × List String)} {second : Resolver → List (Resolver × List String)}
    {names names' : List String} (meetsX : MeetsAt c x s fun _ _ => True)
    (meetsY : Meets c y fun _ _ => True)
    (eachX : ∀ visit ∈ first, Visited c external context names s (after x s) visit)
    (eachY : ∀ {t : Resolver}, c.holds t → ∀ visit ∈ second t,
      Visited c external context names' t (after y t) visit) :
    ∀ visit ∈ first ++ visitsIfOk (after x s) second,
      Visited c external context (names ++ names') s
        (after (do let a ← x; let b ← y; return f a b) s) visit := by
  obtain ⟨next, kept⟩ := meetsX.lasting lasts.lasting
  rw [run_pair]
  intro visit member
  rcases run : after x s with ⟨e | a, t⟩ <;> rw [run] at next kept member eachX
  · rcases List.mem_append.mp member with here | none
    · exact (eachX visit here).within (List.subset_append_left _ _) (c.refl s) ⟨c.refl t, id⟩
    · cases none
  · have last : Leads c (after y t) _ := .map (f a) _
    rcases List.mem_append.mp member with here | there
    · have onward := ((meetsY t next).lasting lasts.lasting).2
      exact (eachX visit here).within (List.subset_append_left _ _) (c.refl s)
        (.of_ok (c.trans onward last.kept))
    · exact (eachY next visit there).within (List.subset_append_right _ _) kept last

mutual

theorem argumentVisits_visited : (type : TypeExpr) → {s : Resolver} → c.holds s →
    ∀ visit ∈ argumentVisits external context type s,
      Visited c external context type.names s (after (bindArgument external context type) s) visit
  | .named segments args, s, start => by
    simp only [bindArgument, run_map]
    intro visit member
    exact (named_visited lasts start (fun next => argumentsVisits_visited args next) visit
      member).within (List.Subset.refl _) (c.refl s) (.map _ _)
  | .array inner, s, start => by
    simp only [bindArgument, run_map]
    intro visit member
    exact (argumentVisits_visited inner start visit member).within (List.Subset.refl _) (c.refl s)
      (.map _ _)
  | .pointer inner, s, start => by
    rw [bindArgument]
    exact argumentVisits_visited inner start
  | .optional inner, s, start => by
    rw [bindArgument]
    exact argumentVisits_visited inner start
  | .map key value, s, start => by
    rw [argumentVisits, bindArgument, TypeExpr.names]
    have meets := bindArgument_meets lasts.law
    exact pair_visited lasts TypeExpr.map ((meets key).forget s start) (meets value).forget
      (argumentVisits_visited key start) fun next => argumentVisits_visited value next
  | .primitive _, _, _ => by simp [argumentVisits]
  | .param _, _, _ => by simp [argumentVisits]
  | .interface, _, _ => by simp [argumentVisits]
  | .function, _, _ => by simp [argumentVisits]
  | .resolved _, _, _ => by simp [argumentVisits]

theorem argumentsVisits_visited : (types : List TypeExpr) → {s : Resolver} → c.holds s →
    ∀ visit ∈ argumentsVisits external context types s,
      Visited c external context (TypeExpr.allNames types) s
        (after (bindArguments external context types) s) visit
  | [], _, _ => by simp [argumentsVisits]
  | type :: rest, s, start => by
    rw [argumentsVisits, bindArguments, TypeExpr.allNames]
    have meets := bindArgument_meets lasts.law type
    exact pair_visited lasts List.cons (meets.forget s start) (bindArguments_meets lasts.law rest)
      (argumentVisits_visited type start) fun next => argumentsVisits_visited rest next

end

end Lawful

/-- If all paths in a reference have the outcomes that they had, so has the reference. -/
theorem resolve_repeats {reference : String} {s later : Resolver} (inv : CleanRooted s)
    (each : ∀ visit ∈ visits external context reference s, Repeats external context later visit)
    (grows : Grows (after (resolve external context reference) s).2.registry later.registry) :
    after (resolve external context reference) later =
      ((after (resolve external context reference) s).1, later) := by
  unfold visits at each
  unfold resolve at grows ⊢
  split
  · next expr parsed =>
    simp only [parsed] at each grows
    unfold resolveExpr at grows ⊢
    split
    · rfl
    · rfl
    · rfl
    · next segments args peeled =>
      simp only [peeled] at each grows
      have lasts := steady_lasts external context
      exact named_repeats lasts inv (fun next => bindArguments_repeats lasts args next) each grows
    · rfl
  · rfl

/-- Whether a reference is resolved or not, its paths are visited on the way to the outcome. -/
theorem visits_visited {reference : String} {s : Resolver} (inv : CleanRooted s) :
    ∀ visit ∈ visits external context reference s,
      Visited steady external context (TypeExpr.namesIn reference) s
        (after (resolve external context reference) s) visit := by
  intro visit member
  unfold visits at member
  unfold resolve TypeExpr.namesIn
  split at member
  · next expr parsed =>
    split at member
    · next segments args peeled =>
      have lasts := steady_lasts external context
      have visited := named_visited lasts inv (fun next => argumentsVisits_visited lasts args next)
        visit member
      simpa only [parsed, resolveExpr, peeled, ← TypeExpr.names_peel expr] using visited
    · cases member
  · cases member

end Runs

end Resolver

end ApiSchema
