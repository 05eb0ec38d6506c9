import ApiSchema.Proofs.IndexedFiles
import ApiSchema.Proofs.Substitution

/-! Handles, the numbers that stand for declarations. Reading source makes none. Binding arguments copies them
into types, and a registry hands out the number of its next declaration; so all handles that a registry holds, in
its tables and in the types of its declarations, are numbers of declarations, as long as those that it is given
are. -/

namespace ApiSchema

open Source (Item TypeTerm)

namespace TypeExpr

mutual

def handles : TypeExpr → List DeclId
  | resolved id => [id]
  | named _ args => allHandles args
  | array inner => inner.handles
  | pointer inner => inner.handles
  | optional inner => inner.handles
  | map key value => key.handles ++ value.handles
  | _ => []

def allHandles : List TypeExpr → List DeclId
  | [] => []
  | arg :: rest => arg.handles ++ allHandles rest

end

theorem allHandles_eq (args : List TypeExpr) : allHandles args = args.flatMap handles := by
  induction args with
  | nil => rfl
  | cons arg rest ih => rw [allHandles, List.flatMap_cons, ih]

def Within (n : Nat) (type : TypeExpr) : Prop := ∀ id ∈ type.handles, id < n

section Bounds

variable {n m : Nat} {type : TypeExpr}

theorem Within.mono (within : type.Within n) (le : n ≤ m) : type.Within m :=
  fun id member => Nat.lt_of_lt_of_le (within id member) le

theorem within_of_none (none : type.handles = []) : type.Within n := by
  rw [Within, none]
  exact fun _ member => absurd member List.not_mem_nil

@[simp] theorem within_resolved {id : DeclId} : (resolved id).Within n ↔ id < n := by simp [Within, handles]

theorem within_named {segments : List String} {args : List TypeExpr} :
    (named segments args).Within n ↔ ∀ arg ∈ args, arg.Within n := by
  rw [Within, handles, allHandles_eq]
  simp only [List.mem_flatMap]
  exact ⟨fun all arg among id member => all id ⟨arg, among, member⟩,
    fun each id ⟨arg, among, member⟩ => each arg among id member⟩

theorem within_map {key value : TypeExpr} : (map key value).Within n ↔ key.Within n ∧ value.Within n := by
  simp only [Within, handles, List.mem_append]
  exact ⟨fun all => ⟨fun id member => all id (.inl member), fun id member => all id (.inr member)⟩,
    fun ⟨keys, values⟩ id member => member.elim (keys id) (values id)⟩

end Bounds

mutual

/-- The handles of an instance's types are those of the generic and of the arguments. -/
theorem substitute_within {n : Nat} {bindings : Bindings} (bound : ∀ entry ∈ bindings, entry.2.Within n) :
    (type : TypeExpr) → type.Within n → (type.substitute bindings).Within n
  | .param name, within => by
    rw [substitute]
    cases found : bindings.get? name with
    | none => exact within
    | some arg =>
      obtain ⟨entry, place, rfl⟩ := Option.map_eq_some_iff.mp found
      exact bound entry (List.mem_reverse.mp (List.mem_of_find?_eq_some place))
  | .named segments args, within => by
    rw [substitute]
    exact within_named.mpr (substituteAll_within bound args (within_named.mp within))
  | .array inner, within => substitute_within bound inner within
  | .pointer inner, within => substitute_within bound inner within
  | .optional inner, within => substitute_within bound inner within
  | .map key value, within => by
    obtain ⟨keys, values⟩ := within_map.mp within
    rw [substitute]
    exact within_map.mpr ⟨substitute_within bound key keys, substitute_within bound value values⟩
  | .primitive _, within => within
  | .interface, within => within
  | .function, within => within
  | .resolved _, within => within

theorem substituteAll_within {n : Nat} {bindings : Bindings} (bound : ∀ entry ∈ bindings, entry.2.Within n) :
    (types : List TypeExpr) → (∀ type ∈ types, type.Within n) →
      ∀ type ∈ substituteAll bindings types, type.Within n
  | [], _ => by simp [substituteAll]
  | type :: rest, each => by
    rw [substituteAll]
    intro other member
    rcases List.mem_cons.mp member with rfl | later
    · exact substitute_within bound type (each type List.mem_cons_self)
    · exact substituteAll_within bound rest (fun inside among => each inside (List.mem_cons_of_mem _ among)) other
        later

end

section Reading

variable {params : List String}

theorem handles_wrapper {name : String} {args : List TypeExpr} {type : TypeExpr}
    (wrapped : wrapper? name args = some type) : type.handles ⊆ allHandles args :=
  allHandles_eq args ▸
    wrapper?_collects (fun _ => rfl) (fun _ => rfl) (fun _ => rfl) (fun _ _ => rfl) rfl wrapped

mutual

/-- Nothing is read as a handle. -/
theorem handles_ofTerm : (term : TypeTerm) → (ofTerm params term).handles = []
  | .path _ segments args => by
    have none := handles_ofTerms args
    rw [ofTerm]
    exact ofPath_cases (motive := fun type => type.handles = []) none (fun _ _ => rfl) (fun _ _ _ => rfl) rfl
      fun _ _ wrapped => List.subset_nil.mp (none ▸ handles_wrapper wrapped)
  | .reference target => handles_ofTerm target
  | .sequence element => handles_ofTerm element
  | .paren inner => handles_ofTerm inner
  | .function => rfl
  | .other => rfl

theorem handles_ofTerms : (terms : List TypeTerm) → allHandles (ofTerms params terms) = []
  | [] => rfl
  | term :: rest => by rw [ofTerms, allHandles, handles_ofTerm term, handles_ofTerms rest, List.nil_append]

end

theorem handles_parse {text : String} {type : TypeExpr} (read : parse? text = some type) :
    type.handles = [] := by
  obtain ⟨term, _, rfl⟩ := Option.map_eq_some_iff.mp read
  exact handles_ofTerm term

end Reading

end TypeExpr

namespace Registry

structure HandlesKnown (r : Registry) (d : Declaration) : Prop where
  scope : d.scope < r.scopes.length
  types : ∀ type ∈ d.body.types, type.Within r.size

theorem HandlesKnown.grows {r r' : Registry} {d : Declaration} (admits : r.HandlesKnown d) (grows : Grows r r') :
    r'.HandlesKnown d where
  scope := Nat.lt_of_lt_of_le admits.scope grows.scopes.length_le
  types type member := (admits.types type member).mono grows.size_le

/-- The tables fit each other, and all handles that the registry holds are numbers of declarations. -/
structure Anchored (r : Registry) : Prop where
  orderly : Orderly r
  named : ∀ entry ∈ r.names, entry.1 < r.size
  members : ∀ d ∈ r.decls, r.HandlesKnown d

theorem anchored_empty : Anchored empty := ⟨orderly_empty, by simp [empty], by simp [empty]⟩

namespace Anchored

variable {r : Registry}

theorem get (anchored : Anchored r) {id : DeclId} (known : id < r.size) : r.HandlesKnown (r.get id) := by
  have found : r.get? id = some r.decls[id] := List.getElem?_eq_getElem known
  rw [Registry.get, found]
  exact anchored.members _ (List.getElem_mem known)

theorem frame (anchored : Anchored r) (indexed : List Path) : Anchored { r with indexed } where
  orderly := anchored.orderly.frame indexed r.names
  named := anchored.named
  members d member := ⟨(anchored.members d member).scope, (anchored.members d member).types⟩

theorem addScope (anchored : Anchored r) (scope : Scope) : Anchored (r.addScope scope) where
  orderly := anchored.orderly.addScope scope
  named := anchored.named
  members d member := (anchored.members d member).grows (addScope_grows r scope)

theorem insert (anchored : Anchored r) {d : Declaration} (admits : r.HandlesKnown d) : Anchored (r.insert d).2 := by
  cases used : r.lookup? d.package d.name with
  | some id =>
    rw [insert_used used]
    exact anchored
  | none =>
    have grows := insert_grows r d
    refine ⟨anchored.orderly.insert d, fun entry member => ?_, fun other member => ?_⟩
    · rw [(insert_frame r d).names] at member
      exact Nat.lt_of_lt_of_le (anchored.named entry member) grows.size_le
    · rw [(insert_unused used).2.1] at member
      rcases List.mem_append.mp member with old | new
      · exact (anchored.members other old).grows grows
      · rw [List.mem_singleton.mp new]
        exact admits.grows grows

theorem insertAll (anchored : Anchored r) {decls : List Declaration} (each : ∀ d ∈ decls, r.HandlesKnown d) :
    Anchored (r.insertAll decls) := by
  induction decls generalizing r with
  | nil => exact anchored
  | cons d rest ih =>
    have grows := insert_grows r d
    refine ih (anchored.insert (each d List.mem_cons_self)) fun other member => ?_
    exact (each other (List.mem_cons_of_mem _ member)).grows grows

/-- Declarations that are read for a scope have no handles in their types, and the scope is known by then. -/
theorem handlesKnown_item {path package : String} {imports : List Import} {items : List Item} {d : Declaration}
    (member : d ∈ Declaration.ofItems items package r.scopes.length) :
    (r.addScope ⟨path, package, imports⟩).HandlesKnown d := by
  obtain ⟨item, _, read⟩ := List.mem_filterMap.mp member
  constructor
  · rw [(ofItem?_home read).2]
    simp [Registry.addScope]
  · exact Declaration.ofItem?_types read (fun term => TypeExpr.within_of_none (TypeExpr.handles_ofTerm term))
      (fun _ within => within) (TypeExpr.within_of_none rfl)

theorem openScope (anchored : Anchored r) (path package : String) (items : List Item) :
    Anchored (r.openScope path package items) :=
  (anchored.addScope _).insertAll fun _ member => handlesKnown_item member

theorem index (anchored : Anchored r) (package : String) (file : SourceFile) :
    Anchored (r.index package file).2 := by
  have opening : OpeningKeeps Anchored (fun _ _ => True) file.path :=
    ⟨fun _ anchored => anchored.openScope _ _ _, fun _ _ => trivial⟩
  exact opening.index trivial anchored.frame

theorem indexFiles (anchored : Anchored r) (files : List SourceFile) :
    Anchored (files.foldl (fun r file => (r.indexFile file).2) r) := by
  induction files generalizing r with
  | nil => exact anchored
  | cons file rest ih => exact ih (anchored.index _ file)

theorem definitionName (anchored : Anchored r) {id : DeclId} (known : id < r.size) :
    Anchored (r.definitionName id).2 := by
  unfold Registry.definitionName
  split
  · exact anchored
  · refine ⟨anchored.orderly.frame r.indexed _, fun entry member => ?_, fun d member => ?_⟩
    · rcases List.mem_cons.mp member with rfl | old
      · exact known
      · exact anchored.named entry old
    · exact ⟨(anchored.members d member).scope, (anchored.members d member).types⟩

/-- Spelling an argument asks for the names of its handles. -/
theorem argumentName : (arg : TypeExpr) → {r : Registry} → Anchored r → arg.Within r.size →
    Anchored (argumentName arg r).2
  | .resolved id, _, anchored, within => anchored.definitionName (TypeExpr.within_resolved.mp within)
  | .array inner, _, anchored, within => argumentName inner anchored within
  | .pointer inner, _, anchored, within => argumentName inner anchored within
  | .optional inner, _, anchored, within => argumentName inner anchored within
  | .map key value, r, anchored, within => by
    obtain ⟨keys, values⟩ := TypeExpr.within_map.mp within
    exact argumentName value (argumentName key anchored keys) (values.mono (argumentName_grows key r).size_le)
  | .primitive _, _, anchored, _ => anchored
  | .named _ _, _, anchored, _ => anchored
  | .param _, _, anchored, _ => anchored
  | .interface, _, anchored, _ => anchored
  | .function, _, anchored, _ => anchored

theorem instanceName (anchored : Anchored r) {args : List TypeExpr} (within : ∀ arg ∈ args, arg.Within r.size)
    (base : String) : Anchored (instanceName base args r).2 := by
  induction args generalizing base r with
  | nil => exact anchored
  | cons arg rest ih =>
    have grows := argumentName_grows arg r
    refine ih (anchored.argumentName arg (within arg List.mem_cons_self)) (fun other member => ?_) _
    exact (within other (List.mem_cons_of_mem _ member)).mono grows.size_le

/-- An instance has the scope of its generic, and the handles of the generic and of the arguments. -/
theorem handlesKnown_instance (anchored : Anchored r) {id : DeclId} (known : id < r.size) {args : List TypeExpr}
    (within : ∀ arg ∈ args, arg.Within r.size) (name : String) : r.HandlesKnown (instanceOf (r.get id) name args) where
  scope := (anchored.get known).scope
  types type member := by
    rw [instanceOf, Body.substitute_eq, Body.types_mapTypes] at member
    obtain ⟨before, inside, rfl⟩ := List.mem_map.mp member
    refine TypeExpr.substitute_within (fun entry bound => ?_) before ((anchored.get known).types before inside)
    exact within entry.2 (List.of_mem_zip bound).2

theorem instantiate (anchored : Anchored r) {id : DeclId} (known : id < r.size) {args : List TypeExpr}
    (within : ∀ arg ∈ args, arg.Within r.size) : Anchored (r.instantiate id args).2 := by
  simp only [Registry.instantiate]
  split
  · exact anchored
  · have spelled := anchored.instanceName within (r.get id).name
    split
    · exact spelled
    · exact spelled.insert ((anchored.handlesKnown_instance known within _).grows (instanceName_grows args _ r))

/-- An instance that was made, or found, is a known declaration. -/
theorem instantiate_registered (anchored : Anchored r) {id : DeclId} (known : id < r.size)
    {args : List TypeExpr} (within : ∀ arg ∈ args, arg.Within r.size) (other : DeclId)
    (made : (r.instantiate id args).1 = .ok other) : other < (r.instantiate id args).2.size := by
  have ended : r.instantiate id args = (.ok other, (r.instantiate id args).2) := Prod.ext made rfl
  obtain ⟨_, _, found⟩ := instantiate_found ended
  exact (anchored.instantiate known within).orderly.registered found

end Anchored

def Call.Known (r : Registry) : Call → Prop
  | index _ _ => True
  | insert d => r.HandlesKnown d
  | instantiate id args => id < r.size ∧ ∀ arg ∈ args, arg.Within r.size
  | definitionName id => id < r.size

theorem Anchored.call {r : Registry} (anchored : Anchored r) {call : Call} (known : call.Known r) :
    Anchored (call.apply r) := by
  cases call with
  | index package file => exact anchored.index package file
  | insert d => exact anchored.insert known
  | instantiate id args => exact anchored.instantiate known.1 known.2
  | definitionName id => exact anchored.definitionName known

/-- The registry while a new declaration is entered under its keys, once it is under the first of them. -/
def entering (r : Registry) (d : Declaration) (early : List String) : Registry :=
  early.foldl (fun acc key => acc.registerGlobal key r.size) (r.append d)

/-- In the course of a call a declaration is looked up by its number, in the registry as it is by then. -/
inductive Call.LooksUp : Call → Registry → Registry → DeclId → Prop where
  /-- A key that another declaration has is entered. -/
  | entered {r : Registry} {d : Declaration} {early late : List String} {key : String}
      (new : r.lookup? d.package d.name = none) (keys : globalKeys d = early ++ key :: late) :
      LooksUp (.insert d) r (r.entering d early) r.size
  | holder {r : Registry} {d : Declaration} {early late : List String} {key : String} {other : DeclId}
      (new : r.lookup? d.package d.name = none) (keys : globalKeys d = early ++ key :: late)
      (held : (r.entering d early).lookupGlobal? key = some other) :
      LooksUp (.insert d) r (r.entering d early) other
  /-- A declaration is named that has no name yet. -/
  | unnamed {r : Registry} {id : DeclId} : LooksUp (.definitionName id) r r id
  | generic {r : Registry} {id : DeclId} {args : List TypeExpr} : LooksUp (.instantiate id args) r r id
  | spelled {r : Registry} {id : DeclId} {args : List TypeExpr} {ask : Ask} (asked : ask ∈ instanceAsks args r) :
      LooksUp (.instantiate id args) r ask.1 ask.2
  | made {r r' : Registry} {id other : DeclId} {args : List TypeExpr}
      (inner : LooksUp (.insert (instanceOf (r.get id) (instanceName (r.get id).name args r).1 args))
        (instanceName (r.get id).name args r).2 r' other) : LooksUp (.instantiate id args) r r' other
  /-- A declaration of a module is registered, after earlier modules and after earlier ones of its own. -/
  | item {r r' : Registry} {package : String} {file : SourceFile} {indexed : List Path}
      {early late : List (String × List Item)} {m : String × List Item} {front back : List Declaration}
      {d : Declaration} {id : DeclId} (split : modules package file.items = early ++ m :: late)
      (decls : Declaration.ofItems m.2 m.1
        (early.foldl (openModule file.path) { r with indexed }).scopes.length = front ++ d :: back)
      (inner : LooksUp (.insert d) (((early.foldl (openModule file.path) { r with indexed }).addScope
        ⟨file.path, m.1, Import.ofItems m.2⟩).insertAll front) r' id) :
      LooksUp (.index package file) r r' id

section LookingUp

variable {r : Registry}

theorem registerGlobal_entry {key other : String} {id holder : DeclId}
    (found : (r.registerGlobal key id).lookupGlobal? other = some holder) :
    r.lookupGlobal? other = some holder ∨ holder = id := by
  by_cases apart : key = other
  · subst apart
    unfold registerGlobal at found
    split at found
    · exact .inl found
    · split at found
      · simp [lookupGlobal?] at found
        exact .inr found.symm
      · split at found
        · exact .inl found
        · simp [lookupGlobal?] at found
  · exact .inl ((registerGlobal_of_ne id apart).2 ▸ found)

theorem entering_size (r : Registry) (d : Declaration) (early : List String) :
    (r.entering d early).size = r.size + 1 := by
  obtain ⟨global, ambiguous, same⟩ := registerAll_frame early r.size (r.append d)
  rw [entering, same]
  simp [size, append]

theorem registerAll_entry {key : String} {id holder : DeclId} (keys : List String)
    (found : (keys.foldl (fun acc key => acc.registerGlobal key id) r).lookupGlobal? key = some holder) :
    r.lookupGlobal? key = some holder ∨ holder = id := by
  induction keys generalizing r with
  | nil => exact .inl found
  | cons first rest ih =>
    rcases ih found with early | new
    · exact registerGlobal_entry early
    · exact .inr new

/-- The new declaration is the only one that is entered. -/
theorem entering_entry (d : Declaration) (early : List String) {key : String} {holder : DeclId}
    (found : (r.entering d early).lookupGlobal? key = some holder) :
    r.lookupGlobal? key = some holder ∨ holder = r.size :=
  registerAll_entry (r := r.append d) early found

namespace Anchored

theorem global (anchored : Anchored r) {key : String} {id : DeclId} (found : r.lookupGlobal? key = some id) :
    id < r.size :=
  ((anchored.orderly.keys key).held id found).1.registered

theorem insert_looksUp (anchored : Anchored r) {d : Declaration} {r' : Registry} {id : DeclId}
    (looks : Call.LooksUp (.insert d) r r' id) : id < r'.size := by
  cases looks with
  | entered =>
    rw [entering_size]
    exact Nat.lt_succ_self _
  | holder _ _ held =>
    rw [entering_size]
    rcases entering_entry _ _ held with old | rfl
    · exact Nat.lt_succ_of_lt (anchored.global old)
    · exact Nat.lt_succ_self _

theorem argumentAsks_known : (arg : TypeExpr) → {r : Registry} → arg.Within r.size →
    ∀ ask ∈ argumentAsks arg r, ask.2 < ask.1.size
  | .resolved id, r, within, ask, asked => by
    rw [List.mem_singleton.mp asked]
    exact TypeExpr.within_resolved.mp within
  | .array inner, _, within, ask, asked => argumentAsks_known inner within ask asked
  | .pointer inner, _, within, ask, asked => argumentAsks_known inner within ask asked
  | .optional inner, _, within, ask, asked => argumentAsks_known inner within ask asked
  | .map key value, r, within, ask, asked => by
    obtain ⟨keys, values⟩ := TypeExpr.within_map.mp within
    rcases List.mem_append.mp asked with first | second
    · exact argumentAsks_known key keys ask first
    · exact argumentAsks_known value (values.mono (argumentName_grows key r).size_le) ask second
  | .primitive _, _, _, _, asked => by cases asked
  | .named _ _, _, _, _, asked => by cases asked
  | .param _, _, _, _, asked => by cases asked
  | .interface, _, _, _, asked => by cases asked
  | .function, _, _, _, asked => by cases asked

theorem instanceAsks_known {args : List TypeExpr} (within : ∀ arg ∈ args, arg.Within r.size) :
    ∀ ask ∈ instanceAsks args r, ask.2 < ask.1.size := by
  induction args generalizing r with
  | nil => simp [instanceAsks]
  | cons arg rest ih =>
    have grows := argumentName_grows arg r
    intro ask asked
    rcases List.mem_append.mp asked with first | later
    · exact argumentAsks_known arg (within arg List.mem_cons_self) ask first
    · exact ih (fun other member => (within other (List.mem_cons_of_mem _ member)).mono grows.size_le) ask later

theorem openModules (anchored : Anchored r) (path : String) (ms : List (String × List Item)) :
    Anchored (ms.foldl (openModule path) r) := by
  induction ms generalizing r with
  | nil => exact anchored
  | cons m rest ih => exact ih (anchored.openScope path m.1 m.2)

theorem looksUp (anchored : Anchored r) {call : Call} (known : call.Known r) {r' : Registry} {id : DeclId}
    (looks : call.LooksUp r r' id) : id < r'.size := by
  cases looks with
  | entered new keys => exact anchored.insert_looksUp (.entered new keys)
  | holder new keys held => exact anchored.insert_looksUp (.holder new keys held)
  | unnamed => exact known
  | generic => exact known.1
  | spelled asked => exact instanceAsks_known known.2 _ asked
  | made inner => exact (anchored.instanceName known.2 _).insert_looksUp inner
  | @item _ _ _ file indexed early _ m front back d _ _ decls inner =>
    refine Anchored.insert_looksUp ?_ inner
    have opened := (anchored.frame indexed).openModules file.path early
    refine (opened.addScope _).insertAll fun other member => ?_
    have among : other ∈ front ++ d :: back := List.mem_append_left _ member
    exact handlesKnown_item (decls ▸ among)

end Anchored

end LookingUp

end Registry

end ApiSchema
