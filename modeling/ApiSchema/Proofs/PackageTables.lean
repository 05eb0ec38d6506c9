import ApiSchema.Proofs.GlobalNames
import ApiSchema.Proofs.Table

/-! What the tables of a registry say of one another. A declaration is filed under its package and
its name, and nothing else is; a package lists scopes that exist, and the package of a scope is
known. Every operation of a registry keeps this. -/

namespace ApiSchema.Registry

open Source (Item)

structure Orderly (r : Registry) : Prop where
  keys : KeysArbitrated r
  /-- A name of a package is that of a declaration, and only of one. -/
  filed : ∀ package name id, r.lookup? package name = some id ↔
    ∃ d, r.get? id = some d ∧ d.package = package ∧ d.name = name
  sorted : r.packages.Sorted
  labelled : ∀ path p, r.package? path = some p → p.path = path
  /-- A package lists scopes that exist. -/
  listed : ∀ path p id, r.package? path = some p → id ∈ p.scopes → id < r.scopes.length
  /-- The package of a scope is known. -/
  housed : ∀ scope ∈ r.scopes, ∃ p, r.package? scope.package = some p

theorem get?_insert_unused {r : Registry} {d : Declaration}
    (unused : r.lookup? d.package d.name = none) (id : DeclId) :
    (r.insert d).2.get? id = if id = r.size then some d else r.get? id := by
  rw [get?, (insert_unused unused).2.1]
  split
  · next last =>
    subst last
    exact List.getElem?_concat_length
  · next other =>
    by_cases inside : id < r.decls.length
    · exact List.getElem?_append_left inside
    · have beyond : r.size < id := Nat.lt_of_le_of_ne (Nat.le_of_not_lt inside) (Ne.symm other)
      rw [get?, List.getElem?_eq_none (Nat.le_of_not_lt inside)]
      exact List.getElem?_eq_none (by rw [List.length_append]; exact beyond)

namespace Orderly

variable {r : Registry}

theorem frame (orderly : Orderly r) (indexed : List Path) (names : List (DeclId × String)) :
    Orderly { r with indexed, names } where
  keys := orderly.keys.same ⟨rfl, rfl, rfl⟩
  filed := orderly.filed
  sorted := orderly.sorted
  labelled := orderly.labelled
  listed := orderly.listed
  housed := orderly.housed

theorem registered (orderly : Orderly r) {package name : String} {id : DeclId}
    (found : r.lookup? package name = some id) : id < r.size := by
  obtain ⟨d, found, _⟩ := (orderly.filed package name id).mp found
  exact (List.getElem?_eq_some_iff.mp found).1

theorem type_registered (orderly : Orderly r) {path name : String} {p : Package} {id : DeclId}
    (home : r.package? path = some p) (type : p.types.get? name = some id) : id < r.size :=
  orderly.registered (Option.bind_eq_some_iff.mpr ⟨p, home, type⟩)

/-- A declaration that is in use is found under its own name. -/
theorem lookup_get (orderly : Orderly r) {id : DeclId} (inside : id < r.size) :
    r.lookup? (r.get id).package (r.get id).name = some id := by
  obtain ⟨d, found⟩ : ∃ d, r.get? id = some d := ⟨_, List.getElem?_eq_getElem inside⟩
  have own : r.get id = d := by simp [Registry.get, found]
  exact (orderly.filed _ _ id).mpr ⟨d, found, by rw [own], by rw [own]⟩

theorem get_of_lookup (orderly : Orderly r) {package name : String} {id : DeclId}
    (found : r.lookup? package name = some id) :
    (r.get id).package = package ∧ (r.get id).name = name := by
  obtain ⟨d, own, home, called⟩ := (orderly.filed package name id).mp found
  have same : r.get id = d := by simp [Registry.get, own]
  exact ⟨same ▸ home, same ▸ called⟩

theorem packageOrNew_path (orderly : Orderly r) (path : String) : (r.packageOrNew path).path = path := by
  unfold packageOrNew
  cases found : r.package? path with
  | none => rfl
  | some p => exact orderly.labelled path p found

theorem packageOrNew_scopes (orderly : Orderly r) {path : String} {id : ScopeId}
    (member : id ∈ (r.packageOrNew path).scopes) : id < r.scopes.length := by
  unfold packageOrNew at member
  cases found : r.package? path with
  | none => simp [found] at member
  | some p => exact orderly.listed path p id found (by simpa [found] using member)

/-- A new declaration is filed under its name, and what was filed stays where it is. -/
theorem filed_insert (orderly : Orderly r) {d : Declaration}
    (unused : r.lookup? d.package d.name = none) (package name : String) (id : DeclId) :
    (r.insert d).2.lookup? package name = some id ↔
      ∃ other, (r.insert d).2.get? id = some other ∧ other.package = package ∧ other.name = name := by
  rw [(insert_unused unused).2.2, get?_insert_unused unused]
  by_cases last : id = r.size
  · subst last
    rw [if_pos rfl]
    split
    · next own => exact ⟨fun _ => ⟨d, rfl, own⟩, fun _ => rfl⟩
    · next other =>
      refine ⟨fun found => absurd (orderly.registered found) (Nat.lt_irrefl _), ?_⟩
      rintro ⟨_, ⟨⟩, own⟩
      exact absurd own other
  · rw [if_neg last, ← orderly.filed]
    split
    · next own =>
      obtain ⟨rfl, rfl⟩ := own
      simp [unused, Ne.symm last]
    · rfl

theorem addScope (orderly : Orderly r) (scope : Scope) : Orderly (r.addScope scope) where
  keys := orderly.keys.same ⟨rfl, rfl, rfl⟩
  filed package name id := by
    rw [lookup?_addScope]
    exact orderly.filed package name id
  sorted := Table.sorted_insert orderly.sorted _ _
  labelled path p found := by
    simp only [Registry.addScope, package?, Table.get?_insert] at found
    split at found
    · next home =>
      obtain rfl := Option.some.inj found
      rw [← home]
      exact orderly.packageOrNew_path _
    · exact orderly.labelled path p found
  listed path p id found member := by
    simp only [Registry.addScope, package?, Table.get?_insert] at found
    have room : (r.addScope scope).scopes.length = r.scopes.length + 1 := by simp [Registry.addScope]
    rw [room]
    split at found
    · obtain rfl := Option.some.inj found
      rcases List.mem_append.mp member with old | new
      · exact Nat.lt_succ_of_lt (orderly.packageOrNew_scopes old)
      · rw [List.mem_singleton.mp new]
        exact Nat.lt_succ_self _
    · exact Nat.lt_succ_of_lt (orderly.listed path p id found member)
  housed other member := by
    simp only [Registry.addScope, package?, Table.get?_insert]
    split
    · exact ⟨_, rfl⟩
    · next apart =>
      rcases List.mem_append.mp member with old | new
      · exact orderly.housed other old
      · exact absurd (List.mem_singleton.mp new ▸ rfl) apart

theorem insert (orderly : Orderly r) (d : Declaration) : Orderly (r.insert d).2 := by
  cases used : r.lookup? d.package d.name with
  | some id =>
    rw [insert_used used]
    exact orderly
  | none =>
    have keys := orderly.keys.insert d
    have filed := orderly.filed_insert used
    obtain ⟨global, ambiguous, made⟩ := insert_made used
    rw [made] at keys filed ⊢
    refine ⟨keys, filed, Table.sorted_insert orderly.sorted _ _, ?_, ?_, ?_⟩
    · intro path p found
      simp only [append, package?, Table.get?_insert] at found
      split at found
      · next home =>
        obtain rfl := Option.some.inj found
        rw [← home]
        exact orderly.packageOrNew_path _
      · exact orderly.labelled path p found
    · intro path p id found member
      simp only [append, package?, Table.get?_insert] at found
      split at found
      · obtain rfl := Option.some.inj found
        exact orderly.packageOrNew_scopes member
      · exact orderly.listed path p id found member
    · intro scope member
      simp only [append, package?, Table.get?_insert]
      split
      · exact ⟨_, rfl⟩
      · exact orderly.housed scope member

theorem openScope (orderly : Orderly r) (path package : String) (items : List Item) :
    Orderly (r.openScope path package items) := by
  have all (decls : List Declaration) (r : Registry) (orderly : Orderly r) :
      Orderly (r.insertAll decls) := by
    induction decls generalizing r with
    | nil => exact orderly
    | cons d rest ih => exact ih _ (orderly.insert d)
  exact all _ _ (orderly.addScope _)

theorem index (orderly : Orderly r) (package : String) (file : SourceFile) :
    Orderly (r.index package file).2 := by
  have opening : OpeningKeeps Orderly (fun _ _ => True) file.path :=
    ⟨fun _ orderly => orderly.openScope _ _ _, fun _ _ => trivial⟩
  exact opening.index trivial fun indexed => orderly.frame indexed r.names

end Orderly

theorem definitionName_frame (id : DeclId) (r : Registry) :
    ∃ names, (r.definitionName id).2 = { r with names } := by
  unfold definitionName
  split
  · exact ⟨r.names, rfl⟩
  · exact ⟨_, rfl⟩

/-- Spelling the name of an instance changes nothing but the names that are handed out. -/
theorem argumentName_frame : (arg : TypeExpr) → (r : Registry) →
    ∃ names, (argumentName arg r).2 = { r with names }
  | .resolved id, r => definitionName_frame id r
  | .array inner, r => argumentName_frame inner r
  | .map key value, r => by
    obtain ⟨names, first⟩ := argumentName_frame key r
    obtain ⟨names', second⟩ := argumentName_frame value (argumentName key r).2
    refine ⟨names', second.trans ?_⟩
    rw [first]
  | .pointer inner, r => argumentName_frame inner r
  | .optional inner, r => argumentName_frame inner r
  | .primitive _, r => ⟨r.names, rfl⟩
  | .named _ _, r => ⟨r.names, rfl⟩
  | .param _, r => ⟨r.names, rfl⟩
  | .interface, r => ⟨r.names, rfl⟩
  | .function, r => ⟨r.names, rfl⟩

theorem instanceName_frame (args : List TypeExpr) (base : String) (r : Registry) :
    ∃ names, (instanceName base args r).2 = { r with names } := by
  induction args generalizing base r with
  | nil => exact ⟨r.names, rfl⟩
  | cons arg rest ih =>
    obtain ⟨names, first⟩ := argumentName_frame arg r
    obtain ⟨names', second⟩ := ih (base ++ "-" ++ (argumentName arg r).1) (argumentName arg r).2
    refine ⟨names', second.trans ?_⟩
    rw [first]

/-- An instance is a declaration that may come; nothing else changes but names that are handed out. -/
theorem instantiate_frame (r : Registry) (id : DeclId) (args : List TypeExpr) :
    (r.instantiate id args).2.scopes = r.scopes ∧ (r.instantiate id args).2.indexed = r.indexed := by
  simp only [instantiate]
  split
  · exact ⟨rfl, rfl⟩
  · obtain ⟨names, same⟩ := instanceName_frame args (r.get id).name r
    have spelled : (instanceName (r.get id).name args r).2.scopes = r.scopes ∧
        (instanceName (r.get id).name args r).2.indexed = r.indexed := by
      rw [same]
      exact ⟨rfl, rfl⟩
    split
    · exact spelled
    · have made := insert_frame (instanceName (r.get id).name args r).2
        (instanceOf (r.get id) (instanceName (r.get id).name args r).1 args)
      exact ⟨made.scopes.trans ((List.append_nil _).trans spelled.1), made.indexed.trans spelled.2⟩

theorem Orderly.instantiate {r : Registry} (orderly : Orderly r) (id : DeclId)
    (args : List TypeExpr) : Orderly (r.instantiate id args).2 := by
  simp only [Registry.instantiate]
  split
  · exact orderly
  · obtain ⟨names, same⟩ := instanceName_frame args (r.get id).name r
    have spelled : Orderly (instanceName (r.get id).name args r).2 := by
      rw [same]
      exact orderly.frame r.indexed names
    split
    · exact spelled
    · exact spelled.insert _

theorem Orderly.call {r : Registry} (orderly : Orderly r) (call : Call) : Orderly (call.apply r) := by
  cases call with
  | index package file => exact orderly.index package file
  | insert d => exact orderly.insert d
  | instantiate id args => exact orderly.instantiate id args
  | definitionName id =>
    obtain ⟨names, same⟩ := definitionName_frame id r
    change Orderly (r.definitionName id).2
    rw [same]
    exact orderly.frame r.indexed names

/-- Only indexing brings scopes and paths to a registry. -/
theorem call_cases (call : Call) (r : Registry) : (∃ package file, call = .index package file) ∨
    ((call.apply r).scopes = r.scopes ∧ (call.apply r).indexed = r.indexed) := by
  cases call with
  | index package file => exact .inl ⟨package, file, rfl⟩
  | insert d => exact .inr ⟨(insert_frame r d).scopes.trans (List.append_nil _), (insert_frame r d).indexed⟩
  | instantiate id args => exact .inr (instantiate_frame r id args)
  | definitionName id =>
    obtain ⟨names, same⟩ := definitionName_frame id r
    refine .inr ?_
    change (r.definitionName id).2.scopes = _ ∧ (r.definitionName id).2.indexed = _
    rw [same]
    exact ⟨rfl, rfl⟩

theorem orderly_empty : Orderly empty where
  keys := keysArbitrated_empty
  filed package name id := by simp [lookup?, package?, empty, Table.get?, get?]
  sorted := List.Pairwise.nil
  labelled path p found := by simp [package?, empty, Table.get?] at found
  listed path p id found := by simp [package?, empty, Table.get?] at found
  housed scope member := by simp [empty] at member

theorem Orderly.run {r : Registry} (orderly : Orderly r) (calls : List Call) :
    Orderly (run calls r) := by
  induction calls generalizing r with
  | nil => exact orderly
  | cons call rest ih => exact ih (orderly.call call)

/-- Whatever is called, the tables fit each other. -/
theorem orderly_run (calls : List Call) : Orderly (run calls empty) := orderly_empty.run calls

end ApiSchema.Registry
