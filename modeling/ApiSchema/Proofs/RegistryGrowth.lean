import ApiSchema.Proofs.ResolutionRules

/-! A registry only grows. Declarations and scopes keep their numbers, a name of a package keeps
its declaration and a name handed out for a definition stays. A global key changes at most once
after it was entered: it becomes ambiguous and is never entered again. Every operation on a
registry is such a growth, and so is every step of resolution, failed ones included. The modules
inside a file are walked once here: what opening a scope keeps, indexing keeps. -/

namespace ApiSchema.Registry

def Retired (r : Registry) (key : String) : Prop :=
  r.isAmbiguous key = true ∧ r.lookupGlobal? key = none

/-- Only a registered declaration is generic. -/
theorem registered_of_generic {r : Registry} {id : DeclId} (generic : (r.get id).isGeneric = true) :
    id < r.size := by
  rcases Nat.lt_or_ge id r.size with inside | outside
  · exact inside
  · have absent : r.get? id = none := List.getElem?_eq_none outside
    rw [get, absent] at generic
    cases generic

structure Grows (r r' : Registry) : Prop where
  decls : r.decls <+: r'.decls
  scopes : r.scopes <+: r'.scopes
  types : ∀ package name id, r.lookup? package name = some id → r'.lookup? package name = some id
  names : ∀ id name, r.names.lookup id = some name → r'.names.lookup id = some name
  entered : ∀ key id, r.lookupGlobal? key = some id →
    r'.lookupGlobal? key = some id ∨ r'.Retired key
  retired : ∀ key, r.Retired key → r'.Retired key

namespace Grows

variable {r r' r'' : Registry}

@[simp] theorem refl (r : Registry) : Grows r r :=
  ⟨List.prefix_refl _, List.prefix_refl _, fun _ _ _ h => h, fun _ _ h => h,
    fun _ _ h => .inl h, fun _ h => h⟩

theorem trans (first : Grows r r') (second : Grows r' r'') : Grows r r'' where
  decls := first.decls.trans second.decls
  scopes := first.scopes.trans second.scopes
  types package name id found := second.types package name id (first.types package name id found)
  names id name found := second.names id name (first.names id name found)
  entered key id found := by
    rcases first.entered key id found with found | gone
    · exact second.entered key id found
    · exact .inr (second.retired key gone)
  retired key gone := second.retired key (first.retired key gone)

theorem size_le (grows : Grows r r') : r.size ≤ r'.size := grows.decls.length_le

theorem get?_eq (grows : Grows r r') {id : DeclId} {d : Declaration} (found : r.get? id = some d) :
    r'.get? id = some d := by
  obtain ⟨more, same⟩ := grows.decls
  have inside : id < r.decls.length := (List.getElem?_eq_some_iff.mp found).1
  rw [get?, ← same, List.getElem?_append_left inside]
  exact found

theorem get_eq (grows : Grows r r') {id : DeclId} (inside : id < r.size) : r'.get id = r.get id := by
  obtain ⟨d, found⟩ : ∃ d, r.get? id = some d := ⟨_, List.getElem?_eq_getElem inside⟩
  simp [get, grows.get?_eq found, found]

/-- A generic stays one. -/
theorem isGeneric (grows : Grows r r') {id : DeclId} (generic : (r.get id).isGeneric = true) :
    (r'.get id).isGeneric = true := by
  rw [grows.get_eq (registered_of_generic generic)]
  exact generic

end Grows

theorem lookup?_insert_packages (r : Registry) (path : String) (p : Package) (package name : String) :
    ({ r with packages := r.packages.insert path p } : Registry).lookup? package name =
      if path = package then p.types.get? name else r.lookup? package name := by
  simp only [lookup?, package?, Table.get?_insert]
  split <;> rfl

theorem packageOrNew_types (r : Registry) (path name : String) :
    (r.packageOrNew path).types.get? name = r.lookup? path name := by
  simp only [packageOrNew, lookup?]
  cases r.package? path <;> rfl

theorem lookup?_addScope (r : Registry) (scope : Scope) (package name : String) :
    (r.addScope scope).lookup? package name = r.lookup? package name := by
  have lookup := lookup?_insert_packages r scope.package
    { r.packageOrNew scope.package with
      scopes := (r.packageOrNew scope.package).scopes ++ [r.scopes.length] } package name
  refine lookup.trans ?_
  split
  · next home => rw [← home]; exact packageOrNew_types r _ _
  · rfl

theorem registerGlobal_grows (r : Registry) (key : String) (id : DeclId) :
    Grows r (r.registerGlobal key id) := by
  unfold registerGlobal
  split
  · exact .refl r
  · next clear =>
    split
    · next absent =>
      refine ⟨List.prefix_refl _, List.prefix_refl _, fun _ _ _ h => h, fun _ _ h => h, ?_, ?_⟩
      · intro other found old
        have apart : key ≠ other := by
          rintro rfl
          simp [absent] at old
        exact .inl (by simpa [lookupGlobal?, apart] using old)
      · intro other gone
        have apart : key ≠ other := by
          rintro rfl
          exact clear gone.1
        exact ⟨gone.1, by simpa [lookupGlobal?, apart] using gone.2⟩
    · next other found =>
      split
      · exact .refl r
      · refine ⟨List.prefix_refl _, List.prefix_refl _, fun _ _ _ h => h, fun _ _ h => h, ?_, ?_⟩
        · intro k old found'
          by_cases same : key = k
          · subst same
            exact .inr ⟨by simp [isAmbiguous], by simp [lookupGlobal?]⟩
          · exact .inl (by simpa [lookupGlobal?, same] using found')
        · intro k gone
          have apart : key ≠ k := by
            rintro rfl
            exact clear gone.1
          refine ⟨?_, by simpa [lookupGlobal?, apart] using gone.2⟩
          have ambiguous := gone.1
          simp only [isAmbiguous, List.contains_cons, Bool.or_eq_true] at ambiguous ⊢
          exact .inr ambiguous

/-- A new declaration takes an unused name, so nothing that was found before is hidden. -/
theorem append_grows (r : Registry) (d : Declaration) (unused : r.lookup? d.package d.name = none) :
    Grows r (r.append d) where
  decls := List.prefix_append _ _
  scopes := List.prefix_refl _
  types package name id found := by
    have lookup := lookup?_insert_packages r d.package
      { r.packageOrNew d.package with types := (r.packageOrNew d.package).types.insert d.name r.size }
      package name
    refine lookup.trans ?_
    by_cases home : d.package = package
    · subst home
      have apart : d.name ≠ name := by
        rintro rfl
        simp [unused] at found
      simpa [apart, packageOrNew_types] using found
    · simpa [home] using found
  names _ _ found := found
  entered _ _ found := .inl found
  retired _ gone := gone

theorem registerAll_grows (keys : List String) (id : DeclId) (r : Registry) :
    Grows r (keys.foldl (fun acc key => acc.registerGlobal key id) r) := by
  induction keys generalizing r with
  | nil => exact .refl r
  | cons key rest ih => exact (registerGlobal_grows r key id).trans (ih _)

/-- A declaration under a name that is in use is passed over. -/
theorem insert_used {r : Registry} {d : Declaration} {id : DeclId}
    (used : r.lookup? d.package d.name = some id) : r.insert d = (id, r) := by
  unfold insert
  rw [used]

/-- Any other is filed in its package and then entered under its global keys. -/
theorem insert_new {r : Registry} {d : Declaration} (unused : r.lookup? d.package d.name = none) :
    r.insert d =
      (r.size, (globalKeys d).foldl (fun acc key => acc.registerGlobal key r.size) (r.append d)) := by
  unfold insert
  rw [unused]

theorem insert_grows (r : Registry) (d : Declaration) : Grows r (r.insert d).2 := by
  cases used : r.lookup? d.package d.name with
  | some id =>
    rw [insert_used used]
    exact .refl r
  | none =>
    rw [insert_new used]
    exact (append_grows r d used).trans (registerAll_grows _ _ _)

theorem registerAll_frame (keys : List String) (id : DeclId) (r : Registry) :
    ∃ global ambiguous,
      keys.foldl (fun acc key => acc.registerGlobal key id) r = { r with global, ambiguous } := by
  induction keys generalizing r with
  | nil => exact ⟨r.global, r.ambiguous, rfl⟩
  | cons key rest ih =>
    obtain ⟨global, ambiguous, first⟩ : ∃ global ambiguous,
        r.registerGlobal key id = { r with global, ambiguous } := by
      unfold registerGlobal
      split
      · exact ⟨r.global, r.ambiguous, rfl⟩
      · split
        · exact ⟨_, r.ambiguous, rfl⟩
        · split
          · exact ⟨r.global, r.ambiguous, rfl⟩
          · exact ⟨_, _, rfl⟩
    simp only [List.foldl_cons, first]
    exact ih _

/-- Besides being filed, such a declaration leaves its mark on the global keys only. -/
theorem insert_made {r : Registry} {d : Declaration} (unused : r.lookup? d.package d.name = none) :
    ∃ global ambiguous, r.insert d = (r.size, { r.append d with global, ambiguous }) := by
  obtain ⟨global, ambiguous, same⟩ := registerAll_frame (globalKeys d) r.size (r.append d)
  exact ⟨global, ambiguous, by rw [insert_new unused, same]⟩

/-- A declaration under an unused name comes last and is found there from then on. -/
theorem insert_unused {r : Registry} {d : Declaration} (unused : r.lookup? d.package d.name = none) :
    (r.insert d).1 = r.size ∧ (r.insert d).2.decls = r.decls ++ [d] ∧
      ∀ package name, (r.insert d).2.lookup? package name =
        if d.package = package ∧ d.name = name then some r.size else r.lookup? package name := by
  obtain ⟨global, ambiguous, made⟩ := insert_made unused
  rw [made]
  refine ⟨rfl, rfl, fun package name => ?_⟩
  have lookup := lookup?_insert_packages r d.package
    { r.packageOrNew d.package with types := (r.packageOrNew d.package).types.insert d.name r.size }
    package name
  refine lookup.trans ?_
  by_cases home : d.package = package
  · subst home
    simp [packageOrNew_types]
  · simp [home]

structure Framed (r r' : Registry) (scopes : List Scope) : Prop where
  scopes : r'.scopes = r.scopes ++ scopes
  indexed : r'.indexed = r.indexed
  names : r'.names = r.names

theorem insert_frame (r : Registry) (d : Declaration) : Framed r (r.insert d).2 [] := by
  cases used : r.lookup? d.package d.name with
  | some id =>
    rw [insert_used used]
    exact ⟨(List.append_nil _).symm, rfl, rfl⟩
  | none =>
    obtain ⟨global, ambiguous, made⟩ := insert_made used
    rw [made]
    exact ⟨(List.append_nil _).symm, rfl, rfl⟩

theorem insertAll_frame (decls : List Declaration) (r : Registry) : Framed r (r.insertAll decls) [] := by
  induction decls generalizing r with
  | nil => exact ⟨(List.append_nil _).symm, rfl, rfl⟩
  | cons d rest ih =>
    have first := insert_frame r d
    have others := ih (r.insert d).2
    refine ⟨?_, others.indexed.trans first.indexed, others.names.trans first.names⟩
    rw [insertAll, List.foldl_cons, ← insertAll, others.scopes, first.scopes, List.append_nil]

theorem openScope_frame (r : Registry) (path package : String) (items : List Source.Item) :
    Framed r (r.openScope path package items)
      [{ path, package, imports := Import.ofItems items }] := by
  have all := insertAll_frame (Declaration.ofItems items package r.scopes.length)
    (r.addScope { path, package, imports := Import.ofItems items })
  exact ⟨all.scopes.trans (List.append_nil _), all.indexed, all.names⟩

theorem addScope_grows (r : Registry) (scope : Scope) : Grows r (r.addScope scope) where
  decls := List.prefix_refl _
  scopes := List.prefix_append _ _
  types package name _ found := (lookup?_addScope r scope package name).trans found
  names _ _ found := found
  entered _ _ found := .inl found
  retired _ gone := gone

theorem insertAll_grows (decls : List Declaration) (r : Registry) : Grows r (r.insertAll decls) := by
  induction decls generalizing r with
  | nil => exact .refl r
  | cons d rest ih => exact (insert_grows r d).trans (ih _)

theorem openScope_grows (r : Registry) (path package : String) (items : List Source.Item) :
    Grows r (r.openScope path package items) :=
  (addScope_grows r _).trans (insertAll_grows _ _)

/-- Opening a scope keeps the property, for scopes that fit; the modules inside one fit too. -/
structure OpeningKeeps (P : Registry → Prop) (fits : String → List Source.Item → Prop) (path : String) :
    Prop where
  keeps : ∀ {r : Registry} {package : String} {items : List Source.Item}, fits package items → P r →
    P (r.openScope path package items)
  inner : ∀ {package name : String} {items inner : List Source.Item}, fits package items →
    .submodule name (some inner) ∈ items → fits (package ++ "::" ++ name) inner

section Indexing

variable {P : Registry → Prop} {fits : String → List Source.Item → Prop} {path : String}

mutual

theorem indexModules_keeps (opening : OpeningKeeps P fits path) (package : String) :
    (items : List Source.Item) → (r : Registry) →
    (∀ name inner, .submodule name (some inner) ∈ items → fits (package ++ "::" ++ name) inner) →
      P r → P (indexModules path package items r)
  | [], _, _, holds => holds
  | item :: rest, r, each, holds => by
    rw [indexModules]
    refine indexModules_keeps opening package rest _
      (fun name inner member => each name inner (List.mem_cons_of_mem _ member)) ?_
    exact indexModule_keeps opening package item r
      (fun name inner same => each name inner (same ▸ .head _)) holds

theorem indexModule_keeps (opening : OpeningKeeps P fits path) (package : String) :
    (item : Source.Item) → (r : Registry) →
    (∀ name inner, item = .submodule name (some inner) → fits (package ++ "::" ++ name) inner) →
      P r → P (indexModule path package item r)
  | .submodule name (some items), r, each, holds => by
    rw [indexModule]
    have fit := each name items rfl
    exact indexModules_keeps opening _ items _ (fun _ _ member => opening.inner fit member)
      (opening.keeps fit holds)
  | .submodule _ none, _, _, holds => holds
  | .struct _ _, _, _, holds => holds
  | .enum _ _, _, _, holds => holds
  | .typeAlias _ _, _, _, holds => holds
  | .trait _, _, _, holds => holds
  | .imports _, _, _, holds => holds
  | .other, _, _, holds => holds

end

/-- What opening the scopes of a file keeps holds after the file is indexed. -/
theorem OpeningKeeps.indexItems (opening : OpeningKeeps P fits path) {package : String} {items : List Source.Item}
    {r : Registry} (fit : fits package items) (holds : P r) : P (r.indexItems path package items) :=
  indexModules_keeps opening package items _ (fun _ _ member => opening.inner fit member)
    (opening.keeps fit holds)

theorem OpeningKeeps.index {file : SourceFile} (opening : OpeningKeeps P fits file.path) {package : String}
    {r : Registry} (fit : fits package file.items) (noted : ∀ indexed, P { r with indexed }) :
    P (r.index package file).2 := by
  simp only [Registry.index]
  split
  · exact noted r.indexed
  · exact opening.indexItems fit (noted _)

end Indexing

theorem index_grows (r : Registry) (package : String) (file : SourceFile) :
    Grows r (r.index package file).2 := by
  have opening : OpeningKeeps (Grows r) (fun _ _ => True) file.path :=
    ⟨fun _ grows => grows.trans (openScope_grows _ _ _ _), fun _ _ => trivial⟩
  refine opening.index trivial fun indexed => ?_
  exact ⟨List.prefix_refl _, List.prefix_refl _, fun _ _ _ h => h, fun _ _ h => h, fun _ _ h => .inl h,
    fun _ h => h⟩

theorem lookup_cons_of_ne {id other : DeclId} (name : String) (names : List (DeclId × String))
    (apart : id ≠ other) : ((other, name) :: names).lookup id = names.lookup id := by
  have differs : (id == other) = false := by simpa using apart
  simp [List.lookup_cons, differs]

theorem definitionName_grows (r : Registry) (id : DeclId) : Grows r (r.definitionName id).2 := by
  unfold definitionName
  split
  · exact .refl r
  · next unnamed =>
    refine ⟨List.prefix_refl _, List.prefix_refl _, fun _ _ _ h => h, ?_, fun _ _ h => .inl h,
      fun _ h => h⟩
    intro other name found
    have apart : other ≠ id := by
      rintro rfl
      simp [unnamed] at found
    exact (lookup_cons_of_ne _ _ apart).trans found

theorem definitionName_named (r : Registry) (id : DeclId) :
    (r.definitionName id).2.names.lookup id = some (r.definitionName id).1 := by
  cases found : r.names.lookup id with
  | some name => simp [definitionName, found]
  | none => simp [definitionName, found]

theorem argumentName_grows : (arg : TypeExpr) → (r : Registry) → Grows r (argumentName arg r).2
  | .primitive _, r => .refl r
  | .resolved id, r => definitionName_grows r id
  | .array inner, r => argumentName_grows inner r
  | .map key value, r => (argumentName_grows key r).trans (argumentName_grows value _)
  | .pointer inner, r => argumentName_grows inner r
  | .optional inner, r => argumentName_grows inner r
  | .named _ _, r => .refl r
  | .param _, r => .refl r
  | .interface, r => .refl r
  | .function, r => .refl r

theorem instanceName_grows (args : List TypeExpr) (base : String) (r : Registry) :
    Grows r (instanceName base args r).2 := by
  induction args generalizing base r with
  | nil => exact .refl r
  | cons arg rest ih => exact (argumentName_grows arg r).trans (ih _ _)

theorem instantiate_grows (r : Registry) (id : DeclId) (args : List TypeExpr) :
    Grows r (r.instantiate id args).2 := by
  simp only [instantiate]
  split
  · exact .refl r
  · split
    · exact instanceName_grows _ _ _
    · exact (instanceName_grows _ _ _).trans (insert_grows _ _)

end ApiSchema.Registry

namespace ApiSchema.Resolver

open Registry (Grows)

theorem indexFiles_grows (files : List SourceFile) (r : Registry) :
    Grows r (files.foldl (fun r file => (r.indexFile file).2) r) := by
  induction files generalizing r with
  | nil => exact .refl r
  | cons file rest ih => exact (Registry.index_grows r _ _).trans (ih _)

section Maintaining

variable {P : Registry → Prop}
  (index : ∀ (files : List SourceFile) (r : Registry), P r → P (files.foldl (fun r file => (r.indexFile file).2) r))

include index

/-- What indexing files keeps is kept by whatever loads crates. -/
theorem load_maintains {s : Resolver} (crate : String) (holds : P s.registry) : P (s.load crate).2.registry := by
  unfold load
  split
  · exact holds
  · exact holds
  · split
    · exact holds
    · split
      · exact index _ _ holds
      · exact holds

theorem loadUntilFound_maintains (segments : List String) (context : ScopeId) (crates : List String)
    (failed : Option Error) {s : Resolver} (holds : P s.registry) :
    P (loadUntilFound segments context crates failed s).2.registry := by
  induction crates generalizing failed s with
  | nil => exact holds
  | cons crate rest ih =>
    have loaded := load_maintains index crate holds
    simp only [loadUntilFound]
    split
    · exact ih _ loaded
    · exact ih _ loaded
    · split
      · exact loaded
      · exact ih _ loaded

theorem resolvePath_maintains (external : Bool) (context : ScopeId) (segments : List String) {s : Resolver}
    (holds : P s.registry) : P (resolvePath external context segments s).2.registry := by
  simp only [resolvePath]
  split
  · exact holds
  · split
    · exact holds
    · split
      · exact holds
      · split
        · exact holds
        · exact loadUntilFound_maintains index _ _ _ _ holds

end Maintaining

theorem load_grows (s : Resolver) (crate : String) : Grows s.registry (s.load crate).2.registry :=
  load_maintains (fun files r grows => grows.trans (indexFiles_grows files r)) crate (.refl _)

theorem resolvePath_grows (external : Bool) (context : ScopeId) (segments : List String)
    (s : Resolver) : Grows s.registry (resolvePath external context segments s).2.registry :=
  resolvePath_maintains (fun files r grows => grows.trans (indexFiles_grows files r)) external context segments
    (.refl _)

theorem loadUntilFound_error {segments : List String} {context : ScopeId} {crates : List String}
    {failed : Option Error} {s : Resolver} {e : Error} (mild : ∀ e, failed = some e → ¬e.IsConflict)
    (ended : (loadUntilFound segments context crates failed s).1 = .error e) : ¬e.IsConflict := by
  induction crates generalizing failed s with
  | nil =>
    cases failed with
    | none =>
      cases ended
      exact not_false
    | some e' =>
      cases ended
      exact mild _ rfl
  | cons crate rest ih =>
    simp only [loadUntilFound] at ended
    split at ended
    · refine ih ?_ ended
      rintro _ ⟨⟩
      exact not_false
    · exact ih mild ended
    · split at ended
      · cases ended
      · exact ih mild ended

theorem resolvePath_error {external : Bool} {context : ScopeId} {segments : List String}
    {s : Resolver} {e : Error} (ended : (resolvePath external context segments s).1 = .error e) :
    ¬e.IsConflict := by
  simp only [resolvePath] at ended
  split at ended
  · cases ended
  · split at ended
    · cases ended
    · split at ended
      · cases ended
        exact not_false
      · split at ended
        · cases ended
        · exact loadUntilFound_error (fun _ absent => by cases absent) ended

def growth : Steps.Contract Error Resolver where
  holds _ := True
  moves s t := Grows s.registry t.registry
  fails e s t := Grows s.registry t.registry ∧ ¬e.IsConflict
  refl s := .refl s.registry
  trans first second := first.trans second
  fails_after first failed := ⟨first.trans failed.1, failed.2⟩

abbrev OnlyGrows {α : Type} (step : Resolving α) : Prop := Steps.Meets growth step fun _ _ => True

theorem onlyGrows_after {α : Type} {step : Resolving α} (growing : OnlyGrows step) (s : Resolver) :
    Grows s.registry (Steps.after step s).2.registry := by
  rcases run : Steps.after step s with ⟨e | a, t⟩
  · exact ((growing s trivial).error run).1
  · exact ((growing s trivial).ok run).2.1

theorem resolvePath_onlyGrows (external : Bool) (context : ScopeId) (segments : List String) :
    OnlyGrows (ExceptT.mk (resolvePath external context segments)) := by
  intro s _
  have grows := resolvePath_grows external context segments s
  constructor
  · intro a t run
    have same : (resolvePath external context segments s).2 = t := congrArg Prod.snd run
    exact ⟨trivial, same ▸ grows, trivial⟩
  · intro e t run
    have same : (resolvePath external context segments s).2 = t := congrArg Prod.snd run
    exact ⟨same ▸ grows, resolvePath_error (congrArg Prod.fst run)⟩

theorem growth_law (external : Bool) (context : ScopeId) : Law external context growth where
  path := resolvePath_onlyGrows external context
  made args _ _ := ⟨trivial, Registry.instantiate_grows _ _ args⟩
  generic grows generic := grows.isGeneric generic
  refused _ mild := ⟨.refl _, mild⟩

theorem resolveExpr_onlyGrows (external : Bool) (context : ScopeId) (type : TypeExpr) :
    OnlyGrows (resolveExpr external context type) :=
  resolveExpr_meets (growth_law external context) type

end ApiSchema.Resolver
