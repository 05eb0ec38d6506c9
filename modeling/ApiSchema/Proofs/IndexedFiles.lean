import ApiSchema.Proofs.Loading

/-! What a registry takes from a file. The modules of a file are opened one after another, each before the
modules inside it; a module becomes a scope of its own, and the declarations among its items are registered
in the order of the source. Several modules may belong to one package, of the same file or of others: the
first declaration of a name stays. So after a file is indexed every item that defines a type has an entry
under its package and name, and nothing else has one that had none before. -/

namespace ApiSchema

open Source (Item TypeHeader)

def Source.Item.typeHeader? : Item → Option TypeHeader
  | .struct header _ => some header
  | .enum header _ => some header
  | .typeAlias header _ => some header
  | .trait header => some header
  | _ => none

/-- Every item that defines a type is read as a declaration of its name. -/
theorem Declaration.ofItem?_header {item : Item} {header : TypeHeader} (begins : item.typeHeader? = some header)
    (package : String) (scope : ScopeId) : ∃ d, ofItem? package scope item = some d ∧ d.package = package ∧
      d.name = header.name ∧ d.scope = scope := by
  cases item <;> cases begins <;> exact ⟨_, rfl, rfl, rfl, rfl⟩

namespace Registry

section Modules

mutual

/-- The modules among the items of a scope, each followed by those inside it: their package paths and
their items. -/
def innerModules (package : String) : List Item → List (String × List Item)
  | [] => []
  | item :: rest => modulesOf package item ++ innerModules package rest
termination_by structural items => items

def modulesOf (package : String) : Item → List (String × List Item)
  | .submodule name (some items) =>
    (package ++ "::" ++ name, items) :: innerModules (package ++ "::" ++ name) items
  | _ => []
termination_by structural item => item

end

def modules (package : String) (items : List Item) : List (String × List Item) :=
  (package, items) :: innerModules package items

def openModule (path : String) (r : Registry) (module : String × List Item) : Registry :=
  r.openScope path module.1 module.2

mutual

theorem indexModules_eq (path package : String) : (items : List Item) → (r : Registry) →
    indexModules path package items r = (innerModules package items).foldl (openModule path) r
  | [], _ => rfl
  | item :: rest, r => by
    rw [indexModules, innerModules, List.foldl_append, indexModule_eq path package item r]
    exact indexModules_eq path package rest _

theorem indexModule_eq (path package : String) : (item : Item) → (r : Registry) →
    indexModule path package item r = (modulesOf package item).foldl (openModule path) r
  | .submodule name (some items), r => by
    rw [indexModule, modulesOf, List.foldl_cons]
    exact indexModules_eq path _ items _
  | .submodule _ none, _ => rfl
  | .struct _ _, _ => rfl
  | .enum _ _, _ => rfl
  | .typeAlias _ _, _ => rfl
  | .trait _, _ => rfl
  | .imports _, _ => rfl
  | .other, _ => rfl

end

/-- To index the items of a file is to open its modules one after another. -/
theorem indexItems_eq (r : Registry) (path package : String) (items : List Item) :
    r.indexItems path package items = (modules package items).foldl (openModule path) r :=
  indexModules_eq path package items _

theorem mem_innerModules {package name : String} {items inside : List Item}
    (member : .submodule name (some inside) ∈ items) :
    (package ++ "::" ++ name, inside) ∈ innerModules package items := by
  induction items with
  | nil => cases member
  | cons item rest ih =>
    rw [innerModules]
    rcases List.mem_cons.mp member with rfl | later
    · exact List.mem_append_left _ List.mem_cons_self
    · exact List.mem_append_right _ (ih later)

mutual

/-- With a module the list has those inside it. -/
theorem innerModules_closed {package : String} : (items : List Item) → ∀ m ∈ innerModules package items,
    innerModules m.1 m.2 ⊆ innerModules package items
  | [], _, member => by cases member
  | item :: rest, m, member => by
    rw [innerModules] at member ⊢
    rcases List.mem_append.mp member with here | there
    · exact List.subset_append_of_subset_left _ (modulesOf_closed item m here)
    · exact List.subset_append_of_subset_right _ (innerModules_closed rest m there)

theorem modulesOf_closed {package : String} : (item : Item) → ∀ m ∈ modulesOf package item,
    innerModules m.1 m.2 ⊆ modulesOf package item
  | .submodule name (some items), m, member => by
    rw [modulesOf] at member ⊢
    rcases List.mem_cons.mp member with rfl | deeper
    · exact List.subset_cons_self _ _
    · exact List.subset_cons_of_subset _ (innerModules_closed items m deeper)
  | .submodule _ none, _, member => by cases member
  | .struct _ _, _, member => by cases member
  | .enum _ _, _, member => by cases member
  | .typeAlias _ _, _, member => by cases member
  | .trait _, _, member => by cases member
  | .imports _, _, member => by cases member
  | .other, _, member => by cases member

end

mutual

/-- Nothing is in the list but modules of the file. -/
theorem innerModules_within {file : SourceFile} {package : String} {all : List Item}
    (has : file.HasModule package all) : (items : List Item) → items ⊆ all →
    ∀ m ∈ innerModules package items, file.HasModule m.1 m.2
  | [], _, _, member => by cases member
  | item :: rest, within, m, member => by
    rw [innerModules] at member
    rcases List.mem_append.mp member with here | there
    · exact modulesOf_within has item (within List.mem_cons_self) m here
    · exact innerModules_within has rest (List.subset_of_cons_subset within) m there

theorem modulesOf_within {file : SourceFile} {package : String} {all : List Item}
    (has : file.HasModule package all) : (item : Item) → item ∈ all →
    ∀ m ∈ modulesOf package item, file.HasModule m.1 m.2
  | .submodule name (some items), inside, m, member => by
    have inner := SourceFile.HasModule.inner has inside
    rw [modulesOf] at member
    rcases List.mem_cons.mp member with rfl | deeper
    · exact inner
    · exact innerModules_within inner items (List.Subset.refl _) m deeper
  | .submodule _ none, _, _, member => by cases member
  | .struct _ _, _, _, member => by cases member
  | .enum _ _, _, _, member => by cases member
  | .typeAlias _ _, _, _, member => by cases member
  | .trait _, _, _, member => by cases member
  | .imports _, _, _, member => by cases member
  | .other, _, _, member => by cases member

end

/-- The list has the modules of the file, and only those. -/
theorem mem_modules_iff {file : SourceFile} {package : String} {items : List Item} :
    (package, items) ∈ modules file.module file.items ↔ file.HasModule package items := by
  constructor
  · intro member
    rcases List.mem_cons.mp member with same | inner
    · cases same
      exact .outer
    · exact innerModules_within .outer file.items (List.Subset.refl _) _ inner
  · intro has
    induction has with
    | outer => exact List.mem_cons_self
    | @inner package name items inside _ member ih =>
      have here : (package ++ "::" ++ name, inside) ∈ innerModules package items := mem_innerModules member
      refine List.mem_cons_of_mem _ ?_
      rcases List.mem_cons.mp ih with same | inner
      · cases same
        exact here
      · exact innerModules_closed _ _ inner here

end Modules

section Taking

variable {r r' r'' : Registry} {decls more : List Declaration}

def filedUnder (package name : String) (d : Declaration) : Bool := d.package = package && d.name = name

/-- Declarations were offered to the registry one after another. What was registered stays; a name that was
free is that of the first declaration which goes by it, if any does; and what is new was offered. -/
structure Takes (r : Registry) (decls : List Declaration) (r' : Registry) : Prop where
  grows : Grows r r'
  filed : ∀ package name, r.lookup? package name = none → ∀ d, decls.find? (filedUnder package name) = some d →
    ∃ id, r.size ≤ id ∧ r'.lookup? package name = some id ∧ r'.get? id = some d
  free : ∀ package name, r.lookup? package name = none → decls.find? (filedUnder package name) = none →
    r'.lookup? package name = none
  offered : ∀ id d, r.size ≤ id → r'.get? id = some d → d ∈ decls ∧ r'.lookup? d.package d.name = some id

namespace Takes

/-- No declaration has come. -/
theorem none (grows : Grows r r') (same : r'.decls = r.decls)
    (lookup : ∀ package name, r'.lookup? package name = r.lookup? package name) : Takes r [] r' where
  grows
  filed _ _ _ _ found := by cases found
  free package name absent _ := (lookup package name).trans absent
  offered id d late found := by
    rw [get?, same] at found
    exact absurd (List.getElem?_eq_some_iff.mp found).1 (Nat.not_lt_of_le late)

theorem trans (first : Takes r decls r') (second : Takes r' more r'') : Takes r (decls ++ more) r'' where
  grows := first.grows.trans second.grows
  filed package name absent d found := by
    rw [List.find?_append] at found
    cases early : decls.find? (filedUnder package name) with
    | some d' =>
      rw [early, Option.some_or, Option.some.injEq] at found
      subst found
      obtain ⟨id, late, entry, own⟩ := first.filed package name absent d' early
      exact ⟨id, late, second.grows.types _ _ _ entry, second.grows.get?_eq own⟩
    | none =>
      rw [early, Option.none_or] at found
      obtain ⟨id, late, entry, own⟩ :=
        second.filed package name (first.free package name absent early) d found
      exact ⟨id, Nat.le_trans first.grows.size_le late, entry, own⟩
  free package name absent missing := by
    rw [List.find?_append, Option.or_eq_none_iff] at missing
    exact second.free package name (first.free package name absent missing.1) missing.2
  offered id d late found := by
    rcases Nat.lt_or_ge id r'.size with inside | beyond
    · obtain ⟨d', early⟩ : ∃ d', r'.get? id = some d' := ⟨_, List.getElem?_eq_getElem inside⟩
      obtain rfl : d' = d := Option.some.inj ((second.grows.get?_eq early).symm.trans found)
      obtain ⟨member, entry⟩ := first.offered id d' late early
      exact ⟨List.mem_append_left _ member, second.grows.types _ _ _ entry⟩
    · obtain ⟨member, entry⟩ := second.offered id d beyond found
      exact ⟨List.mem_append_right _ member, entry⟩

theorem insert (r : Registry) (d : Declaration) : Takes r [d] (r.insert d).2 := by
  have goes (package name : String) : [d].find? (filedUnder package name) =
      if d.package = package ∧ d.name = name then some d else Option.none := by
    by_cases own : d.package = package ∧ d.name = name <;> simp [filedUnder, own]
  cases used : r.lookup? d.package d.name with
  | some id =>
    rw [insert_used used]
    refine ⟨.refl r, fun package name absent d' found => ?_, fun _ _ absent _ => absent, fun id d late found => ?_⟩
    · -- the name it goes by is in use
      rw [goes] at found
      split at found
      · next own =>
        rw [← own.1, ← own.2, used] at absent
        cases absent
      · cases found
    · exact absurd (List.getElem?_eq_some_iff.mp found).1 (Nat.not_lt_of_le late)
  | none =>
    obtain ⟨_, decls, lookup⟩ := insert_unused used
    have last : (r.insert d).2.get? r.size = some d := by
      rw [get?_insert_unused used, if_pos rfl]
    refine ⟨insert_grows r d, fun package name _ d' found => ?_, fun package name absent missing => ?_,
      fun id d' late found => ?_⟩
    · rw [goes] at found
      split at found
      · next own =>
        cases found
        exact ⟨r.size, Nat.le_refl _, by rw [lookup, if_pos own], last⟩
      · cases found
    · rw [goes] at missing
      split at missing
      · cases missing
      · next other => rw [lookup, if_neg other, absent]
    · rw [get?_insert_unused used] at found
      split at found
      · next same =>
        cases found
        exact ⟨List.mem_singleton_self _, by rw [lookup, if_pos ⟨rfl, rfl⟩, same]⟩
      · exact absurd (List.getElem?_eq_some_iff.mp found).1 (Nat.not_lt_of_le late)

theorem insertAll (r : Registry) (decls : List Declaration) : Takes r decls (r.insertAll decls) := by
  induction decls generalizing r with
  | nil => exact .none (.refl r) rfl fun _ _ => rfl
  | cons d rest ih => exact (insert r d).trans (ih (r.insert d).2)

theorem openScope (r : Registry) (path package : String) (items : List Item) :
    Takes r (Declaration.ofItems items package r.scopes.length) (r.openScope path package items) := by
  have opened : Takes r [] (r.addScope { path, package, imports := Import.ofItems items }) :=
    .none (addScope_grows r _) rfl (lookup?_addScope r _)
  exact opened.trans (insertAll _ _)

end Takes

end Taking

section Files

variable {r : Registry}

def listing (r : Registry) (path : String) : List ScopeId := (r.packageOrNew path).scopes

theorem listing_addScope (r : Registry) (scope : Scope) (path : String) :
    (r.addScope scope).listing path =
      r.listing path ++ if scope.package = path then [r.scopes.length] else [] := by
  simp only [listing, packageOrNew, addScope, package?, Table.get?_insert]
  split
  · next home => rw [← home]; rfl
  · rw [List.append_nil]

theorem listing_insert (r : Registry) (d : Declaration) (path : String) :
    (r.insert d).2.listing path = r.listing path := by
  cases used : r.lookup? d.package d.name with
  | some id => rw [insert_used used]
  | none =>
    simp only [listing, packageOrNew, package?_insert used]
    split
    · next home => rw [← home]; rfl
    · rfl

theorem listing_insertAll (decls : List Declaration) (r : Registry) (path : String) :
    (r.insertAll decls).listing path = r.listing path := by
  induction decls generalizing r with
  | nil => rfl
  | cons d rest ih => exact (ih _).trans (listing_insert r d path)

def declarations (first : ScopeId) (ms : List (String × List Item)) : List Declaration :=
  (ms.zipIdx first).flatMap fun (m, id) => Declaration.ofItems m.2 m.1 id

theorem openAll_scopes (path : String) (ms : List (String × List Item)) (r : Registry) :
    (ms.foldl (openModule path) r).scopes =
      r.scopes ++ ms.map fun m => { path, package := m.1, imports := Import.ofItems m.2 } := by
  induction ms generalizing r with
  | nil => exact (List.append_nil _).symm
  | cons m rest ih =>
    rw [List.foldl_cons, ih, openModule, (openScope_frame r path m.1 m.2).scopes, List.append_assoc]
    rfl

theorem openModule_room (path : String) (r : Registry) (m : String × List Item) :
    (openModule path r m).scopes.length = r.scopes.length + 1 := by
  rw [openModule, (openScope_frame r path m.1 m.2).scopes, List.length_append, List.length_singleton]

theorem openAll_listing (path : String) (ms : List (String × List Item)) (r : Registry) (package : String) :
    (ms.foldl (openModule path) r).listing package =
      r.listing package ++ ((ms.zipIdx r.scopes.length).filter fun m => m.1.1 = package).map Prod.snd := by
  induction ms generalizing r with
  | nil => exact (List.append_nil _).symm
  | cons m rest ih =>
    have opened : (openModule path r m).listing package =
        r.listing package ++ if m.1 = package then [r.scopes.length] else [] :=
      (listing_insertAll _ _ _).trans (listing_addScope _ _ _)
    rw [List.foldl_cons, ih, opened, openModule_room, List.zipIdx_cons, List.append_assoc]
    by_cases home : m.1 = package <;> simp [home]

/-- Opening modules one after another offers their declarations in this order. -/
theorem openAll_takes (path : String) (ms : List (String × List Item)) (r : Registry) :
    Takes r (declarations r.scopes.length ms) (ms.foldl (openModule path) r) := by
  induction ms generalizing r with
  | nil => exact .none (.refl r) rfl fun _ _ => rfl
  | cons m rest ih =>
    have others := ih (openModule path r m)
    rw [openModule_room] at others
    rw [declarations, List.zipIdx_cons, List.flatMap_cons]
    exact (Takes.openScope r path m.1 m.2).trans others

/-- What a file that is indexed under a package path leaves in a registry. -/
structure TakesFile (r : Registry) (package : String) (file : SourceFile) (r' : Registry) : Prop where
  /-- Every module becomes a scope of its own, with the imports of that module. -/
  scopes : r'.scopes = r.scopes ++ (modules package file.items).map fun m =>
    { path := file.path, package := m.1, imports := Import.ofItems m.2 }
  /-- A package lists the scopes of its modules, after those it listed before. -/
  listed : ∀ path, r'.listing path = r.listing path ++
    (((modules package file.items).zipIdx r.scopes.length).filter fun m => m.1.1 = path).map Prod.snd
  /-- Every item that defines a type is found in the package of its module. -/
  found : ∀ path items, ({ file with module := package } : SourceFile).HasModule path items →
    ∀ item ∈ items, ∀ header, item.typeHeader? = some header → ∃ id, r'.lookup? path header.name = some id
  /-- The first declaration of a name that was free has it, and nothing else is new. -/
  takes : Takes r (declarations r.scopes.length (modules package file.items)) r'
  /-- A new declaration belongs to the scope of the module it stands in. -/
  homes : ∀ id d, r.size ≤ id → r'.get? id = some d → ∃ k items,
    (modules package file.items)[k]? = some (d.package, items) ∧ d.scope = r.scopes.length + k ∧
      ∃ item ∈ items, Declaration.ofItem? d.package d.scope item = some d

theorem ofItem?_home {item : Item} {package : String} {scope : ScopeId} {d : Declaration}
    (read : Declaration.ofItem? package scope item = some d) : d.package = package ∧ d.scope = scope := by
  cases item <;> cases read <;> exact ⟨rfl, rfl⟩

theorem mem_declarations {first : ScopeId} {ms : List (String × List Item)} {d : Declaration} :
    d ∈ declarations first ms ↔ ∃ k m, ms[k]? = some m ∧
      ∃ item ∈ m.2, Declaration.ofItem? m.1 (first + k) item = some d := by
  simp only [declarations, List.mem_flatMap, Declaration.ofItems, List.mem_filterMap]
  constructor
  · rintro ⟨⟨m, id⟩, numbered, read⟩
    obtain ⟨late, here⟩ := List.mk_mem_zipIdx_iff_le_and_getElem?_sub.mp numbered
    refine ⟨id - first, m, here, ?_⟩
    rw [Nat.add_sub_cancel' late]
    exact read
  · rintro ⟨k, m, here, read⟩
    exact ⟨(m, first + k), List.mk_add_mem_zipIdx_iff_getElem?.mpr here, read⟩

theorem openAll_takesFile (r : Registry) (package : String) (file : SourceFile) :
    TakesFile r package file (r.indexItems file.path package file.items) := by
  rw [indexItems_eq]
  have takes := openAll_takes file.path (modules package file.items) r
  refine ⟨openAll_scopes _ _ _, openAll_listing _ _ _, ?_, takes, fun id d late found => ?_⟩
  · intro path items has item member header begins
    obtain ⟨k, here⟩ := List.mem_iff_getElem?.mp (mem_modules_iff.mpr has)
    obtain ⟨d, read, home, named, _⟩ := Declaration.ofItem?_header begins path (r.scopes.length + k)
    have offered := mem_declarations.mpr ⟨k, _, here, item, member, read⟩
    cases known : r.lookup? path header.name with
    | some id => exact ⟨id, takes.grows.types _ _ _ known⟩
    | none =>
      have goes : ((declarations r.scopes.length (modules package file.items)).find?
          (filedUnder path header.name)).isSome = true :=
        List.find?_isSome.mpr ⟨d, offered, by simp [filedUnder, home, named]⟩
      obtain ⟨first, least⟩ := Option.isSome_iff_exists.mp goes
      obtain ⟨id, _, entry, _⟩ := takes.filed path header.name known first least
      exact ⟨id, entry⟩
  · obtain ⟨k, ⟨path, items⟩, here, item, member, read⟩ := mem_declarations.mp (takes.offered id d late found).1
    obtain ⟨rfl, same⟩ := ofItem?_home read
    exact ⟨k, items, here, same, item, member, same ▸ read⟩

theorem call_indexed (call : Call) (r : Registry) : r.indexed ⊆ (call.apply r).indexed := by
  rcases call_cases call r with ⟨package, file, rfl⟩ | ⟨_, same⟩
  · simp only [Call.apply, index]
    split
    · exact List.Subset.refl _
    · rw [indexItems_indexed]
      exact List.subset_cons_self _ _
  · exact same ▸ List.Subset.refl _

theorem run_indexed (calls : List Call) (r : Registry) : r.indexed ⊆ (run calls r).indexed := by
  induction calls generalizing r with
  | nil => exact List.Subset.refl _
  | cons call rest ih => exact List.Subset.trans (call_indexed call r) (ih _)

theorem index_known {package : String} {file : SourceFile} (known : Path.ofString file.path ∈ r.indexed) :
    r.index package file = (none, r) := by
  simp [index, known]

/-- A file whose path is known is passed over and nothing changes. Any other file leaves all that is in it:
its modules become new scopes, every item that defines a type is found where it stands unless something
was found there before, nothing else is, and from then on its path is known, however it is spelled. -/
theorem index_takes (r : Registry) (package : String) (file : SourceFile) :
    (Path.ofString file.path ∈ r.indexed → r.index package file = (none, r)) ∧
    (Path.ofString file.path ∉ r.indexed →
      let r' := (r.index package file).2
      (r.index package file).1 = some r.scopes.length ∧ TakesFile r package file r' ∧
        ∀ (later : List Call) (package' : String) (again : SourceFile),
          Path.ofString again.path = Path.ofString file.path →
          (run later r').index package' again = (none, run later r')) := by
  refine ⟨index_known, fun unknown => ?_⟩
  have indexed : r.index package file = (some r.scopes.length,
      ({ r with indexed := Path.ofString file.path :: r.indexed } : Registry).indexItems file.path package
        file.items) := by
    simp [index, unknown]
  have grows := index_grows r package file
  rw [indexed] at grows ⊢
  refine ⟨rfl, ?_, fun later package' again same => index_known ?_⟩
  · obtain ⟨scopes, listed, found, takes, homes⟩ :=
      openAll_takesFile { r with indexed := Path.ofString file.path :: r.indexed } package file
    exact ⟨scopes, listed, found, ⟨grows, takes.filed, takes.free, takes.offered⟩, homes⟩
  · refine run_indexed later _ ?_
    rw [indexItems_indexed, same]
    exact List.mem_cons_self

/-- Two modules of one package, which has an entry from another file, and a module inside one of them. -/
theorem index_takes_modules :
    let declared (name : String) : Item := .struct ⟨[], name, []⟩ .unit
    let r := (empty.index "crate::a" { path := "src/a.rs", module := "crate::a", items := [declared "X"] }).2
    let file : SourceFile := { path := "src/lib.rs", module := "crate", items := [
      .submodule "a" (some [declared "X", declared "Y", .submodule "b" (some [
        .imports (.path "super" (.name "Y")), .enum ⟨[], "E", []⟩ []])]),
      .submodule "a" (some [.typeAlias ⟨[], "Y", []⟩ .other, .trait ⟨[], "Z", []⟩])] }
    let r' := (r.index "crate" file).2
    TakesFile r "crate" file r' ∧ r'.listing "crate::a" = [0, 2, 4] ∧
      r'.decls.map (fun d => (d.package, d.name, d.scope)) =
        [("crate::a", "X", 0), ("crate::a", "Y", 2), ("crate::a::b", "E", 3), ("crate::a", "Z", 4)] := by
  intro declared r file r'
  have unknown : Path.ofString file.path ∉ r.indexed := by decide +kernel
  exact ⟨((index_takes r "crate" file).2 unknown).2.1, by decide +kernel, by decide +kernel⟩

end Files

end Registry

end ApiSchema
