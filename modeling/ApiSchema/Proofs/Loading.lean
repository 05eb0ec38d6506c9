import ApiSchema.Proofs.Instances
import ApiSchema.Proofs.Lookups

/-! What resolution does to packages that are known. The files of a crate belong to packages of that
crate, none of which is known before the crate is loaded, and an instance only adds a marked name to
the package of its generic. So known packages keep their scopes and their unmarked names, whatever is
resolved; what a later lookup can come to is packages that are new. -/

namespace ApiSchema

open Source (Item)

def crateOf (path : String) : String := (Text.segments path).headD ""

theorem Text.segmentChars_first (cs : List Char) : ∃ first rest, segmentChars cs = first :: rest ∧
    (cs = first ∨ first ++ [':', ':'] <+: cs) := by
  fun_induction segmentChars cs with
  | case1 => exact ⟨[], [], rfl, .inl rfl⟩
  | case2 rest _ => exact ⟨[], segmentChars rest, rfl, .inr (by simp)⟩
  | case3 c rest _ none ih =>
    obtain ⟨first, more, same, _⟩ := ih
    simp [none] at same
  | case4 c rest _ piece pieces same ih =>
    obtain ⟨first, more, same', front⟩ := ih
    obtain ⟨rfl, rfl⟩ : piece = first ∧ pieces = more := by simpa [same] using same'
    refine ⟨c :: piece, pieces, rfl, ?_⟩
    rcases front with rfl | front
    · exact .inl rfl
    · exact .inr (by simpa using front)

namespace SourceFile

inductive HasModule (file : SourceFile) : String → List Item → Prop where
  | outer : file.HasModule file.module file.items
  | inner {package name : String} {items inside : List Item} (module : file.HasModule package items)
      (member : .submodule name (some inside) ∈ items) :
      file.HasModule (package ++ "::" ++ name) inside

def Written (file : SourceFile) : Prop := ∀ package items, file.HasModule package items →
  Scope.Unmarked { path := file.path, package, imports := Import.ofItems items }

def Undashed (file : SourceFile) : Prop := ∀ package items, file.HasModule package items →
  Scope.Undashed { path := file.path, package, imports := Import.ofItems items }

theorem Written.undashed {file : SourceFile} (written : file.Written) : file.Undashed :=
  fun package items inside => (written package items inside).undashed

def RootedAt (file : SourceFile) (crate : String) : Prop := ∀ package items,
  file.HasModule package items → crateOf package = crate

end SourceFile

/-- The files of every crate are written in source and belong to the crate. -/
def Loader.Rooted (loader : Loader) : Prop := ∀ crate files, loader crate = .ok files →
  ∀ file ∈ files, file.Written ∧ file.RootedAt crate

section Files

open Source (UseTree)

def SourceFile.plain (path module : String) (imports : List UseTree)
    (structs : List (String × List String)) : SourceFile where
  path
  module
  items := imports.map .imports ++ structs.map fun header => .struct ⟨[], header.1, header.2⟩ .unit

variable {path module package : String} {imports : List UseTree} {structs : List (String × List String)}

theorem SourceFile.plain_module {items : List Item}
    (inside : (plain path module imports structs).HasModule package items) :
    package = module ∧ items = (plain path module imports structs).items := by
  induction inside with
  | outer => exact ⟨rfl, rfl⟩
  | inner _ member ih =>
    rw [ih.2] at member
    simp [plain] at member

theorem SourceFile.plain_written
    (clean : Scope.Unmarked ⟨path, module, Import.ofItems (plain path module imports structs).items⟩) :
    (plain path module imports structs).Written := by
  intro package items inside
  obtain ⟨rfl, rfl⟩ := plain_module inside
  exact clean

def Loader.plain (crates : List (String × List UseTree × List (String × List String))) : Loader :=
  fun crate =>
    match crates.lookup crate with
    | some (imports, structs) => .ok [.plain (crate ++ "/src/lib.rs") crate imports structs]
    | none => .error "no such crate"

theorem Loader.plain_rooted {crates : List (String × List UseTree × List (String × List String))}
    (each : ∀ entry ∈ crates, crateOf entry.1 = entry.1 ∧ Scope.Unmarked ⟨entry.1 ++ "/src/lib.rs",
      entry.1, Import.ofItems (SourceFile.plain "" "" entry.2.1 entry.2.2).items⟩) :
    (Loader.plain crates).Rooted := by
  intro crate files given file member
  unfold Loader.plain at given
  split at given
  · next imports structs found =>
    cases given
    rw [List.mem_singleton.mp member]
    obtain ⟨before, after, split, _⟩ := List.lookup_eq_some_iff.mp found
    obtain ⟨home, clean⟩ := each (crate, imports, structs) (by simp [split])
    refine ⟨SourceFile.plain_written clean, fun package items inside => ?_⟩
    rw [(SourceFile.plain_module inside).1]
    exact home
  · cases given

end Files

namespace Registry

def CrateUnknown (r : Registry) (crate : String) : Prop :=
  ∀ path p, r.package? path = some p → crateOf path ≠ crate

theorem unknown_of_hasCrate {r : Registry} {crate : String} (none : r.hasCrate crate = false) :
    r.CrateUnknown crate := by
  rintro path p found rfl
  have member : path ∈ r.packages.keys := List.mem_map.mpr ⟨_, Table.mem_of_get? found, rfl⟩
  have apart := List.any_eq_false.mp none path member
  obtain ⟨first, rest, split, front⟩ := Text.segmentChars_first path.toList
  have crate : crateOf path = String.ofList first := by simp [crateOf, Text.segments, split]
  refine apart ?_
  rw [crate]
  rcases front with whole | front
  · simp [← whole]
  · simpa [Text.startsWith] using .inr front

section Indexing

variable {r : Registry}

/-- A declaration that is new is put into its package, and no other package changes. -/
theorem package?_insert {d : Declaration} (unused : r.lookup? d.package d.name = none) (path : String) :
    (r.insert d).2.package? path = if d.package = path then
      some { r.packageOrNew d.package with
        types := (r.packageOrNew d.package).types.insert d.name r.size }
    else r.package? path := by
  obtain ⟨global, ambiguous, made⟩ := insert_made unused
  rw [made]
  simp [append, package?]

theorem insert_elsewhere (r : Registry) (d : Declaration) {path : String} (apart : d.package ≠ path) :
    (r.insert d).2.package? path = r.package? path := by
  cases used : r.lookup? d.package d.name with
  | some id => rw [insert_used used]
  | none => rw [package?_insert used, if_neg apart]

theorem insertAll_elsewhere {package path : String} (apart : package ≠ path) (decls : List Declaration)
    (home : ∀ d ∈ decls, d.package = package) (r : Registry) :
    (r.insertAll decls).package? path = r.package? path := by
  induction decls generalizing r with
  | nil => rfl
  | cons d rest ih =>
    have first : d.package ≠ path := home d List.mem_cons_self ▸ apart
    exact (ih (fun other member => home other (List.mem_cons_of_mem _ member)) _).trans
      (insert_elsewhere r d first)

theorem ofItems_package {items : List Item} {package : String} {scope : ScopeId} :
    ∀ d ∈ Declaration.ofItems items package scope, d.package = package := by
  intro d member
  obtain ⟨item, _, made⟩ := List.mem_filterMap.mp member
  cases item <;> cases made <;> rfl

theorem openScope_elsewhere (r : Registry) (path package : String) (items : List Item) {other : String}
    (apart : package ≠ other) : (r.openScope path package items).package? other = r.package? other := by
  refine (insertAll_elsewhere apart _ ofItems_package _).trans ?_
  simp [addScope, package?, apart]

theorem indexItems_indexed (r : Registry) (path package : String) (items : List Item) :
    (r.indexItems path package items).indexed = r.indexed := by
  have opening : OpeningKeeps (fun r' => r'.indexed = r.indexed) (fun _ _ => True) path :=
    ⟨fun _ same => (openScope_frame _ _ _ _).indexed.trans same, fun _ _ => trivial⟩
  exact opening.indexItems trivial rfl

end Indexing

/-- What opening the scopes of files keeps holds after the files are indexed. -/
theorem indexFiles_keeps {P : Registry → Prop} {files : List SourceFile}
    (opening : ∀ file ∈ files, OpeningKeeps P file.HasModule file.path)
    (noted : ∀ r indexed, P r → P { r with indexed }) {r : Registry} (holds : P r) :
    P (files.foldl (fun r file => (r.indexFile file).2) r) := by
  induction files generalizing r with
  | nil => exact holds
  | cons file rest ih =>
    refine ih (fun other member => opening other (List.mem_cons_of_mem _ member)) ?_
    exact (opening file List.mem_cons_self).index .outer fun indexed => noted r indexed holds

/-- The tables fit each other, and no scope has the mark of instances in its names. -/
structure Clean (r : Registry) : Prop where
  orderly : Orderly r
  undashed : ∀ scope ∈ r.scopes, scope.Undashed

theorem Clean.indexFiles {r : Registry} (clean : Clean r) {files : List SourceFile}
    (each : ∀ file ∈ files, file.Undashed) :
    Clean (files.foldl (fun r file => (r.indexFile file).2) r) := by
  refine indexFiles_keeps (fun file member => ⟨fun {r package items} module clean => ?_, .inner⟩)
    (fun r _ clean => ⟨clean.orderly.frame _ r.names, clean.undashed⟩) clean
  refine ⟨clean.orderly.openScope _ _ _, fun scope inside => ?_⟩
  rw [(openScope_frame r file.path package items).scopes] at inside
  rcases List.mem_append.mp inside with old | new
  · exact clean.undashed scope old
  · exact List.mem_singleton.mp new ▸ each file member package items module

structure OnlyCrateChanged (crate : String) (r r' : Registry) : Prop where
  scopes : r.scopes <+: r'.scopes
  elsewhere : ∀ path, crateOf path ≠ crate → r'.package? path = r.package? path

namespace OnlyCrateChanged

variable {crate : String} {r r' : Registry}

theorem indexFiles {files : List SourceFile} (each : ∀ file ∈ files, file.RootedAt crate) (r : Registry) :
    OnlyCrateChanged crate r (files.foldl (fun r file => (r.indexFile file).2) r) := by
  refine indexFiles_keeps (fun file member => ⟨fun {r' package items} module changed => ?_, .inner⟩)
    (fun _ _ changed => ⟨changed.scopes, changed.elsewhere⟩) ⟨List.prefix_refl _, fun _ _ => rfl⟩
  constructor
  · rw [(openScope_frame r' file.path package items).scopes]
    exact changed.scopes.trans (List.prefix_append _ _)
  · intro path apart
    have apart' : package ≠ path := fun same => apart (same ▸ each file member package items module)
    rw [openScope_elsewhere r' file.path package items apart']
    exact changed.elsewhere path apart

/-- Packages that were known are as they were if the crate was not. -/
theorem wider (changed : OnlyCrateChanged crate r r') (unknown : r.CrateUnknown crate) : KeepsWrittenNames r r' where
  scopes := changed.scopes
  packages path p found := by
    refine ⟨p, ?_, rfl, fun _ _ => rfl⟩
    rw [changed.elsewhere path (unknown path p found)]
    exact found

theorem unknown (changed : OnlyCrateChanged crate r r') {other : String} (apart : other ≠ crate)
    (unknown : r.CrateUnknown other) : r'.CrateUnknown other := by
  rintro path p found rfl
  rw [changed.elsewhere path apart] at found
  exact unknown path p found rfl

end OnlyCrateChanged

/-- Every file that is indexed is noted; where none is, nothing changes. -/
theorem indexFiles_indexed (files : List SourceFile) (r : Registry) :
    ∃ keys, (files.foldl (fun r file => (r.indexFile file).2) r).indexed = keys ++ r.indexed ∧
      (keys = [] → files.foldl (fun r file => (r.indexFile file).2) r = r) := by
  induction files generalizing r with
  | nil => exact ⟨[], rfl, fun _ => rfl⟩
  | cons file rest ih =>
    obtain ⟨keys, noted, none⟩ := ih (r.indexFile file).2
    by_cases old : r.indexed.contains (Path.ofString file.path) = true
    · have same : (r.indexFile file).2 = r := by simp only [indexFile, index, old, if_true]
      rw [same] at noted none
      exact ⟨keys, by simpa [same] using noted, fun empty => by simpa [same] using none empty⟩
    · have new : (r.indexFile file).2.indexed = Path.ofString file.path :: r.indexed := by
        simp only [indexFile, index, old, if_false, Bool.false_eq_true, indexItems_indexed]
      refine ⟨keys ++ [Path.ofString file.path], ?_, fun empty => by simp at empty⟩
      rw [List.foldl_cons, noted, new, List.append_assoc, List.singleton_append]

/-- The name of an instance has the mark that sets off its arguments. -/
theorem instanceName_marked {args : List TypeExpr} (applied : args ≠ []) (base : String) (r : Registry) :
    '-' ∈ (instanceName base args r).1.toList := by
  rw [(instanceName_again args base (.refl _)).2]
  cases args with
  | nil => exact absurd rfl applied
  | cons arg rest => simp [spelling, String.toList_append]

structure OnlyMarkedAdded (r r' : Registry) : Prop where
  wider : KeepsWrittenNames r r'
  scopes : r'.scopes = r.scopes
  indexed : r'.indexed = r.indexed
  absent : ∀ path, r.package? path = none → r'.package? path = none

namespace OnlyMarkedAdded

variable {r r' r'' : Registry}

theorem refl (r : Registry) : OnlyMarkedAdded r r := ⟨.refl r, rfl, rfl, fun _ absent => absent⟩

theorem trans (first : OnlyMarkedAdded r r') (second : OnlyMarkedAdded r' r'') : OnlyMarkedAdded r r'' where
  wider := first.wider.trans second.wider
  scopes := second.scopes.trans first.scopes
  indexed := second.indexed.trans first.indexed
  absent path absent := second.absent path (first.absent path absent)

theorem frame (r : Registry) (names : List (DeclId × String)) : OnlyMarkedAdded r { r with names } :=
  ⟨⟨List.prefix_refl _, fun _ p found => ⟨p, found, rfl, fun _ _ => rfl⟩⟩, rfl, rfl,
    fun _ absent => absent⟩

/-- A declaration comes to a known package, under a marked name. -/
theorem insert {d : Declaration} {p : Package} (home : r.package? d.package = some p)
    (marked : '-' ∈ d.name.toList) : OnlyMarkedAdded r (r.insert d).2 := by
  cases used : r.lookup? d.package d.name with
  | some id =>
    rw [insert_used used]
    exact .refl r
  | none =>
    have frame := insert_frame r d
    have scopes := frame.scopes.trans (List.append_nil _)
    have only : r.packageOrNew d.package = p := by rw [packageOrNew, home]; rfl
    have packages := package?_insert used
    rw [only] at packages
    refine ⟨⟨scopes ▸ List.prefix_refl _, fun path q found => ?_⟩, scopes, frame.indexed, fun path absent => ?_⟩
    · rw [packages]
      split
      · next here =>
        obtain rfl : p = q := Option.some.inj (home.symm.trans (here ▸ found))
        refine ⟨_, rfl, rfl, fun name clean => ?_⟩
        have apart : d.name ≠ name := by
          rintro rfl
          exact clean marked
        simp [apart]
      · exact ⟨q, found, rfl, fun _ _ => rfl⟩
    · have apart : d.package ≠ path := by
        rintro rfl
        simp [home] at absent
      rw [packages, if_neg apart]
      exact absent

/-- An instance comes to the package of its generic. -/
theorem instantiate (orderly : Orderly r) {id : DeclId} (generic : (r.get id).isGeneric = true)
    (args : List TypeExpr) : OnlyMarkedAdded r (r.instantiate id args).2 := by
  simp only [Registry.instantiate]
  split
  · exact .refl r
  next arity =>
  have applied : args ≠ [] := by
    rintro rfl
    cases params : (r.get id).params with
    | nil => simp [Declaration.isGeneric, params] at generic
    | cons _ _ => simp [params] at arity
  have marked := instanceName_marked applied (r.get id).name r
  obtain ⟨names, same⟩ := instanceName_frame args (r.get id).name r
  generalize instanceName (r.get id).name args r = spelled at same marked ⊢
  obtain ⟨name, r'⟩ := spelled
  subst same
  have home := orderly.lookup_get (registered_of_generic generic)
  obtain ⟨p, known, _⟩ := Option.bind_eq_some_iff.mp home
  split
  · exact .frame r names
  · exact (OnlyMarkedAdded.frame r names).trans (.insert (p := p) known marked)

end OnlyMarkedAdded

/-- Crates that are loaded are not known, and none is loaded twice. -/
theorem unknownCrates_spec (r : Registry) (tried : List (List String)) :
    (r.unknownCrates tried).Nodup ∧ ∀ crate ∈ r.unknownCrates tried, r.CrateUnknown crate := by
  unfold unknownCrates
  refine List.foldlRecOn
    (motive := fun crates : List String => crates.Nodup ∧ ∀ crate ∈ crates, r.CrateUnknown crate)
    tried _ ⟨List.nodup_nil, by simp⟩ ?_
  rintro crates ⟨distinct, unknown⟩ candidate -
  cases candidate with
  | nil => exact ⟨distinct, unknown⟩
  | cons head rest =>
    dsimp only
    split
    · exact ⟨distinct, unknown⟩
    · next new =>
      simp only [Bool.or_eq_true, decide_eq_true_eq, List.contains_iff_mem, not_or] at new
      refine ⟨List.concat_eq_append ▸ distinct.concat new.2, fun crate member => ?_⟩
      rcases List.mem_append.mp member with old | last
      · exact unknown crate old
      · rw [List.mem_singleton.mp last]
        exact unknown_of_hasCrate (by simpa using new.1.2)

end Registry

namespace Resolver

open Registry (Clean Grows KeepsWrittenNames OnlyMarkedAdded)
open Steps

structure CleanRooted (s : Resolver) : Prop where
  clean : Clean s.registry
  rooted : ∀ loader, s.loader = some loader → loader.Rooted

/-- How resolution changes a resolver, whether it succeeds or fails: known packages keep their
unmarked names, packages come with files, and outcomes of loads are remembered. -/
structure KeepsLookups (s t : Resolver) : Prop where
  grows : Grows s.registry t.registry
  wider : KeepsWrittenNames s.registry t.registry
  noted : s.registry.indexed <:+ t.registry.indexed
  absent : t.registry.indexed = s.registry.indexed →
    ∀ path, s.registry.package? path = none → t.registry.package? path = none
  loads : ∀ crate outcome, s.loads.lookup crate = some outcome → t.loads.lookup crate = some outcome

namespace KeepsLookups

theorem refl (s : Resolver) : KeepsLookups s s :=
  ⟨.refl _, .refl _, List.suffix_refl _, fun _ _ absent => absent, fun _ _ found => found⟩

theorem trans {s t u : Resolver} (first : KeepsLookups s t) (second : KeepsLookups t u) : KeepsLookups s u where
  grows := first.grows.trans second.grows
  wider := first.wider.trans second.wider
  noted := first.noted.trans second.noted
  absent same path absent := by
    have between : t.registry.indexed = s.registry.indexed :=
      (first.noted.eq_of_length_le (same ▸ second.noted.length_le)).symm
    exact second.absent (same.trans between.symm) path (first.absent between path absent)
  loads crate outcome found := second.loads crate outcome (first.loads crate outcome found)

end KeepsLookups

/-- A new entry hides nothing. -/
theorem lookup_cons_kept {crate other : String} {loads : List (String × Option String)}
    {value : Option String} (new : loads.lookup crate = none) (outcome : Option String)
    (found : loads.lookup other = some value) : ((crate, outcome) :: loads).lookup other = some value := by
  have apart : (other == crate) = false := by
    rw [beq_eq_false_iff_ne]
    rintro rfl
    simp [new] at found
  simpa [List.lookup_cons, apart] using found

/-- Loading a crate of which nothing is known leaves all that is known as it is. -/
theorem load_keepsLookups {s : Resolver} (inv : CleanRooted s) {crate : String}
    (unknown : s.registry.CrateUnknown crate) :
    CleanRooted (s.load crate).2 ∧ KeepsLookups s (s.load crate).2 ∧
      ∀ other ≠ crate, s.registry.CrateUnknown other → (s.load crate).2.registry.CrateUnknown other := by
  have stay : CleanRooted s ∧ KeepsLookups s s ∧ ∀ other ≠ crate, s.registry.CrateUnknown other →
      s.registry.CrateUnknown other := ⟨inv, .refl s, fun _ _ unknown => unknown⟩
  unfold load
  split
  · exact stay
  · exact stay
  next new =>
  have loads (outcome : Option String) : ∀ other known, s.loads.lookup other = some known →
      ((crate, outcome) :: s.loads).lookup other = some known :=
    fun _ _ => lookup_cons_kept new outcome
  have noted (outcome : Option String) (asked : List String) :
      CleanRooted { s with loads := (crate, outcome) :: s.loads, asked } ∧
        KeepsLookups s { s with loads := (crate, outcome) :: s.loads, asked } :=
    ⟨⟨inv.clean, inv.rooted⟩, .refl _, .refl _, List.suffix_refl _,
      fun _ _ absent => absent, loads outcome⟩
  split
  · exact ⟨(noted _ _).1, (noted _ _).2, fun _ _ unknown => unknown⟩
  next loader configured =>
  dsimp only
  split
  · next files given =>
    have each := inv.rooted loader configured crate files given
    have clean := inv.clean.indexFiles fun file member => (each file member).1.undashed
    have changed := Registry.OnlyCrateChanged.indexFiles (fun file member => (each file member).2) s.registry
    obtain ⟨keys, indexed, none⟩ := Registry.indexFiles_indexed files s.registry
    refine ⟨⟨clean, inv.rooted⟩, ⟨indexFiles_grows _ _,
      changed.wider unknown, ⟨keys, indexed.symm⟩, fun same path absent => ?_, loads _⟩, fun other apart =>
        changed.unknown apart⟩
    have empty : keys = [] := by simpa using indexed.symm.trans same
    rw [none empty]
    exact absent
  · exact ⟨(noted _ _).1, (noted _ _).2, fun _ _ unknown => unknown⟩

theorem loadUntilFound_keeps {s : Resolver} (inv : CleanRooted s) (segments : List String)
    (context : ScopeId) {crates : List String} (failed : Option Error) (distinct : crates.Nodup)
    (unknown : ∀ crate ∈ crates, s.registry.CrateUnknown crate) :
    CleanRooted (loadUntilFound segments context crates failed s).2 ∧
      KeepsLookups s (loadUntilFound segments context crates failed s).2 := by
  induction crates generalizing failed s with
  | nil => exact ⟨inv, .refl s⟩
  | cons crate rest ih =>
    obtain ⟨new, distinct⟩ := List.nodup_cons.mp distinct
    obtain ⟨inv', kept, others⟩ := load_keepsLookups inv (unknown crate List.mem_cons_self)
    have further (failed : Option Error) := ih inv' failed distinct fun other member =>
      others other (fun same => new (same ▸ member)) (unknown other (List.mem_cons_of_mem _ member))
    simp only [loadUntilFound]
    split
    · exact ⟨(further _).1, kept.trans (further _).2⟩
    · exact ⟨(further _).1, kept.trans (further _).2⟩
    · split
      · exact ⟨inv', kept⟩
      · exact ⟨(further _).1, kept.trans (further _).2⟩

theorem resolvePath_keeps {s : Resolver} (inv : CleanRooted s) (external : Bool) (context : ScopeId)
    (segments : List String) :
    CleanRooted (resolvePath external context segments s).2 ∧
      KeepsLookups s (resolvePath external context segments s).2 := by
  have stay : CleanRooted s ∧ KeepsLookups s s := ⟨inv, .refl s⟩
  simp only [resolvePath]
  split
  · exact stay
  · split
    · exact stay
    · split
      · exact stay
      · split
        · exact stay
        · obtain ⟨distinct, unknown⟩ := s.registry.unknownCrates_spec
            (s.registry.lookupPath segments context).tried
          exact loadUntilFound_keeps inv segments context none distinct unknown

def steady : Contract Error Resolver where
  holds := CleanRooted
  moves := KeepsLookups
  fails _ s t := CleanRooted t ∧ KeepsLookups s t
  refl := .refl
  trans := .trans
  fails_after first failed := ⟨failed.1, first.trans failed.2⟩

theorem steady_lasting : steady.Lasting := fun _ _ _ failed => failed

theorem steady_after {α : Type} {step : Resolving α} {s : Resolver} {post : α → Resolver → Prop}
    (meets : MeetsAt steady step s post) : CleanRooted (after step s).2 ∧ KeepsLookups s (after step s).2 :=
  meets.lasting steady_lasting

theorem steady_law (external : Bool) (context : ScopeId) : Law external context steady where
  path segments s inv := by
    obtain ⟨inv', kept⟩ := resolvePath_keeps inv external context segments
    constructor
    · rintro a t run
      obtain rfl : (resolvePath external context segments s).2 = t := congrArg Prod.snd run
      exact ⟨inv', kept, trivial⟩
    · rintro e t run
      obtain rfl : (resolvePath external context segments s).2 = t := congrArg Prod.snd run
      exact ⟨inv', kept⟩
  made {s id} args inv generic := by
    have added := OnlyMarkedAdded.instantiate inv.clean.orderly generic args
    refine ⟨⟨⟨inv.clean.orderly.instantiate id args, ?_⟩, inv.rooted⟩,
      ⟨Registry.instantiate_grows _ _ _, added.wider, ?_, fun _ => added.absent, fun _ _ found => found⟩⟩
    · dsimp only
      rw [added.scopes]
      exact inv.clean.undashed
    · exact added.indexed ▸ List.suffix_refl _
  generic kept generic := kept.grows.isGeneric generic
  refused inv _ := ⟨inv, .refl _⟩

end Resolver

end ApiSchema
