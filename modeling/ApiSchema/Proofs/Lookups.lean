import ApiSchema.Proofs.PackageTables

/-! What a lookup depends on. A lookup goes through the imports of known scopes, and in every package
that it comes to it asks for one name. As long as known packages keep their scopes and their names,
it finds what it found before, having tried the same paths, unless a package that it had looked for in
vain has become known. Names of instances have a mark that no written name has, so instances are
invisible to lookups, as long as no scope has the mark in its names. -/

namespace ApiSchema

/-- A name as it is written in source: without the marks of instances and of parameters. -/
def Text.Unmarked (name : String) : Prop := '-' ∉ name.toList ∧ '<' ∉ name.toList

instance (name : String) : Decidable (Text.Unmarked name) := inferInstanceAs (Decidable (_ ∧ _))

def Text.Undashed (name : String) : Prop := '-' ∉ name.toList

instance (name : String) : Decidable (Text.Undashed name) := inferInstanceAs (Decidable (_ ∉ _))

theorem Text.Unmarked.undashed {name : String} (written : Text.Unmarked name) : Text.Undashed name :=
  written.1

open Text (Unmarked Undashed)

def Scope.Unmarked (scope : Scope) : Prop :=
  (∀ segment ∈ Text.segments scope.package, Text.Unmarked segment) ∧
    ∀ i ∈ scope.imports, ∀ segment ∈ i.target, Text.Unmarked segment

instance (scope : Scope) : Decidable scope.Unmarked := inferInstanceAs (Decidable (_ ∧ _))

def Scope.Undashed (scope : Scope) : Prop :=
  (∀ segment ∈ Text.segments scope.package, Text.Undashed segment) ∧
    ∀ i ∈ scope.imports, ∀ segment ∈ i.target, Text.Undashed segment

theorem Scope.Unmarked.undashed {scope : Scope} (written : scope.Unmarked) : scope.Undashed :=
  ⟨fun segment member => (written.1 segment member).undashed,
    fun i inside segment member => (written.2 i inside segment member).undashed⟩

theorem climb_undashed {home : List String} (clean : ∀ segment ∈ home, Undashed segment)
    (written : List String) (cleanWritten : ∀ segment ∈ written, Undashed segment) :
    ∀ segment ∈ absoluteCandidates.climb home written, Undashed segment := by
  fun_induction absoluteCandidates.climb home written with
  | case1 home rest ih =>
    refine ih ?_ fun segment member => cleanWritten segment (List.mem_cons_of_mem _ member)
    intro segment member
    split at member
    · exact clean segment (List.dropLast_subset _ member)
    · exact clean segment member
  | case2 home rest _ =>
    intro segment member
    rcases List.mem_append.mp member with here | there
    · exact clean segment here
    · exact cleanWritten segment there

/-- Paths without the mark of instances stand for paths without it. -/
theorem absoluteCandidates_undashed {written : List String} {package : String}
    (cleanWritten : ∀ segment ∈ written, Undashed segment)
    (clean : ∀ segment ∈ Text.segments package, Undashed segment) {path : List String}
    (member : path ∈ absoluteCandidates written package) : ∀ segment ∈ path, Undashed segment := by
  simp only [absoluteCandidates] at member
  split at member
  · cases member
  · next rest =>
    rw [List.mem_singleton.mp member]
    intro segment inside
    rcases List.mem_append.mp inside with here | there
    · exact clean segment (List.mem_of_mem_take here)
    · exact cleanWritten segment (List.mem_cons_of_mem _ there)
  · next rest =>
    rw [List.mem_singleton.mp member]
    exact climb_undashed clean rest fun segment inside =>
      cleanWritten segment (List.mem_cons_of_mem _ inside)
  · rw [List.mem_singleton.mp member]
    exact climb_undashed clean _ cleanWritten
  · rcases List.mem_cons.mp member with rfl | member
    · intro segment inside
      rcases List.mem_append.mp inside with here | there
      · exact clean segment here
      · exact cleanWritten segment there
    · rw [List.mem_singleton.mp member]
      exact cleanWritten

namespace Search

theorem tried_orElse (first : Search) (next : Unit → Search) :
    ∀ path ∈ first.tried, path ∈ (first.orElse next).tried := by
  intro path member
  unfold orElse
  split
  · exact member
  · exact List.mem_append_left _ member

/-- The lookups of a list may be replaced one by one, as long as all that they try is fine. -/
theorem firstOf_same {α : Type} {look look' : α → Search} {fine : List String → Prop} (items : List α)
    (each : ∀ a ∈ items, (∀ path ∈ (look a).tried, fine path) → look' a = look a)
    (all : ∀ path ∈ (firstOf look items).tried, fine path) : firstOf look' items = firstOf look items := by
  induction items with
  | nil => rfl
  | cons a rest ih =>
    have same := each a List.mem_cons_self fun path member => all path (tried_orElse _ _ path member)
    simp only [firstOf] at all ⊢
    rw [same]
    cases found : (look a).found with
    | some x => simp only [orElse, found]
    | none =>
      simp only [orElse, found, List.mem_append] at all ⊢
      rw [ih (fun b member => each b (List.mem_cons_of_mem _ member)) fun path member =>
        all path (.inr member)]

end Search

namespace Registry

/-- The global shortcut finds nothing that is not in the package itself. -/
theorem globalShortcut_or_lookup {r : Registry} (orderly : Orderly r) {name : String}
    (plain : '<' ∉ name.toList) (scope : Scope) :
    (r.globalShortcut? name scope).or (r.lookup? scope.package name) = r.lookup? scope.package name := by
  cases shortcut : r.globalShortcut? name scope with
  | none => rfl
  | some id =>
    obtain ⟨found, home⟩ := Option.filter_eq_some_iff.mp shortcut
    have home : (r.get id).package = scope.package := by simpa using home
    obtain ⟨d, own, key⟩ := ((orderly.keys _).held id found).1
    have same : r.get id = d := by simp [get, own]
    have inPackage : d.package = scope.package := same ▸ home
    have named : d.name = name := by
      rcases key with whole | ⟨generic, parametrized⟩
      · rw [Declaration.fullName, inPackage] at whole
        have texts := congrArg String.toList whole
        simp only [String.toList_append, List.append_cancel_left_eq] at texts
        exact String.toList_inj.mp texts.symm
      · -- the name would end in the parameters
        rw [Declaration.parametrizedName, if_pos generic, Declaration.fullName, inPackage] at parametrized
        have texts := congrArg String.toList parametrized
        simp only [String.toList_append, List.append_assoc, List.append_cancel_left_eq] at texts
        exact absurd (by simp [texts]) plain
    have filed := (orderly.filed scope.package name id).mpr ⟨d, own, inPackage, named⟩
    simp [filed]

/-- The package in which the last name of a path is looked up. -/
def homeOf (path : List String) : String := Text.joinSegments path.dropLast

def isWellKnown (path : List String) : Bool :=
  match path.getLast?, path.dropLast with
  | some name, crate :: _ => (Resolution.wellKnown? crate name).isSome
  | _, _ => false

def Missing (r : Registry) (path : List String) : Prop :=
  isWellKnown path = false ∧ r.package? (homeOf path) = none

instance (r : Registry) (path : List String) : Decidable (r.Missing path) :=
  inferInstanceAs (Decidable (_ ∧ _))

/-- Known packages have kept their scopes and the names without the mark of instances. -/
structure KeepsWrittenNames (r r' : Registry) : Prop where
  scopes : r.scopes <+: r'.scopes
  packages : ∀ path p, r.package? path = some p → ∃ p', r'.package? path = some p' ∧
    p'.scopes = p.scopes ∧ ∀ name, Undashed name → p'.types.get? name = p.types.get? name

namespace KeepsWrittenNames

variable {r r' r'' : Registry}

theorem refl (r : Registry) : KeepsWrittenNames r r :=
  ⟨List.prefix_refl _, fun _ p found => ⟨p, found, rfl, fun _ _ => rfl⟩⟩

theorem trans (first : KeepsWrittenNames r r') (second : KeepsWrittenNames r' r'') : KeepsWrittenNames r r'' where
  scopes := first.scopes.trans second.scopes
  packages path p found := by
    obtain ⟨p', found', scopes', types'⟩ := first.packages path p found
    obtain ⟨p'', found'', scopes'', types''⟩ := second.packages path p' found'
    exact ⟨p'', found'', scopes''.trans scopes', fun name clean =>
      (types'' name clean).trans (types' name clean)⟩

theorem scope? (wider : KeepsWrittenNames r r') {id : ScopeId} (inside : id < r.scopes.length) :
    r'.scope? id = r.scope? id := by
  obtain ⟨more, same⟩ := wider.scopes
  rw [Registry.scope?, Registry.scope?, ← same, List.getElem?_append_left inside]

theorem lookup? (wider : KeepsWrittenNames r r') {path name : String} {p : Package}
    (known : r.package? path = some p) (clean : Undashed name) :
    r'.lookup? path name = r.lookup? path name := by
  obtain ⟨p', found, _, types⟩ := wider.packages path p known
  simp [Registry.lookup?, known, found, types name clean]

/-- The scopes of a known package are the same ones. -/
theorem scopesOf (wider : KeepsWrittenNames r r') (orderly : Orderly r) {path : String} {p : Package}
    (known : r.package? path = some p) :
    p.scopes.filterMap r'.scope? = p.scopes.filterMap r.scope? := by
  refine List.filterMap_congr fun id member => ?_
  exact wider.scope? (orderly.listed path p id known member)

end KeepsWrittenNames

section Same

variable {r r' : Registry} (orderly : Orderly r) (clean : ∀ scope ∈ r.scopes, scope.Undashed)
  (wider : KeepsWrittenNames r r')

def Unchanged (r r' : Registry) (path : List String) : Prop :=
  r.Missing path → r'.package? (homeOf path) = none

instance (r r' : Registry) (path : List String) : Decidable (Unchanged r r' path) :=
  inferInstanceAs (Decidable (_ → _))

include orderly wider

theorem resolveAbsolute_same {via via' : String → Scope → Search}
    (each : ∀ name scope, Undashed name → scope ∈ r.scopes →
      (∀ path ∈ (via name scope).tried, Unchanged r r' path) → via' name scope = via name scope)
    {path : List String} (written : ∀ segment ∈ path, Undashed segment) (here : Unchanged r r' path)
    (all : ∀ other ∈ (r.resolveAbsolute via path).tried, Unchanged r r' other) :
    r'.resolveAbsolute via' path = r.resolveAbsolute via path := by
  unfold resolveAbsolute at all ⊢
  cases last : path.getLast? with
  | none => rfl
  | some name =>
    have plain : Undashed name := written name (List.mem_of_getLast? last)
    cases home : path.dropLast with
    | nil => rfl
    | cons crate rest =>
      simp only [last, home] at all ⊢
      cases known : Resolution.wellKnown? crate name with
      | some found => rfl
      | none =>
        simp only [known] at all ⊢
        have package : homeOf path = Text.joinSegments (crate :: rest) := by rw [homeOf, home]
        cases found : r.package? (Text.joinSegments (crate :: rest)) with
        | none =>
          have missing : r.Missing path := ⟨by simp [isWellKnown, last, home, known], package ▸ found⟩
          have absent := here missing
          rw [package] at absent
          rw [absent]
        | some p =>
          obtain ⟨p', found', scopes, types⟩ := wider.packages _ p found
          simp only [found, found', types name plain] at all ⊢
          cases type : p.types.get? name with
          | some id => rfl
          | none =>
            simp only [type] at all ⊢
            rw [scopes, wider.scopesOf orderly found]
            refine Search.firstOf_same _ (fun scope member tried => ?_) all
            obtain ⟨id, _, listed⟩ := List.mem_filterMap.mp member
            exact each name scope plain (List.mem_of_getElem? listed) tried

omit orderly wider in
theorem tryCandidates_same {absolute absolute' : List String → Search} {written : List String}
    {package : String}
    (each : ∀ path, (∀ segment ∈ path, Undashed segment) → Unchanged r r' path →
      (∀ other ∈ (absolute path).tried, Unchanged r r' other) → absolute' path = absolute path)
    (cleanWritten : ∀ segment ∈ written, Undashed segment)
    (cleanPackage : ∀ segment ∈ Text.segments package, Undashed segment)
    (all : ∀ path ∈ (tryCandidates absolute written package).tried, Unchanged r r' path) :
    tryCandidates absolute' written package = tryCandidates absolute written package := by
  unfold tryCandidates at all ⊢
  refine Search.firstOf_same _ (fun path member tried => ?_) all
  have same := each path (absoluteCandidates_undashed cleanWritten cleanPackage member)
    (tried path List.mem_cons_self) fun other inside => tried other (List.mem_cons_of_mem _ inside)
  rw [same]

omit orderly wider in
theorem importTargets_undashed {name : String} {scope : Scope} (plain : Undashed name)
    (cleanScope : scope.Undashed) {target : List String} (member : target ∈ importTargets name scope) :
    ∀ segment ∈ target, Undashed segment := by
  rcases List.mem_append.mp member with named | glob
  · obtain ⟨i, inside, rfl⟩ := List.mem_map.mp named
    exact cleanScope.2 i (List.mem_of_mem_filter inside)
  · obtain ⟨i, inside, rfl⟩ := List.mem_map.mp glob
    intro segment member
    rcases List.mem_append.mp member with here | there
    · exact cleanScope.2 i (List.mem_of_mem_filter inside) segment here
    · rw [List.mem_singleton.mp there]
      exact plain

include clean

theorem viaImports_same (levels : Nat) {name : String} {scope : Scope} (plain : Undashed name)
    (member : scope ∈ r.scopes)
    (all : ∀ path ∈ (r.viaImports levels name scope).tried, Unchanged r r' path) :
    r'.viaImports levels name scope = r.viaImports levels name scope := by
  induction levels generalizing name scope with
  | zero => rfl
  | succ levels ih =>
    rw [viaImports] at all ⊢
    refine Search.firstOf_same _ (fun target inside tried => ?_) all
    refine tryCandidates_same (fun path written here tried => ?_)
      (importTargets_undashed plain (clean scope member) inside) (clean scope member).1 tried
    exact resolveAbsolute_same orderly wider (fun name scope plain member tried =>
      ih plain member tried) written here tried

omit orderly wider clean in
theorem qualifiedTargets_undashed {written : List String} {scope : Scope}
    (cleanWritten : ∀ segment ∈ written, Undashed segment) (cleanScope : scope.Undashed)
    {target : List String} (member : target ∈ qualifiedTargets written scope) :
    ∀ segment ∈ target, Undashed segment := by
  have appended {i : Import} (inside : i ∈ scope.imports) {rest : List String}
      (cleanRest : ∀ segment ∈ rest, Undashed segment) : ∀ segment ∈ i.target ++ rest, Undashed segment := by
    intro segment member
    rcases List.mem_append.mp member with here | there
    · exact cleanScope.2 i inside segment here
    · exact cleanRest segment there
  cases written with
  | nil => cases member
  | cons head rest =>
    simp only [qualifiedTargets] at member
    split at member
    · rw [List.mem_singleton.mp member]
      exact cleanWritten
    · rcases List.mem_append.mp member with imported | itself
      · rcases List.mem_append.mp imported with named | glob
        · obtain ⟨i, inside, rfl⟩ := List.mem_map.mp named
          have inside : i ∈ scope.imports := by
            rcases List.mem_append.mp inside with aliased | plain
            · exact List.mem_of_mem_filter aliased
            · exact List.mem_of_mem_filter plain
          exact appended inside fun segment member => cleanWritten segment (List.mem_cons_of_mem _ member)
        · obtain ⟨i, inside, rfl⟩ := List.mem_map.mp glob
          exact appended (List.mem_of_mem_filter inside) cleanWritten
      · rw [List.mem_singleton.mp itself]
        exact cleanWritten

/-- A lookup finds what it found, having tried what it tried, if nothing that it came to has changed. -/
theorem lookupPath_same (orderly' : Orderly r') {segments : List String} {context : ScopeId}
    (written : ∀ segment ∈ segments, Unmarked segment) (known : context < r.scopes.length)
    (all : ∀ path ∈ (r.lookupPath segments context).tried, Unchanged r r' path) :
    r'.lookupPath segments context = r.lookupPath segments context := by
  have undashed : ∀ segment ∈ segments, Undashed segment := fun segment member =>
    (written segment member).undashed
  obtain ⟨scope, found⟩ : ∃ scope, r.scope? context = some scope := ⟨_, List.getElem?_eq_getElem known⟩
  have member : scope ∈ r.scopes := List.mem_of_getElem? found
  have found' : r'.scope? context = some scope := (wider.scope? known).trans found
  simp only [lookupPath, found, found'] at all ⊢
  match segments with
  | [] => rfl
  | [name] =>
    have plain : Undashed name := undashed name List.mem_cons_self
    have here : Unmarked name := written name List.mem_cons_self
    obtain ⟨p, home⟩ := orderly.housed scope member
    have own := (globalShortcut_or_lookup orderly' here.2 scope).trans (wider.lookup? home plain)
    simp only [resolveUnqualified, globalShortcut_or_lookup orderly here.2, own] at all ⊢
    cases type : r.lookup? scope.package name with
    | some id => rfl
    | none =>
      simp only [type] at all ⊢
      exact viaImports_same orderly clean wider _ plain member all
  | head :: second :: rest =>
    simp only [resolveQualified] at all ⊢
    refine Search.firstOf_same _ (fun target inside tried => ?_) all
    refine tryCandidates_same (fun path written here tried => ?_)
      (qualifiedTargets_undashed undashed (clean scope member) inside) (clean scope member).1 tried
    exact resolveAbsolute_same orderly wider (fun name scope plain member tried =>
      viaImports_same orderly clean wider _ plain member tried) written here tried

end Same

section Suffix

variable {r r' : Registry}

def matching (qualifier : List String) (name : String) (p : Package) : Option Resolution :=
  if qualifier.isSuffixOf (Text.segments p.path) then (p.types.get? name).map .declaration else none

theorem KeepsWrittenNames.matching_eq (wider : KeepsWrittenNames r r') (orderly : Orderly r) (orderly' : Orderly r')
    (qualifier : List String) {path name : String} {p : Package} (plain : Undashed name)
    (known : r.package? path = some p) :
    ∃ p', r'.package? path = some p' ∧ matching qualifier name p' = matching qualifier name p := by
  obtain ⟨p', found, _, types⟩ := wider.packages path p known
  refine ⟨p', found, ?_⟩
  simp only [matching, types name plain, orderly.labelled path p known, orderly'.labelled path p' found]

/-- A match by suffix stays, as long as no package that has become known matches. -/
theorem suffixMatch_same (wider : KeepsWrittenNames r r') (orderly : Orderly r) (orderly' : Orderly r')
    {qualifier : List String} {name : String} (plain : Undashed name)
    (unmatched : ∀ path p, r.package? path = none → r'.package? path = some p →
      matching qualifier name p = none) :
    r'.suffixMatch? qualifier name = r.suffixMatch? qualifier name := by
  have known {path : String} {p' : Package} {x : Resolution} (found : r'.package? path = some p')
      (answer : matching qualifier name p' = some x) :
      ∃ p, r.package? path = some p ∧ matching qualifier name p = some x := by
    cases before : r.package? path with
    | none =>
      rw [unmatched path p' before found] at answer
      cases answer
    | some p =>
      obtain ⟨p'', found', same⟩ := wider.matching_eq orderly orderly' qualifier plain before
      obtain rfl : p' = p'' := Option.some.inj (found.symm.trans found')
      exact ⟨p, rfl, same ▸ answer⟩
  refine Option.ext fun x => ?_
  change List.findSome? (matching qualifier name) _ = _ ↔ List.findSome? (matching qualifier name) _ = _
  rw [orderly.sorted.findSome?_iff, orderly'.sorted.findSome?_iff]
  constructor
  · rintro ⟨path, p', found, answer, least⟩
    obtain ⟨p, before, answer'⟩ := known found answer
    refine ⟨path, p, before, answer', fun other q earlier there => ?_⟩
    obtain ⟨q', found', same⟩ := wider.matching_eq orderly orderly' qualifier plain there
    rw [← same]
    exact least other q' earlier found'
  · rintro ⟨path, p, before, answer, least⟩
    obtain ⟨p', found, same⟩ := wider.matching_eq orderly orderly' qualifier plain before
    refine ⟨path, p', found, same.trans answer, fun other q' earlier there => ?_⟩
    cases answer' : matching qualifier name q' with
    | none => rfl
    | some y =>
      obtain ⟨q, before', contrary⟩ := known there answer'
      rw [least other q earlier before'] at contrary
      cases contrary

end Suffix

section Unqualified

/-- The lookup of a single name by the package's own table and the imports alone. -/
def resolveLocally (r : Registry) (name : String) (scope : Scope) : Search :=
  match r.lookup? scope.package name with
  | some id => ⟨some (.declaration id), []⟩
  | none => r.viaImports reexportLevels name scope

/-- Whatever has come to a registry, the map of full names makes no difference to the lookup of a single
name, unless that has the mark of parameters, as no identifier has. A declaration of the scope's package
with this name is found, and nothing else is tried; if there is none, imports decide. -/
theorem resolveUnqualified_local (calls : List Call) {name : String} (plain : '<' ∉ name.toList)
    (scope : Scope) :
    let r := run calls empty
    r.resolveUnqualified name scope = r.resolveLocally name scope ∧
      (∀ id d, r.get? id = some d → d.package = scope.package → d.name = name →
        r.resolveUnqualified name scope = ⟨some (.declaration id), []⟩) ∧
      ((∀ id d, r.get? id = some d → d.package = scope.package → d.name ≠ name) →
        r.resolveUnqualified name scope = r.viaImports reexportLevels name scope) := by
  intro r
  have orderly : Orderly r := orderly_run calls
  have same : r.resolveUnqualified name scope = r.resolveLocally name scope := by
    rw [resolveUnqualified, globalShortcut_or_lookup orderly plain]
    rfl
  refine ⟨same, fun id d found home named => ?_, fun none => ?_⟩
  · have own := (orderly.filed scope.package name id).mpr ⟨d, found, home, named⟩
    rw [same, resolveLocally, own]
  · cases found : r.lookup? scope.package name with
    | none => rw [same, resolveLocally, found]
    | some id =>
      obtain ⟨d, own, home, named⟩ := (orderly.filed scope.package name id).mp found
      exact absurd named (none id d own home)

/-- Two packages of one display name each have a post, and the first imports all names of the second: its
own post is found though the full name is ambiguous, and a page of the second one through the import. -/
theorem resolveUnqualified_local_namesakes :
    let r := run [
      .index "crate::web" { path := "src/web.rs", module := "crate::web", items :=
        [.imports (.path "ext" (.path "web" .glob)), .struct ⟨[], "Post", []⟩ .unit] },
      .index "ext::web" { path := "ext/src/web.rs", module := "ext::web", items :=
        [.struct ⟨[], "Post", []⟩ .unit, .struct ⟨[], "Page", []⟩ .unit] }] empty
    let scope := r.scopes.headD default
    ('<' ∉ "Post".toList ∧ scope.package = "crate::web" ∧ r.isAmbiguous "web.Post" = true) ∧
      r.resolveUnqualified "Post" scope = ⟨some (.declaration 0), []⟩ ∧
      r.resolveUnqualified "Page" scope = r.viaImports reexportLevels "Page" scope ∧
      (r.viaImports reexportLevels "Page" scope).found = some (.declaration 2) := by
  intro r scope
  have home : scope.package = "crate::web" := by decide +kernel
  have post : '<' ∉ "Post".toList := by decide +kernel
  have page : '<' ∉ "Page".toList := by decide +kernel
  obtain ⟨d, found, own, named⟩ : ∃ d, r.get? 0 = some d ∧ d.package = "crate::web" ∧ d.name = "Post" :=
    ⟨_, rfl, by decide +kernel, by decide +kernel⟩
  have absent : ∀ d ∈ r.decls, d.package = "crate::web" → d.name ≠ "Page" := by decide +kernel
  refine ⟨⟨post, home, by decide +kernel⟩, ?_, ?_, by decide +kernel⟩
  · exact (resolveUnqualified_local _ post scope).2.1 0 d found (own.trans home.symm) named
  · exact (resolveUnqualified_local _ page scope).2.2 fun id d found inside =>
      absent d (List.mem_of_getElem? found) (inside.trans home)

end Unqualified

section Registered

variable {r : Registry}

def Registers (r : Registry) (search : Search) : Prop :=
  ∀ id, search.found = some (.declaration id) → id < r.size

theorem registers_nothing : Registers r .nothing := by
  intro id found
  cases found

theorem registers_firstOf {α : Type} {look : α → Search} {items : List α}
    (each : ∀ a ∈ items, Registers r (look a)) : Registers r (Search.firstOf look items) := by
  induction items with
  | nil => exact registers_nothing
  | cons a rest ih =>
    simp only [Search.firstOf, Search.orElse]
    split
    · exact each a List.mem_cons_self
    · exact ih fun b member => each b (List.mem_cons_of_mem _ member)

theorem registers_tryCandidates {absolute : List String → Search} (written : List String)
    (package : String) (each : ∀ path, Registers r (absolute path)) :
    Registers r (tryCandidates absolute written package) :=
  registers_firstOf fun path _ => each path

/-- Types of libraries are not declarations. -/
theorem wellKnown?_ne_declaration (crate name : String) (id : DeclId) :
    Resolution.wellKnown? crate name ≠ some (.declaration id) := by
  intro found
  obtain ⟨entry, atName, same⟩ := Option.map_eq_some_iff.mp found
  have all : ∀ entry ∈ Resolution.wellKnown, entry.2.2 ≠ .declaration id := by
    simp [Resolution.wellKnown]
  exact all entry (List.mem_of_find?_eq_some atName) same

theorem registers_resolveAbsolute (orderly : Orderly r) {via : String → Scope → Search}
    (each : ∀ name scope, Registers r (via name scope)) (path : List String) :
    Registers r (r.resolveAbsolute via path) := by
  unfold resolveAbsolute
  split
  · split
    · next known => exact fun id found => absurd (known.trans found) (wellKnown?_ne_declaration _ _ id)
    · split
      · exact registers_nothing
      · next package home =>
        split
        · next id type =>
          rintro _ ⟨⟩
          exact orderly.type_registered home type
        · exact registers_firstOf fun scope _ => each _ scope
  · exact registers_nothing

theorem registers_viaImports (orderly : Orderly r) (levels : Nat) (name : String) (scope : Scope) :
    Registers r (r.viaImports levels name scope) := by
  induction levels generalizing name scope with
  | zero => exact registers_nothing
  | succ levels ih =>
    rw [viaImports]
    refine registers_firstOf fun target _ => registers_tryCandidates _ _ ?_
    exact registers_resolveAbsolute orderly ih

/-- A lookup finds declarations of the registry only. -/
theorem registers_lookupPath (orderly : Orderly r) (segments : List String) (context : ScopeId) :
    Registers r (r.lookupPath segments context) := by
  unfold lookupPath
  split
  · exact registers_nothing
  next scope _ =>
  split
  · exact registers_nothing
  · next name =>
    unfold resolveUnqualified
    split
    · next id own =>
      rintro _ ⟨⟩
      cases shortcut : r.globalShortcut? name scope with
      | none => exact orderly.registered (by simpa [shortcut] using own)
      | some other =>
        obtain rfl : other = id := by simpa [shortcut] using own
        obtain ⟨found, _⟩ := Option.filter_eq_some_iff.mp shortcut
        exact ((orderly.keys _).held other found).1.registered
    · exact registers_viaImports orderly _ _ _
  · refine registers_firstOf fun target _ => registers_tryCandidates _ _ ?_
    exact registers_resolveAbsolute orderly (registers_viaImports orderly _)

theorem suffixMatch_registered (orderly : Orderly r) {qualifier : List String} {name : String}
    {id : DeclId} (found : r.suffixMatch? qualifier name = some (.declaration id)) : id < r.size := by
  obtain ⟨path, p, home, answer, _⟩ := orderly.sorted.findSome?_iff.mp found
  split at answer
  · obtain ⟨other, type, same⟩ := Option.map_eq_some_iff.mp answer
    cases same
    exact orderly.type_registered home type
  · cases answer

end Registered

end Registry

end ApiSchema
