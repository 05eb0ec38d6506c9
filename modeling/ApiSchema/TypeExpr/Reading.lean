import ApiSchema.Source.File
import ApiSchema.Text.Blank
import ApiSchema.TypeExpr

/-! Type expressions out of source: wrappers of the standard library are recognised by their
names, everything without a name stands for any value. -/

namespace ApiSchema.TypeExpr

open Source

def sequenceNames : List String :=
  ["Vec", "VecDeque", "HashSet", "BTreeSet", "LinkedList", "IndexSet"]

def pointerNames : List String :=
  ["Box", "Rc", "Arc", "Cow", "RefCell", "Cell", "Mutex", "RwLock"]

def mapNames : List String := ["HashMap", "BTreeMap", "IndexMap"]

/-- Packages whose types are recognised by their last name alone. -/
def standardPackages : List String := ["std", "alloc", "core", "indexmap"]

/-- The wrapper a name stands for when it has arguments. -/
def wrapper? (name : String) (args : List TypeExpr) : Option TypeExpr :=
  match args with
  | [] => none
  | first :: rest =>
    if name = "Option" then some (optional first)
    else if sequenceNames.contains name then some (array first)
    else if pointerNames.contains name then some (pointer first)
    else if mapNames.contains name then some (map first (rest.headD interface))
    else none

/-- The type of a path, given its arguments. -/
def ofPath (params segments : List String) (args : List TypeExpr) : TypeExpr :=
  match segments.getLast? with
  | none => interface
  | some name =>
    if segments.length = 1 && args.isEmpty && params.contains name then param name
    else if segments.length = 1 || segments.head?.any standardPackages.contains then
      match Primitive.ofName? name with
      | some p => primitive p
      | none => (wrapper? name args).getD (named segments args)
    else named segments args

/-- A wrapper is one of four, and it takes no more than its first two arguments. -/
theorem wrapper?_cases {motive : TypeExpr → Prop} {name : String} {first : TypeExpr} {rest : List TypeExpr}
    {type : TypeExpr} (optional : motive (optional first)) (array : motive (array first))
    (pointer : motive (pointer first)) (map : motive (map first (rest.headD interface)))
    (wrapped : wrapper? name (first :: rest) = some type) : motive type := by
  simp only [wrapper?] at wrapped
  split at wrapped
  · exact Option.some.inj wrapped ▸ optional
  · split at wrapped
    · exact Option.some.inj wrapped ▸ array
    · split at wrapped
      · exact Option.some.inj wrapped ▸ pointer
      · split at wrapped
        · exact Option.some.inj wrapped ▸ map
        · cases wrapped

/-- What is collected from types part by part: from a wrapper no more than from its arguments. -/
theorem wrapper?_collects {α : Type} {parts : TypeExpr → List α}
    (optional : ∀ inner, parts (optional inner) = parts inner)
    (array : ∀ inner, parts (array inner) = parts inner)
    (pointer : ∀ inner, parts (pointer inner) = parts inner)
    (map : ∀ key value, parts (map key value) = parts key ++ parts value) (any : parts interface = [])
    {name : String} {args : List TypeExpr} {type : TypeExpr} (wrapped : wrapper? name args = some type) :
    parts type ⊆ args.flatMap parts := by
  cases args with
  | nil => cases wrapped
  | cons first rest =>
    have here : parts first ⊆ (first :: rest).flatMap parts := List.subset_append_left _ _
    refine wrapper?_cases (motive := fun type => parts type ⊆ (first :: rest).flatMap parts)
      (optional first ▸ here) (array first ▸ here) (pointer first ▸ here) ?_ wrapped
    rw [map]
    refine List.append_subset.mpr ⟨here, ?_⟩
    cases rest with
    | nil => exact any ▸ List.nil_subset _
    | cons second more => exact List.subset_append_of_subset_right _ (List.subset_append_left _ _)

/-- What a path can be read as. -/
theorem ofPath_cases {motive : TypeExpr → Prop} {params segments : List String} {args : List TypeExpr}
    (plain : motive (named segments args)) (parameter : ∀ name ∈ params, motive (param name))
    (scalar : ∀ name p, Primitive.ofName? name = some p → motive (primitive p)) (any : motive interface)
    (wrapped : ∀ name type, wrapper? name args = some type → motive type) :
    motive (ofPath params segments args) := by
  unfold ofPath
  split
  · exact any
  · next name _ =>
    split
    · next own => exact parameter name (by simpa using (Bool.and_eq_true_iff.mp own).2)
    · split
      · split
        · next p found => exact scalar name p found
        · cases found : wrapper? name args with
          | none => exact plain
          | some type => exact wrapped name type found
      · exact plain

mutual

/-- The type a term denotes; names in `params` are type parameters. -/
def ofTerm (params : List String) : TypeTerm → TypeExpr
  | .path _ segments args => ofPath params segments (ofTerms params args)
  | .reference target => pointer (ofTerm params target)
  | .sequence element => array (ofTerm params element)
  | .paren inner => ofTerm params inner
  | .function => function
  | .other => interface

def ofTerms (params : List String) : List TypeTerm → List TypeExpr
  | [] => []
  | term :: rest => ofTerm params term :: ofTerms params rest

end

/-- A reference as it is parsed: dots may stand for the path separator if that is not used. -/
def normalizeReference (text : String) : String :=
  if Text.contains "::" text then Text.trim text
  else Text.replaceChar '.' [':', ':'] (Text.trim text)

/-- A written type reference. -/
def parse? (text : String) : Option TypeExpr :=
  (parseType? (normalizeReference text)).map (ofTerm [])

end ApiSchema.TypeExpr
