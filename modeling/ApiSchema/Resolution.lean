import ApiSchema.Instance

/-! Resolution of type references. A path is looked up relative to the scope that mentions it,
through the scope's imports and re-exports of other scopes; packages that are not known yet may be
loaded, each at most once. -/

namespace ApiSchema

/-- What a reference denotes. -/
inductive Resolution where
  | primitive (type : Primitive)
  /-- A value of any type. -/
  | any
  | declaration (id : DeclId)
deriving DecidableEq, Repr

namespace Resolution

/-- Library types that are scalars, by package and name. -/
def wellKnown : List (String × String × Resolution) :=
  [("chrono", "DateTime", primitive .dateTime),
    ("chrono", "NaiveDateTime", primitive .dateTime),
    ("chrono", "NaiveDate", primitive .date),
    ("time", "OffsetDateTime", primitive .dateTime),
    ("time", "Date", primitive .date),
    ("uuid", "Uuid", primitive .uuid),
    ("url", "Url", primitive .url),
    ("rust_decimal", "Decimal", primitive .decimal),
    ("serde_json", "Value", any)]

def wellKnown? (crate name : String) : Option Resolution :=
  (wellKnown.find? fun entry => entry.1 = crate && entry.2.1 = name).map fun entry => entry.2.2

def toExpr : Resolution → TypeExpr
  | primitive p => .primitive p
  | any => .interface
  | declaration id => .resolved id

end Resolution

/-- The absolute paths a path written inside `package` may denote, nearest first. -/
def absoluteCandidates (written : List String) (package : String) : List (List String) :=
  let home := Text.segments package
  match written with
  | [] => []
  | "crate" :: rest => [home.take 1 ++ rest]
  | "self" :: rest => [climb home rest]
  | "super" :: _ => [climb home written]
  | _ => [home ++ written, written]
where
  /-- Go up one package for each leading `super`, but not above the first. -/
  climb (home : List String) : List String → List String
    | "super" :: rest => climb (if home.length > 1 then home.dropLast else home) rest
    | rest => home ++ rest

/-- A lookup: what it found, and the absolute paths it tried on the way, in order. -/
structure Search where
  found : Option Resolution
  tried : List (List String)

namespace Search

def nothing : Search := ⟨none, []⟩

/-- Go on with another lookup if this one found nothing. -/
def orElse (first : Search) (next : Unit → Search) : Search :=
  match first.found with
  | some _ => first
  | none =>
    let second := next ()
    ⟨second.found, first.tried ++ second.tried⟩

/-- The first of several lookups that finds something. -/
def firstOf (look : α → Search) : List α → Search
  | [] => nothing
  | a :: rest => (look a).orElse fun _ => firstOf look rest

end Search

namespace Registry

/-- Look up the paths that `written` may denote inside `package`. -/
def tryCandidates (absolute : List String → Search) (written : List String) (package : String) :
    Search :=
  Search.firstOf (fun candidate =>
    let result := absolute candidate
    { result with tried := candidate :: result.tried }) (absoluteCandidates written package)

/-- Look up an absolute path: a declaration of the package it names, or what some scope of that
package brings in from elsewhere. -/
def resolveAbsolute (r : Registry) (viaImports : String → Scope → Search) (path : List String) :
    Search :=
  match path.getLast?, path.dropLast with
  | some name, crate :: rest =>
    match Resolution.wellKnown? crate name with
    | some known => ⟨some known, []⟩
    | none =>
      match r.package? (Text.joinSegments (crate :: rest)) with
      | none => .nothing
      | some package =>
        match package.types.get? name with
        | some id => ⟨some (.declaration id), []⟩
        | none => Search.firstOf (viaImports name) (package.scopes.filterMap r.scope?)
  | _, _ => .nothing

/-- Imports that may bring in a name, with the paths it would stand for: those bound to the name
first, then the ones of all names. -/
def importTargets (name : String) (scope : Scope) : List (List String) :=
  (scope.imports.filter fun i => !i.glob && i.localName = name).map Import.target ++
    (scope.imports.filter Import.glob).map fun i => i.target ++ [name]

/-- Look up a name through the imports of a scope, at most `levels` re-exports deep. -/
def viaImports (r : Registry) : (levels : Nat) → String → Scope → Search
  | 0, _, _ => .nothing
  | levels + 1, name, scope =>
    Search.firstOf (fun target =>
      tryCandidates (r.resolveAbsolute (r.viaImports levels)) target scope.package)
      (importTargets name scope)

/-- Levels of re-exports that are followed. -/
def reexportLevels : Nat := 9

/-- The declaration of a name in the scope's own package, found by its full name. -/
def globalShortcut? (r : Registry) (name : String) (scope : Scope) : Option DeclId :=
  (r.lookupGlobal? (displayName scope.package ++ "." ++ name)).filter fun id =>
    (r.get id).package = scope.package

def resolveUnqualified (r : Registry) (name : String) (scope : Scope) : Search :=
  match (r.globalShortcut? name scope).or (r.lookup? scope.package name) with
  | some id => ⟨some (.declaration id), []⟩
  | none => r.viaImports reexportLevels name scope

/-- Paths a qualified path may stand for: its head an import's name, an alias before a plain name,
then a name from an import of all names, then the path itself. -/
def qualifiedTargets (written : List String) (scope : Scope) : List (List String) :=
  match written with
  | [] => []
  | head :: rest =>
    if head = "crate" || head = "self" || head = "super" then [written]
    else
      let named := scope.imports.filter fun i => i.aliased && i.localName = head
      let plain := scope.imports.filter fun i => !i.aliased && !i.glob && i.localName = head
      (named ++ plain).map (fun i => i.target ++ rest) ++
        (scope.imports.filter Import.glob).map (fun i => i.target ++ written) ++ [written]

def resolveQualified (r : Registry) (written : List String) (scope : Scope) : Search :=
  Search.firstOf (fun target =>
    tryCandidates (r.resolveAbsolute (r.viaImports (reexportLevels - 1))) target scope.package)
    (qualifiedTargets written scope)

/-- Look up a path in a scope. -/
def lookupPath (r : Registry) (segments : List String) (context : ScopeId) : Search :=
  match r.scope? context with
  | none => .nothing
  | some scope =>
    match segments with
    | [] => .nothing
    | [name] => r.resolveUnqualified name scope
    | _ => r.resolveQualified segments scope

/-- A declaration in the first package whose path ends in the qualifier. -/
def suffixMatch? (r : Registry) (qualifier : List String) (name : String) : Option Resolution :=
  r.packages.values.findSome? fun package =>
    if qualifier.isSuffixOf (Text.segments package.path) then
      (package.types.get? name).map .declaration
    else none

/-- Crates named by tried paths that are not known yet, in the order they were tried. -/
def unknownCrates (r : Registry) (tried : List (List String)) : List String :=
  tried.foldl (fun crates candidate =>
    match candidate with
    | [] => crates
    | head :: _ =>
      if head = "crate" || r.hasCrate head || crates.contains head then crates
      else crates ++ [head]) []

end Registry

/-- Where the files of a crate come from. -/
abbrev Loader := String → Except String (List SourceFile)

/-- A registry that can grow by loading crates. -/
structure Resolver where
  registry : Registry := {}
  loader : Option Loader := none
  /-- Outcome of every load so far: nothing, or what went wrong. -/
  loads : List (String × Option String) := []
  /-- Crates the loader was asked for, in order. -/
  asked : List String := []

namespace Resolver

/-- Load a crate once. The answer is an error, or whether its files were indexed just now. -/
def load (s : Resolver) (crate : String) : Except String Bool × Resolver :=
  match s.loads.lookup crate with
  | some none => (.ok false, s)
  | some (some message) => (.error message, s)
  | none =>
    match s.loader with
    | none =>
      let message := "external package loading is not configured"
      (.error message, { s with loads := (crate, some message) :: s.loads })
    | some loader =>
      let s := { s with asked := s.asked ++ [crate] }
      match loader crate with
      | .ok files =>
        let registry := files.foldl (fun r file => (r.indexFile file).2) s.registry
        (.ok true, { s with registry, loads := (crate, none) :: s.loads })
      | .error message => (.error message, { s with loads := (crate, some message) :: s.loads })

/-- Load crates one after another until the path is found; the last failure to load, if any, is
the error. -/
def loadUntilFound (segments : List String) (context : ScopeId) :
    List String → Option Error → Resolver → Except Error Resolution × Resolver
  | [], failed, s =>
    (.error (failed.getD (.unresolvable (Text.joinSegments segments))), s)
  | crate :: rest, failed, s =>
    let (outcome, s) := s.load crate
    match outcome with
    | .error message => loadUntilFound segments context rest (some (.externalLoad crate message)) s
    | .ok false => loadUntilFound segments context rest failed s
    | .ok true =>
      match (s.registry.lookupPath segments context).found with
      | some found => (.ok found, s)
      | none => loadUntilFound segments context rest failed s

/-- Resolve a path without arguments. -/
def resolvePath (external : Bool) (context : ScopeId) (segments : List String) (s : Resolver) :
    Except Error Resolution × Resolver :=
  let builtin := match segments with
    | [name] => Primitive.ofName? name
    | _ => none
  match builtin with
  | some p => (.ok (.primitive p), s)
  | none =>
    let search := s.registry.lookupPath segments context
    match search.found with
    | some found => (.ok found, s)
    | none =>
      if !external then (.error (.unresolvable (Text.joinSegments segments)), s)
      else
        let qualifier := segments.dropLast
        let bySuffix := if qualifier.isEmpty then none
          else s.registry.suffixMatch? qualifier (segments.getLastD "")
        match bySuffix with
        | some found => (.ok found, s)
        | none => loadUntilFound segments context (s.registry.unknownCrates search.tried) none s

end Resolver

/-- Steps that read and change a resolver and may fail. What they changed stays when they fail. -/
abbrev Resolving := ExceptT Error (StateM Resolver)

namespace Resolver

/-- Resolve a path with arguments, which are bound only if the path denotes a generic. -/
def resolveApplied (external : Bool) (context : ScopeId) (segments : List String)
    (applied : Bool) (bound : Resolving (List TypeExpr)) : Resolving Resolution := do
  let resolution ← ExceptT.mk (resolvePath external context segments)
  match resolution with
  | .declaration id =>
    if applied && ((← get).registry.get id).isGeneric then
      let args ← bound
      let s ← get
      let (outcome, registry) := s.registry.instantiate id args
      set { s with registry }
      match outcome with
      | .ok id => return .declaration id
      | .error e => throw e
    else return resolution
  | _ => return resolution

mutual

/-- Replace every named type in an argument by what it denotes; wrappers are dropped, arrays and
maps are kept. -/
def bindArgument (external : Bool) (context : ScopeId) : TypeExpr → Resolving TypeExpr
  | .named segments args => do
    let resolution ← resolveApplied external context segments (!args.isEmpty)
      (bindArguments external context args)
    return resolution.toExpr
  | .array inner => do return .array (← bindArgument external context inner)
  | .pointer inner => bindArgument external context inner
  | .optional inner => bindArgument external context inner
  | .map key value => do
    let key ← bindArgument external context key
    let value ← bindArgument external context value
    return .map key value
  | other => return other

def bindArguments (external : Bool) (context : ScopeId) :
    List TypeExpr → Resolving (List TypeExpr)
  | [] => return []
  | arg :: rest => do
    let first ← bindArgument external context arg
    let others ← bindArguments external context rest
    return first :: others

end

/-- Resolve a type that is a name once its wrappers are taken off. -/
def resolveExpr (external : Bool) (context : ScopeId) (expr : TypeExpr) : Resolving Resolution :=
  match expr.peel with
  | .primitive p => return .primitive p
  | .interface => return .any
  | .resolved id => return .declaration id
  | .named segments args =>
    resolveApplied external context segments (!args.isEmpty) (bindArguments external context args)
  | other => throw (.unresolvable other.display)

/-- Resolve a written type reference. -/
def resolve (external : Bool) (context : ScopeId) (reference : String) : Resolving Resolution :=
  match TypeExpr.parse? reference with
  | some expr => resolveExpr external context expr
  | none => throw (.invalidReference reference)

end Resolver

end ApiSchema
