import ApiSchema.Declaration.Reading
import ApiSchema.Import
import ApiSchema.Path
import ApiSchema.Table

/-! The registry of declarations. Declarations and scopes are numbered in the order of their
registration and never change. A full name that declarations of two packages share is ambiguous
for good; such a declaration is told apart by its whole package path. -/

namespace ApiSchema

open Source

/-- The items of one file, under the module path it defines. -/
structure SourceFile where
  path : String
  module : String
  items : List Item

/-- The file of a text, or the complaint that the text is not valid source. -/
def SourceFile.parse (path module text : String) : Except String SourceFile :=
  match parseFile? text with
  | some items => .ok { path, module, items }
  | none => .error ("Failed to parse Rust syntax in file: " ++ path)

/-- An indexed module scope and its imports. -/
structure Scope where
  path : String
  package : String
  imports : List Import
deriving Inhabited

/-- Scopes and declarations of one package path. -/
structure Package where
  path : String
  scopes : List ScopeId := []
  types : Table DeclId := {}

structure Registry where
  decls : List Declaration := []
  scopes : List Scope := []
  packages : Table Package := {}
  /-- Declarations by full names that are not ambiguous. -/
  global : Table DeclId := {}
  ambiguous : List String := []
  /-- Files indexed so far. -/
  indexed : List Path := []
  /-- Names handed out for definitions; they stay as they are. -/
  names : List (DeclId × String) := []

namespace Registry

instance : Inhabited Registry := ⟨{}⟩

def empty : Registry := {}

def size (r : Registry) : Nat := r.decls.length

def get? (r : Registry) (id : DeclId) : Option Declaration := r.decls[id]?

/-- The declaration of an id that is in use. -/
def get (r : Registry) (id : DeclId) : Declaration := (r.get? id).getD default

def scope? (r : Registry) (id : ScopeId) : Option Scope := r.scopes[id]?

def package? (r : Registry) (path : String) : Option Package := r.packages.get? path

/-- The declaration of a name in a package. -/
def lookup? (r : Registry) (package name : String) : Option DeclId :=
  (r.package? package).bind fun p => p.types.get? name

/-- The declaration of a full name that is not ambiguous. -/
def lookupGlobal? (r : Registry) (fullName : String) : Option DeclId := r.global.get? fullName

def isAmbiguous (r : Registry) (fullName : String) : Bool := r.ambiguous.contains fullName

def packageOrNew (r : Registry) (path : String) : Package := (r.package? path).getD { path }

/-- Enter a declaration under one of its global keys. -/
def registerGlobal (r : Registry) (key : String) (id : DeclId) : Registry :=
  if r.isAmbiguous key then r
  else
    match r.lookupGlobal? key with
    | none => { r with global := r.global.insert key id }
    | some other =>
      if (r.get other).package = (r.get id).package then r
      else { r with global := r.global.erase key, ambiguous := key :: r.ambiguous }

/-- Global keys of a declaration. -/
def globalKeys (d : Declaration) : List String :=
  if d.isGeneric then [d.fullName, d.parametrizedName] else [d.fullName]

/-- Append a declaration under an unused name of its package. -/
def append (r : Registry) (d : Declaration) : Registry :=
  let package := r.packageOrNew d.package
  let package := { package with types := package.types.insert d.name r.size }
  { r with
    decls := r.decls ++ [d]
    packages := r.packages.insert d.package package }

/-- Register a declaration. The first one of a name in a package stays; the id is that of the
declaration which has the name afterwards. -/
def insert (r : Registry) (d : Declaration) : DeclId × Registry :=
  match r.lookup? d.package d.name with
  | some id => (id, r)
  | none =>
    let id := r.size
    (id, (globalKeys d).foldl (fun acc key => acc.registerGlobal key id) (r.append d))

/-- A new scope of a package. -/
def addScope (r : Registry) (scope : Scope) : Registry :=
  let package := r.packageOrNew scope.package
  { r with
    scopes := r.scopes ++ [scope]
    packages := r.packages.insert scope.package
      { package with scopes := package.scopes ++ [r.scopes.length] } }

def insertAll (r : Registry) (decls : List Declaration) : Registry :=
  decls.foldl (fun r d => (r.insert d).2) r

/-- A new scope with the declarations among its items. -/
def openScope (r : Registry) (path package : String) (items : List Item) : Registry :=
  (r.addScope { path, package, imports := Import.ofItems items }).insertAll
    (Declaration.ofItems items package r.scopes.length)

mutual

/-- Index the inner modules among the items of a scope, each as a package of its own. -/
def indexModules (path package : String) : List Item → Registry → Registry
  | [], r => r
  | item :: rest, r => indexModules path package rest (indexModule path package item r)
termination_by structural items => items

def indexModule (path package : String) : Item → Registry → Registry
  | .submodule name (some items), r =>
    let inner := package ++ "::" ++ name
    indexModules path inner items (r.openScope path inner items)
  | _, r => r
termination_by structural item => item

end

/-- Index a scope and, after its own declarations, its inner modules. -/
def indexItems (r : Registry) (path package : String) (items : List Item) : Registry :=
  indexModules path package items (r.openScope path package items)

/-- Index a file under a package path, unless its path was indexed before. -/
def index (r : Registry) (package : String) (file : SourceFile) : Option ScopeId × Registry :=
  let key := Path.ofString file.path
  if r.indexed.contains key then (none, r)
  else
    let r := { r with indexed := key :: r.indexed }
    (some r.scopes.length, r.indexItems file.path package file.items)

/-- Index a file under its own module path. -/
def indexFile (r : Registry) (file : SourceFile) : Option ScopeId × Registry :=
  r.index file.module file

/-- Some package of a crate is known. -/
def hasCrate (r : Registry) (crate : String) : Bool :=
  r.packages.keys.any fun path => path = crate || Text.startsWith (crate ++ "::") path

/-- The first scope of a package, or the first whose file path is or ends in the text. -/
def findScope? (r : Registry) (pathOrModule : String) : Option ScopeId :=
  match r.package? pathOrModule with
  | some package => package.scopes.head?
  | none =>
    let wanted := Path.ofString pathOrModule
    r.scopes.findIdx? fun scope => (Path.ofString scope.path).endsWith wanted

/-- The name a declaration would get now. -/
def freshName (r : Registry) (id : DeclId) : String :=
  let d := r.get id
  if r.lookupGlobal? d.fullName = some id then d.fullName else d.pathName

/-- Key of a declaration among the definitions of a document: the full name if that is free of
ambiguity when it is first asked for, otherwise the name with the whole package path. -/
def definitionName (r : Registry) (id : DeclId) : String × Registry :=
  match r.names.lookup id with
  | some name => (name, r)
  | none =>
    let name := r.freshName id
    (name, { r with names := (id, name) :: r.names })

end Registry

end ApiSchema
