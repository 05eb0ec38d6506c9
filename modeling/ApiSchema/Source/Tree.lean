import ApiSchema.Source.Token

/-! What is kept of Rust source once it is read: types, the items that define types or bring names
into scope, and their attributes. Everything else is `other`. -/

namespace ApiSchema.Source

/-- How a path was written, besides its identifiers. -/
structure PathShape where
  /-- It starts with `::`. -/
  rooted : Bool := false
  /-- It starts with a type in angle brackets. -/
  qualified : Bool := false
  /-- Some segment has generic arguments. -/
  applied : Bool := false
  /-- The last segment has arguments in parentheses. -/
  called : Bool := false
deriving DecidableEq, Repr

/-- A type as written. -/
inductive TypeTerm where
  /-- The arguments are the type arguments of the last segment. -/
  | path (shape : PathShape) (segments : List String) (args : List TypeTerm)
  | reference (target : TypeTerm)
  | sequence (element : TypeTerm)
  | paren (inner : TypeTerm)
  | function
  | other

instance : Inhabited TypeTerm := ⟨.other⟩

/-- An expression, as far as attributes and discriminants read it. -/
inductive Expr where
  | literal (value : Literal)
  | bool (value : Bool)
  | negate (operand : Expr)
  | path (segments : List String)
  | other
deriving DecidableEq, Repr

inductive AttributeBody where
  | word
  | list (tokens : List Token)
  | value (expr : Expr)
deriving DecidableEq, Repr

structure Attribute where
  /-- The path's segments; a rooted path has an empty first one. -/
  path : List String
  body : AttributeBody
deriving DecidableEq, Repr

structure FieldItem where
  attributes : List Attribute
  name : String
  /-- A visibility is written. -/
  exported : Bool
  type : TypeTerm

inductive Fields where
  | named (fields : List FieldItem)
  | unnamed (types : List TypeTerm)
  | unit

structure VariantItem where
  attributes : List Attribute
  name : String
  fields : Fields
  discriminant : Option Expr

/-- The tree of one import. -/
inductive UseTree where
  | path (name : String) (rest : UseTree)
  | name (name : String)
  | rename (name localName : String)
  | glob
  | group (trees : List UseTree)

/-- What the items that define a type have in common. -/
structure TypeHeader where
  attributes : List Attribute
  name : String
  /-- Names of the type parameters, lifetimes and constants left out. -/
  params : List String

inductive Item where
  | struct (header : TypeHeader) (fields : Fields)
  | enum (header : TypeHeader) (variants : List VariantItem)
  | typeAlias (header : TypeHeader) (target : TypeTerm)
  | trait (header : TypeHeader)
  | imports (tree : UseTree)
  /-- A module; one without a body has no items here. -/
  | submodule (name : String) (items : Option (List Item))
  | other

instance : Inhabited Item := ⟨.other⟩

end ApiSchema.Source
