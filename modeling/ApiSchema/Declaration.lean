import ApiSchema.Tag
import ApiSchema.TypeExpr

/-! Declarations of types: what a document is synthesized from. -/

namespace ApiSchema

/-- A named member of a struct or of a variant. -/
structure Field where
  name : String
  type : TypeExpr
  exported : Bool
  /-- The members of its type stand in its place. -/
  embedded : Bool
  tags : FieldTags
  doc : Option String

instance : Inhabited Field := ⟨⟨"", .interface, false, false, {}, none⟩⟩

inductive Payload where
  | tuple (types : List TypeExpr)
  | record (fields : List Field)

structure Variant where
  name : String
  rename : Option String
  /-- The number written for it. -/
  discriminant : Option Int
  payload : Option Payload
  skip : Bool
  doc : Option String

inductive Body where
  | struct (fields : List Field)
  | synonym (target : TypeExpr)
  | enum (variants : List Variant)
  | interface

structure Declaration where
  /-- Path of the defining package. -/
  package : String
  name : String
  /-- The scope whose imports govern the references in the body. -/
  scope : ScopeId
  params : List String
  body : Body
  tags : ContainerTags
  doc : Option String

instance : Inhabited Declaration := ⟨⟨"", "", 0, [], .interface, {}, none⟩⟩

/-- The last segment of a package path. -/
def displayName (package : String) : String := Text.lastSegment package

namespace Declaration

/-- Display name of the package and name of the type, the global key. -/
def fullName (d : Declaration) : String := displayName d.package ++ "." ++ d.name

def isGeneric (d : Declaration) : Bool := !d.params.isEmpty

/-- The full name with the parameters spelled out. -/
def parametrizedName (d : Declaration) : String :=
  if d.isGeneric then d.fullName ++ "<" ++ ",".intercalate d.params ++ ">" else d.fullName

/-- The name told apart from others by the whole package path. -/
def pathName (d : Declaration) : String :=
  "_".intercalate (Text.segments d.package) ++ "." ++ d.name

end Declaration

namespace Field

def substitute (bindings : TypeExpr.Bindings) (field : Field) : Field :=
  { field with type := field.type.substitute bindings }

end Field

namespace Payload

def substitute (bindings : TypeExpr.Bindings) : Payload → Payload
  | tuple types => tuple (types.map (TypeExpr.substitute bindings))
  | record fields => record (fields.map (Field.substitute bindings))

end Payload

namespace Variant

def substitute (bindings : TypeExpr.Bindings) (variant : Variant) : Variant :=
  { variant with payload := variant.payload.map (Payload.substitute bindings) }

end Variant

namespace Body

def substitute (bindings : TypeExpr.Bindings) : Body → Body
  | struct fields => struct (fields.map (Field.substitute bindings))
  | synonym target => synonym (target.substitute bindings)
  | enum variants => enum (variants.map (Variant.substitute bindings))
  | interface => interface

end Body

end ApiSchema
