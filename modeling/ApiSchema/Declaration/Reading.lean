import ApiSchema.Declaration
import ApiSchema.TypeExpr.Reading

/-! Declarations out of the items of a scope. -/

namespace ApiSchema

open Source

/-- A raw identifier without its mark. -/
def plainName (name : String) : String := (Text.after? "r#" name).getD name

def Field.ofItem (params : List String) (item : FieldItem) : Field where
  name := plainName item.name
  type := .ofTerm params item.type
  exported := item.exported
  embedded := isFlattened item.attributes
  tags := .ofAttributes item.attributes
  doc := docText? item.attributes

/-- Whole numbers of 128 bits with sign, as far as digits of a literal can give them. -/
def integerLiteral? : Expr → Option Int
  | .literal (.integer digits) =>
    (Decimal.nat? digits.toList).bind fun n => if n < Word.size 127 then some (n : Int) else none
  | .negate operand => (integerLiteral? operand).map (- ·)
  | _ => none

/-- A discriminant; one that needs more than 64 bits is ignored. -/
def discriminant? (expr : Expr) : Option Int :=
  (integerLiteral? expr).filter (Word.fitsSigned 64)

/-- The one type of all elements, if there is one. -/
def commonType : List TypeExpr → TypeExpr
  | [] => .interface
  | first :: rest => if rest.all (· = first) then first else .interface

/-- A tuple of one element is a synonym for it, any other one is an array. -/
def Body.ofFields (params : List String) : Fields → Body
  | .named fields => .struct (fields.map (Field.ofItem params))
  | .unnamed [type] => .synonym (.ofTerm params type)
  | .unnamed types => .synonym (.array (commonType (types.map (.ofTerm params))))
  | .unit => .struct []

/-- Members of a variant are as visible as the enumeration. -/
def Payload.ofFields? (params : List String) : Fields → Option Payload
  | .named fields =>
    some (.record (fields.map fun item => { Field.ofItem params item with exported := true }))
  | .unnamed types => some (.tuple (types.map (.ofTerm params)))
  | .unit => none

def Variant.ofItem (params : List String) (item : VariantItem) : Variant :=
  let tags := FieldTags.ofAttributes item.attributes
  { name := item.name
    rename := tags.rename
    discriminant := item.discriminant.bind discriminant?
    payload := Payload.ofFields? params item.fields
    skip := tags.skip
    doc := docText? item.attributes }

namespace Declaration

def ofHeader (package : String) (scope : ScopeId) (header : TypeHeader) (body : Body) :
    Declaration where
  package
  name := header.name
  scope
  params := header.params
  body
  tags := .ofAttributes header.attributes
  doc := docText? header.attributes

/-- The declaration an item makes, if it defines a type. -/
def ofItem? (package : String) (scope : ScopeId) : Item → Option Declaration
  | .struct header fields =>
    some (ofHeader package scope header (.ofFields header.params fields))
  | .enum header variants =>
    some (ofHeader package scope header (.enum (variants.map (.ofItem header.params))))
  | .typeAlias header target =>
    some (ofHeader package scope header (.synonym (.ofTerm header.params target)))
  | .trait header => some (ofHeader package scope header .interface)
  | _ => none

/-- Declarations of one scope; those of inner modules are not among them. -/
def ofItems (items : List Item) (package : String) (scope : ScopeId) : List Declaration :=
  items.filterMap (ofItem? package scope)

end Declaration

end ApiSchema
