import ApiSchema.Source.Tree

/-! Names brought into scope by imports: one for each leaf of an import tree. -/

namespace ApiSchema

open Source

structure Import where
  /-- The name it is visible under, `*` if it brings in all names of its target. -/
  localName : String
  target : List String
  /-- Bound to a name by `as`. -/
  aliased : Bool := false
  /-- Brings in all names of its target. -/
  glob : Bool := false
deriving DecidableEq, Repr

namespace Import

mutual

/-- The leaves of a tree that stands under the path `base`. -/
def ofTree (base : List String) : UseTree → List Import
  | .path name rest => ofTree (base ++ [name]) rest
  | .name "self" =>
    match base.getLast? with
    | some last => [{ localName := last, target := base }]
    | none => []
  | .name name => [{ localName := name, target := base ++ [name] }]
  | .rename name localName =>
    [{ localName
       target := if name = "self" then base else base ++ [name]
       aliased := true }]
  | .glob => [{ localName := "*", target := base, glob := true }]
  | .group trees => ofTrees base trees

def ofTrees (base : List String) : List UseTree → List Import
  | [] => []
  | tree :: rest => ofTree base tree ++ ofTrees base rest

end

/-- The imports of one scope, in source order. -/
def ofItems (items : List Item) : List Import :=
  items.flatMap fun
    | .imports tree => ofTree [] tree
    | _ => []

end Import

end ApiSchema
