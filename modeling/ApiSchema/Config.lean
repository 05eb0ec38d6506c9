import ApiSchema.Naming

/-! Options of a run. -/

namespace ApiSchema

structure Config where
  /-- How names of members become names of properties. -/
  naming : Naming := .verbatim
  /-- Every member that is not optional is required. -/
  requiredByDefault : Bool := false
  /-- How deep arrays may nest in a schema that is used without a name. -/
  maxInlineDepth : Nat := 2
  /-- Packages that are not indexed may be loaded. -/
  parseDependencies : Bool := false
  skipPrivateFields : Bool := true
deriving DecidableEq, Repr, Inhabited

end ApiSchema
