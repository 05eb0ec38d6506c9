import ApiSchema.Error
import ApiSchema.Registry

/-! Instances of generic declarations. An instance lives in the package of its generic, under a
name made from the generic's and the arguments', so the same arguments give the same instance. -/

namespace ApiSchema.Registry

/-- The text without dots, for a name inside another. -/
def flatName (name : String) : String := Text.replaceChar '.' ['_'] name

/-- What an argument adds to the name of an instance. Names of declarations are fixed by it. -/
def argumentName : TypeExpr → Registry → String × Registry
  | .primitive p, r => (p.name, r)
  | .resolved id, r =>
    let (name, r) := r.definitionName id
    (flatName name, r)
  | .array inner, r =>
    let (name, r) := argumentName inner r
    ("array_" ++ name, r)
  | .map key value, r =>
    let (keyName, r) := argumentName key r
    let (valueName, r) := argumentName value r
    ("map_" ++ keyName ++ "_" ++ valueName, r)
  | .pointer inner, r => argumentName inner r
  | .optional inner, r => argumentName inner r
  | .named segments _, r => ("_".intercalate segments, r)
  | .param name, r => (name, r)
  | .interface, r => ("any", r)
  | .function, r => ("func", r)

/-- Name of an instance: the generic's, then each argument's after a dash. -/
def instanceName (base : String) : List TypeExpr → Registry → String × Registry
  | [], r => (base, r)
  | arg :: rest, r =>
    let (name, r) := argumentName arg r
    instanceName (base ++ "-" ++ name) rest r

/-- The declaration that results from binding the parameters of a generic. -/
def instanceOf (generic : Declaration) (name : String) (args : List TypeExpr) : Declaration :=
  { generic with
    name
    params := []
    body := generic.body.substitute (generic.params.zip args) }

/-- The instance of a generic for bound arguments, registered if it was not yet. -/
def instantiate (r : Registry) (id : DeclId) (args : List TypeExpr) :
    Except Error DeclId × Registry :=
  let generic := r.get id
  if args.length ≠ generic.params.length then
    (.error (.arityMismatch generic.parametrizedName generic.params.length args.length), r)
  else
    let (name, r) := instanceName generic.name args r
    match r.lookup? generic.package name with
    | some existing => (.ok existing, r)
    | none =>
      let (id, r) := r.insert (instanceOf generic name args)
      (.ok id, r)

end ApiSchema.Registry
