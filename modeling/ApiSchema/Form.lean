import ApiSchema.Json.Value

/-! Values of hand-written input, read from JSON or from YAML. A plain YAML scalar may be taken as
text, as a truth value or as nothing, whichever is asked for. -/

namespace ApiSchema

inductive Form where
  | null
  | flag (value : Bool)
  | number
  /-- Text that is marked as such. -/
  | text (value : String)
  /-- A scalar without quotes. -/
  | plain (value : String)
  | list (items : List Form)
  | record (entries : List (Form × Form))

namespace Form

instance : Inhabited Form := ⟨null⟩

mutual

def ofJson : Json.Value → Form
  | .null => null
  | .bool value => flag value
  | .integer _ => number
  | .float _ => number
  | .string value => text value
  | .array items => list (ofJsonItems items)
  | .object members => record (ofJsonMembers members)

def ofJsonItems : List Json.Value → List Form
  | [] => []
  | item :: rest => ofJson item :: ofJsonItems rest

def ofJsonMembers : List (String × Json.Value) → List (Form × Form)
  | [] => []
  | (key, value) :: rest => (text key, ofJson value) :: ofJsonMembers rest

end

def nullWords : List String := ["null", "Null", "NULL", "~"]

def trueWords : List String := ["true", "True", "TRUE"]

def falseWords : List String := ["false", "False", "FALSE"]

def string? : Form → Option String
  | text value => some value
  | plain value => some value
  | _ => none

def bool? : Form → Option Bool
  | flag value => some value
  | plain value =>
    if trueWords.contains value then some true
    else if falseWords.contains value then some false
    else none
  | _ => none

/-- It stands for nothing. -/
def isAbsent : Form → Bool
  | null => true
  | plain value => value.isEmpty || nullWords.contains value
  | _ => false

/-- A value that may be nothing. -/
def optional? (read : Form → Option α) (form : Form) : Option (Option α) :=
  if form.isAbsent then some none else (read form).map some

def items? : Form → Option (List Form)
  | list items => some items
  | plain "" => some []
  | _ => none

def listOf? (read : Form → Option α) (form : Form) : Option (List α) :=
  form.items?.bind fun items => items.mapM read

/-- Entries with their keys as text. -/
def entries? : Form → Option (List (String × Form))
  | record entries => entries.mapM fun entry => entry.1.string?.map fun key => (key, entry.2)
  | plain "" => some []
  | _ => none

end Form

end ApiSchema
