import ApiSchema.Source.File
import ApiSchema.Text.Blank
import ApiSchema.Text.Case
import ApiSchema.Text.Split

/-! Annotations on declarations and members: the entries of attribute lists as keys with values,
and the few of them that are read at once. -/

namespace ApiSchema

open Source

/-- One `key`, `key = value` or `key(…)` of an attribute list. -/
inductive TagEntry where
  | mk (key : String) (value : Option String) (nested : List TagEntry)

namespace TagEntry

def key : TagEntry → String
  | mk key _ _ => key

def value : TagEntry → Option String
  | mk _ value _ => value

def nested : TagEntry → List TagEntry
  | mk _ _ nested => nested

instance : Inhabited TagEntry := ⟨mk "" none []⟩

/-- The first entry with a key. -/
def find? (entries : List TagEntry) (key : String) : Option TagEntry :=
  entries.find? fun entry => entry.key = key

def has (entries : List TagEntry) (key : String) : Bool :=
  entries.any fun entry => entry.key = key

def nestedValue? (entry : TagEntry) (key : String) : Option String :=
  (find? entry.nested key).bind value

/-- Text of a value; only literals, negated literals and paths have one. -/
def exprText? : Expr → Option String
  | .literal (.string s) => some s
  | .literal (.char c) => some (String.singleton c)
  | .literal (.integer digits) => some digits
  | .literal (.float digits) => some digits
  | .literal .bytes => none
  | .bool true => some "true"
  | .bool false => some "false"
  | .negate operand => (exprText? operand).map ("-" ++ ·)
  | .path segments => some (Text.joinSegments segments)
  | .other => none

/-- A key: words joined by `::`, keywords included. -/
def keyRule : Parser String := do
  let _ ← Parser.tryPunct "::"
  let segments ← Parser.repeating [] fun segments => do
    let name ← Parser.anyWord
    return (segments ++ [name], ← Parser.tryPunct "::")
  return Text.joinSegments segments

/-- Entries read up to the end or the first error, and what is left if there was none. -/
structure Reading where
  entries : List TagEntry
  rest : Option (List Token)

def Reading.cons (entry : TagEntry) (reading : Reading) : Reading :=
  { reading with entries := entry :: reading.entries }

mutual

/-- One entry: a key with what follows it. -/
def readEntry? (g : Grammar) : (fuel : Nat) → List Token → Option (TagEntry × List Token)
  | 0, _ => none
  | fuel + 1, tokens => do
    let (key, rest) ← keyRule tokens
    if Parser.startsPunct "=" rest then
      let (expr, rest) ← g.expr true (rest.drop 1)
      return (mk key (exprText? expr) [], rest)
    else if Parser.startsGroup .paren rest then
      let reading := readEntries g fuel (rest.drop 1)
      match reading.rest with
      | some (.closing .paren :: rest) => return (mk key none reading.entries, rest)
      | _ => none
    else return (mk key none [], rest)

/-- Entries with commas between them, up to the end of the list. -/
def readEntries (g : Grammar) : (fuel : Nat) → List Token → Reading
  | 0, _ => ⟨[], none⟩
  | fuel + 1, tokens =>
    match readEntry? g fuel tokens with
    | none => ⟨[], none⟩
    | some (entry, rest) =>
      if Parser.ended rest then ⟨[entry], some rest⟩
      else if Parser.startsPunct "," rest then
        let rest := rest.drop 1
        if Parser.ended rest then ⟨[entry], some rest⟩
        else (readEntries g fuel rest).cons entry
      else ⟨[entry], none⟩

end

/-- Entries of an attribute list; what follows an error is left out. -/
def ofTokens (tokens : List Token) : List TagEntry :=
  if tokens.isEmpty then []
  else (readEntries (grammar (levelsFor tokens)) (2 * tokens.length + 2) tokens).entries

/-- Entries of all attributes of one name, in their order. -/
def ofAttributes (attributes : List Attribute) (name : String) : List TagEntry :=
  attributes.flatMap fun a =>
    if a.path = [name] then
      match a.body with
      | .list tokens => ofTokens tokens
      | _ => []
    else []

/-- The value of the first entry with a key, or of its `serialize` entry. -/
def serializeValue? (entries : List TagEntry) (key : String) : Option String :=
  (find? entries key).bind fun entry => entry.value.or (entry.nestedValue? "serialize")

end TagEntry

/-- The text of the documentation, one line an attribute. -/
def docText? (attributes : List Attribute) : Option String :=
  let lines := attributes.filterMap fun a =>
    match a.body with
    | .value (.literal (.string text)) => if a.path = ["doc"] then some (Text.trim text) else none
    | _ => none
  let text := Text.trim ("\n".intercalate lines)
  if text.isEmpty then none else some text

/-- Annotations of a member. -/
structure FieldTags where
  rename : Option String := none
  skip : Bool := false
  /-- The value travels as text whatever its type. -/
  stringEncoded : Bool := false
  schema : List TagEntry := []
  validate : List TagEntry := []
  garde : List TagEntry := []

namespace FieldTags

def schemaValue? (tags : FieldTags) (key : String) : Option String :=
  (TagEntry.find? tags.schema key).bind TagEntry.value

def hasSchemaFlag (tags : FieldTags) (key : String) : Bool := TagEntry.has tags.schema key

/-- Rules of both validation vocabularies. -/
def rules (tags : FieldTags) : List TagEntry := tags.validate ++ tags.garde

def ofAttributes (attributes : List Attribute) : FieldTags :=
  let serde := TagEntry.ofAttributes attributes "serde"
  let serdeAs := TagEntry.ofAttributes attributes "serde_as"
  let schema := TagEntry.ofAttributes attributes "schema"
  { rename := TagEntry.serializeValue? serde "rename"
    skip := TagEntry.has serde "skip" || TagEntry.has serde "skip_serializing"
    stringEncoded :=
      (serdeAs.any fun entry =>
        entry.key = "as" && entry.value.any (Text.contains "DisplayFromStr")) ||
      (serde.any fun entry =>
        entry.key = "with" && entry.value.any fun v => Text.contains "string" (Text.lower v)) ||
      TagEntry.has schema "string"
    schema
    validate := TagEntry.ofAttributes attributes "validate"
    garde := TagEntry.ofAttributes attributes "garde" }

end FieldTags

/-- Annotations of a whole declaration. -/
structure ContainerTags where
  renameAll : Option String := none
  untagged : Bool := false

def ContainerTags.ofAttributes (attributes : List Attribute) : ContainerTags :=
  let serde := TagEntry.ofAttributes attributes "serde"
  { renameAll := TagEntry.serializeValue? serde "rename_all"
    untagged := TagEntry.has serde "untagged" }

/-- The member's own members stand in its place. -/
def isFlattened (attributes : List Attribute) : Bool :=
  TagEntry.has (TagEntry.ofAttributes attributes "serde") "flatten"

end ApiSchema
