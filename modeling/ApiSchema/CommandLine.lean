import ApiSchema.Builder
import ApiSchema.Document.Encoding
import ApiSchema.Project

/-! The command line: its arguments, and the run from a project tree to the text of a document. -/

namespace ApiSchema.CommandLine

structure Arguments where
  projectPath : String
  operations : String
  json : Bool
  outputPath : Option String
  naming : Naming
  requiredByDefault : Bool
  maxInlineDepth : Nat
  parseDependencies : Bool
  dependencies : List (String × String)
  searchDirs : List String
  title : String
  apiVersion : String
  verbose : Bool
deriving DecidableEq, Repr

/-- Why arguments are not accepted. -/
inductive UsageError where
  | missingRequiredArgument
  | unknownArgument
  | invalidValue
  | valueValidation
  | argumentConflict
  | tooManyValues
  | displayHelp
  | displayVersion
deriving DecidableEq, Repr

inductive Setting where
  | projectPath
  | operations
  | format
  | output
  | naming
  | requiredByDefault
  | maxInlineDepth
  | parseDependencies
  | dependency
  | searchDir
  | title
  | apiVersion
  | verbose
  | help
  | version
deriving DecidableEq, Repr

namespace Setting

def ofLong? (name : String) : Option Setting :=
  match name with
  | "operations" => some operations
  | "format" => some format
  | "output" => some output
  | "naming" => some naming
  | "required-by-default" => some requiredByDefault
  | "max-inline-depth" => some maxInlineDepth
  | "parse-dependencies" => some parseDependencies
  | "dependency" => some dependency
  | "dependency-search-dir" => some searchDir
  | "title" => some title
  | "api-version" => some apiVersion
  | "verbose" => some verbose
  | "help" => some help
  | "version" => some version
  | _ => none

def ofShort? (c : Char) : Option Setting :=
  match c with
  | 'm' => some operations
  | 'f' => some format
  | 'o' => some output
  | 'v' => some verbose
  | 'h' => some help
  | 'V' => some version
  | _ => none

def takesValue : Setting → Bool
  | requiredByDefault | parseDependencies | verbose | help | version => false
  | _ => true

end Setting

/-- What was given so far. -/
structure Given where
  projectPath : Option String := none
  operations : Option String := none
  json : Option Bool := none
  output : Option String := none
  naming : Option Naming := none
  requiredByDefault : Bool := false
  maxInlineDepth : Option Nat := none
  parseDependencies : Bool := false
  dependencies : List (String × String) := []
  searchDirs : List String := []
  title : Option String := none
  apiVersion : Option String := none
  verbose : Bool := false

abbrev Parsing := Except UsageError

/-- A setting that was given before is a conflict. -/
def once (given : Bool) (result : Parsing α) : Parsing α :=
  if given then .error .argumentConflict else result

def pathValue (text : String) : Parsing String :=
  if text.isEmpty then .error .invalidValue else .ok text

def formatValue (text : String) : Parsing Bool :=
  match text with
  | "yaml" => .ok false
  | "json" => .ok true
  | _ => .error .invalidValue

def namingValue (text : String) : Parsing Naming :=
  match text with
  | "verbatim" => .ok .verbatim
  | "camel" => .ok .camel
  | "snake" => .ok .snake
  | "pascal" => .ok .pascal
  | _ => .error .invalidValue

def depthValue (text : String) : Parsing Nat :=
  match Decimal.count? text.toList with
  | some n => .ok n
  | none => .error .valueValidation

/-- A name and a path with an equals sign between them. -/
def dependencyValue (text : String) : Parsing (String × String) :=
  match Text.splitFirst? '=' text with
  | some (name, path) =>
    if name.isEmpty || path.isEmpty then .error .valueValidation else .ok (name, path)
  | none => .error .valueValidation

/-- Enter a setting that takes a value. -/
def Given.setValue (g : Given) (setting : Setting) (text : String) : Parsing Given :=
  match setting with
  | .projectPath => once g.projectPath.isSome do
    return { g with projectPath := some (← pathValue text) }
  | .operations => once g.operations.isSome do
    return { g with operations := some (← pathValue text) }
  | .format => once g.json.isSome do return { g with json := some (← formatValue text) }
  | .output => once g.output.isSome do return { g with output := some (← pathValue text) }
  | .naming => once g.naming.isSome do return { g with naming := some (← namingValue text) }
  | .maxInlineDepth => once g.maxInlineDepth.isSome do
    return { g with maxInlineDepth := some (← depthValue text) }
  | .dependency => do
    return { g with dependencies := g.dependencies ++ [← dependencyValue text] }
  | .searchDir => do return { g with searchDirs := g.searchDirs ++ [← pathValue text] }
  | .title => once g.title.isSome (.ok { g with title := some text })
  | .apiVersion => once g.apiVersion.isSome (.ok { g with apiVersion := some text })
  | _ => .ok g

/-- Enter a setting without a value. -/
def Given.setFlag (g : Given) (setting : Setting) : Parsing Given :=
  match setting with
  | .requiredByDefault => once g.requiredByDefault (.ok { g with requiredByDefault := true })
  | .parseDependencies => once g.parseDependencies (.ok { g with parseDependencies := true })
  | .verbose => once g.verbose (.ok { g with verbose := true })
  | .help => .error .displayHelp
  | .version => .error .displayVersion
  | _ => .ok g

/-- A setting whose value is still to come, or is known and not yet entered. -/
structure Pending where
  setting : Setting
  value : Option String := none

structure State where
  given : Given := {}
  pending : Option Pending := none
  /-- All further arguments are positional. -/
  trailing : Bool := false
  /-- The positional argument was seen. -/
  placed : Bool := false

namespace State

/-- Enter the pending setting, which must have its value by now. -/
def settle (s : State) : Parsing State :=
  match s.pending with
  | none => .ok s
  | some ⟨_, none⟩ => .error .invalidValue
  | some ⟨setting, some value⟩ => do
    return { s with given := ← s.given.setValue setting value, pending := none }

def await (s : State) (setting : Setting) : Parsing State := do
  let s ← s.settle
  return { s with pending := some { setting } }

def setValue (s : State) (setting : Setting) (value : String) : Parsing State := do
  let s ← s.settle
  return { s with given := ← s.given.setValue setting value }

def setFlag (s : State) (setting : Setting) : Parsing State := do
  let s ← s.settle
  return { s with given := ← s.given.setFlag setting }

def long (s : State) (name : String) (attached : Option String) : Parsing State :=
  match Setting.ofLong? name with
  | none => .error .unknownArgument
  | some setting =>
    if setting.takesValue then
      match attached with
      | some value => s.setValue setting value
      | none => s.await setting
    else if attached.isSome then .error .tooManyValues
    else s.setFlag setting

/-- Letters after one dash: flags, up to a setting that takes the rest as its value. -/
def short (s : State) : List Char → Parsing State
  | [] => .ok s
  | c :: rest =>
    match Setting.ofShort? c with
    | none => .error .unknownArgument
    | some setting =>
      if setting.takesValue then
        match rest with
        | [] => s.await setting
        | '=' :: value => s.setValue setting (String.ofList value)
        | value => s.setValue setting (String.ofList value)
      else do
        let s ← s.setFlag setting
        s.short rest

def positional (s : State) (text : String) : Parsing State :=
  if s.placed then .error .unknownArgument
  else do
    let s ← s.settle
    return { s with pending := some ⟨.projectPath, some text⟩, placed := true }

def awaiting? (s : State) : Option Setting :=
  match s.pending with
  | some ⟨setting, none⟩ => some setting
  | _ => none

/-- Take one argument. -/
def take (s : State) (arg : String) : Parsing State :=
  if s.trailing then s.positional arg
  else if arg = "--" then .ok { s with trailing := true }
  else
    match Text.after? "--" arg with
    | some body =>
      match Text.splitFirst? '=' body with
      | some (name, value) => s.long name (some value)
      | none => s.long body none
    | none =>
      match arg.toList with
      | '-' :: c :: rest => s.short (c :: rest)
      | _ =>
        match s.awaiting? with
        | some setting => .ok { s with pending := some ⟨setting, some arg⟩ }
        | none => s.positional arg

end State

/-- The arguments of a run; the name of the program is not among them. -/
def parse (args : List String) : Parsing Arguments := do
  let s ← args.foldlM State.take {}
  let s ← s.settle
  let g := s.given
  match g.projectPath, g.operations with
  | some projectPath, some operations =>
    return {
      projectPath
      operations
      json := g.json.getD false
      outputPath := g.output
      naming := g.naming.getD .verbatim
      requiredByDefault := g.requiredByDefault
      maxInlineDepth := g.maxInlineDepth.getD 2
      parseDependencies := g.parseDependencies
      dependencies := g.dependencies
      searchDirs := g.searchDirs
      title := g.title.getD "Generated API"
      apiVersion := g.apiVersion.getD "1.0.0"
      verbose := g.verbose }
  | _, _ => .error .missingRequiredArgument

/-- Arguments must name a directory and a manifest that are there. -/
def validate (t : Tree) (a : Arguments) : Except String Unit :=
  if !t.contains a.projectPath then .error ("Project path does not exist: " ++ a.projectPath)
  else if !t.isDirectory a.projectPath then
    .error ("Project path is not a directory: " ++ a.projectPath)
  else if !t.isFile a.operations then .error ("Operation manifest not found: " ++ a.operations)
  else .ok ()

def Arguments.config (a : Arguments) : Config where
  naming := a.naming
  requiredByDefault := a.requiredByDefault
  maxInlineDepth := a.maxInlineDepth
  parseDependencies := a.parseDependencies

def Arguments.dependencySources (a : Arguments) : Dependencies :=
  let d := a.dependencies.foldl (fun d entry => d.addRoot entry.1 entry.2) {}
  a.searchDirs.foldl Dependencies.addSearchDir d

/-- Files of a project that can be parsed. -/
def sources (t : Tree) (a : Arguments) : Except String (List SourceFile) :=
  let units := (Project.scan t a.projectPath "crate").units
  if units.isEmpty then .error "No Rust files found in the project directory"
  else
    let files := Project.parseAll units
    if files.isEmpty then .error "No files could be parsed successfully" else .ok files

def manifest (t : Tree) (a : Arguments) : Except String (List Manifest.Operation) :=
  let json := (Path.ofString a.operations).hasExtension "json"
  match (t.file? a.operations).bind (Manifest.parse? json) with
  | some operations => .ok operations
  | none => .error ("Failed to parse operation manifest: " ++ a.operations)

/-- The document that the operations of a project describe; operations that fail are left out. -/
def document (t : Tree) (a : Arguments) : Except String Document := do
  let files ← sources t a
  let operations ← manifest t a
  let registry := files.foldl (fun r file => (r.indexFile file).2) Registry.empty
  let loader := if a.parseDependencies then some (a.dependencySources.load t) else none
  let generator : Generator := { resolver := { registry, loader } }
  let builder : Builder :=
    { info := { title := a.title, version := a.apiVersion, description := none } }
  let (_, builder, generator) := builder.addAll a.config operations generator
  return builder.build generator

/-- The text of the document in the format asked for. -/
def run (t : Tree) (a : Arguments) : Except String String := do
  let d ← document t a
  return if a.json then d.toJson else d.toYaml

/-- The text of the directory a path is in. -/
def parent (path : String) : String :=
  let isSeparator := fun c => c = '/'
  let reversed := path.toList.reverse.dropWhile isSeparator
  String.ofList ((reversed.dropWhile (· ≠ '/')).dropWhile isSeparator).reverse

/-- Whether a file can be written at a path of the tree. -/
def checkOutput (t : Tree) (path : String) : Except String Unit :=
  let dir := parent path
  let wanted := t.place dir
  if t.entries.any fun entry => entry.2.isSome && (Path.below? entry.1 wanted).isSome then
    .error ("Failed to create directory: " ++ dir)
  else if t.isDirectory path || path.toList.getLast? = some '/' then
    .error ("Failed to write to file: " ++ path)
  else .ok ()

end ApiSchema.CommandLine
