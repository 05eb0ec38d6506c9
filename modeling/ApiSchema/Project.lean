import ApiSchema.Resolution
import ApiSchema.Source.File

/-! Projects as trees of files: the source files of a directory with the modules they define, and
the directories of dependencies. -/

namespace ApiSchema

open Source

/-- Files with their contents, and directories. Directories above them are there too. -/
structure Tree where
  entries : List (Path × Option String)
  /-- Where paths start that are not absolute. -/
  workingDir : Path := ⟨[]⟩

namespace Tree

/-- The place of a path. -/
def place (t : Tree) (path : String) : Path :=
  ((Path.ofString path).within t.workingDir).normalize

def file? (t : Tree) (path : String) : Option String :=
  let wanted := t.place path
  t.entries.findSome? fun entry => if entry.1 = wanted then entry.2 else none

def isFile (t : Tree) (path : String) : Bool := (t.file? path).isSome

def isDirectory (t : Tree) (path : String) : Bool :=
  let wanted := t.place path
  t.entries.any fun entry =>
    match Path.below? wanted entry.1 with
    | some [] => entry.2.isNone
    | some _ => true
    | none => false

def contains (t : Tree) (path : String) : Bool := t.isFile path || t.isDirectory path

/-- Names of what a directory holds, each once. -/
def names (t : Tree) (dir : String) : List String :=
  let base := t.place dir
  (t.entries.filterMap fun entry => (Path.below? base entry.1).bind List.head?).eraseDups

/-- Files below a path, as components relative to it, with their contents. -/
def filesBelow (t : Tree) (root : String) : List (List String × String) :=
  let base := t.place root
  t.entries.filterMap fun entry => do
    let relative ← Path.below? base entry.1
    let content ← entry.2
    return (relative, content)

end Tree

/-- A source file with the module it defines. -/
structure SourceUnit where
  path : String
  module : String
  content : String

namespace Project

/-- Dashes of a name are underscores in paths. -/
def identifier (name : String) : String := Text.replaceChar '-' ['_'] name

/-- The module that the file at these components below the source root defines. The root files
define the crate itself, and a module file the directory it is in. -/
def moduleOf (crate : String) (components : List String) : String :=
  let segments := match components.getLast? with
    | none => []
    | some last =>
      let dirs := components.dropLast
      let stem := (Text.before? ".rs" last).getD last
      let isRoot := dirs.isEmpty && (stem = "lib" || stem = "main")
      if stem = "mod" || isRoot then dirs else dirs ++ [stem]
  Text.joinSegments (crate :: segments.map identifier)

/-- The module of a file, relative to a source root if it is below it. -/
def modulePath (root file crate : String) : String :=
  let path := Path.ofString file
  moduleOf crate ((Path.below? (Path.ofString root) path).getD path.components)

/-- The directory that modules are computed against. -/
def sourceRoot (t : Tree) (root : String) : String :=
  let src := Path.join root "src"
  if t.isDirectory src then src else root

/-- Names that are not entered. -/
def isHidden (name : String) : Bool := Text.startsWith "." name || name = "target"

structure Scan where
  /-- Sorted by path. -/
  units : List SourceUnit
  /-- How many paths could not be read. -/
  warnings : Nat

/-- The source files of a project or of a crate. -/
def scan (t : Tree) (root crate : String) : Scan :=
  let source := sourceRoot t root
  let found := (t.filesBelow source).filter fun (relative, _) =>
    !relative.any isHidden &&
      (Path.mk ((Path.ofString source).components ++ relative)).hasExtension "rs"
  let sorted := found.mergeSort fun a b => !Path.before ⟨b.1⟩ ⟨a.1⟩
  { units := sorted.map fun (relative, content) =>
      { path := relative.foldl Path.join source
        module := moduleOf crate relative
        content }
    warnings := if t.contains source then 0 else 1 }

/-- The file of a unit, if it can be parsed. -/
def parse (u : SourceUnit) : Except String SourceFile :=
  SourceFile.parse u.path u.module u.content

/-- The files of the units that can be parsed. -/
def parseAll (units : List SourceUnit) : List SourceFile :=
  units.filterMap fun u => (parse u).toOption

end Project

/-- Where the sources of dependencies are. -/
structure Dependencies where
  /-- Directories of crates, by the identifiers of the crates. -/
  roots : Table String := {}
  /-- Directories that hold unpacked crates. -/
  searchDirs : List String := []

namespace Dependencies

open Project

def addRoot (d : Dependencies) (crate dir : String) : Dependencies :=
  { d with roots := d.roots.insert (identifier crate) dir }

def addSearchDir (d : Dependencies) (dir : String) : Dependencies :=
  { d with searchDirs := d.searchDirs ++ [dir] }

/-- A directory is named for the crate, perhaps with a version. -/
def namedFor (crate name : String) : Bool :=
  let name := identifier name
  name = crate ||
    ((Text.after? crate name).bind (Text.after? "_")).any fun version =>
      version.toList.head?.any Char.isDigit

/-- The directory of a crate: its own root, or else the greatest one named for it. -/
def locate? (d : Dependencies) (t : Tree) (crate : String) : Option String :=
  match d.roots.get? crate with
  | some dir => some dir
  | none =>
    let found := d.searchDirs.flatMap fun dir =>
      ((t.names dir).filter (namedFor crate)).map (Path.join dir)
    let dirs := found.filter t.isDirectory
    dirs.foldl (fun best dir =>
      match best with
      | none => some dir
      | some other =>
        if Path.before (.ofString dir) (.ofString other) then some other else some dir) none

/-- The sources of a crate; files that cannot be parsed are left out. -/
def load (d : Dependencies) (t : Tree) (crate : String) : Except String (List SourceFile) :=
  match d.locate? t crate with
  | none => .error ("no source directory found for crate " ++ crate)
  | some dir =>
    let units := (scan t dir crate).units
    if units.isEmpty then .error (dir ++ " contains no Rust sources")
    else .ok (parseAll units)

end Dependencies

end ApiSchema
