import ApiSchema.Text.Split

/-! File paths as sequences of components. Repeated separators and inner dots make no difference;
a leading separator, a leading dot and double dots do. -/

namespace ApiSchema

structure Path where
  components : List String
deriving DecidableEq, Repr, Inhabited

namespace Path

/-- Components of a path: a leading separator is one of its own, a dot counts only in front. -/
def ofString (text : String) : Path :=
  let pieces := Text.splitAt '/' text
  let rooted := Text.startsWith "/" text
  let kept := pieces.filter fun piece => piece ≠ "" && piece ≠ "."
  let first := if rooted then ["/"] else if pieces.head? = some "." then ["."] else []
  ⟨first ++ kept⟩

/-- The components of `tail` are the last ones of the path. -/
def endsWith (path tail : Path) : Bool := tail.components.isSuffixOf path.components

/-- What follows `base` in the path, if the path begins with it. -/
def below? (base path : Path) : Option (List String) :=
  base.components.isPrefixOf? path.components

/-- Order by components, the first difference deciding. -/
def before (a b : Path) : Bool := a.components < b.components

/-- Starts at the root of the file system. -/
def isAbsolute (path : Path) : Bool := path.components.head? = some "/"

/-- The path as seen from a directory. -/
def within (path dir : Path) : Path :=
  if path.isAbsolute then path else ⟨dir.components ++ path.components⟩

/-- The path with steps to the parent taken; the root is its own parent. -/
def normalize (path : Path) : Path :=
  ⟨(path.components.foldl (fun reversed component =>
    if component = "." then reversed
    else if component = ".." then (if reversed = ["/"] then reversed else reversed.drop 1)
    else component :: reversed) []).reverse⟩

/-- The text of a path inside a directory. -/
def join (dir name : String) : String :=
  if dir.isEmpty || dir.toList.getLast? = some '/' then dir ++ name else dir ++ "/" ++ name

/-- The last name has an extension, that is something before it. -/
def hasExtension (extension : String) (path : Path) : Bool :=
  path.components.getLast?.any fun name =>
    (Text.before? ("." ++ extension) name).any fun stem => !stem.isEmpty

end Path

end ApiSchema
