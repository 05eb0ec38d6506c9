import ApiSchema.CommandLine

/-! The program: reads the files that the arguments name and writes the document. -/

namespace ApiSchema

/-- All files and directories below a path. -/
partial def gather (path : String) : IO (List (Path × Option String)) := do
  let place := (← IO.currentDir) / path
  if ← place.isDir then
    let mut entries := [((Path.ofString path).normalize, none)]
    for entry in ← place.readDir do
      entries := entries ++ (← gather (Path.join path entry.fileName))
    return entries
  else if ← place.pathExists then
    return [((Path.ofString path).normalize, some (← IO.FS.readFile place))]
  else return []

/-- The part of the file system that a run may look at. -/
def gatherFor (a : CommandLine.Arguments) : IO Tree := do
  let dirs := [a.projectPath, a.operations] ++ a.dependencies.map Prod.snd ++ a.searchDirs
  let found ← dirs.mapM gather
  return { entries := found.flatten }

def fail (message : String) : IO UInt32 := do
  IO.eprintln ("Error: " ++ message)
  return 1

def writeDocument (outputPath : Option String) (text : String) : IO Unit :=
  match outputPath with
  | none => IO.println text
  | some path => do
    IO.FS.createDirAll (CommandLine.parent path)
    IO.FS.writeFile path text

end ApiSchema

open ApiSchema in
def main (args : List String) : IO UInt32 := do
  match CommandLine.parse args with
  | .error .displayHelp =>
    IO.println "Usage: api-schema [OPTIONS] --operations <FILE> <PROJECT_PATH>"
    return 0
  | .error .displayVersion =>
    IO.println "api-schema 1.0.0"
    return 0
  | .error _ =>
    IO.eprintln "Usage: api-schema [OPTIONS] --operations <FILE> <PROJECT_PATH>"
    return 2
  | .ok a =>
    let tree ← gatherFor a
    match CommandLine.validate tree a, CommandLine.run tree a with
    | .error message, _ => fail message
    | .ok _, .error message => fail message
    | .ok _, .ok text =>
      writeDocument a.outputPath text
      return 0
