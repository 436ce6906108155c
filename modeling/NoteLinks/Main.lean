import NoteLinks.CommandLine

/-!
# The program

The program takes a picture of the files that its arguments name and of the directory of the public
files, runs the command on it, and writes the files that the command has changed. It is built for a
registry of MIME types.
-/

namespace NoteLinks.Program

/-! ### A picture of the files -/
section Files

def pathText (t : Text) : String := Text.asString t

/-- The file system with a node where the path leads, unless something is there or its directory is
not. -/
def add (fs : FileSystem) (path : Text) (node : FileNode) : FileSystem :=
  match fs.openAt true path with
  | .error _ => fs
  | .ok place => if (fs.node? place).isSome then fs else fs.put place node

/-- The file system with the file or the directory that a path leads to, and the directories on the
way. -/
def addPath (fs : FileSystem) (path : Text) : IO FileSystem := do
  let names := FileSystem.names path
  let mut fs := fs
  for n in List.range names.length do
    let part := Text.join "/" (names.take (n + 1))
    try
      if ← (← IO.FS.realPath (pathText part)).isDir then fs := add fs part .directory
      else fs := add fs part (.file (← IO.FS.readBinFile (pathText part)).toList)
    catch _ => pure ()
  return fs

/-- The file system with all that lies in a directory; files are without their content. -/
partial def addTree (fs : FileSystem) (path : Text) : IO FileSystem := do
  let mut fs ← addPath fs path
  for entry in ← (← IO.FS.realPath (pathText path)).readDir do
    let inner := path ++ "/" ++ entry.fileName.toList
    match (← entry.path.symlinkMetadata).type with
    | .dir => fs ← addTree (add fs inner .directory) inner
    | .symlink =>
      try
        let target := (← IO.FS.realPath entry.path).toString.toList
        fs ← addPath (add fs inner (.link target)) target
      catch _ => pure ()
    | _ => fs := add fs inner (.file [])
  return fs

/-- The files that an invocation can see. -/
def picture (i : CommandLine.Invocation) : IO FileSystem := do
  let current := (← IO.currentDir).toString.toList
  let mut fs ← addPath .empty current
  fs := { fs with current := (FileSystem.names current).filter (· != []) }
  for path in i.paths do
    fs ← addPath fs path
  match i.sandboxRoot? fs with
  | none => return fs
  | some root => try addTree fs root catch _ => return fs

end Files

/-! ### Input and output -/
section Streams

/-- All bytes of a stream, after those already read. -/
partial def readAll (stream : IO.FS.Stream) (before : ByteArray) : IO ByteArray := do
  let chunk ← stream.read 65536
  if chunk.isEmpty then return before else readAll stream (before ++ chunk)

/-- Writes the files whose content has changed. -/
def writeChanges (paths : List Text) (before after : FileSystem) : IO Unit := do
  for path in paths do
    match after.readBytes path with
    | .error _ => pure ()
    | .ok content =>
      unless (before.readBytes path).toOption = some content do
        IO.FS.writeBinFile (pathText path) ⟨content.toArray⟩

end Streams

/-- Runs the program with its arguments. -/
def run (registry : MimeRegistry) (arguments : List String) : IO UInt32 := do
  let configVariable := (← IO.getEnv "TREEMARK_CONFIG").map String.toList
  let arguments := arguments.map String.toList
  let invocation := (CommandLine.read configVariable arguments).toOption
  let paths := (invocation.map CommandLine.Invocation.paths).getD []
  let fs ← (invocation.map picture).getD (pure .empty)
  let stdin ←
    if paths.any CommandLine.isStandardInput then readAll (← IO.getStdin) .empty
    else pure .empty
  let outcome := CommandLine.run registry fs configVariable stdin.toList arguments
  writeChanges paths fs outcome.files
  IO.print (Text.asString outcome.output)
  IO.eprint (Text.asString outcome.errors)
  return UInt32.ofNat outcome.exitCode

end NoteLinks.Program
