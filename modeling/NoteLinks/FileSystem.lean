import NoteLinks.Utf8

/-!
# File systems

A file system is a finite tree of directories, files and symbolic links. A path is followed name by
name from the root: `.` and an empty name stay in a directory, `..` goes to its parent, and a
symbolic link is replaced by its target. A path that needs more than forty links is given up, so
links that lead in a circle are an error like any other. A name and the path to an opened file have
a greatest length.
-/

namespace NoteLinks

/-- What stands under a name in a directory. -/
inductive FileNode where
  | directory
  | file (content : Utf8.Bytes)
  | link (target : Text)
deriving DecidableEq, Repr

/-- Why a file cannot be reached, read or written. -/
inductive FileFault where
  | notFound
  | notDirectory
  | isDirectory
  | nameTooLong
  | linkLoop
  | nullCharacter
  | invalidText
deriving DecidableEq, Repr

namespace FileFault

/-- The fault in the words of the operating system. -/
def message : FileFault → Text
  | notFound => "No such file or directory (os error 2)"
  | notDirectory => "Not a directory (os error 20)"
  | isDirectory => "Is a directory (os error 21)"
  | nameTooLong => "File name too long (os error 36)"
  | linkLoop => "Too many levels of symbolic links (os error 40)"
  | nullCharacter => "file name contained an unexpected NUL byte"
  | invalidText => "stream did not contain valid UTF-8"

end FileFault

/-- The nodes of the tree by their places. The root is a directory and not listed. -/
structure FileSystem where
  nodes : List (List Text × FileNode)
  /-- The place where relative paths begin. -/
  current : List Text
deriving DecidableEq, Repr

namespace FileSystem

/-- The file system with nothing in its root. -/
def empty : FileSystem := ⟨[], []⟩

def node? (fs : FileSystem) (place : List Text) : Option FileNode :=
  if place = [] then some .directory else (fs.nodes.find? (·.1 == place)).map (·.2)

def isDirectory (fs : FileSystem) (place : List Text) : Bool :=
  fs.node? place == some .directory

/-! ### Paths -/
section Paths

/-- The names of a path between its slashes. -/
def names (path : Text) : List Text := Text.splitAt '/' path

def isAbsolute (path : Text) : Bool := path.head? == some '/'

def pathOf (place : List Text) : Text := "/" ++ Text.join "/" place

/-- The number of symbolic links that one path may lead through. -/
def maxLinks : Nat := 40

/-- The greatest number of bytes of a name. -/
def maxName : Nat := 255

/-- The greatest number of bytes of a path at which something is opened. -/
def maxPath : Nat := 4095

def isLongName (name : Text) : Bool := maxName < (Utf8.encode name).length

/-- Follows names from a place; `links` more symbolic links may be taken. To write a file
(`forWriting`), the last name need not exist, and no slash can follow it. -/
def walk (fs : FileSystem) (forWriting : Bool) (links : Nat) (place : List Text) :
    List Text → Except FileFault (List Text)
  | [] => .ok place
  | name :: rest =>
    if !fs.isDirectory place then .error .notDirectory
    else if name = [] ∨ name = "." then walk fs forWriting links place rest
    else if name = ".." then walk fs forWriting links place.dropLast rest
    -- what stands before a slash at the end has to be a directory, which cannot be written to
    else if forWriting ∧ rest ≠ [] ∧ rest.all (· == []) then .error .isDirectory
    else if name.contains (Char.ofNat 0) then .error .nullCharacter
    else if isLongName name then .error .nameTooLong
    else
      match fs.node? (place ++ [name]) with
      | none => if forWriting ∧ rest = [] then .ok (place ++ [name]) else .error .notFound
      | some (.link target) =>
        match links with
        | 0 => .error .linkLoop
        | links + 1 =>
          -- the names of the link are followed before those that come after it
          walk fs forWriting links (if isAbsolute target then [] else place) (names target ++ rest)
      | some _ => walk fs forWriting links (place ++ [name]) rest
termination_by ahead => (links, ahead.length)

/-- The place where a path begins. -/
def start (fs : FileSystem) (path : Text) : List Text := if isAbsolute path then [] else fs.current

/-- The place that a path leads to, without symbolic links. -/
def canonical (fs : FileSystem) (path : Text) : Except FileFault (List Text) :=
  if path.contains (Char.ofNat 0) then .error .nullCharacter
  else if path = [] then .error .notFound
  else fs.walk false maxLinks (fs.start path) (names path)

/-- The place where a path is opened, to be read or written. -/
def openAt (fs : FileSystem) (forWriting : Bool) (path : Text) : Except FileFault (List Text) :=
  if path.contains (Char.ofNat 0) then .error .nullCharacter
  else if maxPath < (Utf8.encode path).length then .error .nameTooLong
  else if path = [] then .error .notFound
  else fs.walk forWriting maxLinks (fs.start path) (names path)

def pathExists (fs : FileSystem) (path : Text) : Bool := (fs.openAt false path).toOption.isSome

def isFileAt (fs : FileSystem) (place : List Text) : Bool :=
  match fs.node? place with
  | some (.file _) => true
  | _ => false

def isFile (fs : FileSystem) (path : Text) : Bool :=
  match fs.openAt false path with
  | .ok place => fs.isFileAt place
  | .error _ => false

end Paths

/-! ### Reading and writing -/
section Content

def readBytes (fs : FileSystem) (path : Text) : Except FileFault Utf8.Bytes := do
  match fs.node? (← fs.openAt false path) with
  | some (.file content) => .ok content
  | some .directory => .error .isDirectory
  | _ => .error .notFound

def readText (fs : FileSystem) (path : Text) : Except FileFault Text := do
  match Utf8.decode? (← fs.readBytes path) with
  | some t => .ok t
  | none => .error .invalidText

/-- The nodes with `node` at a place. -/
def setNode (place : List Text) (node : FileNode) :
    List (List Text × FileNode) → List (List Text × FileNode)
  | [] => [(place, node)]
  | e :: es => if e.1 = place then (place, node) :: es else e :: setNode place node es

/-- The file system with a node at a place. -/
def put (fs : FileSystem) (place : List Text) (node : FileNode) : FileSystem :=
  { fs with nodes := setNode place node fs.nodes }

/-- The file system with directories at a place and on the way to it, where there is nothing yet. -/
def makeDirectories (fs : FileSystem) (place : List Text) : FileSystem :=
  (List.range (place.length + 1)).foldl
    (fun fs n => if (fs.node? (place.take n)).isSome then fs else fs.put (place.take n) .directory)
    fs

/-- The file system after the file that a path leads to was given new content. A file that does not
exist comes into being if its directory exists. -/
def writeBytes (fs : FileSystem) (path : Text) (content : Utf8.Bytes) :
    Except FileFault FileSystem := do
  let place ← fs.openAt true path
  if fs.isDirectory place then .error .isDirectory else .ok (fs.put place (.file content))

end Content

end FileSystem

end NoteLinks
