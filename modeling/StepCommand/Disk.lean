import StepCommand.FileTree
import StepCommand.Pathname

namespace StepCommand

-- Files read and written by their paths. Paths that are not absolute start at the working
-- directory. There are no links here, names are Unicode texts, everything may be read and
-- written, and a write is done or not done: a `Volume` has links and permissions, and writes
-- that break off.
structure Disk where
  root : FileTree
  here : Location

namespace Disk

-- Those after `invalidText` are met on a `Volume` only.
inductive Cause where
  | notFound
  | exists
  | notDirectory
  | isDirectory
  | nameTooLong
  | invalidText
  | tooManyLinks
  | denied
  | inputOutput
  | fileTooLarge
  | noSpace
  | overQuota
deriving DecidableEq, Repr

def Cause.text : Cause → String
  | notFound => "No such file or directory (os error 2)"
  | «exists» => "File exists (os error 17)"
  | notDirectory => "Not a directory (os error 20)"
  | isDirectory => "Is a directory (os error 21)"
  | nameTooLong => "File name too long (os error 36)"
  | invalidText => "stream did not contain valid UTF-8"
  | tooManyLinks => "Too many levels of symbolic links (os error 40)"
  | denied => "Permission denied (os error 13)"
  | inputOutput => "Input/output error (os error 5)"
  | fileTooLarge => "File too large (os error 27)"
  | noSpace => "No space left on device (os error 28)"
  | overQuota => "Disk quota exceeded (os error 122)"

-- The longest name, and the length that a path stays below, in bytes.
def maxName : Nat := 255

def maxPath : Nat := 4096

def entriesAt (root : FileTree) (location : Location) :
    Except Cause (List (String × FileTree)) :=
  match root.find? location with
  | some (.directory entries) => .ok entries
  | some (.file _) => .error .notDirectory
  | none => .error .notFound

def find (entries : List (String × FileTree)) (name : String) :
    Except Cause (Option FileTree) :=
  if name.utf8ByteSize > maxName then .error .nameTooLong else .ok (entries.lookup name)

-- One name of a path leads from a directory into it, or out of it.
def step (root : FileTree) (location : Location) (name : String) : Except Cause Location := do
  let entries ← entriesAt root location
  if name = "." then return location
  if name = ".." then return location.dropLast
  match ← find entries name with
  | some _ => return location ++ [name]
  | none => throw .notFound

def walk (root : FileTree) : Location → List String → Except Cause Location
  | location, [] => .ok location
  | location, name :: rest => do walk root (← step root location name) rest

-- Where a path starts.
def start (disk : Disk) (path : String) : Except Cause Location :=
  if path = "" then .error .notFound
  else if path.utf8ByteSize ≥ maxPath then .error .nameTooLong
  else .ok (if Pathname.isAbsolute path then [] else disk.here)

-- A slash at the end of a path asks for a directory.
def locate (disk : Disk) (path : String) : Except Cause FileTree := do
  let location ← walk disk.root (← disk.start path) (Pathname.names path)
  match disk.root.find? location with
  | some tree =>
      if Pathname.endsInSlash path && !tree.isDirectory then throw .notDirectory
      return tree
  | none => throw .notFound

def exists? (disk : Disk) (path : String) : Bool := (disk.locate path).isOk

def isDirectory? (disk : Disk) (path : String) : Bool :=
  match disk.locate path with
  | .ok tree => tree.isDirectory
  | .error _ => false

def read (disk : Disk) (path : String) : Except Cause ByteArray := do
  match ← disk.locate path with
  | .file content => return content
  | .directory _ => throw .isDirectory

def readText (disk : Disk) (path : String) : Except Cause String := do
  match String.fromUTF8? (← disk.read path) with
  | some text => return text
  | none => throw .invalidText

def entries (disk : Disk) (path : String) : Except Cause (List (String × FileTree)) := do
  match ← disk.locate path with
  | .directory entries => return entries
  | .file _ => throw .notDirectory

-- The directory that the last name of a path is looked up in, and that name, if it can name
-- a new file.
def place (disk : Disk) (path : String) :
    Except Cause (Location × List (String × FileTree) × Option String) := do
  let names := Pathname.names path
  let location ← walk disk.root (← disk.start path) names.dropLast
  let entries ← entriesAt disk.root location
  return (location, entries, names.getLast?.filter fun name => name ≠ "." ∧ name ≠ "..")

def put (disk : Disk) (location : Location) (tree : FileTree) : Disk :=
  { disk with root := disk.root.put location tree }

def write (disk : Disk) (path : String) (content : ByteArray) : Except Cause Disk := do
  match ← disk.place path with
  | (location, entries, some name) =>
      if Pathname.endsInSlash path then throw .isDirectory
      match ← find entries name with
      | some (.directory _) => throw .isDirectory
      | _ => return disk.put (location ++ [name]) (.file content)
  | (_, _, none) => throw .isDirectory

def makeDirectory (disk : Disk) (path : String) : Except Cause Disk := do
  match ← disk.place path with
  | (location, entries, some name) =>
      match ← find entries name with
      | some _ => throw .exists
      | none => return disk.put (location ++ [name]) (.directory [])
  | (_, _, none) => throw .exists

-- Makes the first directory of the list; if it has nowhere to stand, the others are made before.
def makeAll (disk : Disk) : List String → Except Cause Unit × Disk
  | [] => (.ok (), disk)
  | path :: outer =>
      match disk.makeDirectory path with
      | .ok made => (.ok (), made)
      | .error .notFound =>
          match makeAll disk outer with
          | (.ok _, made) => again made path
          | failed => failed
      | .error .exists =>
          (if disk.isDirectory? path then .ok () else .error .exists, disk)
      | .error cause => (.error cause, disk)
where
  again (disk : Disk) (path : String) : Except Cause Unit × Disk :=
    match disk.makeDirectory path with
    | .ok made => (.ok (), made)
    | .error cause =>
        (if cause = .exists ∧ disk.isDirectory? path then .ok () else .error cause, disk)

-- Makes a directory and the directories on the way to it, where they are missing.
def makeDirectories (disk : Disk) (path : String) : Except Cause Unit × Disk :=
  if path = "" ∨ Pathname.steps path = [] then (.ok (), disk)
  else disk.makeAll (path :: Pathname.parents path)

-- Removes a file, or a directory with all that is in it. No run removes anything: this is what
-- may be done to generated files between two runs.
def remove (disk : Disk) (path : String) : Option Disk :=
  match disk.place path with
  | .ok (location, entries, some name) =>
      if (entries.lookup name).isSome then
        some { disk with root := disk.root.remove (location ++ [name]) }
      else none
  | _ => none

-- All that is in the working directory. No run looks for more than the entries of one directory
-- at a time: this is what is seen of a run from outside.
def listing (disk : Disk) : List String :=
  match disk.root.find? disk.here with
  | some tree => (tree.listing "").mergeSort fun a b => decide (a ≤ b)
  | none => []

end Disk

end StepCommand
