import StepCommand.Storage

namespace StepCommand

-- What becomes of a write whose path is in order. One that breaks off leaves the file, made or
-- emptied when it was opened, with the bytes that came before.
inductive Fault where
  | refused (cause : Disk.Cause)
  | brokenOff (count : Nat) (cause : Disk.Cause)
deriving DecidableEq, Repr

-- A disk with symbolic links in its directories. There are no other links, and names are texts here
-- too. A link stands at a location of its own and hides what the disk has there; one that ends in a
-- slash asks for a directory. What is closed cannot be opened: a directory is not searched and a file
-- is neither read nor replaced. The faults are those of the writes to come, one after the other.
structure Volume where
  disk : Disk
  links : List (Location × String) := []
  closed : List (Location × Disk.Cause) := []
  faults : List (Option Fault) := []

namespace Volume

open Disk (Cause)

def maxLinks : Nat := 40

def enter (v : Volume) (location : Location) : Except Cause Unit := do
  let _ ← Disk.entriesAt v.disk.root location
  match v.closed.lookup location with
  | some cause => throw cause
  | none => return

-- The names that a link stands for.
def goal (link : String) : List String :=
  Pathname.names link ++ if Pathname.endsInSlash link then ["."] else []

-- Where names lead from a directory. The last of them need not be there.
def walk (v : Volume) (follow : Location → List String → Except Cause Location) :
    Location → List String → Except Cause Location
  | location, [] => .ok location
  | location, name :: rest => do
      v.enter location
      if name = "." then walk v follow location rest
      else if name = ".." then walk v follow location.dropLast rest
      else if name.utf8ByteSize > Disk.maxName then throw .nameTooLong
      else
        match v.links.lookup (location ++ [name]) with
        | some link => do
            let origin ← Disk.start { v.disk with here := location } link
            follow origin (goal link ++ rest)
        | none => walk v follow (location ++ [name]) rest

-- So many links may be followed on the way.
def follow (v : Volume) : Nat → Location → List String → Except Cause Location
  | 0 => v.walk fun _ _ => .error .tooManyLinks
  | count + 1 => v.walk (follow v count)

def resolve (v : Volume) (path : String) : Except Cause Location := do
  v.follow maxLinks (← v.disk.start path) (Pathname.names path)

def locate (v : Volume) (path : String) : Except Cause (Location × FileTree) := do
  let location ← v.resolve path
  match v.disk.root.find? location with
  | some tree =>
      if Pathname.endsInSlash path && !tree.isDirectory then throw .notDirectory
      return (location, tree)
  | none => throw .notFound

def exists? (v : Volume) (path : String) : Bool := (v.locate path).isOk

def readText (v : Volume) (path : String) : Except Cause String := do
  match ← v.locate path with
  | (location, .file content) =>
      match v.closed.lookup location with
      | some cause => throw cause
      | none =>
          match String.fromUTF8? content with
          | some text => return text
          | none => throw .invalidText
  | (_, .directory _) => throw .isDirectory

-- Where a file is written.
def place (v : Volume) (path : String) : Except Cause Location := do
  if Pathname.endsInSlash path then
    v.enter (← v.follow maxLinks (← v.disk.start path) (Pathname.names path).dropLast)
    throw .isDirectory
  else
    let location ← v.resolve path
    match v.disk.root.find? location, v.closed.lookup location with
    | some (.directory _), _ => throw .isDirectory
    | _, some cause => throw cause
    | _, none => return location

def put (v : Volume) (location : Location) (content : ByteArray) : Volume :=
  { v with disk := v.disk.put location (.file content) }

def write (v : Volume) (path : String) (content : ByteArray) : Except Cause Unit × Volume :=
  match v.place path with
  | .error cause => (.error cause, v)
  | .ok location =>
      let rest := { v with faults := v.faults.tail }
      match v.faults.head?.join with
      | none => (.ok (), rest.put location content)
      | some (.refused cause) => (.error cause, rest)
      | some (.brokenOff count cause) => (.error cause, rest.put location (content.extract 0 count))

end Volume

instance : Storage Volume := ⟨Volume.readText, Volume.exists?, Volume.write⟩

end StepCommand
