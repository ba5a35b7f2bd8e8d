import StepCommand.Failure

namespace StepCommand.Discovery

def isMetadata (name : String) : Bool := Pathname.extension? name = some "yaml"

-- A longer path is not looked up, so that a directory there is taken for a file.
def isShort (path : String) : Bool := path.utf8ByteSize < Disk.maxPath

mutual

-- The metadata files at a path, in the order of the names on their ways.
def found (path name : String) : FileTree → List String
  | .file _ => if isMetadata name then [path] else []
  | .directory entries =>
      if isShort path then ((foundIn path entries).mergeSort Value.byKey).flatMap Prod.snd
      else if isMetadata name then [path] else []

def foundIn (directory : String) : List (String × FileTree) → List (String × List String)
  | [] => []
  | (name, tree) :: rest =>
      (name, found (Pathname.join directory name) name tree) :: foundIn directory rest

end

def metadataFiles (disk : Disk) (directory : String) : Except Failure (List String) :=
  match disk.entries directory with
  | .ok entries => .ok (found directory "" (.directory entries))
  | .error cause => .error (.fileSystem directory cause)

end StepCommand.Discovery
