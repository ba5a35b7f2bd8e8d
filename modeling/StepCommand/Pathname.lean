import StepCommand.Text.Edit

namespace StepCommand.Pathname

def isAbsolute (path : String) : Bool := path.toList.head? == some '/'

def endsInSlash (path : String) : Bool := path.toList.getLast? == some '/'

-- The names between the slashes.
def names (path : String) : List String :=
  ((Text.pieces '/' path.toList).filter (· ≠ [])).map String.ofList

-- A slash is put between a directory and a name in it, unless there is one already.
def join (directory name : String) : String :=
  if directory = "" ∨ endsInSlash directory then directory ++ name else directory ++ "/" ++ name

-- What follows the last dot of a name. A name that starts with its only dot has no extension.
def extension? (name : String) : Option String :=
  match Text.cutAt '.' name.toList.reverse with
  | some (last, first) => if first = [] then none else some (String.ofList last.reverse)
  | none => none

-- A single dot matters only in front of a path that is not absolute.
def steps (path : String) : List String :=
  match names path with
  | [] => []
  | first :: rest =>
      let inner := rest.filter (· ≠ ".")
      if first = "." ∧ isAbsolute path then inner else first :: inner

-- The directories on the way to a path, the innermost first.
def parents (path : String) : List String :=
  let root := if isAbsolute path then "/" else ""
  (List.range (steps path).length).tail.reverse.map fun count =>
    root ++ "/".intercalate ((steps path).take count)

end StepCommand.Pathname
