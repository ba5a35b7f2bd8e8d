import StepCommand.Generator

namespace StepCommand

structure Generator.Settings where
  target : Option String := none
  exportPrefix : Option String := none
deriving DecidableEq, Repr

namespace Generator.Settings

def defaultTarget : String := "./cmd"

-- Without a directory the one that is set already stands.
def withTarget (s : Settings) (target : Option String) : Settings :=
  { s with target := target.or s.target }

-- An empty prefix counts as none.
def withExportPrefix (s : Settings) (exportPrefix : Option String) : Settings :=
  { s with exportPrefix := exportPrefix.filter (· ≠ "") }

def directory (s : Settings) : String := s.target.getD defaultTarget

-- The target directory is made if it is missing.
def generator (s : Settings) : Run Generator := ExceptT.mk fun disk =>
  match disk.makeDirectories s.directory with
  | (.ok _, made) => (.ok ⟨s.directory, s.exportPrefix⟩, made)
  | (.error cause, made) => (.error (.fileSystem s.directory cause), made)

end Generator.Settings

end StepCommand
