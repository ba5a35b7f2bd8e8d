import StepCommand.Failure
import StepCommand.Report
import StepCommand.Storage

namespace StepCommand

-- A file that its reader goes on with is made only if it does not exist.
inductive Policy where
  | overwrite
  | createOnly
deriving DecidableEq, Repr

structure Artifact where
  path : String
  content : String
  policy : Policy
deriving DecidableEq, Repr

namespace Artifact

variable {σ : Type} [Storage σ]

def isKept (a : Artifact) (s : σ) : Bool :=
  a.policy = .createOnly && Storage.exists? s a.path

def write (a : Artifact) (s : σ) : Except Failure Status × σ :=
  if a.isKept s then (.ok .kept, s)
  else
    match Storage.write s a.path a.content.toUTF8 with
    | (.ok (), written) => (.ok .written, written)
    | (.error cause, left) => (.error (.fileSystem a.path cause), left)

end Artifact

end StepCommand
