import StepCommand.Artifact
import StepCommand.Assembly
import StepCommand.Discovery
import StepCommand.Source.Command
import StepCommand.Source.CommandTest
import StepCommand.Source.Implementation
import StepCommand.Source.ImplementationTest
import StepCommand.Source.Registry
import StepCommand.Step.Metadata

namespace StepCommand

-- A run works on the files and leaves them changed, whether it succeeds or fails. Its first
-- failure ends it; what has been written before stays.
abbrev RunOn (σ : Type) := ExceptT Failure (StateM σ)

abbrev Run := RunOn Disk

-- A file that is generated for every step.
structure SourceFile where
  suffix : String
  template : Template
  table : Template.Table
  policy : Policy

namespace SourceFile

def command : SourceFile := ⟨"_generated.go", Source.Command.template, .step, .overwrite⟩

def commandTest : SourceFile :=
  ⟨"_generated_test.go", Source.CommandTest.template, .step, .overwrite⟩

def implementation : SourceFile :=
  ⟨".go", Source.Implementation.template, .implementation, .createOnly⟩

def implementationTest : SourceFile :=
  ⟨"_test.go", Source.ImplementationTest.template, .implementation, .createOnly⟩

def all : List SourceFile := [command, commandTest, implementation, implementationTest]

def fileName (file : SourceFile) (stepName : String) : String := stepName ++ file.suffix

def content (file : SourceFile) (a : Assembly) : Except Failure String :=
  Template.fill (file.fileName a.step.name) file.table file.template a.toValue

end SourceFile

structure Generator where
  target : String
  exportPrefix : Option String
deriving DecidableEq, Repr

namespace Generator

def path (g : Generator) (fileName : String) : String := Pathname.join g.target fileName

def artifact (g : Generator) (file : SourceFile) (a : Assembly) : Except Failure Artifact := do
  return ⟨g.path (file.fileName a.step.name), ← file.content a, file.policy⟩

def registry (g : Generator) (steps : List String) : Except Failure Artifact := do
  let content ← Template.fill Source.Registry.fileName .empty Source.Registry.template
    (Source.Registry.record steps)
  return ⟨g.path Source.Registry.fileName, content, .overwrite⟩

variable {σ : Type} [Storage σ]

-- Writes a file, and adds it to the report.
def emit (artifact : Except Failure Artifact) (r : Report) : RunOn σ Report := do
  let a ← liftM artifact
  return r.addOutcome ⟨a.path, ← ExceptT.mk (a.write)⟩

def emitAll (g : Generator) (a : Assembly) : List SourceFile → Report → RunOn σ Report
  | [], r => return r
  | file :: rest, r => do emitAll g a rest (← emit (g.artifact file a) r)

def readStep (path : String) (s : σ) : Except Failure Step :=
  match Storage.readText s path with
  | .error cause => .error (.fileSystem path cause)
  | .ok text => (Step.ofYaml text).mapError (Failure.parse path)

def readAssembly (g : Generator) (path : String) (s : σ) : Except Failure Assembly := do
  (← readStep path s).assemble g.exportPrefix

-- Generates the sources of the step that a metadata file describes.
def processFile (g : Generator) (path : String) (r : Report) : RunOn σ Report := do
  let a ← liftM (g.readAssembly path (← get))
  return (← emitAll g a SourceFile.all r).addStep a.step.name

def processAll (g : Generator) : List String → Report → RunOn σ Report
  | [], r => return r
  | path :: rest, r => do processAll g rest (← g.processFile path r)

-- After the sources of all steps comes the list of the steps.
def process (g : Generator) (paths : List String) : RunOn σ Report := do
  let r ← g.processAll paths {}
  emit (g.registry r.steps) r

def generate (g : Generator) (directory : String) : Run Report := do
  g.process (← liftM (Discovery.metadataFiles (← get) directory))

end Generator

end StepCommand
