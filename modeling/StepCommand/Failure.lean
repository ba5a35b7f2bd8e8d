import StepCommand.Disk
import StepCommand.Template.Helper
import StepCommand.Yaml.Problem

namespace StepCommand

-- `malformedResource` says which entry of a resource cannot be named in the generated sources.
inductive Failure where
  | fileSystem (path : String) (cause : Disk.Cause)
  | parse (path : String) (problem : Yaml.Problem)
  | unknownParameterType (parameter kind : String)
  | invalidStepName (name : String)
  | malformedResource (resource reason : String)
  | template (name : String)
  | render (name : String) (fault : Template.Fault)

namespace Failure

def text : Failure → String
  | fileSystem path cause => "File system error at path '" ++ path ++ "': " ++ cause.text
  | parse path problem =>
      "Failed to parse metadata file '" ++ path ++ "': " ++ problem.text
  | unknownParameterType parameter kind =>
      "Unknown parameter type '" ++ kind ++ "' for parameter '" ++ parameter ++ "'"
  | invalidStepName name => "Invalid step name '" ++ name ++ "': expected a Go identifier"
  | malformedResource resource reason =>
      "Malformed output resource '" ++ resource ++ "': " ++ reason
  | template name => "Failed to parse template '" ++ name ++ "'"
  | render name fault => "Failed to render template '" ++ name ++ "': " ++ fault.text

-- What lies behind a failure, where that is a fault of its own.
def cause? : Failure → Option String
  | fileSystem _ cause => some cause.text
  | parse _ problem => some problem.text
  | render _ fault => some fault.text
  | _ => none

end Failure

end StepCommand
