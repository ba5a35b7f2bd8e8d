namespace StepCommand.CommandLine.Help

def version : String := "stepgen 0.1.0\n"

-- An option with its short text, and what only the long help adds.
structure Topic where
  invocation : String
  text : String
  remark : Option String := none

def metadataText : String := "Directory searched recursively for `.yaml` metadata files"

def topics : List Topic := [
  ⟨"    --metadata-dir <METADATA_DIR>", metadataText, some "[default: ./resources/metadata]"⟩,
  ⟨"    --target-dir <TARGET_DIR>",
    "Directory the Go sources are written to. Defaults to ./cmd", none⟩,
  ⟨"    --export-prefix <EXPORT_PREFIX>",
    "Package alias under which the generated code reaches shared identifiers of the " ++
      "command package",
    none⟩,
  ⟨"    --no-color", "Disable colored output and use plain text", none⟩,
  ⟨"    --print-schema", "Print the JSON schema of the metadata format and exit", none⟩]

def about : String := "Generates Go step commands from YAML metadata files"

def longAbout : String :=
  "Every `.yaml` file below the metadata directory describes one step. For each step the " ++
    "generator writes `<step>_generated.go` and `<step>_generated_test.go` (always regenerated) " ++
    "plus `<step>.go` and `<step>_test.go` implementation stubs (only created when missing), " ++
    "and finally `metadata_generated.go` listing all steps."

def usageLine : String := "Usage: stepgen [OPTIONS]"

def usage : String := usageLine ++ "\n\nOptions:\n"

def pad (width : Nat) (s : String) : String :=
  s ++ String.ofList (List.replicate (width - s.length) ' ')

-- Every program has these; `other` is how to ask for the other help.
def common (other : String) : List Topic := [
  ⟨"-h, --help", "Print help (see " ++ other ++ ")", none⟩,
  ⟨"-V, --version", "Print version", none⟩]

-- The texts of the short help stand in one column.
def column : Nat := (topics.map fun t => t.invocation.length).foldl max 0

def shortTopic (t : Topic) : String :=
  "  " ++ pad column t.invocation ++ "  " ++ t.text ++
    (t.remark.map fun s => " " ++ s).getD "" ++ "\n"

def short : String :=
  "Generates step commands from metadata files\n\n" ++ usage ++
    String.join ((topics ++ common "more with '--help'").map shortTopic)

def indented (s : String) : String := "          " ++ s ++ "\n"

def longTopic (t : Topic) : String :=
  "  " ++ t.invocation ++ "\n" ++ indented t.text ++
    (t.remark.map fun s => indented "" ++ indented s).getD ""

def long : String :=
  about ++ "\n\n" ++ longAbout ++ "\n\n" ++ usage ++
    "\n".intercalate ((topics ++ common "a summary with '-h'").map longTopic)

end StepCommand.CommandLine.Help
