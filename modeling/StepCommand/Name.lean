import StepCommand.Text.Edit
import StepCommand.Text.Uppercase

namespace StepCommand.Name

open Text (isAlphabetic isWordChar replaceAll trim upper)

-- Words that are written in capitals, in the order in which they are looked for.
def acronyms : List (String × String) := [
  ("Api", "API"),
  ("api", "API"),
  ("Url", "URL"),
  ("Id", "ID"),
  ("Json", "JSON"),
  ("json", "JSON"),
  ("Tls", "TLS")]

def capitalizeAcronyms (name : String) : String :=
  acronyms.foldl (fun s entry => replaceAll entry.1 entry.2 s) name

def titleFrom : Bool → List Char → List Char
  | _, [] => []
  | atStart, c :: rest => (if atStart then upper c else [c]) ++ titleFrom (!isWordChar c) rest

-- Upper case for the first character of each word.
def title (s : String) : String := String.ofList (titleFrom true s.toList)

-- The exported identifier for a name.
def exported (name : String) : String := title (capitalizeAcronyms name)

-- A backquote cannot stand in a raw string, so it is joined on as a string of its own.
def rawText (s : String) : String :=
  String.ofList (trim (replaceAll "`" "` + \"`\" + `" s).toList)

-- The type of a member of a resource: text, unless it is declared.
def memberType (kind : Option String) : String :=
  match kind with
  | none => "string"
  | some kind => if kind = "" ∨ kind = "<nil>" then "string" else kind

def isIdentifier (name : String) : Bool :=
  match name.toList with
  | [] => false
  | first :: rest => (isAlphabetic first || first == '_') && rest.all isWordChar

end StepCommand.Name
