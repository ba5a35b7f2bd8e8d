import StepCommand.Template

namespace StepCommand.Template

instance : Coe String Node := ⟨Node.text⟩

def tabs (n : Nat) : String := String.ofList (List.replicate n '\t')

def line (indentation : Nat) (s : String) : String := tabs indentation ++ s ++ "\n"

-- Lines without places to fill.
def block (lines : List String) : Node := .text (String.join lines)

namespace Path

def field (name : String) : Path := ⟨name, .value 0 [name]⟩

def ofRecord (name : String) : Path := ⟨"@root." ++ name, .record [name]⟩

def this : Path := ⟨"this", .value 0 []⟩

def last : Path := ⟨"@last", .position 0 "last"⟩

end Path

def field (name : String) : Node := .print (.path (.field name))

-- A field of the whole record, inside a repeated part.
def rootField (name : String) : Node := .print (.path (.ofRecord name))

-- The item of a repeated part.
def item : Node := .print (.path .this)

def apply (helper name : String) : Node := .call helper [.path (.field name)]

def applyItem (helper : String) : Node := .call helper [.path .this]

def when (name : String) (body : Template) : Node := .ifTrue (.path (.field name)) body

def forEach (name : String) (body : Template) : Node := .each (.path (.field name)) body

-- Stands between the repetitions of a part, not after the last one.
def separator (s : String) : Node := .ifFalse (.path .last) [.text s]

end StepCommand.Template
