import StepCommand.Name
import StepCommand.ParameterType
import StepCommand.Template.Condition
import StepCommand.Template.Fault
import StepCommand.Unique

namespace StepCommand.Template

-- An argument: its value, if it has one, and the path that leads there, if it is one.
structure Given where
  path : Option String
  value : Option Value

-- The functions on the values of a step, and those that every template may call. A function that
-- stands for a part gives an empty text when it is called without a body.
inductive Helper where
  | exported
  | setter
  | rawText
  | title
  | unique
  | condition
  | repetition
  | scope
  | nothing
  | member
  | comparison (c : Comparison)
  | all
  | any
  | negation
  | size
deriving DecidableEq, Repr

-- The sets of functions that a template may be given.
inductive Table where
  | empty
  | step
  | implementation
deriving DecidableEq, Repr

def Table.entries : Table → List (String × Helper)
  | empty => []
  | implementation => [("title", .title), ("uniqueName", .unique)]
  | step => [("golangName", .exported), ("flagType", .setter), ("longName", .rawText),
      ("title", .title), ("uniqueName", .unique)]

-- The functions of all tables.
def Table.general : List (String × Helper) := [
  ("if", .condition), ("unless", .condition), ("each", .repetition), ("with", .scope),
  ("lookup", .member), ("raw", .nothing), ("log", .nothing), ("eq", .comparison .equal),
  ("ne", .comparison .unequal), ("gt", .comparison .greater),
  ("gte", .comparison .greaterOrEqual), ("lt", .comparison .less),
  ("lte", .comparison .lessOrEqual), ("and", .all), ("or", .any), ("not", .negation),
  ("len", .size)]

def Table.helper? (table : Table) (name : String) : Option Helper :=
  (table.entries ++ general).lookup name

-- The name in a value that is a record; values without a name share one key.
def nameOf (v : Value) : Option String :=
  match v.field? "name" with
  | some (.text s) => some s
  | _ => none

def Comparison.name : Comparison → String
  | equal => "eq"
  | unequal => "ne"
  | greater => "gt"
  | greaterOrEqual => "gte"
  | less => "lt"
  | lessOrEqual => "lte"

namespace Helper

def onText (helper argument : String) (f : String → String) : Option Value →
    Except Fault Value
  | none => .error (.missingArgument helper argument)
  | some (.text s) => .ok (.text (f s))
  | some _ => .error (.argumentType helper argument "str")

-- What is no text has no type either.
def setterOf (argument : Option Value) : Except Fault Value :=
  let tag := match argument with
    | some (.text s) => s
    | _ => ""
  match ParameterType.ofTag? tag with
  | some kind => .ok (.text kind.setter)
  | none => .error (.unknownType tag)

def uniqueItems : Option Value → Except Fault Value
  | none => .error (.missingArgument "unique_name_helper" "parameters")
  | some (.list items) => .ok (.list (uniqueBy nameOf items))
  | some _ => .error (.argumentType "unique_name_helper" "parameters" "array")

-- How many items or entries there are; the size of a text is that of its encoding.
def sizeOf : Option Value → Except Fault Value
  | none => .error (.missingArgument "len" "x")
  | some (.list items) => .ok (.int items.length)
  | some (.object entries) => .ok (.int entries.length)
  | some (.text s) => .ok (.int s.utf8ByteSize)
  | some _ => .ok (.int 0)

-- What has no value counts as nothing here.
def valueAt (helper : String) (given : List Given) (index : Nat) : Except Fault Value :=
  match given[index]? with
  | some g => .ok (g.value.getD .null)
  | none => .error (.missingAt helper index)

def bothTrue (given : List Given) : Except Fault Value := do
  let first ← valueAt "and" given 0
  let second ← valueAt "and" given 1
  return .bool (isTrue (some first) && isTrue (some second))

def eitherTrue (given : List Given) : Except Fault Value := do
  let first ← valueAt "or" given 0
  let second ← valueAt "or" given 1
  return .bool (isTrue (some first) || isTrue (some second))

def comparedBy (c : Comparison) (given : List Given) : Except Fault Value :=
  match given[0]?.bind Given.value, given[1]?.bind Given.value with
  | none, _ => .error (.missingArgument c.name "x")
  | some _, none => .error (.missingArgument c.name "y")
  | some a, some b => .ok (.bool (c.holds a b))

def memberOf (collection key : Value) : Option Value :=
  match collection, key with
  | .list items, .int n => if 0 ≤ n then items[n.toNat]? else none
  | .object entries, .text name => entries.lookup name
  | _, _ => none

def memberAt (given : List Given) : Except Fault Value := do
  match memberOf (← valueAt "lookup" given 0) (← valueAt "lookup" given 1) with
  | some value => .ok value
  | none => .error (.missingVariable none)

def enter : List Given → Except Fault Value
  | [] => .error (.missingAt "with" 0)
  | g :: _ => if isTrue g.value then .ok (.text "") else .error (.missingVariable g.path)

-- Arguments beyond those that a function takes do not count.
def apply (helper : Helper) (given : List Given) : Except Fault Value :=
  let first := given.head?.bind Given.value
  match helper with
  | exported => onText "golang_name_helper" "name" Name.exported first
  | setter => setterOf first
  | rawText => onText "long_name_helper" "long" Name.rawText first
  | title => onText "title_helper" "s" Name.title first
  | unique => uniqueItems first
  | condition => do
      let _ ← valueAt "if" given 0
      return .text ""
  | repetition => do
      let _ ← valueAt "each" given 0
      return .text ""
  | scope => enter given
  | nothing => .ok (.text "")
  | member => memberAt given
  | comparison c => comparedBy c given
  | all => bothTrue given
  | any => eitherTrue given
  | negation => do return .bool !isTrue (some (← valueAt "not" given 0))
  | size => sizeOf first

end Helper

end StepCommand.Template
