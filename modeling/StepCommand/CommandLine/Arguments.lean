import StepCommand.Text.Control
import StepCommand.Text.Edit

namespace StepCommand.CommandLine

-- The options that take a value.
inductive Setting where
  | metadata
  | target
  | exportPrefix
deriving DecidableEq, Repr

inductive Switch where
  | noColor
  | printSchema
deriving DecidableEq, Repr

inductive Shown where
  | help
  | summary
  | version
deriving DecidableEq, Repr

inductive Flag where
  | setting (s : Setting)
  | switch (s : Switch)
  | shown (s : Shown)
deriving DecidableEq, Repr

def flags : List (String × Flag) := [
  ("metadata-dir", .setting .metadata),
  ("target-dir", .setting .target),
  ("export-prefix", .setting .exportPrefix),
  ("no-color", .switch .noColor),
  ("print-schema", .switch .printSchema),
  ("help", .shown .help),
  ("version", .shown .version)]

def Setting.text : Setting → String
  | metadata => "--metadata-dir <METADATA_DIR>"
  | target => "--target-dir <TARGET_DIR>"
  | exportPrefix => "--export-prefix <EXPORT_PREFIX>"

def Switch.text : Switch → String
  | noColor => "--no-color"
  | printSchema => "--print-schema"

inductive Refusal where
  | unexpected (argument : String)
  | valueRequired (setting : Setting)
  | valueUnexpected (value flag : String)
  | repeated (flag : String)
deriving DecidableEq, Repr

-- An argument is quoted without what could steer a terminal.
def Refusal.text : Refusal → String
  | unexpected argument => "unexpected argument '" ++ Text.withoutControls argument ++ "' found"
  | valueRequired setting =>
      "a value is required for '" ++ setting.text ++ "' but none was supplied"
  | valueUnexpected value flag =>
      "unexpected value '" ++ Text.withoutControls value ++ "' for '" ++ flag ++
        "' found; no more were expected"
  | repeated flag => "the argument '" ++ flag ++ "' cannot be used multiple times"

structure Arguments where
  settings : List (Setting × String) := []
  switches : List Switch := []
deriving DecidableEq, Repr

-- What the arguments ask for.
inductive Request where
  | present (shown : Shown)
  | run (arguments : Arguments)
deriving DecidableEq, Repr

namespace Arguments

def setting? (a : Arguments) (s : Setting) : Option String := a.settings.lookup s

def has (a : Arguments) (s : Switch) : Bool := a.switches.contains s

def set (a : Arguments) (s : Setting) (value : String) : Except Refusal Arguments :=
  if (a.setting? s).isSome then .error (.repeated s.text)
  else .ok { a with settings := a.settings ++ [(s, value)] }

def turnOn (a : Arguments) (s : Switch) : Except Refusal Arguments :=
  if a.has s then .error (.repeated s.text) else .ok { a with switches := a.switches ++ [s] }

end Arguments

-- An option is looked at only when the next one begins; until then its value may be missing.
structure Reading where
  arguments : Arguments := {}
  pending : Option (Setting × Option String) := none

namespace Reading

def resolve (r : Reading) : Except Refusal Arguments :=
  match r.pending with
  | none => .ok r.arguments
  | some (s, none) => .error (.valueRequired s)
  | some (s, some value) => r.arguments.set s value

-- Ends the reading if something is to be shown.
def flag (r : Reading) (f : Flag) (value : Option String) : Except Refusal (Reading ⊕ Shown) := do
  let a ← r.resolve
  match f with
  | .setting s =>
      match value with
      | none => return .inl { arguments := a, pending := some (s, none) }
      | some value => return .inl { arguments := ← a.set s value }
  | .switch s => return .inl { arguments := ← a.turnOn s }
  | .shown s => return .inr s

-- A flag with its value behind an equals sign, if there is one.
def long (r : Reading) (text : List Char) : Except Refusal (Reading ⊕ Shown) :=
  let (name, value) := match Text.cutAt '=' text with
    | some (name, value) => (String.ofList name, some (String.ofList value))
    | none => (String.ofList text, none)
  match flags.lookup name, value with
  | none, _ => .error (.unexpected ("--" ++ name))
  | some (.setting s), value => r.flag (.setting s) value
  | some f, none => r.flag f none
  | some _, some value => .error (.valueUnexpected value ("--" ++ name))

def short (r : Reading) (c : Char) : Except Refusal (Reading ⊕ Shown) :=
  if c = 'h' then r.flag (.shown .summary) none
  else if c = 'V' then r.flag (.shown .version) none
  else .error (.unexpected (String.ofList ['-', c]))

def plain (r : Reading) (text : String) : Except Refusal (Reading ⊕ Shown) :=
  match r.pending with
  | some (s, none) => .ok (.inl { r with pending := some (s, some text) })
  | _ => .error (.unexpected text)

def argument (r : Reading) (text : String) : Except Refusal (Reading ⊕ Shown) :=
  match text.toList with
  | '-' :: '-' :: rest => r.long rest
  | '-' :: c :: _ => r.short c
  | _ => r.plain text

def all (r : Reading) : List String → Except Refusal Request
  | [] => do return .run (← r.resolve)
  | "--" :: [] => do return .run (← r.resolve)
  | "--" :: next :: _ => .error (.unexpected next)
  | text :: rest => do
      match ← r.argument text with
      | .inl r => r.all rest
      | .inr shown => return .present shown

end Reading

def Request.ofArguments (arguments : List String) : Except Refusal Request :=
  ({} : Reading).all arguments

end StepCommand.CommandLine
