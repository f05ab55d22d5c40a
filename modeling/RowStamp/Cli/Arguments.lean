import RowStamp.Cli.Switch

/-!
Reading the arguments of the command line.  An option's value may stand behind an equals sign or
in the next argument; it is checked when the next option or the statement is read, or at the end.
-/

set_option autoImplicit false
set_option relaxedAutoImplicit false

namespace RowStamp.Cli

inductive ArgumentFault where
  | unexpected (argument : String)
  | unexpectedValue (switch : Switch) (value : String)
  | missingValue (switch : Switch)
  | invalidValue (switch : Switch) (value : String)
  | repeated (switch : Switch)
  | missingStatement
  | unknownCommand (name : String)
  | missingCommand
  deriving DecidableEq, Repr

def ArgumentFault.message : ArgumentFault → String
  | unexpected argument => "unexpected argument '" ++ argument ++ "' found"
  | unexpectedValue switch value =>
    "unexpected value '" ++ value ++ "' for '" ++ switch.shown ++
      "' found; no more were expected"
  | missingValue switch =>
    "a value is required for '" ++ switch.shown ++ "' but none was supplied"
  | invalidValue switch value =>
    "invalid value '" ++ value ++ "' for '" ++ switch.shown ++ "'"
  | repeated switch => "the argument '" ++ switch.shown ++ "' cannot be used multiple times"
  | missingStatement => "the following required arguments were not provided:\n  <SQL>"
  | unknownCommand name => "unrecognized subcommand '" ++ name ++ "'"
  | missingCommand => "'audit-stamp' requires a subcommand but one was not provided"

inductive HelpPage where
  | root
  | stamping
  | help
  deriving DecidableEq, Repr

/-- Why no command is run: help is asked for, no argument is given, or an argument is wrong. -/
inductive Stop where
  | help (page : HelpPage)
  | usage
  | fault (fault : ArgumentFault)
  deriving DecidableEq, Repr

def helpOn : List String → Stop
  | [] => .help .root
  | ["rewrite"] => .help .stamping
  | ["help"] => .help .help
  | first :: rest =>
    if first = "rewrite" || first = "help" then .fault (.unknownCommand (rest.headD ""))
    else .fault (.unknownCommand first)

/-- What is read so far in a scope: the checked options with their values, the option that is not
checked yet, with its value if that is read, and the statement. -/
structure Given where
  values : List (Switch × String)
  pending : Option (Switch × Option String)
  statement : Option String
  deriving DecidableEq, Repr

namespace Given

def start : Given := ⟨[], none, none⟩

def awaits (given : Given) : Bool :=
  match given.pending with
  | some (_, none) => true
  | _ => false

def assign (given : Given) (switch : Switch) (value : String) : Except Stop Given :=
  if !switch.repeats && given.values.any (·.1 = switch) then .error (.fault (.repeated switch))
  else if (switch.choices?.map (·.contains value)).getD true then
    .ok { given with values := given.values ++ [(switch, value)] }
  else if value.isEmpty then .error (.fault (.missingValue switch))
  else .error (.fault (.invalidValue switch value))

def settle (given : Given) : Except Stop Given :=
  match given.pending with
  | none => .ok given
  | some (switch, none) => .error (.fault (.missingValue switch))
  | some (switch, some value) => { given with pending := none }.assign switch value

def complete (given : Given) (value : String) : Given :=
  { given with pending := given.pending.map fun option => (option.1, some value) }

def raise (given : Given) (scope : Scope) (switch : Switch) : Except Stop Given := do
  let given ← given.settle
  if switch = .help then
    throw (.help (match scope with | .root => .root | .stamping => .stamping))
  given.assign switch "true"

/-- An option after two dashes, perhaps with a value behind an equals sign. -/
def long (given : Given) (scope : Scope) (name : String) (value? : Option String) :
    Except Stop Given :=
  match scope.ofLong? name with
  | none => .error (.fault (.unexpected ("--" ++ name)))
  | some switch =>
    match switch.placeholder?, value? with
    | some _, some value => do (← given.settle).assign switch value
    | some _, none => do return { (← given.settle) with pending := some (switch, none) }
    | none, some value => .error (.fault (.unexpectedValue switch value))
    | none, none => given.raise scope switch

/-- Options after one dash, a letter each. -/
def short (scope : Scope) : Given → List Char → Except Stop Given
  | given, [] => .ok given
  | given, letter :: rest =>
    match scope.ofShort? letter with
    | none => .error (.fault (.unexpected (String.ofList ['-', letter])))
    | some switch => do short scope (← given.raise scope switch) rest

end Given

inductive ArgumentForm where
  | separator
  | long (name : String) (value? : Option String)
  | short (letters : List Char)
  | plain
  deriving DecidableEq, Repr

def ArgumentForm.of (argument : String) : ArgumentForm :=
  match argument.toList with
  | ['-', '-'] => separator
  | '-' :: '-' :: rest =>
    let name := String.ofList (rest.takeWhile (· ≠ '='))
    match rest.dropWhile (· ≠ '=') with
    | _ :: value => long name (some (String.ofList value))
    | [] => long name none
  | '-' :: letter :: rest => short (letter :: rest)
  | _ => plain

/-- What is read in a scope, and the arguments after a command that is found there. -/
structure Ended where
  given : Given
  command : Option (List String)
  deriving DecidableEq, Repr

/-- The fault of an argument that has no place: a command that is not one, where commands are
expected, and else an argument too many. -/
def strayFault (scope : Scope) (separated : Bool) (argument : String) : ArgumentFault :=
  match scope with
  | .stamping => .unexpected argument
  | .root =>
    if separated && (argument = "rewrite" || argument = "help") then .unexpected argument
    else .unknownCommand argument

def Given.place (given : Given) (scope : Scope) (separated : Bool) (argument : String) :
    Except Stop Given :=
  match scope, given.statement with
  | .stamping, none => do return { (← given.settle) with statement := some argument }
  | _, _ => .error (.fault (strayFault scope separated argument))

/-- Reads arguments in a scope; `separated` holds after two dashes, when no option can follow. -/
def readArguments (scope : Scope) (given : Given) (separated : Bool) :
    List String → Except Stop Ended
  | [] => .ok ⟨given, none⟩
  | argument :: rest => do
    if separated then
      readArguments scope (← given.place scope true argument) true rest
    else if scope = .root && !given.awaits && argument = "rewrite" then
      return ⟨given, some rest⟩
    else if scope = .root && !given.awaits && argument = "help" then
      throw (helpOn rest)
    else
      match ArgumentForm.of argument with
      | .separator => readArguments scope given true rest
      | .long name value? => readArguments scope (← given.long scope name value?) false rest
      | .short letters => readArguments scope (← given.short scope letters) false rest
      | .plain =>
        if given.awaits then readArguments scope (given.complete argument) false rest
        else readArguments scope (← given.place scope false argument) false rest

/-- The arguments of a command that stamps a statement: the options before and after the command,
and the statement. -/
structure Arguments where
  before : List (Switch × String)
  after : List (Switch × String)
  statement : String
  deriving DecidableEq, Repr

namespace Arguments

def read (args : List String) : Except Stop Arguments := do
  let root ← readArguments .root .start false args
  match root.command with
  | none =>
    let given ← root.given.settle
    throw (if given.values.isEmpty then .usage else .fault .missingCommand)
  | some rest =>
    let after ← (← readArguments .stamping .start false rest).given.settle
    match after.statement with
    | none => throw (.fault .missingStatement)
    | some statement =>
      let before ← root.given.settle
      return ⟨before.values, after.values, statement⟩

/-- The value that is given for an option; after the command it counts more than before it. -/
def value? (args : Arguments) (switch : Switch) : Option String :=
  (args.after.lookup switch).or (args.before.lookup switch)

/-- The value of an option, its standard one where none is given. -/
def value (args : Arguments) (switch : Switch) : String :=
  (args.value? switch).getD switch.standard

def values (args : Arguments) (switch : Switch) : List String :=
  (args.after.filter (·.1 = switch)).map Prod.snd

def has (args : Arguments) (switch : Switch) : Bool := (args.value? switch).isSome

end Arguments

end RowStamp.Cli
