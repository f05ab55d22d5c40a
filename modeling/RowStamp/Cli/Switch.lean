import RowStamp.Config

/-!
The options of the command line, and the two places where they are given: before the command and
after it.
-/

set_option autoImplicit false
set_option relaxedAutoImplicit false

namespace RowStamp.Cli

/-- An option. -/
inductive Switch where
  | createColumn
  | updateColumn
  | ignoreTables
  | dialect
  | verbose
  | help
  | kind
  | bind
  | timestamp
  | format
  deriving DecidableEq, Repr

namespace Switch

def long : Switch → String
  | createColumn => "create-column"
  | updateColumn => "update-column"
  | ignoreTables => "ignore-tables"
  | dialect => "dialect"
  | verbose => "verbose"
  | help => "help"
  | kind => "kind"
  | bind => "bind"
  | timestamp => "timestamp"
  | format => "format"

def short? : Switch → Option Char
  | verbose => some 'v'
  | help => some 'h'
  | _ => none

def placeholder? : Switch → Option String
  | createColumn => some "CREATE_COLUMN"
  | updateColumn => some "UPDATE_COLUMN"
  | ignoreTables => some "IGNORE_TABLES"
  | dialect => some "DIALECT"
  | kind => some "KIND"
  | bind => some "PROPERTY"
  | timestamp => some "yyyy-MM-dd HH:mm:ss.SSS"
  | format => some "FORMAT"
  | verbose => none
  | help => none

def shown (switch : Switch) : String :=
  "--" ++ switch.long ++
    match switch.placeholder? with
    | some placeholder => " <" ++ placeholder ++ ">"
    | none => ""

def choices? : Switch → Option (List String)
  | kind => some ["insert", "update", "other"]
  | format => some ["table", "json"]
  | _ => none

def repeats (switch : Switch) : Bool := switch = bind

def standard : Switch → String
  | createColumn => AuditColumns.standard.create
  | updateColumn => AuditColumns.standard.update
  | dialect => "generic"
  | kind => "insert"
  | format => "table"
  | _ => ""

end Switch

/-- Where options are given. -/
inductive Scope where
  | root
  | stamping
  deriving DecidableEq, Repr

namespace Scope

def everywhere : List Switch :=
  [.createColumn, .updateColumn, .ignoreTables, .dialect, .verbose, .help]

def switches : Scope → List Switch
  | root => everywhere
  | stamping => everywhere ++ [.kind, .bind, .timestamp, .format]

def ofLong? (scope : Scope) (name : String) : Option Switch :=
  scope.switches.find? (·.long = name)

def ofShort? (scope : Scope) (letter : Char) : Option Switch :=
  scope.switches.find? (·.short? = some letter)

end Scope

end RowStamp.Cli
