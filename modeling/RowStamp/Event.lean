import RowStamp.Failure

/-!
What is logged during an operation.
-/

set_option autoImplicit false
set_option relaxedAutoImplicit false

namespace RowStamp

/-- What a host says that a statement does. -/
inductive StatementKind where
  | insert
  | update
  | other
  deriving DecidableEq, Repr

namespace StatementKind

/-- The kind of a host's command, ASCII case aside. -/
def ofCommand (command : String) : StatementKind :=
  match String.ofList (command.toList.map Char.toLower) with
  | "insert" => insert
  | "update" => update
  | _ => other

def label : StatementKind → String
  | insert => "Insert"
  | update => "Update"
  | other => "Other"

def ofLabel? : String → Option StatementKind
  | "Insert" => some insert
  | "Update" => some update
  | "Other" => some other
  | _ => none

end StatementKind

/-- How much a record matters. -/
inductive Level where
  | debug
  | warn
  deriving DecidableEq, Repr

def Level.text : Level → String
  | debug => "DEBUG"
  | warn => "WARN"

/-- What is worth a record. -/
inductive Event where
  | intercepted (kind : StatementKind) (sql : String)
  | stamped (kind : StatementKind) (sql : String)
  | exemptInsert (table pattern : String)
  | droppedBinding (column property : String)
  | unevenBindings (mappings placeholders : Nat) (sql : String)
  deriving DecidableEq, Repr

namespace Event

def level : Event → Level
  | droppedBinding _ _ => .warn
  | _ => .debug

def text : Event → String
  | intercepted kind sql => "intercepted " ++ kind.label ++ " sql: " ++ sql
  | stamped kind sql => "stamped " ++ kind.label ++ " sql: " ++ sql
  | exemptInsert table pattern =>
    "INSERT into " ++ Failure.quoted table ++ " matches ignore pattern " ++
      Failure.quoted pattern ++ "; left untouched"
  | droppedBinding column property =>
    "statement already binds auto-stamped column " ++ Failure.quoted column ++ " (property " ++
      Failure.quoted property ++ "); dropping the binding"
  | unevenBindings mappings placeholders sql =>
    toString mappings ++ " parameter mappings remain for " ++ toString placeholders ++
      " placeholders in: " ++ sql

end Event

end RowStamp
