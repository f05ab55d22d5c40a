import RowStamp.Config.Display
import RowStamp.Event

/-!
Records on the error stream: a level, the part of the program that reports, and a message.
-/

set_option autoImplicit false
set_option relaxedAutoImplicit false

namespace RowStamp.Cli

structure Record where
  level : Level
  source : String
  message : String
  deriving DecidableEq, Repr

namespace Record

def sourceOf : Event → String
  | .intercepted _ _ => "audit_stamp_engine::interceptor"
  | .stamped _ _ => "audit_stamp_engine::interceptor"
  | .unevenBindings _ _ _ => "audit_stamp_engine::interceptor"
  | .exemptInsert _ _ => "audit_stamp_engine::rewrite"
  | .droppedBinding _ _ => "audit_stamp_engine::bindings"

def ofEvent (event : Event) : Record := ⟨event.level, sourceOf event, event.text⟩

def settings (config : AuditConfig) : Record :=
  ⟨.debug, "audit_stamp_cli::engine", "interceptor settings: " ++ config.shown⟩

def parsing (sql : String) : Record :=
  ⟨.debug, "sqlparser::parser", "Parsing sql '" ++ sql ++ "'..."⟩

def levelText (level : Level) : String :=
  let cs := level.text.toList
  String.ofList (cs ++ List.replicate (5 - cs.length) ' ')

def indented (message : String) : String :=
  String.ofList (message.toList.flatMap fun c => if c = '\n' then "\n    ".toList else [c])

def line (record : Record) : String :=
  "[" ++ levelText record.level ++ " " ++ record.source ++ "] " ++ indented record.message ++ "\n"

/-- The record is written; debug records only where more is asked for. -/
def isShown (verbose : Bool) (record : Record) : Bool :=
  verbose || record.level = .warn

def linesOf (verbose : Bool) (records : List Record) : String :=
  String.join ((records.filter (isShown verbose)).map line)

end Record

end RowStamp.Cli
