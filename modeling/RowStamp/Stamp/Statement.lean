import RowStamp.Stamp.Update

/-!
Stamping a statement that a host calls an INSERT or an UPDATE: whether it is one, whether its
tables are left alone, and the stamped statement.
-/

set_option autoImplicit false
set_option relaxedAutoImplicit false

namespace RowStamp.Stamp

open Sql (Statement)

/-- What stamping makes of a statement: left alone, with what is logged about it, or stamped. -/
inductive Outcome where
  | exempt (log : List Event)
  | stamped (statement : Statement)

def touchesAudited (config : AuditConfig) (tables : List String) : Bool :=
  tables.any (!config.isExempt ·)

def stampInsert (config : AuditConfig) (time : Timestamp) : Statement → Except Failure Outcome
  | .insert stmt => do
    let pattern? := stmt.tableName?.bind fun table =>
      (config.ignored.firstMatch? table).map fun pattern => Event.exemptInsert table pattern
    match pattern? with
    | some event => return .exempt [event]
    | none => return .stamped (.insert (← insert config.columns time stmt))
  | other => .error (.kindMismatch "INSERT" other.label)

def stampUpdate (config : AuditConfig) (time : Timestamp) : Statement → Except Failure Outcome
  | .update stmt => do
    if touchesAudited config stmt.tableNames then
      return .stamped (.update (← update config.columns time stmt))
    else return .exempt []
  | other => .error (.kindMismatch "UPDATE" other.label)

def stampStatement (config : AuditConfig) (kind : StatementKind) (time : Timestamp)
    (statement : Statement) : Except Failure Outcome :=
  match kind with
  | .insert => stampInsert config time statement
  | .update => stampUpdate config time statement
  | .other => .ok (.exempt [])

def isAudited (config : AuditConfig) (kind : StatementKind) (statement : Statement) :
    Except Failure Bool :=
  match kind, statement with
  | .insert, .insert stmt => .ok (!(stmt.tableName?.any config.isExempt))
  | .insert, other => .error (.kindMismatch "INSERT" other.label)
  | .update, .update stmt => .ok (touchesAudited config stmt.tableNames)
  | .update, other => .error (.kindMismatch "UPDATE" other.label)
  | .other, _ => .ok false

end RowStamp.Stamp
