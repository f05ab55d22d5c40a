import RowStamp.Stamp.Statement

/-!
The two operations on a statement: before it is prepared its text is stamped, and before its
parameters are bound the bindings of audit columns are removed.
-/

set_option autoImplicit false
set_option relaxedAutoImplicit false

namespace RowStamp

open Sql (Statement)

/-- What the prepare phase makes of a text. -/
inductive Prepared where
  | rewritten (sql : String)
  | unchanged
  deriving DecidableEq, Repr

def Prepared.sqlOr (given : String) : Prepared → String
  | rewritten sql => sql
  | unchanged => given

def parseStatement (dialect : Dialect) (sql : String) : Except Failure Statement :=
  (Statement.parse dialect sql).mapError (Failure.parse sql)

/-- The events of an operation and its result. -/
structure Logged (α : Type) where
  log : List Event
  result : Except Failure α

namespace AuditConfig

def prepareAt (config : AuditConfig) (kind : StatementKind) (sql : String) (time : Timestamp) :
    Logged Prepared :=
  if kind = .other then ⟨[], .ok .unchanged⟩
  else
    match parseStatement config.dialect sql with
    | .error failure => ⟨[], .error failure⟩
    | .ok statement =>
      let intercepted := Event.intercepted kind sql
      match Stamp.stampStatement config kind time statement with
      | .error failure => ⟨[intercepted], .error failure⟩
      | .ok (.exempt log) => ⟨intercepted :: log, .ok .unchanged⟩
      | .ok (.stamped stamped) =>
        ⟨[intercepted, .stamped kind stamped.text], .ok (.rewritten stamped.text)⟩

/-- What is logged where the mappings that remain are not as many as the placeholders. -/
def unevenLog (statement : Statement) (sql : String) (mappings : List ParameterMapping) :
    List Event :=
  let placeholders := statement.placeholders.length
  if placeholders = mappings.length then []
  else [.unevenBindings mappings.length placeholders sql]

/-- How many mappings of audit columns are removed from a bound statement, and what is left of
it. -/
def reconcile (config : AuditConfig) (kind : StatementKind) (bound : BoundSql) :
    Logged (Nat × BoundSql) :=
  if kind = .other then ⟨[], .ok (0, bound)⟩
  else
    match parseStatement config.dialect bound.sql with
    | .error failure => ⟨[], .error failure⟩
    | .ok statement =>
      match Stamp.isAudited config kind statement with
      | .error failure => ⟨[], .error failure⟩
      | .ok false => ⟨[], .ok (0, bound)⟩
      | .ok true =>
        let left := config.columns.remaining bound.mappings
        ⟨config.columns.warnings bound.mappings ++ unevenLog statement bound.sql left,
          .ok (config.columns.removedCount bound.mappings, { bound with mappings := left })⟩

end AuditConfig

end RowStamp
