import RowStamp.Stamp.Insert

/-!
Stamping an UPDATE: the modification column gets the time.  Its last assignment is overwritten,
alone or inside of a tuple; without one, an assignment is added at the end.
-/

set_option autoImplicit false
set_option relaxedAutoImplicit false

namespace RowStamp.Sql

def TableRef.tableName? : TableRef → Option String
  | .table name _ _ _ => baseName name
  | _ => none

/-- The unquoted names of the tables that an UPDATE names: its target and the relations joined to
it, in written order.  Relations in parentheses are not looked into. -/
def Update.tableNames (stmt : Update) : List String :=
  stmt.table.relations.filterMap TableRef.tableName?

end RowStamp.Sql

namespace RowStamp

open Sql (Assignment Expr Target baseName)

namespace Stamp

def lastName? (column : String) : List (List Sql.Ident) → Option Nat
  | [] => none
  | name :: rest =>
    match lastName? column rest with
    | some i => some (i + 1)
    | none => if baseName name = some column then some 0 else none

def assigns (column : String) : Target → Bool
  | .column name => baseName name = some column
  | .tuple names => (lastName? column names).isSome

/-- An assignment whose target names the column, with the time as the column's value. -/
def overwrite (column : String) (time : Timestamp) (assignment : Assignment) :
    Except Failure Assignment :=
  match assignment.target with
  | .column _ => .ok { assignment with value := time.expr }
  | .tuple names =>
    let element := (lastName? column names).getD 0
    match assignment.value with
    | .tuple values =>
      if values.length = names.length then
        .ok { assignment with value := .tuple (values.set element time.expr) }
      else .error (.tupleValue column names.length assignment.value.text)
    | value => .error (.tupleValue column names.length value.text)

/-- The assignments with the last one to the column overwritten, nothing where there is none. -/
def overwriteLast? (column : String) (time : Timestamp) :
    List Assignment → Option (Except Failure (List Assignment))
  | [] => none
  | assignment :: rest =>
    match overwriteLast? column time rest with
    | some result => some (result.map (assignment :: ·))
    | none =>
      if assigns column assignment.target then
        some ((overwrite column time assignment).map (· :: rest))
      else none

def newAssignment (column : String) (time : Timestamp) : Assignment :=
  ⟨.column [Sql.Ident.plain column], time.expr⟩

def assignments (column : String) (time : Timestamp) (list : List Assignment) :
    Except Failure (List Assignment) :=
  (overwriteLast? column time list).getD (.ok (list ++ [newAssignment column time]))

def update (columns : AuditColumns) (time : Timestamp) (stmt : Sql.Update) :
    Except Failure Sql.Update := do
  return { stmt with assignments := ← assignments columns.update time stmt.assignments }

end Stamp

end RowStamp
