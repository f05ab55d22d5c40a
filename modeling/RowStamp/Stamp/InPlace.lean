import RowStamp.Stamp.Statement

/-!
Stamping a statement in place, write by write.  A step that fails ends the run and leaves whatever
was written before it.
-/

set_option autoImplicit false
set_option relaxedAutoImplicit false

namespace RowStamp

namespace Sql

def Insert.modifyRow (stmt : Insert) (row : Nat) (f : List Expr → List Expr) : Insert :=
  stmt.withValueRows ((stmt.valueRows?.getD []).modify row f)

def Target.names : Target → List (List Ident)
  | .column name => [name]
  | .tuple names => names

def Update.setValue (stmt : Update) (i : Nat) (value : Expr) : Update :=
  { stmt with assignments := stmt.assignments.modify i fun a => { a with value := value } }

end Sql

namespace Stamp

open Sql (Assignment Expr Ident Statement Target baseName)

/-- Steps that write to a statement, or to a part of one, and may fail between two writes. -/
abbrev Steps (σ α : Type) := EStateM Failure σ α

/-! ### INSERT -/

def checkRows (table : String) (columns : Nat) (rows : List (List Expr)) :
    Steps Sql.Insert Unit := do
  for (row, i) in rows.zipIdx do
    if row.length ≠ columns then throw (.rowLength table i row.length columns)

/-- Writes a column into every row, at a place that the rows have or, without one, behind their
last value and behind the last column. -/
def writeColumn (column : String) (place? : Option Nat) (time : Timestamp) :
    Steps Sql.Insert Unit := do
  let rows := List.range (((← get).valueRows?.getD []).length)
  match place? with
  | some place =>
    for row in rows do
      modify (·.modifyRow row (·.set place time.expr))
  | none =>
    modify fun stmt => { stmt with columns := stmt.columns ++ [Ident.plain column] }
    for row in rows do
      modify (·.modifyRow row (· ++ [time.expr]))

/-- Stamps an INSERT in place.  The shape of its source is looked at twice, before the columns are
searched and when the rows are taken; `never` is the failure of the second look. -/
def insertInPlace (columns : AuditColumns) (time : Timestamp) (never : Failure) :
    Steps Sql.Insert Unit := do
  let given ← get
  let table := given.tableName?.getD ""
  if InsertForm.of given = .subselect then throw (.insertShape table)
  if given.columns.isEmpty then throw (.noColumnList table)
  let created := lastIndex? columns.create given.columns
  let updated := lastIndex? columns.update given.columns
  match given.valueRows? with
  | none => throw never
  | some rows =>
    checkRows table given.columns.length rows
    writeColumn columns.create created time
    if columns.update ≠ columns.create then writeColumn columns.update updated time

/-! ### UPDATE -/

/-- Where a set-list holds the value of a column: a whole assignment, or an element of a tuple. -/
inductive AssignedSlot where
  | whole (i : Nat)
  | element (i k : Nat)
  deriving DecidableEq, Repr

/-- The slot when one more assignment stands before it. -/
def AssignedSlot.later : AssignedSlot → AssignedSlot
  | whole i => whole (i + 1)
  | element i k => element (i + 1) k

def assignedSlot? (column : String) : List Assignment → Option AssignedSlot
  | [] => none
  | a :: rest =>
    match assignedSlot? column rest with
    | some slot => some slot.later
    | none =>
      match a.target with
      | .column name => if baseName name = some column then some (.whole 0) else none
      | .tuple names => (lastName? column names).map (.element 0)

/-- Stamps an UPDATE in place.  `never` is the failure of a slot outside of the set-list. -/
def updateInPlace (columns : AuditColumns) (time : Timestamp) (never : Failure) :
    Steps Sql.Update Unit := do
  let given ← get
  match assignedSlot? columns.update given.assignments with
  | some (.whole i) => modify (·.setValue i time.expr)
  | some (.element i k) =>
    match given.assignments[i]? with
    | none => throw never
    | some ⟨target, value⟩ =>
      let arity := target.names.length
      match value with
      | .tuple values =>
        if values.length = arity then
          modify (·.setValue i (.tuple (values.set k time.expr)))
        else throw (.tupleValue columns.update arity value.text)
      | other => throw (.tupleValue columns.update arity other.text)
  | none =>
    modify fun stmt =>
      { stmt with assignments := stmt.assignments ++ [newAssignment columns.update time] }

/-! ### Statements -/

/-- What stamping in place reports: left alone, with what is logged about it, or stamped. -/
inductive Verdict where
  | exempt (log : List Event)
  | stamped

/-- Stamps the part that a statement is made of, which the statement keeps where a step fails. -/
def stampPart {σ : Type} (whole : σ → Statement) (steps : Steps σ Unit) (part : σ) :
    Steps Statement Verdict := fun _ =>
  match steps.run part with
  | .ok () after => .ok .stamped (whole after)
  | .error failure after => .error failure (whole after)

def stampInsertInPlace (config : AuditConfig) (time : Timestamp) (never : Failure) :
    Steps Statement Verdict := do
  match ← get with
  | .insert stmt =>
    if let some table := stmt.tableName? then
      if let some pattern := config.ignored.firstMatch? table then
        return .exempt [.exemptInsert table pattern]
    stampPart .insert (insertInPlace config.columns time never) stmt
  | other => throw (.kindMismatch "INSERT" other.label)

def stampUpdateInPlace (config : AuditConfig) (time : Timestamp) (never : Failure) :
    Steps Statement Verdict := do
  match ← get with
  | .update stmt =>
    if !touchesAudited config stmt.tableNames then return .exempt []
    stampPart .update (updateInPlace config.columns time never) stmt
  | other => throw (.kindMismatch "UPDATE" other.label)

def stampInPlace (config : AuditConfig) (kind : StatementKind) (time : Timestamp)
    (never : Failure) : Steps Statement Verdict :=
  match kind with
  | .insert => stampInsertInPlace config time never
  | .update => stampUpdateInPlace config time never
  | .other => return .exempt []

end Stamp

end RowStamp
