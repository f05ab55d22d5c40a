import RowStamp.Config
import RowStamp.Sql.Grammar.Statements
import RowStamp.Timestamp

/-!
Stamping an INSERT: both audit columns get the time in every row.  A column that is declared keeps
its place, and its last declaration counts; a column that is not declared comes last.
-/

set_option autoImplicit false
set_option relaxedAutoImplicit false

namespace RowStamp.Sql

namespace Insert

def tableName? (insert : Insert) : Option String := baseName insert.table

/-- The rows of values that are inserted, unless the rows come from elsewhere. -/
def valueRows? (insert : Insert) : Option (List (List Expr)) :=
  match insert.source with
  | .query ⟨_, .values list, _⟩ => some list.rows
  | _ => none

def withValueRows (insert : Insert) (rows : List (List Expr)) : Insert :=
  match insert.source with
  | .query ⟨front, .values list, back⟩ =>
    { insert with source := .query ⟨front, .values { list with rows := rows }, back⟩ }
  | _ => insert

end Insert

end RowStamp.Sql

namespace RowStamp

open Sql (Expr Ident)

/-- The shapes of an INSERT's source. -/
inductive InsertForm where
  | singleRowValues
  | multiRowValues
  | subselect
  deriving DecidableEq, Repr

namespace InsertForm

def of (insert : Sql.Insert) : InsertForm :=
  match insert.valueRows? with
  | some [_] => singleRowValues
  | some _ => multiRowValues
  | none => subselect

def label : InsertForm → String
  | singleRowValues => "SingleRowValues"
  | multiRowValues => "MultiRowValues"
  | subselect => "Subselect"

end InsertForm

namespace Stamp

/-- The last place of a column in a declaration, letter case included. -/
def lastIndex? (column : String) : List Ident → Option Nat
  | [] => none
  | ident :: rest =>
    match lastIndex? column rest with
    | some i => some (i + 1)
    | none => if ident.value = column then some 0 else none

structure Grid where
  columns : List Ident
  rows : List (List Expr)

/-- A column with one value in every row: in place where the declaration has the column, else as a
new last one.  `known` is the declaration that is searched. -/
def Grid.stamped (known : List Ident) (column : String) (value : Expr) (grid : Grid) : Grid :=
  match lastIndex? column known with
  | some i => { grid with rows := grid.rows.map (·.set i value) }
  | none => ⟨grid.columns ++ [Ident.plain column], grid.rows.map (· ++ [value])⟩

/-- Both audit columns with the time in every row; a column that is both is stamped once. -/
def stampGrid (columns : AuditColumns) (time : Timestamp) (grid : Grid) : Grid :=
  let known := grid.columns
  let created := grid.stamped known columns.create time.expr
  if columns.update = columns.create then created
  else created.stamped known columns.update time.expr

/-- The first row, if any, whose length is not the number of columns, counted from `row`. -/
def unevenRow? (columns : Nat) : Nat → List (List Expr) → Option (Nat × Nat)
  | _, [] => none
  | row, values :: rest =>
    if values.length = columns then unevenRow? columns (row + 1) rest
    else some (row, values.length)

def insert (columns : AuditColumns) (time : Timestamp) (stmt : Sql.Insert) :
    Except Failure Sql.Insert :=
  let table := stmt.tableName?.getD ""
  match stmt.valueRows? with
  | none => .error (.insertShape table)
  | some rows =>
    if stmt.columns.isEmpty then .error (.noColumnList table)
    else
      match unevenRow? stmt.columns.length 0 rows with
      | some (row, values) => .error (.rowLength table row values stmt.columns.length)
      | none =>
        let grid := stampGrid columns time ⟨stmt.columns, rows⟩
        .ok ({ stmt with columns := grid.columns }.withValueRows grid.rows)

end Stamp

end RowStamp
