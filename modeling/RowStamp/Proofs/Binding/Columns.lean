import Mathlib.Data.List.Forall2
import RowStamp.Proofs.Stamp.Update

/-!
The columns of placeholders.  A placeholder of an UPDATE belongs to a column where it is the whole
value that is assigned to the column, or where the condition compares the column with it.
-/

set_option autoImplicit false
set_option relaxedAutoImplicit false

namespace RowStamp

namespace Sql

def noColumns (es : List Expr) : List (Option String) :=
  (es.flatMap Expr.placeholders).map fun _ => none

namespace Expr

mutual

def comparedColumns : Expr → List (Option String)
  | name _ => []
  | literal _ => []
  | placeholder _ => [none]
  | nested inner => inner.comparedColumns
  | tuple items => listComparedColumns items
  | binary (name parts) "=" (placeholder _) => [baseName parts]
  | binary left _ right => left.comparedColumns ++ right.comparedColumns
  | word _ => []
  | phrase parts => listComparedColumns parts

def listComparedColumns : List Expr → List (Option String)
  | [] => []
  | e :: es => e.comparedColumns ++ listComparedColumns es

end

mutual

theorem length_comparedColumns (e : Expr) :
    e.comparedColumns.length = e.placeholders.length := by
  cases e with
  | nested inner => simpa [comparedColumns] using length_comparedColumns inner
  | tuple items => simpa [comparedColumns] using length_listComparedColumns items
  | binary left operator right =>
    have lefts := length_comparedColumns left
    have rights := length_comparedColumns right
    unfold comparedColumns
    split <;> simp_all
  | phrase parts => simpa [comparedColumns] using length_listComparedColumns parts
  | _ => simp [comparedColumns]

theorem length_listComparedColumns (es : List Expr) :
    (listComparedColumns es).length = (es.flatMap placeholders).length := by
  cases es with
  | nil => simp [listComparedColumns]
  | cons e es =>
    simp [listComparedColumns, length_comparedColumns e, length_listComparedColumns es]

end

end Expr

def valueColumns (name : List Ident) (value : Expr) : List (Option String) :=
  match value with
  | .placeholder _ => [baseName name]
  | other => noColumns [other]

def Assignment.columns (assignment : Assignment) : List (Option String) :=
  match assignment.target, assignment.value with
  | .column name, value => valueColumns name value
  | .tuple names, .tuple values =>
    if values.length = names.length then (names.zipWith valueColumns values).flatten
    else noColumns values
  | .tuple _, value => noColumns [value]

/-- For each placeholder of an UPDATE, in written order, the column that it is assigned to or
compared with. -/
def Update.placeholderColumns (stmt : Update) : List (Option String) :=
  noColumns stmt.table.fragments ++ noColumns (JoinedTables.listFragments stmt.fromBefore) ++
    stmt.assignments.flatMap Assignment.columns ++
    noColumns (JoinedTables.listFragments stmt.fromAfter) ++
    stmt.selection.toList.flatMap Expr.comparedColumns ++ noColumns stmt.returning ++
    noColumns stmt.limit.toList

end Sql

end RowStamp
