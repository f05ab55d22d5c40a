import RowStamp.Sql.Statement

/-!
The placeholders of fragments and of statements: those of a composed fragment are those of its
parts, in order, and words have none.
-/

set_option autoImplicit false
set_option relaxedAutoImplicit false

namespace RowStamp.Sql

@[simp] theorem placeholdersOf_nil : placeholdersOf [] = [] := rfl

@[simp] theorem placeholdersOf_text_cons (s : String) (leaves : List Leaf) :
    placeholdersOf (.text s :: leaves) = placeholdersOf leaves := rfl

@[simp] theorem placeholdersOf_placeholder_cons (s : String) (leaves : List Leaf) :
    placeholdersOf (.placeholder s :: leaves) = s :: placeholdersOf leaves := rfl

@[simp] theorem placeholdersOf_append (first second : List Leaf) :
    placeholdersOf (first ++ second) = placeholdersOf first ++ placeholdersOf second :=
  List.filterMap_append

namespace Expr

@[simp] theorem placeholdersOf_joinedLeaves (es : List Expr) :
    placeholdersOf (joinedLeaves es) = es.flatMap placeholders := by
  induction es with
  | nil => simp
  | cons e es ih => simp [ih, placeholders]

@[simp] theorem placeholdersOf_separatedLeaves (es : List Expr) :
    placeholdersOf (separatedLeaves es) = es.flatMap placeholders := by
  induction es with
  | nil => simp
  | cons e es ih =>
    cases es with
    | nil => simp [placeholders]
    | cons f es =>
      rw [separatedLeaves_cons_cons, placeholdersOf_append, placeholdersOf_text_cons, ih,
        List.flatMap_cons]
      rfl

@[simp] theorem placeholders_name (parts : List Ident) : (name parts).placeholders = [] := by
  simp [placeholders, leaves_name]

@[simp] theorem placeholders_literal (value : Literal) : (literal value).placeholders = [] := by
  simp [placeholders, leaves_literal]

@[simp] theorem placeholders_placeholder (text : String) :
    (placeholder text).placeholders = [text] := by
  simp [placeholders, leaves_placeholder]

@[simp] theorem placeholders_nested (inner : Expr) :
    (nested inner).placeholders = inner.placeholders := by
  simp [placeholders, leaves_nested]

@[simp] theorem placeholders_tuple (items : List Expr) :
    (tuple items).placeholders = items.flatMap placeholders := by
  rw [placeholders, leaves_tuple]
  simp

@[simp] theorem placeholders_binary (left right : Expr) (operator : String) :
    (binary left operator right).placeholders = left.placeholders ++ right.placeholders := by
  rw [placeholders, leaves_binary]
  simp [placeholders]

@[simp] theorem placeholders_word (text : String) : (word text).placeholders = [] := by
  simp [placeholders, leaves_word]

@[simp] theorem placeholders_phrase (parts : List Expr) :
    (phrase parts).placeholders = parts.flatMap placeholders := by
  rw [placeholders, leaves_phrase]
  simp

@[simp] theorem flatMap_placeholders_commaSeparated (es : List Expr) :
    (commaSeparated es).flatMap placeholders = es.flatMap placeholders := by
  induction es with
  | nil => rfl
  | cons e es ih =>
    cases es with
    | nil => rfl
    | cons f es => simpa [commaSeparated] using ih

end Expr

@[simp] theorem flatMap_placeholders_clause (lead : String) (parts : Fragments) :
    (clause lead parts).flatMap Expr.placeholders = parts.flatMap Expr.placeholders := by
  unfold clause
  split
  · rename_i empty
    rw [List.isEmpty_iff.mp empty]
  · simp

theorem Statement.placeholders_eq (statement : Statement) :
    statement.placeholders = statement.fragments.flatMap Expr.placeholders := by
  rw [placeholders, leaves, Expr.placeholdersOf_joinedLeaves]

/-! ### Rows of values and assignments -/

@[simp] theorem Values.placeholders_rowFragments (rowWord : Bool) (row : List Expr) :
    (Values.rowFragments rowWord row).placeholders = row.flatMap Expr.placeholders := by
  cases rowWord <;> simp [Values.rowFragments]

@[simp] theorem Values.flatMap_placeholders_fragments (values : Values) :
    values.fragments.flatMap Expr.placeholders =
      values.rows.flatMap fun row => row.flatMap Expr.placeholders := by
  simp [Values.fragments, List.flatMap_map]

@[simp] theorem Query.flatMap_placeholders_fragments (query : Query) :
    query.fragments.flatMap Expr.placeholders =
      query.front.flatMap Expr.placeholders ++ query.body.fragments.flatMap Expr.placeholders ++
        query.back.flatMap Expr.placeholders := by
  simp [Query.fragments]

@[simp] theorem flatMap_placeholders_assignmentList (assignments : List Assignment) :
    (assignmentList assignments).flatMap Expr.placeholders =
      assignments.flatMap fun assignment => assignment.value.placeholders := by
  simp [assignmentList, Assignment.fragment, List.flatMap_map]

/-! ### Statements that are stamped -/

theorem Insert.placeholders_eq (stmt : Insert) :
    (Statement.insert stmt).placeholders =
      stmt.partition.flatMap Expr.placeholders ++
        stmt.sourceFragments.flatMap Expr.placeholders ++
        stmt.onConflict.flatMap Expr.placeholders ++
        stmt.returning.flatMap Expr.placeholders := by
  rw [Statement.placeholders_eq, Statement.fragments, Insert.fragments]
  cases columns : stmt.columns <;> cases partition : stmt.partition <;>
    simp [Insert.columnList, columns]

theorem Update.placeholders_eq (stmt : Update) :
    (Statement.update stmt).placeholders =
      stmt.table.fragments.flatMap Expr.placeholders ++
        (JoinedTables.listFragments stmt.fromBefore).flatMap Expr.placeholders ++
        stmt.assignments.flatMap (fun assignment => assignment.value.placeholders) ++
        (JoinedTables.listFragments stmt.fromAfter).flatMap Expr.placeholders ++
        stmt.selection.toList.flatMap Expr.placeholders ++
        stmt.returning.flatMap Expr.placeholders ++
        stmt.limit.toList.flatMap Expr.placeholders := by
  rw [Statement.placeholders_eq, Statement.fragments, Update.fragments]
  cases stmt.conflict <;> cases stmt.selection <;> cases stmt.limit <;> simp

end RowStamp.Sql
