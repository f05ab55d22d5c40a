import RowStamp.Proofs.Stamp.Marks
import RowStamp.Stamp.Update

/-!
Stamping an UPDATE: where its set-list names the modification column last, that a later stamp
absorbs an earlier one, and which placeholders are left.
-/

set_option autoImplicit false
set_option relaxedAutoImplicit false

namespace RowStamp.Stamp

open Sql (Assignment Expr Ident baseName)

/-! ### The last assignment to a column -/

theorem baseName_of_lastName? {column : String} {names : List (List Ident)} {i : Nat}
    (found : lastName? column names = some i) : names[i]?.bind baseName = some column := by
  induction names generalizing i with
  | nil => simp [lastName?] at found
  | cons name rest ih =>
    cases later : lastName? column rest with
    | some k =>
      obtain rfl : k + 1 = i := by simpa [lastName?, later] using found
      simpa using ih later
    | none =>
      obtain ⟨same, rfl⟩ : baseName name = some column ∧ 0 = i := by
        simpa [lastName?, later] using found
      simpa using same

theorem lt_of_lastName? {column : String} {names : List (List Ident)} {i : Nat}
    (found : lastName? column names = some i) : i < names.length := by
  obtain ⟨name, at_i, -⟩ := Option.bind_eq_some_iff.mp (baseName_of_lastName? found)
  exact (List.getElem?_eq_some_iff.mp at_i).1

/-- A set-list that does not name the column, or the last assignment that does between those
before and after it. -/
theorem unassigned_or_split (column : String) (list : List Assignment) :
    (∀ a ∈ list, assigns column a.target = false) ∨
      ∃ before last after, list = before ++ last :: after ∧
        assigns column last.target = true ∧ ∀ a ∈ after, assigns column a.target = false := by
  induction list with
  | nil => exact .inl (by simp)
  | cons a rest ih =>
    rcases ih with unassigned | ⟨before, last, after, rfl, named, later⟩
    · cases named : assigns column a.target with
      | false => exact .inl (List.forall_mem_cons.mpr ⟨named, unassigned⟩)
      | true => exact .inr ⟨[], a, rest, rfl, named, unassigned⟩
    · exact .inr ⟨a :: before, last, after, rfl, named, later⟩

private theorem overwriteLast?_of_unassigned {column : String} (time : Timestamp)
    {list : List Assignment} (unassigned : ∀ a ∈ list, assigns column a.target = false) :
    overwriteLast? column time list = none := by
  induction list with
  | nil => rfl
  | cons a rest ih =>
    obtain ⟨here, later⟩ := List.forall_mem_cons.mp unassigned
    simp [overwriteLast?, ih later, here]

private theorem overwriteLast?_of_split {column : String} (time : Timestamp)
    (before : List Assignment) {last : Assignment} {after : List Assignment}
    (named : assigns column last.target = true)
    (later : ∀ a ∈ after, assigns column a.target = false) :
    overwriteLast? column time (before ++ last :: after) =
      some ((overwrite column time last).map fun stamped => before ++ stamped :: after) := by
  induction before with
  | nil =>
    rw [List.nil_append, overwriteLast?, overwriteLast?_of_unassigned time later]
    simp [named]
  | cons a before ih =>
    rw [List.cons_append, overwriteLast?, ih]
    cases overwrite column time last <;> rfl

theorem assignments_of_unassigned {column : String} (time : Timestamp) {list : List Assignment}
    (unassigned : ∀ a ∈ list, assigns column a.target = false) :
    assignments column time list = .ok (list ++ [newAssignment column time]) := by
  rw [assignments, overwriteLast?_of_unassigned time unassigned, Option.getD_none]

theorem assignments_of_split {column : String} (time : Timestamp) (before : List Assignment)
    {last : Assignment} {after : List Assignment} (named : assigns column last.target = true)
    (later : ∀ a ∈ after, assigns column a.target = false) :
    assignments column time (before ++ last :: after) =
      (overwrite column time last).map fun stamped => before ++ stamped :: after := by
  rw [assignments, overwriteLast?_of_split time before named later, Option.getD_some]

theorem assigns_newAssignment (column : String) (time : Timestamp) :
    assigns column (newAssignment column time).target = true := by
  simp [assigns, newAssignment, baseName, Ident.plain]

/-! ### The overwritten assignment -/

/-- An assignment is overwritten as a whole or, in a tuple of as many values as names, at the last
element that names the column. -/
theorem overwrite_cases {column : String} {time : Timestamp} {given stamped : Assignment}
    (ok : overwrite column time given = .ok stamped) :
    (∃ name, given.target = .column name ∧ stamped = ⟨given.target, time.expr⟩) ∨
      ∃ names values, given.target = .tuple names ∧ given.value = .tuple values ∧
        values.length = names.length ∧
        stamped = ⟨given.target,
          .tuple (values.set ((lastName? column names).getD 0) time.expr)⟩ := by
  obtain ⟨target, value⟩ := given
  cases target with
  | column name => exact .inl ⟨name, rfl, (Except.ok.inj ok).symm⟩
  | tuple names =>
    unfold overwrite at ok
    simp only at ok
    split at ok
    · rename_i values
      split at ok
      · rename_i same
        exact .inr ⟨names, values, rfl, rfl, same, (Except.ok.inj ok).symm⟩
      · simp at ok
    · simp at ok

theorem target_of_overwrite {column : String} {time : Timestamp} {given stamped : Assignment}
    (ok : overwrite column time given = .ok stamped) : stamped.target = given.target := by
  rcases overwrite_cases ok with ⟨_, _, rfl⟩ | ⟨_, _, _, _, _, rfl⟩ <;> rfl

private theorem overwrite_overwrite {column : String} {first : Timestamp} (second : Timestamp)
    {given stamped : Assignment} (ok : overwrite column first given = .ok stamped) :
    overwrite column second stamped = overwrite column second given := by
  rcases overwrite_cases ok with ⟨name, target, rfl⟩ | ⟨names, values, target, value, same, rfl⟩
  · simp [overwrite, target]
  · simp [overwrite, target, value, same]

/-- A stamped set-list has one more assignment where it did not name the column, and else the last
assignment to the column overwritten. -/
theorem assignments_cases {column : String} {time : Timestamp} {list stamped : List Assignment}
    (ok : assignments column time list = .ok stamped) :
    ((∀ a ∈ list, assigns column a.target = false) ∧
        stamped = list ++ [newAssignment column time]) ∨
      ∃ before last other after, list = before ++ last :: after ∧
        assigns column last.target = true ∧ (∀ a ∈ after, assigns column a.target = false) ∧
        overwrite column time last = .ok other ∧ stamped = before ++ other :: after := by
  rcases unassigned_or_split column list with unassigned | ⟨before, last, after, rfl, named, later⟩
  · rw [assignments_of_unassigned time unassigned] at ok
    exact .inl ⟨unassigned, (Except.ok.inj ok).symm⟩
  · rw [assignments_of_split time before named later] at ok
    cases replaced : overwrite column time last with
    | error failure => simp [replaced, Except.map] at ok
    | ok other =>
      have same : before ++ other :: after = stamped := by simpa [replaced, Except.map] using ok
      exact .inr ⟨before, last, other, after, rfl, named, later, replaced, same.symm⟩

/-! ### A later stamp -/

private theorem assignments_assignments {column : String} {first : Timestamp} (second : Timestamp)
    {list stamped : List Assignment} (ok : assignments column first list = .ok stamped) :
    assignments column second stamped = assignments column second list := by
  rcases assignments_cases ok with
    ⟨unassigned, rfl⟩ | ⟨before, last, other, after, rfl, named, later, replaced, rfl⟩
  · rw [assignments_of_split second list (assigns_newAssignment column first) (by simp),
      assignments_of_unassigned second unassigned]
    rfl
  · rw [assignments_of_split second before (target_of_overwrite replaced ▸ named) later,
      assignments_of_split second before named later, overwrite_overwrite second replaced]

theorem update_eq_ok_iff {columns : AuditColumns} {time : Timestamp}
    {stmt stamped : Sql.Update} :
    update columns time stmt = .ok stamped ↔
      ∃ list, assignments columns.update time stmt.assignments = .ok list ∧
        stamped = { stmt with assignments := list } := by
  unfold update
  cases assignments columns.update time stmt.assignments with
  | error failure => simp [bind, Except.bind]
  | ok list => simp [bind, Except.bind, pure, Except.pure, eq_comm]

theorem update_update {columns : AuditColumns} {first : Timestamp} (second : Timestamp)
    {stmt stamped : Sql.Update} (ok : update columns first stmt = .ok stamped) :
    update columns second stamped = update columns second stmt := by
  obtain ⟨list, done, rfl⟩ := update_eq_ok_iff.mp ok
  simp only [update, assignments_assignments second done]

private theorem overwrite_isOk {column : String} {first : Timestamp} (second : Timestamp)
    {given stamped : Assignment} (ok : overwrite column first given = .ok stamped) :
    ∃ other, overwrite column second given = .ok other := by
  rcases overwrite_cases ok with ⟨name, target, -⟩ | ⟨names, values, target, value, same, -⟩
  · simp [overwrite, target]
  · simp [overwrite, target, value, same]

theorem update_isOk {columns : AuditColumns} {first : Timestamp} (second : Timestamp)
    {stmt stamped : Sql.Update} (ok : update columns first stmt = .ok stamped) :
    ∃ other, update columns second stmt = .ok other := by
  obtain ⟨list, done, -⟩ := update_eq_ok_iff.mp ok
  have again : ∃ other, assignments columns.update second stmt.assignments = .ok other := by
    rcases assignments_cases done with
      ⟨unassigned, -⟩ | ⟨before, last, _, after, same, named, later, replaced, -⟩
    · exact ⟨_, assignments_of_unassigned second unassigned⟩
    · obtain ⟨other, possible⟩ := overwrite_isOk second replaced
      refine ⟨before ++ other :: after, ?_⟩
      rw [same, assignments_of_split second before named later, possible]
      rfl
  obtain ⟨other, possible⟩ := again
  exact ⟨_, update_eq_ok_iff.mpr ⟨other, possible, rfl⟩⟩

/-! ### The placeholders that are left -/

/-- For each name of a tuple, whether it is the last one that names the column. -/
def tupleFlags (column : String) (names : List (List Ident)) : List Bool :=
  (List.range names.length).map fun i => lastName? column names = some i

def slotMarks (column : String) (assignment : Assignment) : List Bool :=
  match assignment.target, assignment.value with
  | .column _, e => exprMarks true e
  | .tuple names, .tuple values => rowMarks (tupleFlags column names) values
  | .tuple _, e => exprMarks false e

/-- The marks of a set-list: those in the last assignment to the column, where it is
overwritten. -/
def listMarks (column : String) : List Assignment → List Bool
  | [] => []
  | a :: rest =>
    (if assigns column a.target && !rest.any (assigns column ·.target) then slotMarks column a
      else exprMarks false a.value) ++ listMarks column rest

/-- The marks of an UPDATE: those of the placeholders inside the last value that is assigned to
the modification column are set. -/
def updateMarks (columns : AuditColumns) (stmt : Sql.Update) : List Bool :=
  unmarked stmt.table.fragments ++ unmarked (Sql.JoinedTables.listFragments stmt.fromBefore) ++
    listMarks columns.update stmt.assignments ++
    unmarked (Sql.JoinedTables.listFragments stmt.fromAfter) ++
    unmarked stmt.selection.toList ++ unmarked stmt.returning ++ unmarked stmt.limit.toList

@[simp] theorem length_tupleFlags (column : String) (names : List (List Ident)) :
    (tupleFlags column names).length = names.length := by
  simp [tupleFlags]

theorem listMarks_of_unassigned {column : String} {list : List Assignment}
    (unassigned : ∀ a ∈ list, assigns column a.target = false) :
    listMarks column list = unmarked (list.map Assignment.value) := by
  induction list with
  | nil => rfl
  | cons a rest ih =>
    obtain ⟨here, later⟩ := List.forall_mem_cons.mp unassigned
    rw [listMarks, ih later, here]
    rfl

theorem listMarks_of_split {column : String} (before : List Assignment) {last : Assignment}
    {after : List Assignment} (named : assigns column last.target = true)
    (later : ∀ a ∈ after, assigns column a.target = false) :
    listMarks column (before ++ last :: after) =
      unmarked (before.map Assignment.value) ++
        (slotMarks column last ++ unmarked (after.map Assignment.value)) := by
  induction before with
  | nil =>
    have none : after.any (assigns column ·.target) = false := by simpa using later
    rw [List.nil_append, listMarks, listMarks_of_unassigned later, named, none]
    rfl
  | cons a before ih =>
    have some : (before ++ last :: after).any (assigns column ·.target) = true := by
      simp [named]
    rw [List.cons_append, listMarks, ih, some, Bool.not_true, Bool.and_false]
    simp [unmarked]

private theorem overwritten_tupleFlags {column : String} {names : List (List Ident)}
    {values : List Expr} {i : Nat} (found : lastName? column names = some i)
    (same : values.length = names.length) (value : Expr) :
    overwritten (tupleFlags column names) value values = values.set i value := by
  apply List.ext_getElem?
  intro j
  rw [overwritten, List.getElem?_zipWith, tupleFlags, List.getElem?_map, found]
  by_cases inside : j < names.length
  · rw [List.getElem?_range inside, List.getElem?_eq_getElem (same ▸ inside),
      List.getElem?_set]
    have place : i < values.length := same ▸ lt_of_lastName? found
    by_cases here : i = j
    · subst here
      simp [place]
    · simp [here, List.getElem?_eq_getElem (same ▸ inside)]
  · rw [List.getElem?_eq_none (by simpa using inside),
      List.getElem?_eq_none (by simpa [same] using inside),
      List.getElem?_eq_none (by simpa [same] using inside)]
    rfl

private theorem length_slotMarks {column : String} {time : Timestamp} {given stamped : Assignment}
    (ok : overwrite column time given = .ok stamped) :
    (slotMarks column given).length = given.value.placeholders.length := by
  rcases overwrite_cases ok with ⟨name, target, -⟩ | ⟨names, values, target, value, same, -⟩
  · simp [slotMarks, target]
  · simp only [slotMarks, target, value]
    rw [length_rowMarks _ _ (by simp [same]), Expr.placeholders_tuple]

private theorem overwrite_placeholders {column : String} {time : Timestamp}
    {given stamped : Assignment} (named : assigns column given.target = true)
    (ok : overwrite column time given = .ok stamped) :
    stamped.value.placeholders = kept (slotMarks column given) given.value.placeholders := by
  have closed : time.expr.placeholders = [] := by simp [Timestamp.expr]
  rcases overwrite_cases ok with ⟨name, target, rfl⟩ | ⟨names, values, target, value, same, rfl⟩
  · simp [slotMarks, target, closed]
  · obtain ⟨i, found⟩ : ∃ i, lastName? column names = some i :=
      Option.isSome_iff_exists.mp (by simpa [assigns, target] using named)
    simp only [slotMarks, target, value, Expr.placeholders_tuple, found, Option.getD_some]
    rw [← overwritten_tupleFlags found same,
      flatMap_placeholders_overwritten _ _ _ closed (by simp [same])]

private theorem assignments_placeholders {column : String} {time : Timestamp}
    {list stamped : List Assignment} (ok : assignments column time list = .ok stamped) :
    (listMarks column list).length = (list.flatMap fun a => a.value.placeholders).length ∧
      (stamped.flatMap fun a => a.value.placeholders) =
        kept (listMarks column list) (list.flatMap fun a => a.value.placeholders) := by
  have values (part : List Assignment) : (part.flatMap fun a => a.value.placeholders) =
      (part.map Assignment.value).flatMap Expr.placeholders := by
    rw [List.flatMap_map]
  rcases assignments_cases ok with
    ⟨unassigned, rfl⟩ | ⟨before, last, other, after, rfl, named, later, replaced, rfl⟩
  · rw [listMarks_of_unassigned unassigned, values list, length_unmarked, kept_unmarked,
      List.flatMap_append, values list]
    simp [newAssignment, Timestamp.expr]
  · have marks := length_slotMarks replaced
    rw [listMarks_of_split before named later, List.flatMap_append, List.flatMap_append,
      List.flatMap_cons, List.flatMap_cons, values before, values after,
      kept_append _ _ _ _ (length_unmarked _), kept_append _ _ _ _ marks, kept_unmarked,
      kept_unmarked, overwrite_placeholders named replaced]
    simp [marks]

theorem length_updateMarks {columns : AuditColumns} {time : Timestamp}
    {stmt stamped : Sql.Update} (ok : update columns time stmt = .ok stamped) :
    (updateMarks columns stmt).length = (Sql.Statement.update stmt).placeholders.length := by
  obtain ⟨list, done, -⟩ := update_eq_ok_iff.mp ok
  rw [Sql.Update.placeholders_eq, updateMarks]
  simp [(assignments_placeholders done).1]

theorem update_placeholders {columns : AuditColumns} {time : Timestamp}
    {stmt stamped : Sql.Update} (ok : update columns time stmt = .ok stamped) :
    (Sql.Statement.update stamped).placeholders =
      kept (updateMarks columns stmt) (Sql.Statement.update stmt).placeholders := by
  obtain ⟨list, done, rfl⟩ := update_eq_ok_iff.mp ok
  obtain ⟨marks, left⟩ := assignments_placeholders done
  rw [Sql.Update.placeholders_eq, Sql.Update.placeholders_eq, updateMarks]
  simp only [left]
  rw [kept_append _ _ _ _ (by simp [marks]), kept_append _ _ _ _ (by simp [marks]),
    kept_append _ _ _ _ (by simp [marks]), kept_append _ _ _ _ (by simp [marks]),
    kept_append _ _ _ _ (by simp), kept_append _ _ _ _ (by simp)]
  simp only [kept_unmarked]

end RowStamp.Stamp
