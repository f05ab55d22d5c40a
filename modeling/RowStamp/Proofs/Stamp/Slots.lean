import RowStamp.Proofs.Stamp.Placement

/-!
The slots of a statement: the values that it gives to the audit columns, by the last place of each
column in every row of an INSERT and by the last assignment to the modification column in an
UPDATE.  After stamping every slot holds the time.
-/

set_option autoImplicit false
set_option relaxedAutoImplicit false

namespace RowStamp.Stamp

open Sql (Assignment Expr Ident Statement)

def cell? (known : List Ident) (column : String) (row : List Expr) : Option Expr :=
  (lastIndex? column known).bind fun i => row[i]?

/-- The value that an assignment gives to a column, as a whole or at the column's last place in a
tuple. -/
def given? (column : String) (assignment : Assignment) : Option Expr :=
  match assignment.target, assignment.value with
  | .column _, value => some value
  | .tuple names, .tuple values => (lastName? column names).bind fun i => values[i]?
  | .tuple _, _ => none

def assigned? (column : String) (list : List Assignment) : Option Expr :=
  (list.filter (assigns column ·.target)).getLast?.bind (given? column)

def slots (columns : AuditColumns) : Statement → List (Option Expr)
  | .insert stmt => (stmt.valueRows?.getD []).flatMap fun row =>
    [cell? stmt.columns columns.create row, cell? stmt.columns columns.update row]
  | .update stmt => [assigned? columns.update stmt.assignments]
  | _ => []

private theorem assigned?_of_split {column : String} (before : List Assignment) {last : Assignment}
    {after : List Assignment} (named : assigns column last.target = true)
    (later : ∀ a ∈ after, assigns column a.target = false) :
    assigned? column (before ++ last :: after) = given? column last := by
  have rest : after.filter (assigns column ·.target) = [] := by
    rw [List.filter_eq_nil_iff]
    intro a member
    simp [later a member]
  have found : (before ++ last :: after).filter (assigns column ·.target) =
      before.filter (assigns column ·.target) ++ [last] := by
    rw [List.filter_append, List.filter_cons, if_pos named, rest]
  rw [assigned?, found, List.getLast?_concat, Option.bind_some]

private theorem given?_of_overwrite {column : String} {time : Timestamp}
    {given stamped : Assignment} (named : assigns column given.target = true)
    (ok : overwrite column time given = .ok stamped) :
    given? column stamped = some time.expr := by
  rcases overwrite_cases ok with ⟨name, target, rfl⟩ | ⟨names, values, target, value, same, rfl⟩
  · simp [given?, target]
  · obtain ⟨i, found⟩ : ∃ i, lastName? column names = some i :=
      Option.isSome_iff_exists.mp (by simpa [assigns, target] using named)
    have inside : i < values.length := same ▸ lt_of_lastName? found
    simp [given?, target, found, inside]

private theorem assigned?_of_assignments {column : String} {time : Timestamp}
    {list stamped : List Assignment} (ok : assignments column time list = .ok stamped) :
    assigned? column stamped = some time.expr := by
  rcases assignments_cases ok with
    ⟨-, rfl⟩ | ⟨before, last, other, after, rfl, named, later, replaced, rfl⟩
  · rw [assigned?_of_split list (assigns_newAssignment column time) (by simp)]
    rfl
  · have still : assigns column other.target = true := target_of_overwrite replaced ▸ named
    rw [assigned?_of_split before still later]
    exact given?_of_overwrite named replaced

theorem slots_stamped {config : AuditConfig} {kind : StatementKind} {time : Timestamp}
    {statement stamped : Statement}
    (ok : stampStatement config kind time statement = .ok (.stamped stamped)) :
    ∀ value ∈ slots config.columns stamped, value = some time.expr := by
  intro value member
  rcases stamped_cases ok with ⟨-, stmt, done, rfl, rfl, -, inserted⟩ |
    ⟨-, stmt, done, rfl, rfl, -, updated⟩
  · obtain ⟨front, list, back, shape, rfl⟩ := stampable_of_insert inserted
    obtain ⟨row, inRows, atSlot⟩ := List.mem_flatMap.mp member
    obtain ⟨given, inside, rfl⟩ := List.mem_map.mp inRows
    have same := shape.even given inside
    have written := getElem?_stampBoth config.columns time stmt.columns given same
    simp only [withBoth, cell?, lastIndex?_create_allColumns, lastIndex?_update_allColumns,
      Option.bind_some, written, List.mem_cons, List.not_mem_nil, or_false] at atSlot
    simpa using atSlot
  · obtain ⟨list, done, rfl⟩ := update_eq_ok_iff.mp updated
    obtain rfl : value = assigned? config.columns.update list := List.mem_singleton.mp member
    exact assigned?_of_assignments done

end RowStamp.Stamp
