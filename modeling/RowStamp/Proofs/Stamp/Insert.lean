import Mathlib.Data.List.Basic
import RowStamp.Proofs.Stamp.Grid
import RowStamp.Proofs.Stamp.Marks

/-!
Stamping an INSERT: what a stamped statement is made of, that a later stamp absorbs an earlier
one, and which placeholders are left.
-/

set_option autoImplicit false
set_option relaxedAutoImplicit false

namespace RowStamp.Stamp

open Sql (Expr Ident)

/-! ### The shape of a stamped statement -/

/-- An INSERT of rows of values that are as long as its column list. -/
structure Stampable (stmt : Sql.Insert) (front : Sql.Fragments) (list : Sql.Values)
    (back : Sql.Fragments) : Prop where
  source : stmt.source = .query ⟨front, .values list, back⟩
  declared : stmt.columns ≠ []
  even : ∀ row ∈ list.rows, row.length = stmt.columns.length

def withBoth (columns : AuditColumns) (time : Timestamp) (stmt : Sql.Insert)
    (front : Sql.Fragments) (list : Sql.Values) (back : Sql.Fragments) : Sql.Insert :=
  { stmt with
    columns := allColumns columns stmt.columns
    source := .query
      ⟨front, .values { list with rows := list.rows.map (stampBoth columns time stmt.columns) },
        back⟩ }

theorem valueRows?_eq_some_iff {stmt : Sql.Insert} {rows : List (List Expr)} :
    stmt.valueRows? = some rows ↔
      ∃ front list back, stmt.source = .query ⟨front, .values list, back⟩ ∧ list.rows = rows := by
  unfold Sql.Insert.valueRows?
  constructor
  · intro found
    split at found
    · rename_i front list back same
      exact ⟨front, list, back, same, Option.some.inj found⟩
    · simp at found
  · rintro ⟨front, list, back, same, rfl⟩
    simp [same]

private theorem unevenRow?_eq_none_iff (width start : Nat) (rows : List (List Expr)) :
    unevenRow? width start rows = none ↔ ∀ row ∈ rows, row.length = width := by
  induction rows generalizing start with
  | nil => simp [unevenRow?]
  | cons row rows ih =>
    rw [List.forall_mem_cons, unevenRow?]
    split
    · rename_i same
      simp [same, ih]
    · rename_i different
      simp [different]

theorem insert_of_stampable (columns : AuditColumns) (time : Timestamp) {stmt : Sql.Insert}
    {front back : Sql.Fragments} {list : Sql.Values} (shape : Stampable stmt front list back) :
    insert columns time stmt = .ok (withBoth columns time stmt front list back) := by
  have rows : stmt.valueRows? = some list.rows := by
    rw [Sql.Insert.valueRows?, shape.source]
  have nonempty : stmt.columns.isEmpty = false := by simpa using shape.declared
  have even := (unevenRow?_eq_none_iff stmt.columns.length 0 list.rows).mpr shape.even
  simp [insert, rows, nonempty, even, stampGrid_eq, Sql.Insert.withValueRows, shape.source,
    withBoth]

theorem stampable_of_insert {columns : AuditColumns} {time : Timestamp}
    {stmt stamped : Sql.Insert} (ok : insert columns time stmt = .ok stamped) :
    ∃ front list back, Stampable stmt front list back ∧
      stamped = withBoth columns time stmt front list back := by
  have shape : ∃ front list back, Stampable stmt front list back := by
    unfold insert at ok
    cases rows : stmt.valueRows? with
    | none => simp [rows] at ok
    | some values =>
      obtain ⟨front, list, back, source, rfl⟩ := valueRows?_eq_some_iff.mp rows
      by_cases nonempty : stmt.columns.isEmpty = true
      · simp [rows, nonempty] at ok
      · cases uneven : unevenRow? stmt.columns.length 0 list.rows with
        | some found => simp [rows, nonempty, uneven] at ok
        | none =>
          exact ⟨front, list, back, source, by simpa using nonempty,
            (unevenRow?_eq_none_iff _ _ _).mp uneven⟩
  obtain ⟨front, list, back, shape⟩ := shape
  refine ⟨front, list, back, shape, ?_⟩
  rw [insert_of_stampable columns time shape] at ok
  exact (Except.ok.inj ok).symm

/-! ### A later stamp -/

private theorem Stampable.withBoth {columns : AuditColumns} {time : Timestamp} {stmt : Sql.Insert}
    {front back : Sql.Fragments} {list : Sql.Values} (shape : Stampable stmt front list back) :
    Stampable (withBoth columns time stmt front list back) front
      { list with rows := list.rows.map (stampBoth columns time stmt.columns) } back where
  source := rfl
  declared := by
    have grown := allColumns_eq columns stmt.columns
    simp [Stamp.withBoth, grown, shape.declared]
  even := by
    intro row member
    obtain ⟨given, inside, rfl⟩ := List.mem_map.mp member
    exact length_stampBoth columns time stmt.columns given (shape.even given inside)

theorem insert_insert {columns : AuditColumns} {first : Timestamp} (second : Timestamp)
    {stmt stamped : Sql.Insert} (ok : insert columns first stmt = .ok stamped) :
    insert columns second stamped = insert columns second stmt := by
  obtain ⟨front, list, back, shape, rfl⟩ := stampable_of_insert ok
  rw [insert_of_stampable columns second shape,
    insert_of_stampable columns second shape.withBoth]
  have rows : (list.rows.map (stampBoth columns first stmt.columns)).map
      (stampBoth columns second (allColumns columns stmt.columns)) =
        list.rows.map (stampBoth columns second stmt.columns) := by
    rw [List.map_map]
    refine List.map_congr_left fun row member => ?_
    exact stampBoth_stampBoth columns first second stmt.columns row (shape.even row member)
  simp only [withBoth, allColumns_allColumns, rows]

/-! ### The placeholders that are left -/

/-- Both audit columns are declared at most once. -/
def DeclaredOnce (columns : AuditColumns) (known : List Ident) : Prop :=
  (known.map Ident.value).count columns.create ≤ 1 ∧
    (known.map Ident.value).count columns.update ≤ 1

instance (columns : AuditColumns) (known : List Ident) : Decidable (DeclaredOnce columns known) :=
  inferInstanceAs (Decidable (_ ∧ _))

def auditFlags (columns : AuditColumns) (known : List Ident) : List Bool :=
  known.map fun ident => ident.value = columns.create || ident.value = columns.update

/-- The marks of an INSERT: those of the placeholders inside a row's value for a declared audit
column are set. -/
def insertMarks (columns : AuditColumns) (stmt : Sql.Insert) : List Bool :=
  unmarked stmt.partition ++
    (match stmt.source with
      | .query ⟨front, .values list, back⟩ =>
        unmarked front ++ list.rows.flatMap (rowMarks (auditFlags columns stmt.columns)) ++
          unmarked back
      | _ => unmarked stmt.sourceFragments) ++
    unmarked stmt.onConflict ++ unmarked stmt.returning

theorem expr_placeholders (time : Timestamp) : time.expr.placeholders = [] := by
  simp [Timestamp.expr]

@[simp] theorem length_auditFlags (columns : AuditColumns) (known : List Ident) :
    (auditFlags columns known).length = known.length := List.length_map _

def slotFlags (columns : AuditColumns) (known : List Ident) : List Bool :=
  (List.range known.length).map fun j =>
    decide (j = createSlot columns known ∨ j = updateSlot columns known)

@[simp] theorem length_slotFlags (columns : AuditColumns) (known : List Ident) :
    (slotFlags columns known).length = known.length := by
  simp [slotFlags]

theorem getElem?_slotFlags (columns : AuditColumns) {known : List Ident} {j : Nat}
    (inside : j < known.length) : (slotFlags columns known)[j]? =
      some (decide (j = createSlot columns known ∨ j = updateSlot columns known)) := by
  rw [slotFlags, List.getElem?_map, List.getElem?_range inside, Option.map_some]

/-- The values of a declared column are overwritten where it is the last declaration of an audit
column. -/
theorem isSlot_iff (columns : AuditColumns) {known : List Ident} {j : Nat}
    (inside : j < known.length) : j = createSlot columns known ∨ j = updateSlot columns known ↔
      lastIndex? columns.create known = some j ∨ lastIndex? columns.update known = some j := by
  rw [updateSlot, createSlot, slot, slot]
  cases created : lastIndex? columns.create known <;>
    cases updated : lastIndex? columns.update known <;>
    by_cases equal : columns.update = columns.create <;>
    simp_all <;> omega

private theorem auditFlags_eq {columns : AuditColumns} {known : List Ident}
    (once : DeclaredOnce columns known) : auditFlags columns known = slotFlags columns known := by
  apply List.ext_getElem?
  intro j
  by_cases inside : j < known.length
  · have declared : (known[j].value = columns.create ∨ known[j].value = columns.update) ↔
        lastIndex? columns.create known = some j ∨ lastIndex? columns.update known = some j := by
      rw [lastIndex?_eq_some_iff once.1, lastIndex?_eq_some_iff once.2,
        List.getElem?_eq_getElem inside]
      simp
    rw [getElem?_slotFlags columns inside, auditFlags, List.getElem?_map,
      List.getElem?_eq_getElem inside, Option.map_some, ← Bool.decide_or]
    exact congrArg some (decide_eq_decide.mpr (declared.trans (isSlot_iff columns inside).symm))
  · rw [List.getElem?_eq_none (by simpa using inside),
      List.getElem?_eq_none (by simpa using inside)]

private theorem stampBoth_eq (columns : AuditColumns) (time : Timestamp) (known : List Ident)
    (row : List Expr) (same : row.length = known.length) :
    ∃ added, stampBoth columns time known row =
      overwritten (slotFlags columns known) time.expr row ++ added ∧
        ∀ e ∈ added, e = time.expr := by
  have width : (slotFlags columns known).length = row.length := by simp [same]
  have spec := getElem?_stampBoth columns time known row same
  refine ⟨(stampBoth columns time known row).drop row.length, ?_, ?_⟩
  · have front : (stampBoth columns time known row).take row.length =
        overwritten (slotFlags columns known) time.expr row := by
      apply List.ext_getElem?
      intro j
      by_cases inside : j < row.length
      · rw [List.getElem?_take_of_lt inside, spec, overwritten, List.getElem?_zipWith,
          getElem?_slotFlags columns (same ▸ inside), List.getElem?_eq_getElem inside]
        simp only [decide_eq_true_eq]
        split <;> rfl
      · have outside : row.length ≤ j := Nat.le_of_not_lt inside
        rw [List.getElem?_eq_none (by simp; omega),
          List.getElem?_eq_none (by rw [length_overwritten _ _ _ width]; exact outside)]
    rw [← front, List.take_append_drop]
  · intro e member
    obtain ⟨k, found⟩ := List.getElem?_of_mem member
    rw [List.getElem?_drop, spec] at found
    split at found
    · exact (Option.some.inj found).symm
    · rw [List.getElem?_eq_none (by omega)] at found
      simp at found

theorem flatMap_placeholders_stampBoth (columns : AuditColumns) (time : Timestamp)
    (known : List Ident) (row : List Expr) (same : row.length = known.length) :
    (stampBoth columns time known row).flatMap Expr.placeholders =
      (overwritten (slotFlags columns known) time.expr row).flatMap Expr.placeholders := by
  obtain ⟨added, shape, times⟩ := stampBoth_eq columns time known row same
  have none : added.flatMap Expr.placeholders = [] := by
    rw [List.flatMap_eq_nil_iff]
    intro e member
    rw [times e member, expr_placeholders]
  rw [shape, List.flatMap_append, none, List.append_nil]

private theorem Stampable.length_rowMarks {columns : AuditColumns} {stmt : Sql.Insert}
    {front back : Sql.Fragments} {list : Sql.Values} (shape : Stampable stmt front list back) :
    ∀ row ∈ list.rows, (rowMarks (auditFlags columns stmt.columns) row).length =
      (row.flatMap Expr.placeholders).length := by
  intro row member
  exact Stamp.length_rowMarks _ row (by rw [length_auditFlags, shape.even row member])

private theorem Stampable.length_flatMap_rowMarks {stmt : Sql.Insert} {front back : Sql.Fragments}
    {list : Sql.Values} (shape : Stampable stmt front list back) (columns : AuditColumns) :
    (list.rows.flatMap (rowMarks (auditFlags columns stmt.columns))).length =
      (list.rows.flatMap fun row => row.flatMap Expr.placeholders).length := by
  rw [List.length_flatMap, List.length_flatMap]
  exact congrArg List.sum (List.map_congr_left shape.length_rowMarks)

theorem Stampable.length_insertMarks {columns : AuditColumns} {stmt : Sql.Insert}
    {front back : Sql.Fragments} {list : Sql.Values} (shape : Stampable stmt front list back) :
    (insertMarks columns stmt).length = (Sql.Statement.insert stmt).placeholders.length := by
  rw [Sql.Insert.placeholders_eq, insertMarks]
  simp [Sql.Insert.sourceFragments, shape.source, Sql.QueryBody.fragments,
    shape.length_flatMap_rowMarks]

theorem insert_placeholders {columns : AuditColumns} {time : Timestamp}
    {stmt stamped : Sql.Insert} (ok : insert columns time stmt = .ok stamped)
    (once : DeclaredOnce columns stmt.columns) :
    (Sql.Statement.insert stamped).placeholders =
      kept (insertMarks columns stmt) (Sql.Statement.insert stmt).placeholders := by
  obtain ⟨front, list, back, shape, rfl⟩ := stampable_of_insert ok
  have rows : (list.rows.map (stampBoth columns time stmt.columns)).flatMap
      (fun row => row.flatMap Expr.placeholders) =
        kept (list.rows.flatMap (rowMarks (auditFlags columns stmt.columns)))
          (list.rows.flatMap fun row => row.flatMap Expr.placeholders) := by
    rw [kept_flatMap _ _ _ shape.length_rowMarks, List.flatMap_map]
    refine List.flatMap_congr fun row member => ?_
    have same := shape.even row member
    rw [auditFlags_eq once, flatMap_placeholders_stampBoth columns time stmt.columns row same,
      flatMap_placeholders_overwritten _ _ _ (expr_placeholders time) (by simp [same])]
  have lengths := shape.length_flatMap_rowMarks columns
  rw [Sql.Insert.placeholders_eq, Sql.Insert.placeholders_eq, insertMarks]
  simp only [withBoth, Sql.Insert.sourceFragments, shape.source, Sql.QueryBody.fragments,
    Sql.Query.flatMap_placeholders_fragments, Sql.Values.flatMap_placeholders_fragments, rows]
  rw [kept_append _ _ _ _ (by simp [lengths]), kept_append _ _ _ _ (by simp [lengths]),
    kept_append _ _ _ _ (by simp), kept_append _ _ _ _ (by simp [lengths]),
    kept_append _ _ _ _ (by simp)]
  simp only [kept_unmarked]

end RowStamp.Stamp
