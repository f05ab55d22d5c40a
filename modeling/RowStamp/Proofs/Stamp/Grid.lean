import Mathlib.Tactic.SplitIfs
import RowStamp.Stamp.Insert

/-!
Columns and rows of a stamped INSERT.  Each audit column has one place: that of its last
declaration, or the next one after the last column.  A stamped row holds the time at these places
and is unchanged elsewhere, so that a later stamp of the same columns absorbs an earlier one.
-/

set_option autoImplicit false
set_option relaxedAutoImplicit false

namespace RowStamp.Stamp

open Sql (Expr Ident)

/-! ### The last declaration of a column -/

theorem value_of_lastIndex? {column : String} {known : List Ident} {i : Nat}
    (found : lastIndex? column known = some i) : known[i]?.map Ident.value = some column := by
  induction known generalizing i with
  | nil => simp [lastIndex?] at found
  | cons ident rest ih =>
    cases later : lastIndex? column rest with
    | some k =>
      obtain rfl : k + 1 = i := by simpa [lastIndex?, later] using found
      exact ih later
    | none =>
      obtain ⟨same, rfl⟩ : ident.value = column ∧ 0 = i := by
        simpa [lastIndex?, later] using found
      simp [same]

theorem lt_of_lastIndex? {column : String} {known : List Ident} {i : Nat}
    (found : lastIndex? column known = some i) : i < known.length := by
  obtain ⟨ident, at_i, -⟩ := Option.map_eq_some_iff.mp (value_of_lastIndex? found)
  exact (List.getElem?_eq_some_iff.mp at_i).1

private theorem lastIndex?_append (column : String) (known more : List Ident) :
    lastIndex? column (known ++ more) =
      ((lastIndex? column more).map (known.length + ·)).or (lastIndex? column known) := by
  induction known with
  | nil => simp [lastIndex?]
  | cons ident rest ih =>
    rw [List.cons_append, lastIndex?, ih]
    cases found : lastIndex? column more with
    | none => simp [lastIndex?]
    | some i => simp; omega

/-- A column that is declared at most once has no declaration but its last one. -/
theorem lastIndex?_eq_some_iff {column : String} {known : List Ident}
    (once : (known.map Ident.value).count column ≤ 1) {j : Nat} :
    lastIndex? column known = some j ↔ known[j]?.map Ident.value = some column := by
  induction known generalizing j with
  | nil => simp [lastIndex?]
  | cons ident rest ih =>
    rw [List.map_cons, List.count_cons] at once
    have restOnce : (rest.map Ident.value).count column ≤ 1 := by omega
    cases later : lastIndex? column rest with
    | some k =>
      have member : column ∈ rest.map Ident.value := by
        obtain ⟨other, at_k, same⟩ := Option.map_eq_some_iff.mp (value_of_lastIndex? later)
        exact List.mem_map.mpr ⟨other, List.mem_of_getElem? at_k, same⟩
      have present : 0 < (rest.map Ident.value).count column := List.count_pos_iff.mpr member
      have different : ident.value ≠ column := by
        rintro rfl
        simp at once
        omega
      cases j with
      | zero => simp [lastIndex?, later, different]
      | succ j =>
        rw [List.getElem?_cons_succ, ← ih restOnce, later]
        simp [lastIndex?, later]
    | none =>
      cases j with
      | zero => simp [lastIndex?, later]
      | succ j =>
        rw [List.getElem?_cons_succ, ← ih restOnce, later]
        simp [lastIndex?, later]

/-! ### One column -/

/-- The place of a column in rows of `width` values. -/
def slot (known : List Ident) (width : Nat) (column : String) : Nat :=
  (lastIndex? column known).getD width

def stampRow (known : List Ident) (column : String) (value : Expr) (row : List Expr) :
    List Expr :=
  match lastIndex? column known with
  | some i => row.set i value
  | none => row ++ [value]

theorem stamped_eq (known : List Ident) (column : String) (value : Expr) (grid : Grid) :
    grid.stamped known column value =
      ⟨if (lastIndex? column known).isSome then grid.columns
        else grid.columns ++ [Ident.plain column],
        grid.rows.map (stampRow known column value)⟩ := by
  unfold Grid.stamped stampRow
  cases lastIndex? column known <;> rfl

theorem length_stampRow (known : List Ident) (column : String) (value : Expr) (row : List Expr) :
    (stampRow known column value row).length =
      row.length + if (lastIndex? column known).isSome then 0 else 1 := by
  unfold stampRow
  cases lastIndex? column known <;> simp

private theorem getElem?_stampRow (known : List Ident) (column : String) (value : Expr)
    (row : List Expr) (wide : known.length ≤ row.length) (j : Nat) :
    (stampRow known column value row)[j]? =
      if j = slot known row.length column then some value else row[j]? := by
  unfold stampRow slot
  cases found : lastIndex? column known with
  | some i =>
    have inside : i < row.length := Nat.lt_of_lt_of_le (lt_of_lastIndex? found) wide
    rw [Option.getD_some, List.getElem?_set, if_pos inside]
    simp only [eq_comm]
  | none =>
    simp only [Option.getD_none, List.getElem?_append]
    grind

/-! ### Both columns -/

def allColumns (columns : AuditColumns) (known : List Ident) : List Ident :=
  (stampGrid columns ⟨""⟩ ⟨known, []⟩).columns

def createSlot (columns : AuditColumns) (known : List Ident) : Nat :=
  slot known known.length columns.create

/-- The slot of the modification column, after that of the creation column where both are
missing. -/
def updateSlot (columns : AuditColumns) (known : List Ident) : Nat :=
  if columns.update = columns.create then createSlot columns known
  else
    slot known (known.length + if (lastIndex? columns.create known).isSome then 0 else 1)
      columns.update

def stampBoth (columns : AuditColumns) (time : Timestamp) (known : List Ident)
    (row : List Expr) : List Expr :=
  let created := stampRow known columns.create time.expr row
  if columns.update = columns.create then created
  else stampRow known columns.update time.expr created

theorem stampGrid_eq (columns : AuditColumns) (time : Timestamp) (grid : Grid) :
    stampGrid columns time grid =
      ⟨allColumns columns grid.columns,
        grid.rows.map (stampBoth columns time grid.columns)⟩ := by
  unfold allColumns stampGrid stampBoth
  split <;> simp [stamped_eq]

theorem allColumns_eq (columns : AuditColumns) (known : List Ident) :
    allColumns columns known =
      known ++
        (if (lastIndex? columns.create known).isSome then []
          else [Ident.plain columns.create]) ++
        (if columns.update = columns.create ∨ (lastIndex? columns.update known).isSome then []
          else [Ident.plain columns.update]) := by
  unfold allColumns stampGrid
  simp only [stamped_eq]
  split_ifs <;> simp_all

theorem length_stampBoth (columns : AuditColumns) (time : Timestamp) (known : List Ident)
    (row : List Expr) (same : row.length = known.length) :
    (stampBoth columns time known row).length = (allColumns columns known).length := by
  unfold stampBoth
  rw [allColumns_eq]
  split_ifs <;> simp_all [length_stampRow]

theorem getElem?_stampBoth (columns : AuditColumns) (time : Timestamp) (known : List Ident)
    (row : List Expr) (same : row.length = known.length) (j : Nat) :
    (stampBoth columns time known row)[j]? =
      if j = createSlot columns known ∨ j = updateSlot columns known then some time.expr
      else row[j]? := by
  have created := getElem?_stampRow known columns.create time.expr row (Nat.le_of_eq same.symm) j
  rw [same] at created
  unfold stampBoth updateSlot createSlot
  by_cases equal : columns.update = columns.create
  · simp only [equal, if_true, or_self]
    exact created
  · simp only [equal, if_false]
    have wide : known.length ≤ (stampRow known columns.create time.expr row).length := by
      rw [length_stampRow]
      omega
    rw [getElem?_stampRow _ _ _ _ wide, created, length_stampRow, same]
    split_ifs <;> simp_all

/-! ### Slots of a stamped declaration -/

theorem lastIndex?_create_allColumns (columns : AuditColumns) (known : List Ident) :
    lastIndex? columns.create (allColumns columns known) = some (createSlot columns known) := by
  rw [allColumns_eq]
  unfold createSlot slot
  cases created : lastIndex? columns.create known <;>
    cases updated : lastIndex? columns.update known <;>
    by_cases equal : columns.update = columns.create <;>
    simp_all [lastIndex?_append, lastIndex?, Ident.plain]

theorem lastIndex?_update_allColumns (columns : AuditColumns) (known : List Ident) :
    lastIndex? columns.update (allColumns columns known) = some (updateSlot columns known) := by
  by_cases equal : columns.update = columns.create
  · rw [updateSlot, if_pos equal, equal]
    exact lastIndex?_create_allColumns columns known
  · have different : columns.create ≠ columns.update := Ne.symm equal
    rw [allColumns_eq, updateSlot, if_neg equal, slot]
    cases created : lastIndex? columns.create known <;>
      cases updated : lastIndex? columns.update known <;>
      simp_all [lastIndex?_append, lastIndex?, Ident.plain]

theorem allColumns_allColumns (columns : AuditColumns) (known : List Ident) :
    allColumns columns (allColumns columns known) = allColumns columns known := by
  rw [allColumns_eq columns (allColumns columns known), lastIndex?_create_allColumns,
    lastIndex?_update_allColumns]
  simp

private theorem createSlot_allColumns (columns : AuditColumns) (known : List Ident) :
    createSlot columns (allColumns columns known) = createSlot columns known := by
  rw [createSlot, slot, lastIndex?_create_allColumns, Option.getD_some]

private theorem updateSlot_allColumns (columns : AuditColumns) (known : List Ident) :
    updateSlot columns (allColumns columns known) = updateSlot columns known := by
  rw [updateSlot]
  split
  · rename_i equal
    rw [createSlot_allColumns, updateSlot, if_pos equal]
  · rw [slot, lastIndex?_update_allColumns, Option.getD_some]

theorem stampBoth_stampBoth (columns : AuditColumns) (first second : Timestamp)
    (known : List Ident) (row : List Expr) (same : row.length = known.length) :
    stampBoth columns second (allColumns columns known) (stampBoth columns first known row) =
      stampBoth columns second known row := by
  apply List.ext_getElem?
  intro j
  rw [getElem?_stampBoth _ _ _ _ (length_stampBoth columns first known row same),
    getElem?_stampBoth _ _ _ _ same, getElem?_stampBoth _ _ _ _ same, createSlot_allColumns,
    updateSlot_allColumns]
  split <;> rfl

end RowStamp.Stamp
