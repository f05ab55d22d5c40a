import RowStamp.Proofs.Phases

/-!
Where a stamped INSERT holds the time: in every row at the last place of each audit column, and
nowhere else.  The places are looked up in the columns that the user declared, before any column
or value is added, and yet no row is written outside of its values.
-/

set_option autoImplicit false
set_option relaxedAutoImplicit false

namespace RowStamp.Stamp

open Sql (Expr Ident)

/-! ### The last place of a column -/

/-- A column is declared at a place and at no later one. -/
structure LastAt (known : List Ident) (column : String) (i : Nat) : Prop where
  here : known[i]?.map Ident.value = some column
  later : ∀ j, i < j → known[j]?.map Ident.value ≠ some column

theorem isSome_lastIndex?_iff (column : String) (known : List Ident) :
    (lastIndex? column known).isSome ↔ column ∈ known.map Ident.value := by
  induction known with
  | nil => simp [lastIndex?]
  | cons ident rest ih =>
    rw [List.map_cons, List.mem_cons, ← ih, lastIndex?]
    cases lastIndex? column rest with
    | some i => simp
    | none =>
      by_cases same : ident.value = column
      · simp [same]
      · simp [same, Ne.symm same]

theorem lastAt_of_lastIndex? {column : String} {known : List Ident} {i : Nat}
    (found : lastIndex? column known = some i) : LastAt known column i := by
  refine ⟨value_of_lastIndex? found, ?_⟩
  induction known generalizing i with
  | nil => simp [lastIndex?] at found
  | cons ident rest ih =>
    intro j after
    obtain ⟨k, rfl⟩ : ∃ k, j = k + 1 := ⟨j - 1, by omega⟩
    rw [List.getElem?_cons_succ]
    cases later : lastIndex? column rest with
    | some l =>
      obtain rfl : l + 1 = i := by simpa [lastIndex?, later] using found
      exact ih later k (by omega)
    | none =>
      intro here
      obtain ⟨other, at_k, same⟩ := Option.map_eq_some_iff.mp here
      have member : column ∈ rest.map Ident.value :=
        List.mem_map.mpr ⟨other, List.mem_of_getElem? at_k, same⟩
      have present := (isSome_lastIndex?_iff column rest).mpr member
      simp [later] at present

theorem LastAt.eq_of_lastIndex? {column : String} {known : List Ident} {i j : Nat}
    (last : LastAt known column j) (found : lastIndex? column known = some i) : j = i := by
  have other := lastAt_of_lastIndex? found
  rcases Nat.lt_trichotomy j i with before | same | after
  · exact absurd other.here (last.later i before)
  · exact same
  · exact absurd last.here (other.later j after)

private theorem lastAt_create_iff (columns : AuditColumns) (known : List Ident) (j : Nat) :
    LastAt (allColumns columns known) columns.create j ↔ j = createSlot columns known := by
  have found := lastIndex?_create_allColumns columns known
  constructor
  · intro last
    exact last.eq_of_lastIndex? found
  · rintro rfl
    exact lastAt_of_lastIndex? found

private theorem lastAt_update_iff (columns : AuditColumns) (known : List Ident) (j : Nat) :
    LastAt (allColumns columns known) columns.update j ↔ j = updateSlot columns known := by
  have found := lastIndex?_update_allColumns columns known
  constructor
  · intro last
    exact last.eq_of_lastIndex? found
  · rintro rfl
    exact lastAt_of_lastIndex? found

/-! ### The columns of a stamped INSERT -/

/-- The declared columns, then the creation column and the modification column where they are not
declared. -/
def completed (columns : AuditColumns) (known : List Ident) : List Ident :=
  known ++
    (if columns.create ∈ known.map Ident.value then [] else [Ident.plain columns.create]) ++
    (if columns.update = columns.create ∨ columns.update ∈ known.map Ident.value then []
      else [Ident.plain columns.update])

theorem allColumns_eq_completed (columns : AuditColumns) (known : List Ident) :
    allColumns columns known = completed columns known := by
  rw [allColumns_eq, completed]
  simp only [isSome_lastIndex?_iff]

private theorem count_added (given : Prop) [Decidable given] (name column : String) :
    ((if given then [] else [Ident.plain name]).map Ident.value).count column =
      if ¬given ∧ name = column then 1 else 0 := by
  by_cases present : given
  · simp [present]
  · simp [present, Ident.plain, List.count_singleton]

private theorem count_completed (columns : AuditColumns) (known : List Ident) {column : String}
    (audit : column = columns.create ∨ column = columns.update) :
    ((completed columns known).map Ident.value).count column =
      max 1 ((known.map Ident.value).count column) := by
  have present : column ∈ known.map Ident.value ↔ 0 < (known.map Ident.value).count column :=
    List.count_pos_iff.symm
  rw [completed, List.map_append, List.map_append, List.count_append, List.count_append,
    count_added, count_added]
  rcases audit with rfl | rfl
  · by_cases equal : columns.update = columns.create
    · simp only [present, equal, and_true, true_or, not_true_eq_false, if_false]
      split_ifs <;> omega
    · simp only [present, equal, and_true, and_false, if_false]
      split_ifs <;> omega
  · by_cases equal : columns.update = columns.create
    · rw [← equal]
      simp only [present, and_true, true_or, not_true_eq_false, if_false]
      split_ifs <;> omega
    · simp only [present, equal, Ne.symm equal, and_true, and_false, false_or, if_false]
      split_ifs <;> omega

/-! ### Writing inside of the rows -/

/-- A row with another value at a place that the row has; nothing where it has no such place. -/
def writeAt? (i : Nat) (value : Expr) (row : List Expr) : Option (List Expr) :=
  if i < row.length then some (row.set i value) else none

/-- A column with one value in every row, nothing where a row is written outside of its values. -/
def Grid.stamped? (known : List Ident) (column : String) (value : Expr) (grid : Grid) :
    Option Grid :=
  match lastIndex? column known with
  | some i => (grid.rows.mapM (writeAt? i value)).map fun rows => { grid with rows := rows }
  | none => some (grid.stamped known column value)

/-- Both audit columns with the time in every row, nothing where a row is written outside of its
values. -/
def stampGrid? (columns : AuditColumns) (time : Timestamp) (grid : Grid) : Option Grid := do
  let created ← grid.stamped? grid.columns columns.create time.expr
  if columns.update = columns.create then return created
  else created.stamped? grid.columns columns.update time.expr

private theorem mapM_writeAt?_eq (i : Nat) (value : Expr) (rows : List (List Expr))
    (inside : ∀ row ∈ rows, i < row.length) :
    rows.mapM (writeAt? i value) = some (rows.map (·.set i value)) := by
  induction rows with
  | nil => rfl
  | cons row rows ih =>
    obtain ⟨here, others⟩ := List.forall_mem_cons.mp inside
    rw [List.mapM_cons, ih others, writeAt?, if_pos here]
    rfl

private theorem stamped?_eq (known : List Ident) (column : String) (value : Expr) (grid : Grid)
    (wide : ∀ row ∈ grid.rows, known.length ≤ row.length) :
    grid.stamped? known column value = some (grid.stamped known column value) := by
  unfold Grid.stamped?
  cases found : lastIndex? column known with
  | none => rfl
  | some i =>
    have inside : ∀ row ∈ grid.rows, i < row.length := by
      intro row member
      exact Nat.lt_of_lt_of_le (lt_of_lastIndex? found) (wide row member)
    simp only [mapM_writeAt?_eq i value grid.rows inside, Grid.stamped, found, Option.map_some]

private theorem stampGrid?_eq (columns : AuditColumns) (time : Timestamp) (grid : Grid)
    (even : ∀ row ∈ grid.rows, row.length = grid.columns.length) :
    stampGrid? columns time grid = some (stampGrid columns time grid) := by
  have wide : ∀ row ∈ grid.rows, grid.columns.length ≤ row.length := by
    intro row member
    exact Nat.le_of_eq (even row member).symm
  have created := stamped?_eq grid.columns columns.create time.expr grid wide
  rw [stampGrid?, created, Option.bind_eq_bind, Option.bind_some, stampGrid]
  by_cases equal : columns.update = columns.create
  · simp [equal]
  · have grown : ∀ row ∈ (grid.stamped grid.columns columns.create time.expr).rows,
        grid.columns.length ≤ row.length := by
      intro row member
      rw [stamped_eq] at member
      obtain ⟨given, inside, rfl⟩ := List.mem_map.mp member
      rw [length_stampRow]
      have := wide given inside
      omega
    simp only [equal, if_false]
    exact stamped?_eq grid.columns columns.update time.expr _ grown

/-! ### The stamped INSERT -/

/-- A stamped INSERT has both audit columns and, in every row, the time at the last place of each
of them; all else of it is as the user wrote it, and no row is written outside of its values. -/
theorem insert_places_time {columns : AuditColumns} {time : Timestamp}
    {stmt stamped : Sql.Insert} (ok : insert columns time stmt = .ok stamped) :
    ∃ front list back rows,
      stmt.source = .query ⟨front, .values list, back⟩ ∧
      stamped = { stmt with
        columns := completed columns stmt.columns
        source := .query ⟨front, .values { list with rows := rows }, back⟩ } ∧
      rows.length = list.rows.length ∧
      (∀ (i : Nat) (before after : List Expr), list.rows[i]? = some before → rows[i]? = some after →
        before.length = stmt.columns.length ∧ after.length = stamped.columns.length ∧
        ∀ j,
          (LastAt stamped.columns columns.create j ∨ LastAt stamped.columns columns.update j →
            after[j]? = some time.expr) ∧
          (¬LastAt stamped.columns columns.create j → ¬LastAt stamped.columns columns.update j →
            after[j]? = before[j]?)) ∧
      (∀ column, column = columns.create ∨ column = columns.update →
        (∃ j, LastAt stamped.columns column j) ∧
        (stamped.columns.map Ident.value).count column =
          max 1 ((stmt.columns.map Ident.value).count column)) ∧
      stampGrid? columns time ⟨stmt.columns, list.rows⟩ = some ⟨stamped.columns, rows⟩ := by
  obtain ⟨front, list, back, shape, rfl⟩ := stampable_of_insert ok
  have names := allColumns_eq_completed columns stmt.columns
  refine ⟨front, list, back, list.rows.map (stampBoth columns time stmt.columns), shape.source,
    ?_, ?_, ?_, ?_, ?_⟩
  · rw [withBoth, names]
  · rw [List.length_map]
  · intro i before after given written
    have same := shape.even before (List.mem_of_getElem? given)
    obtain rfl : stampBoth columns time stmt.columns before = after := by
      simpa [List.getElem?_map, given] using written
    refine ⟨same, length_stampBoth columns time stmt.columns before same, ?_⟩
    intro j
    have value := getElem?_stampBoth columns time stmt.columns before same j
    have created := lastAt_create_iff columns stmt.columns j
    have updated := lastAt_update_iff columns stmt.columns j
    simp only [withBoth, created, updated]
    constructor
    · intro placed
      rw [value, if_pos placed]
    · intro notCreated notUpdated
      rw [value, if_neg (by simp [notCreated, notUpdated])]
  · intro column audit
    constructor
    · rcases audit with rfl | rfl
      · exact ⟨_, (lastAt_create_iff columns stmt.columns _).mpr rfl⟩
      · exact ⟨_, (lastAt_update_iff columns stmt.columns _).mpr rfl⟩
    · rw [withBoth, names]
      exact count_completed columns stmt.columns audit
  · rw [stampGrid?_eq columns time ⟨stmt.columns, list.rows⟩ shape.even, stampGrid_eq]
    rfl

def repeatedInsert : Sql.Insert :=
  Sql.plainInsert ["gmt_modified", "a", "gmt_modified"]
    [[.placeholder "?", .placeholder "?", .placeholder "?"],
      [.literal .null, .placeholder "?", .placeholder "?"]]

def stampedRepeated : Sql.Insert :=
  Sql.plainInsert ["gmt_modified", "a", "gmt_modified", "gmt_create"]
    [[.placeholder "?", .placeholder "?", Timestamp.plain.expr, Timestamp.plain.expr],
      [.literal .null, .placeholder "?", Timestamp.plain.expr, Timestamp.plain.expr]]

theorem insert_places_time_repeated :
    insert .standard .plain repeatedInsert = .ok stampedRepeated ∧
      ∀ column, column = AuditColumns.standard.create ∨ column = AuditColumns.standard.update →
        (∃ j, LastAt stampedRepeated.columns column j) ∧
        (stampedRepeated.columns.map Ident.value).count column =
          max 1 ((repeatedInsert.columns.map Ident.value).count column) := by
  have ok : insert .standard .plain repeatedInsert = .ok stampedRepeated := by rfl
  obtain ⟨_, _, _, _, _, _, _, _, counts, _⟩ := insert_places_time ok
  exact ⟨ok, counts⟩

end RowStamp.Stamp
