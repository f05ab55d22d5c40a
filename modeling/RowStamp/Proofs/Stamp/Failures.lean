import RowStamp.Proofs.Stamp.Assigned

/-!
Why a statement is not stamped: an INSERT for its shape, its missing column list or the length of
its first row that is not as long as this list, and an UPDATE for the value of the tuple whose
target names the modification column last.  Nothing else is rejected.
-/

set_option autoImplicit false
set_option relaxedAutoImplicit false

namespace RowStamp.Stamp

open Sql (Assignment Expr Ident)

variable {columns : AuditColumns} {time : Timestamp} {failure : Failure} {code : FailureCode}

/-! ### INSERT -/

/-- The failure of an INSERT that is rejected, with its code. -/
inductive InsertRejected (stmt : Sql.Insert) : Failure → FailureCode → Prop
  | notValues
      (other : ∀ front list back, stmt.source ≠ .query ⟨front, .values list, back⟩) :
      InsertRejected stmt (.insertShape (stmt.tableName?.getD "")) .unsupportedInsertShape
  | undeclared (front : Sql.Fragments) (list : Sql.Values) (back : Sql.Fragments)
      (source : stmt.source = .query ⟨front, .values list, back⟩) (none : stmt.columns = []) :
      InsertRejected stmt (.noColumnList (stmt.tableName?.getD "")) .internalInvariant
  | uneven (front : Sql.Fragments) (list : Sql.Values) (back : Sql.Fragments) (row : Nat)
      (values : List Expr) (source : stmt.source = .query ⟨front, .values list, back⟩)
      (declared : stmt.columns ≠ []) (found : list.rows[row]? = some values)
      (different : values.length ≠ stmt.columns.length)
      (first : ∀ earlier ∈ list.rows.take row, earlier.length = stmt.columns.length) :
      InsertRejected stmt
        (.rowLength (stmt.tableName?.getD "") row values.length stmt.columns.length)
        .internalInvariant

private theorem valueRows?_eq_none_iff {stmt : Sql.Insert} :
    stmt.valueRows? = none ↔
      ∀ front list back, stmt.source ≠ .query ⟨front, .values list, back⟩ := by
  rw [← Option.not_isSome_iff_eq_none, Option.isSome_iff_exists]
  simp only [valueRows?_eq_some_iff]
  constructor
  · intro absent front list back source
    exact absent ⟨list.rows, front, list, back, source, rfl⟩
  · rintro other ⟨rows, front, list, back, source, -⟩
    exact other front list back source

private theorem unevenRow?_eq_some_iff {width start row n : Nat} {rows : List (List Expr)} :
    unevenRow? width start rows = some (row, n) ↔
      ∃ k values, row = start + k ∧ n = values.length ∧ rows[k]? = some values ∧
        values.length ≠ width ∧ ∀ earlier ∈ rows.take k, earlier.length = width := by
  induction rows generalizing start with
  | nil => simp [unevenRow?]
  | cons first rest ih =>
    by_cases even : first.length = width
    · rw [unevenRow?, if_pos even, ih]
      constructor
      · rintro ⟨k, values, rfl, rfl, at_k, different, before⟩
        exact ⟨k + 1, values, by omega, rfl, at_k, different, by simpa [even] using before⟩
      · rintro ⟨k, values, rfl, rfl, at_k, different, before⟩
        cases k with
        | zero =>
          obtain rfl : first = values := by simpa using at_k
          exact absurd even different
        | succ k =>
          exact ⟨k, values, by omega, rfl, at_k, different, by simpa [even] using before⟩
    · rw [unevenRow?, if_neg even]
      constructor
      · intro found
        obtain ⟨rfl, rfl⟩ := Prod.mk.inj (Option.some.inj found)
        exact ⟨0, first, rfl, rfl, rfl, even, by simp⟩
      · rintro ⟨k, values, rfl, rfl, at_k, different, before⟩
        cases k with
        | zero =>
          obtain rfl : first = values := by simpa using at_k
          rfl
        | succ k => exact absurd (before first (by simp)) even

private theorem InsertRejected.code? {stmt : Sql.Insert}
    (rejected : InsertRejected stmt failure code) :
    failure.code? = some code := by
  cases rejected <;> rfl

private theorem InsertRejected.error {stmt : Sql.Insert}
    (rejected : InsertRejected stmt failure code) :
    insert columns time stmt = .error failure := by
  cases rejected with
  | notValues other => simp [insert, valueRows?_eq_none_iff.mpr other]
  | undeclared front list back source none =>
    have rows := valueRows?_eq_some_iff.mpr ⟨front, list, back, source, rfl⟩
    simp [insert, rows, none]
  | uneven front list back row values source declared found different first =>
    have rows := valueRows?_eq_some_iff.mpr ⟨front, list, back, source, rfl⟩
    have uneven := unevenRow?_eq_some_iff.mpr
      ⟨row, values, (Nat.zero_add row).symm, rfl, found, different, first⟩
    simp [insert, rows, declared, uneven]

theorem InsertRejected.of_error {stmt : Sql.Insert}
    (failed : insert columns time stmt = .error failure) :
    ∃ code, InsertRejected stmt failure code := by
  unfold insert at failed
  cases rows : stmt.valueRows? with
  | none =>
    simp only [rows] at failed
    cases failed
    exact ⟨_, .notValues (valueRows?_eq_none_iff.mp rows)⟩
  | some values =>
    obtain ⟨front, list, back, source, rfl⟩ := valueRows?_eq_some_iff.mp rows
    by_cases none : stmt.columns = []
    · simp only [rows, none, List.isEmpty_nil, if_true] at failed
      cases failed
      exact ⟨_, .undeclared front list back source none⟩
    · cases uneven : unevenRow? stmt.columns.length 0 list.rows with
      | none => simp [rows, none, uneven] at failed
      | some place =>
        obtain ⟨row, n⟩ := place
        obtain ⟨k, values, rfl, rfl, found, different, first⟩ := unevenRow?_eq_some_iff.mp uneven
        obtain rfl : .rowLength (stmt.tableName?.getD "") k values.length stmt.columns.length =
            failure := by simpa [rows, none, uneven] using failed
        exact ⟨_, .uneven front list back k values source none found different first⟩

theorem insert_error_iff {stmt : Sql.Insert} :
    insert columns time stmt = .error failure ↔
      ∃ code, failure.code? = some code ∧ InsertRejected stmt failure code := by
  constructor
  · intro failed
    obtain ⟨code, rejected⟩ := InsertRejected.of_error failed
    exact ⟨code, rejected.code?, rejected⟩
  · rintro ⟨code, -, rejected⟩
    exact rejected.error

/-! ### UPDATE -/

/-- A value is no tuple of as many values as there are names. -/
def Mismatch (names : List (List Ident)) (value : Expr) : Prop :=
  ∀ values, value = .tuple values → values.length ≠ names.length

/-- The failure of an UPDATE that is rejected, with its code. -/
inductive UpdateRejected (columns : AuditColumns) (stmt : Sql.Update) :
    Failure → FailureCode → Prop
  | tuple (i k : Nat) (names : List (List Ident)) (value : Expr)
      (last : LastNamedAt columns.update stmt.assignments i k)
      (found : stmt.assignments[i]? = some ⟨.tuple names, value⟩)
      (different : Mismatch names value) :
      UpdateRejected columns stmt (.tupleValue columns.update names.length value.text)
        .internalInvariant

theorem overwrite_of_mismatch {column : String} (time : Timestamp) {names : List (List Ident)}
    {value : Expr} (different : Mismatch names value) :
    overwrite column time ⟨.tuple names, value⟩ =
      .error (.tupleValue column names.length value.text) := by
  cases value with
  | tuple values => simp [overwrite, different values rfl]
  | _ => rfl

private theorem overwrite_error_cases {column : String} {given : Assignment}
    (failed : overwrite column time given = .error failure) :
    ∃ names value, given = ⟨.tuple names, value⟩ ∧ Mismatch names value ∧
      failure = .tupleValue column names.length value.text := by
  obtain ⟨⟨name⟩ | ⟨names⟩, value⟩ := given
  · simp [overwrite] at failed
  · by_cases different : Mismatch names value
    · rw [overwrite_of_mismatch time different] at failed
      exact ⟨names, value, rfl, different, (Except.error.inj failed).symm⟩
    · obtain ⟨values, rfl, same⟩ : ∃ values, value = .tuple values ∧
          values.length = names.length := by simpa [Mismatch] using different
      simp [overwrite, same] at failed

theorem map_eq_error_iff {α β : Type} {result : Except Failure α} {f : α → β} :
    result.map f = .error failure ↔ result = .error failure := by
  cases result <;> simp [Except.map]

theorem update_eq_map {stmt : Sql.Update} {listed : Except Failure (List Assignment)}
    (done : assignments columns.update time stmt.assignments = listed) :
    update columns time stmt = listed.map fun list => { stmt with assignments := list } := by
  rw [update, done]
  cases listed <;> rfl

private theorem UpdateRejected.code? {stmt : Sql.Update}
    (rejected : UpdateRejected columns stmt failure code) : failure.code? = some code := by
  cases rejected
  rfl

theorem UpdateRejected.error {stmt : Sql.Update}
    (rejected : UpdateRejected columns stmt failure code) :
    update columns time stmt = .error failure := by
  obtain ⟨i, k, names, value, place, found, different⟩ := rejected
  rcases unassigned_or_splitAtLast columns.update stmt.assignments with
    unassigned | ⟨before, last, after, l, split⟩
  · exact absurd place.here (unassigned_iff.mp unassigned i k)
  · obtain ⟨rfl, -⟩ := place.unique split.lastNamedAt
    obtain rfl : last = ⟨.tuple names, value⟩ := Option.some.inj (split.at_place.symm.trans found)
    rw [update_eq_map (split.assignments_eq time), overwrite_of_mismatch time different]
    rfl

theorem UpdateRejected.of_error {stmt : Sql.Update}
    (failed : update columns time stmt = .error failure) :
    ∃ code, UpdateRejected columns stmt failure code := by
  rcases unassigned_or_splitAtLast columns.update stmt.assignments with
    unassigned | ⟨before, last, after, k, split⟩
  · rw [update_eq_map (assignments_of_unassigned time unassigned)] at failed
    cases failed
  · rw [update_eq_map (split.assignments_eq time)] at failed
    have replaced := map_eq_error_iff.mp (map_eq_error_iff.mp failed)
    obtain ⟨names, value, rfl, different, rfl⟩ := overwrite_error_cases replaced
    exact ⟨_, .tuple before.length k names value split.lastNamedAt split.at_place different⟩

theorem update_error_iff {stmt : Sql.Update} :
    update columns time stmt = .error failure ↔
      ∃ code, failure.code? = some code ∧ UpdateRejected columns stmt failure code := by
  constructor
  · intro failed
    obtain ⟨code, rejected⟩ := UpdateRejected.of_error failed
    exact ⟨code, rejected.code?, rejected⟩
  · rintro ⟨code, -, rejected⟩
    exact rejected.error

end RowStamp.Stamp
