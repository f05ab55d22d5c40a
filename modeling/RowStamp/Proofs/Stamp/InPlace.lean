import RowStamp.Proofs.Stamp.Decision
import RowStamp.Stamp.InPlace

/-!
Stamping in place.  Its steps end with the stamped statement, or they fail before the first write
and leave the statement that they were given; the exits that stand behind a check of the same kind
are never taken.
-/

set_option autoImplicit false
set_option relaxedAutoImplicit false

namespace RowStamp.Stamp

open Sql (Assignment Expr Ident Statement baseName)

/-- The end of steps that leave what they were given where they fail. -/
def atomically {σ α : Type} (given : σ) : Except Failure (α × σ) → EStateM.Result Failure σ α
  | .ok (a, after) => .ok a after
  | .error failure => .error failure given

/-- Steps do in place what a function does, and leave what they were given where it fails. -/
structure RunsAtomically {σ α : Type} (steps : Steps σ α) (given : σ)
    (done : Except Failure (α × σ)) : Prop where
  succeeds : ∀ a after, steps.run given = .ok a after ↔ done = .ok (a, after)
  fails : ∀ failure after,
    steps.run given = .error failure after ↔ done = .error failure ∧ after = given

private theorem runsAtomically_of_run {σ α : Type} {steps : Steps σ α} {given : σ}
    {done : Except Failure (α × σ)} (ends : steps.run given = atomically given done) :
    RunsAtomically steps given done := by
  constructor
  · intro a after
    rw [ends]
    cases done <;> simp [atomically, Prod.ext_iff]
  · intro failure after
    rw [ends]
    cases done <;> simp [atomically, eq_comm]

/-! ### Loops over rows -/

private theorem run_forIn_modify {σ α : Type} (xs : List α) (f : α → σ → σ) (s : σ) :
    (forIn xs PUnit.unit fun x _ => do
      modify (f x)
      pure (.yield PUnit.unit) : Steps σ PUnit).run s =
      .ok PUnit.unit (xs.foldl (fun s x => f x s) s) := by
  induction xs generalizing s with
  | nil => rfl
  | cons x xs ih =>
    rw [List.forIn_cons]
    simpa using ih (f x s)

private theorem checkRows_run (table : String) (columns : Nat) (rows : List (List Expr))
    (stmt : Sql.Insert) :
    (checkRows table columns rows).run stmt =
      match unevenRow? columns 0 rows with
      | none => .ok () stmt
      | some (i, n) => .error (.rowLength table i n columns) stmt := by
  unfold checkRows
  generalize 0 = start
  induction rows generalizing start with
  | nil => rfl
  | cons row rows ih =>
    rw [List.zipIdx_cons, List.forIn_cons, unevenRow?]
    by_cases even : row.length = columns
    · simpa [even] using ih (start + 1)
    · simp [even]

private theorem foldl_modify_range {α : Type} (f : α → α) (xs : List α) :
    (List.range xs.length).foldl (fun ys i => ys.modify i f) xs = xs.map f := by
  have upTo (n j : Nat) :
      ((List.range n).foldl (fun ys i => ys.modify i f) xs)[j]? =
        if j < n then xs[j]?.map f else xs[j]? := by
    induction n with
    | zero => simp
    | succ n ih =>
      rw [List.range_succ, List.foldl_append, List.foldl_cons, List.foldl_nil,
        List.getElem?_modify, ih]
      grind
  apply List.ext_getElem?
  intro j
  rw [upTo, List.getElem?_map]
  split
  · rfl
  · rw [List.getElem?_eq_none (by omega)]
    rfl

/-! ### INSERT -/

section Insert

variable {stmt : Sql.Insert} {front back : Sql.Fragments} {list : Sql.Values}

def withGrid (stmt : Sql.Insert) (grid : Grid) : Sql.Insert :=
  { stmt with columns := grid.columns }.withValueRows grid.rows

private theorem withGrid_eq (source : stmt.source = .query ⟨front, .values list, back⟩)
    (grid : Grid) :
    withGrid stmt grid =
      { stmt with
        columns := grid.columns
        source := .query ⟨front, .values { list with rows := grid.rows }, back⟩ } := by
  simp [withGrid, Sql.Insert.withValueRows, source]

private theorem foldl_modifyRow (source : stmt.source = .query ⟨front, .values list, back⟩)
    (names : List Ident) (rows : List (List Expr)) (f : List Expr → List Expr) :
    (List.range rows.length).foldl (fun stmt row => stmt.modifyRow row f)
        (withGrid stmt ⟨names, rows⟩) = withGrid stmt ⟨names, rows.map f⟩ := by
  have one (rows : List (List Expr)) (row : Nat) :
      (withGrid stmt ⟨names, rows⟩).modifyRow row f =
        withGrid stmt ⟨names, rows.modify row f⟩ := by
    rw [withGrid_eq source, withGrid_eq source]
    rfl
  have each (places : List Nat) (rows : List (List Expr)) :
      places.foldl (fun stmt row => stmt.modifyRow row f) (withGrid stmt ⟨names, rows⟩) =
        withGrid stmt ⟨names, places.foldl (fun ys i => ys.modify i f) rows⟩ := by
    induction places generalizing rows with
    | nil => rfl
    | cons place places ih => rw [List.foldl_cons, one, ih, List.foldl_cons]
  rw [each, foldl_modify_range]

private theorem writeColumn_run (source : stmt.source = .query ⟨front, .values list, back⟩)
    (grid : Grid) (known : List Ident) (column : String) (time : Timestamp) :
    (writeColumn column (lastIndex? column known) time).run (withGrid stmt grid) =
      .ok () (withGrid stmt (grid.stamped known column time.expr)) := by
  have rows : (withGrid stmt grid).valueRows? = some grid.rows := by
    rw [withGrid_eq source]
    rfl
  have written (names : List Ident) (f : List Expr → List Expr) :=
    (run_forIn_modify (List.range grid.rows.length)
      (fun row (stmt : Sql.Insert) => stmt.modifyRow row f)
      (withGrid stmt ⟨names, grid.rows⟩)).trans (congrArg _ (foldl_modifyRow source names grid.rows f))
  unfold writeColumn Grid.stamped
  cases lastIndex? column known with
  | some place => simpa [rows] using written grid.columns (·.set place time.expr)
  | none =>
    have grown : { withGrid stmt grid with
        columns := (withGrid stmt grid).columns ++ [Ident.plain column] } =
          withGrid stmt ⟨grid.columns ++ [Ident.plain column], grid.rows⟩ := by
      rw [withGrid_eq source, withGrid_eq source]
    simpa [rows, grown] using written (grid.columns ++ [Ident.plain column]) (· ++ [time.expr])

/-- The steps on an INSERT end as stamping it does, whatever the second look at its shape would fail
with. -/
theorem insertInPlace_run (columns : AuditColumns) (time : Timestamp) (never : Failure)
    (stmt : Sql.Insert) :
    (insertInPlace columns time never).run stmt =
      atomically stmt ((insert columns time stmt).map fun after => ((), after)) := by
  cases rows : stmt.valueRows? with
  | none => simp [insertInPlace, insert, rows, InsertForm.of, atomically, Except.map]
  | some values =>
    obtain ⟨front, list, back, source, rfl⟩ := valueRows?_eq_some_iff.mp rows
    have form : InsertForm.of stmt ≠ .subselect := by
      unfold InsertForm.of
      rw [rows]
      split <;> simp_all
    by_cases empty : stmt.columns = []
    · simp [insertInPlace, insert, rows, form, empty, atomically, Except.map]
    · have checked := checkRows_run (stmt.tableName?.getD "") stmt.columns.length list.rows stmt
      cases uneven : unevenRow? stmt.columns.length 0 list.rows with
      | some found =>
        rw [uneven] at checked
        simp [insertInPlace, insert, rows, form, empty, uneven, checked, atomically, Except.map]
      | none =>
        -- no step can fail any more: both columns are written to the grid of the statement
        rw [uneven] at checked
        have inserted : insert columns time stmt =
            .ok (withGrid stmt (stampGrid columns time ⟨stmt.columns, list.rows⟩)) := by
          simp [insert, rows, empty, uneven, withGrid]
        have given : stmt = withGrid stmt ⟨stmt.columns, list.rows⟩ := by
          rw [withGrid_eq source, ← source]
        have created := writeColumn_run source ⟨stmt.columns, list.rows⟩ stmt.columns
          columns.create time
        rw [← given] at created
        have updated := writeColumn_run source
          (Grid.stamped stmt.columns columns.create time.expr ⟨stmt.columns, list.rows⟩)
          stmt.columns columns.update time
        rw [inserted, stampGrid]
        by_cases equal : columns.update = columns.create
        · simp [insertInPlace, rows, form, empty, checked, created, equal, atomically, Except.map]
        · simp [insertInPlace, rows, form, empty, checked, created, updated, equal, atomically,
            Except.map]

end Insert

/-! ### UPDATE -/

theorem assignedSlot?_of_unassigned {column : String} {list : List Assignment}
    (unassigned : ∀ a ∈ list, assigns column a.target = false) :
    assignedSlot? column list = none := by
  induction list with
  | nil => rfl
  | cons a rest ih =>
    obtain ⟨here, later⟩ := List.forall_mem_cons.mp unassigned
    rw [assignedSlot?, ih later]
    cases target : a.target with
    | column name => simpa [assigns, target] using here
    | tuple names => simpa [assigns, target] using here

/-- The slot of an assignment at a place, whose target names a column last by its `k`-th name. -/
def slotAt (place k : Nat) : Sql.Target → AssignedSlot
  | .column _ => .whole place
  | .tuple _ => .element place k

theorem assignedSlot?_of_split {column : String} {list before : List Assignment}
    {last : Assignment} {after : List Assignment} {k : Nat}
    (split : SplitAtLast column list before last after k) :
    assignedSlot? column list = some (slotAt before.length k last.target) := by
  obtain ⟨rfl, found, later⟩ := split
  induction before with
  | nil =>
    rw [List.nil_append, assignedSlot?, assignedSlot?_of_unassigned later]
    cases target : last.target with
    | column name =>
      obtain ⟨same, rfl⟩ : baseName name = some column ∧ 0 = k := by
        simpa [target, Sql.Target.names, lastName?] using found
      simp [same, slotAt]
    | tuple names =>
      have place : lastName? column names = some k := by rwa [target] at found
      simp [place, slotAt]
  | cons a before ih =>
    rw [List.cons_append, assignedSlot?, ih]
    cases last.target <;> rfl

private theorem modify_append_cons {α : Type} (before : List α) (x : α) (after : List α)
    (f : α → α) :
    (before ++ x :: after).modify before.length f = before ++ f x :: after := by
  induction before with
  | nil => rfl
  | cons a before ih => simp [ih]

private theorem setValue_of_split {stmt : Sql.Update} {before after : List Assignment}
    {last : Assignment} (same : stmt.assignments = before ++ last :: after) (value : Expr) :
    stmt.setValue before.length value =
      { stmt with assignments := before ++ ⟨last.target, value⟩ :: after } := by
  rw [Sql.Update.setValue, same, modify_append_cons]

/-- The steps on an UPDATE end as stamping it does, whatever a slot outside of its set-list would
fail with. -/
theorem updateInPlace_run (columns : AuditColumns) (time : Timestamp) (never : Failure)
    (stmt : Sql.Update) :
    (updateInPlace columns time never).run stmt =
      atomically stmt ((update columns time stmt).map fun after => ((), after)) := by
  rcases unassigned_or_splitAtLast columns.update stmt.assignments with
    unassigned | ⟨before, last, after, k, split⟩
  · have slot := assignedSlot?_of_unassigned unassigned
    rw [update_eq_map (assignments_of_unassigned time unassigned)]
    simp [updateInPlace, slot, atomically, Except.map]
  · have slot := assignedSlot?_of_split split
    have at_place := split.at_place
    have written := setValue_of_split split.same
    rw [update_eq_map (split.assignments_eq time)]
    obtain ⟨⟨name⟩ | ⟨names⟩, value⟩ := last
    · simp [updateInPlace, slot, slotAt, written, overwrite, atomically, Except.map]
    · have place : lastName? columns.update names = some k := split.found
      by_cases different : Mismatch names value
      · rw [overwrite_of_mismatch time different]
        cases value with
        | tuple values =>
          simp [updateInPlace, slot, slotAt, at_place, Sql.Target.names, different values rfl,
            atomically, Except.map]
        | _ =>
          simp [updateInPlace, slot, slotAt, at_place, Sql.Target.names, atomically, Except.map]
      · obtain ⟨values, rfl, arity⟩ : ∃ values, value = .tuple values ∧
            values.length = names.length := by simpa [Mismatch] using different
        simp [updateInPlace, slot, slotAt, at_place, Sql.Target.names, arity, place, overwrite,
          written, atomically, Except.map]

/-! ### Statements -/

def Outcome.settled (given : Statement) : Outcome → Verdict × Statement
  | exempt log => (.exempt log, given)
  | stamped after => (.stamped, after)

private theorem stampPart_run {σ : Type} (whole : σ → Statement) {steps : Steps σ Unit} {part : σ}
    {done : Except Failure σ}
    (ends : steps.run part = atomically part (done.map fun after => ((), after)))
    (statement : Statement) :
    (stampPart whole steps part).run statement =
      atomically (whole part)
        ((done.map fun after => Outcome.stamped (whole after)).map
          (Outcome.settled (whole part))) := by
  have ended : steps part = atomically part (done.map fun after => ((), after)) := ends
  unfold stampPart EStateM.run
  rw [ended]
  cases done <;> rfl

private theorem stampInPlace_of_mismatched {config : AuditConfig} {kind : StatementKind}
    {time : Timestamp}
    {never : Failure} {statement : Statement} (mismatched : Mismatched kind statement) :
    (stampInPlace config kind time never).run statement =
      .error (mismatch kind statement) statement := by
  cases kind with
  | other => exact mismatched.elim
  | insert =>
    cases statement with
    | insert stmt => exact mismatched.elim
    | _ => rfl
  | update =>
    cases statement with
    | update stmt => exact mismatched.elim
    | _ => rfl

/-- The steps on a statement of a kind end as stamping it does. -/
theorem stampInPlace_run (config : AuditConfig) (kind : StatementKind) (time : Timestamp)
    (never : Failure) (statement : Statement) :
    (stampInPlace config kind time never).run statement =
      atomically statement
        ((stampStatement config kind time statement).map (Outcome.settled statement)) := by
  by_cases mismatched : Mismatched kind statement
  · rw [stampStatement_of_mismatched mismatched, stampInPlace_of_mismatched mismatched]
    rfl
  · obtain rfl | ⟨rfl, stmt, rfl⟩ | ⟨rfl, stmt, rfl⟩ := matched_cases mismatched
    · rfl
    · have ends := stampPart_run .insert (insertInPlace_run config.columns time never stmt)
        (.insert stmt)
      rw [stampStatement_insert, exemption?]
      cases table : stmt.tableName? with
      | none => simpa [stampInPlace, stampInsertInPlace, table] using ends
      | some name =>
        cases found : config.ignored.firstMatch? name with
        | none => simpa [stampInPlace, stampInsertInPlace, table, found] using ends
        | some pattern =>
          simp [stampInPlace, stampInsertInPlace, table, found, atomically, Except.map,
            Outcome.settled]
    · have ends := stampPart_run .update (updateInPlace_run config.columns time never stmt)
        (.update stmt)
      rw [stampStatement_update]
      cases touched : touchesAudited config stmt.tableNames with
      | false =>
        simp [stampInPlace, stampUpdateInPlace, touched, atomically, Except.map, Outcome.settled]
      | true => simpa [stampInPlace, stampUpdateInPlace, touched] using ends

/-- An INSERT fails to be stamped exactly for its source, its column list or its first uneven row,
and an UPDATE exactly for the value of the tuple that names the modification column last.  In place
every failure comes before the first write, so that it leaves the statement as it was; the second
look at the source of an INSERT never fails. -/
theorem rejection_exact_and_atomic (columns : AuditColumns) (time : Timestamp) (never : Failure) :
    (∀ (stmt : Sql.Insert) (failure : Failure),
      insert columns time stmt = .error failure ↔
        ∃ code, failure.code? = some code ∧ InsertRejected stmt failure code) ∧
      (∀ (stmt : Sql.Update) (failure : Failure),
        update columns time stmt = .error failure ↔
          ∃ code, failure.code? = some code ∧ UpdateRejected columns stmt failure code) ∧
      (∀ stmt, RunsAtomically (insertInPlace columns time never) stmt
        ((insert columns time stmt).map fun after => ((), after))) ∧
      (∀ stmt, RunsAtomically (updateInPlace columns time never) stmt
        ((update columns time stmt).map fun after => ((), after))) ∧
      (∀ config kind statement, RunsAtomically (stampInPlace config kind time never) statement
        ((stampStatement config kind time statement).map (Outcome.settled statement))) ∧
      ∀ stmt other,
        (insertInPlace columns time never).run stmt =
          (insertInPlace columns time other).run stmt := by
  refine ⟨fun stmt failure => insert_error_iff, fun stmt failure => update_error_iff, ?_, ?_, ?_, ?_⟩
  · intro stmt
    exact runsAtomically_of_run (insertInPlace_run columns time never stmt)
  · intro stmt
    exact runsAtomically_of_run (updateInPlace_run columns time never stmt)
  · intro config kind statement
    exact runsAtomically_of_run (stampInPlace_run config kind time never statement)
  · intro stmt other
    rw [insertInPlace_run, insertInPlace_run]

/-- A later row that is too short fails before a value of the first row is overwritten. -/
example (never : Failure) :
    (insertInPlace .standard .plain never).run
        (Sql.plainInsert ["a", "gmt_create"]
          [[.literal .null, .placeholder "?"], [.placeholder "?"]]) =
      .error (.rowLength "t" 1 1 2)
        (Sql.plainInsert ["a", "gmt_create"]
          [[.literal .null, .placeholder "?"], [.placeholder "?"]]) := by
  rfl

end RowStamp.Stamp
