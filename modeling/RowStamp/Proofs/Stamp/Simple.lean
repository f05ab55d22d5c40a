import RowStamp.Proofs.Calendar.Digits
import RowStamp.Proofs.Sql.SimpleStatement
import RowStamp.Proofs.Stamp.Statement

/-!
Stamping a statement of simple values makes one of simple values, and the time that it writes is
read as it was.
-/

set_option autoImplicit false
set_option relaxedAutoImplicit false

namespace RowStamp

open Sql (Expr Ident SimpleInsert SimpleStatement SimpleUpdate Statement isWord)

/-! ### The time -/

def isTimeChar (c : Char) : Bool := c.isDigit || ['-', '+', ' ', ':', '.'].contains c

namespace WallTime

private theorem isTimeChar_padded (width n : Nat) : ∀ c ∈ padded width n, isTimeChar c = true := by
  intro c member
  simp [isTimeChar, isDigit_padded width n c member]

private theorem isTimeChar_yearText (year : Int) : ∀ c ∈ yearText year, isTimeChar c = true := by
  unfold yearText
  split
  · exact isTimeChar_padded 4 _
  · rw [List.forall_mem_cons]
    exact ⟨by split <;> rfl, isTimeChar_padded 4 _⟩

theorem isTimeChar_text (time : WallTime) : ∀ c ∈ time.text.toList, isTimeChar c = true := by
  have pad := isTimeChar_padded
  simp only [text, String.toList_ofList, List.forall_mem_append, List.forall_mem_cons]
  exact ⟨⟨⟨⟨⟨⟨isTimeChar_yearText _, rfl, pad 2 _⟩, rfl, pad 2 _⟩, rfl, pad 2 _⟩, rfl, pad 2 _⟩,
    rfl, pad 2 _⟩, rfl, pad 3 _⟩

end WallTime

theorem Timestamp.survives_expr (d : Dialect) (time : WallTime) :
    (Timestamp.ofWallTime time).expr.survives d = true := by
  refine Sql.survives_of_notMem ?_ ?_
  · intro member
    have quote : isTimeChar '\'' = true := time.isTimeChar_text _ member
    exact absurd quote (by decide)
  · intro member
    exact absurd (time.isTimeChar_text _ member) (by decide)

structure AuditColumns.Plain (columns : AuditColumns) : Prop where
  create : isWord columns.create.toList = true
  update : isWord columns.update.toList = true

theorem AuditColumns.plain_standard : AuditColumns.standard.Plain := ⟨by decide, by decide⟩

namespace Stamp

variable {d : Dialect} {columns : AuditColumns} {time : Timestamp}

private theorem simple_time (d : Dialect) (time : Timestamp) :
    time.expr.Simple d := .string time.text

/-! ### INSERT -/

private theorem mem_stampRow {known : List Ident} {column : String} {value e : Expr}
    {row : List Expr} (member : e ∈ stampRow known column value row) : e ∈ row ∨ e = value := by
  unfold stampRow at member
  split at member
  · exact List.mem_or_eq_of_mem_set member
  · simpa using member

private theorem mem_stampBoth {known : List Ident} {e : Expr} {row : List Expr}
    (member : e ∈ stampBoth columns time known row) : e ∈ row ∨ e = time.expr := by
  unfold stampBoth at member
  dsimp only at member
  split at member
  · exact mem_stampRow member
  · rcases mem_stampRow member with inside | same
    · exact mem_stampRow inside
    · exact .inr same

private theorem stampRow_ne_nil {row : List Expr} (some' : row ≠ []) (known : List Ident)
    (column : String) (value : Expr) : stampRow known column value row ≠ [] := by
  unfold stampRow
  split
  · simpa using some'
  · simp

private theorem stampBoth_ne_nil {row : List Expr} (some' : row ≠ []) (known : List Ident) :
    stampBoth columns time known row ≠ [] := by
  unfold stampBoth
  dsimp only
  split
  · exact stampRow_ne_nil some' _ _ _
  · exact stampRow_ne_nil (stampRow_ne_nil some' _ _ _) _ _ _

private theorem mem_allColumns {known : List Ident} {column : Ident}
    (member : column ∈ allColumns columns known) :
    column ∈ known ∨ column = .plain columns.create ∨ column = .plain columns.update := by
  rw [allColumns_eq, List.mem_append, List.mem_append] at member
  rcases member with (inside | created) | updated
  · exact .inl inside
  · split at created
    · simp at created
    · exact .inr (.inl (by simpa using created))
  · split at updated
    · simp at updated
    · exact .inr (.inr (by simpa using updated))

def stampedInsert (columns : AuditColumns) (time : Timestamp) (stmt : SimpleInsert) :
    SimpleInsert where
  table := stmt.table
  columns := allColumns columns stmt.columns
  rows := stmt.rows.map (stampBoth columns time stmt.columns)

theorem insert_simple {stmt : SimpleInsert} {done : Sql.Insert}
    (ok : insert columns time stmt.statement = .ok done) :
    done = (stampedInsert columns time stmt).statement := by
  obtain ⟨front, list, back, shape, rfl⟩ := stampable_of_insert ok
  have source := shape.source
  simp only [SimpleInsert.statement, Sql.InsertSource.query.injEq, Sql.Query.mk.injEq,
    Sql.QueryBody.values.injEq] at source
  obtain ⟨rfl, rfl, rfl⟩ := source
  rfl

theorem framed_stampedInsert {stmt : SimpleInsert} (wellFormed : stmt.WellFormed d) :
    (stampedInsert columns time stmt).Framed d where
  table := wellFormed.table
  tableKey := wellFormed.tableKey
  columns := by
    intro column member
    rcases mem_allColumns member with inside | rfl | rfl
    · exact (wellFormed.columns column inside).shaped
    · exact nofun
    · exact nofun
  someColumn := by simp [stampedInsert, allColumns_eq, wellFormed.someColumn]
  columnKey := by
    obtain ⟨first, others, found⟩ := List.exists_cons_of_ne_nil wellFormed.someColumn
    have head := wellFormed.columnKey
    simpa [stampedInsert, allColumns_eq, found] using head
  rows := by
    intro row member
    obtain ⟨given, inside, rfl⟩ := List.mem_map.mp member
    obtain ⟨some', simple⟩ := wellFormed.rows given inside
    refine ⟨stampBoth_ne_nil some' _, fun e member => ?_⟩
    rcases mem_stampBoth member with old | rfl
    · exact simple e old
    · exact simple_time d time
  someRow := by simpa [stampedInsert] using wellFormed.someRow

private theorem wellFormed_stampedInsert (plain : columns.Plain) {stmt : SimpleInsert}
    (wellFormed : stmt.WellFormed d) : (stampedInsert columns time stmt).WellFormed d :=
  { framed_stampedInsert wellFormed with
    columns := by
      intro column member
      rcases mem_allColumns member with inside | rfl | rfl
      · exact wellFormed.columns column inside
      · exact plain.create
      · exact plain.update }

theorem survives_stampedInsert {stmt : SimpleInsert} (fineTime : time.expr.survives d = true)
    (fine : stmt.survives d = true) : (stampedInsert columns time stmt).survives d = true := by
  simp only [SimpleInsert.survives, Bool.and_eq_true, List.all_eq_true] at fine ⊢
  obtain ⟨⟨table, names⟩, rows⟩ := fine
  refine ⟨⟨table, fun column member => ?_⟩, fun row member e inside => ?_⟩
  · rcases mem_allColumns member with inside | rfl | rfl
    · exact names column inside
    · rfl
    · rfl
  · obtain ⟨given, known, rfl⟩ := List.mem_map.mp member
    rcases mem_stampBoth inside with old | rfl
    · exact rows given known e old
    · exact fineTime

/-! ### UPDATE -/

def columnAssignments (pairs : List (Ident × Expr)) : List Sql.Assignment :=
  pairs.map fun pair => ⟨.column [pair.1], pair.2⟩

/-- The assignments of columns of which stamping a column makes others: the column is among them,
as a plain name where it was not given, one has the time, and the rest is as it was. -/
structure Restamped (column : String) (time : Timestamp) (pairs stamped : List (Ident × Expr)) :
    Prop where
  columns : ∀ pair ∈ stamped, pair.1 = .plain column ∧ column ∉ pairs.map (·.1.value) ∨
    ∃ value, (pair.1, value) ∈ pairs
  values : ∀ pair ∈ stamped, pair.2 = time.expr ∨ ∃ name, (name, pair.2) ∈ pairs
  named : column ∈ stamped.map (·.1.value)
  timed : ∃ name, (name, time.expr) ∈ stamped

private theorem assigns_pair (column : String) (pair : Ident × Expr) :
    assigns column (.column [pair.1]) = decide (pair.1.value = column) := by
  simp [assigns, Sql.baseName]

private theorem Restamped.of_placed {column : String} {name : Ident}
    {pairs before after : List (Ident × Expr)} (named : name.value = column)
    (placed : name = .plain column ∧ column ∉ pairs.map (·.1.value) ∨
      ∃ value, (name, value) ∈ pairs)
    (kept : ∀ pair ∈ before ++ after, pair ∈ pairs) :
    Restamped column time pairs (before ++ (name, time.expr) :: after) := by
  have cases {pair : Ident × Expr} (member : pair ∈ before ++ (name, time.expr) :: after) :
      pair = (name, time.expr) ∨ pair ∈ pairs := by
    rcases List.mem_append.mp member with old | new
    · exact .inr (kept pair (List.mem_append_left _ old))
    · rcases List.mem_cons.mp new with same | old
      · exact .inl same
      · exact .inr (kept pair (List.mem_append_right _ old))
  refine ⟨fun pair member => ?_, fun pair member => ?_, by simp [named],
    ⟨name, List.mem_append_right _ List.mem_cons_self⟩⟩
  · rcases cases member with rfl | old
    · exact placed
    · exact .inr ⟨_, old⟩
  · rcases cases member with rfl | old
    · exact .inl rfl
    · exact .inr ⟨_, old⟩

private theorem assignments_simple {column : String} {pairs : List (Ident × Expr)}
    {list : List Sql.Assignment}
    (ok : assignments column time (columnAssignments pairs) = .ok list) :
    ∃ stamped, list = columnAssignments stamped ∧ Restamped column time pairs stamped := by
  rcases assignments_cases ok with
    ⟨unassigned, rfl⟩ | ⟨before, last, other, after, same, named, -, replaced, rfl⟩
  · have absent : column ∉ pairs.map (·.1.value) := by
      rintro given
      obtain ⟨pair, member, rfl⟩ := List.mem_map.mp given
      have other := unassigned _ (List.mem_map_of_mem member)
      simp [assigns_pair] at other
    refine ⟨pairs ++ [(.plain column, time.expr)], ?_, ?_⟩
    · simp [columnAssignments, newAssignment]
    · exact .of_placed rfl (.inl ⟨rfl, absent⟩) (by simp)
  · obtain ⟨first, others, rfl, rfl, split⟩ := List.map_eq_append_iff.mp same
    obtain ⟨given, rest, rfl, rfl, rfl⟩ := List.map_eq_cons_iff.mp split
    obtain rfl := Except.ok.inj replaced
    obtain rfl : given.1.value = column := by simpa [assigns_pair] using named
    refine ⟨first ++ (given.1, time.expr) :: rest, ?_, ?_⟩
    · simp [columnAssignments]
    · refine .of_placed rfl (.inr ⟨given.2, by simp⟩) fun pair member => ?_
      rcases List.mem_append.mp member with old | old
      · exact List.mem_append_left _ old
      · exact List.mem_append_right _ (List.mem_cons_of_mem _ old)

theorem update_restamped {stmt : SimpleUpdate} {done : Sql.Update}
    (ok : update columns time stmt.statement = .ok done) :
    ∃ pairs, done = { stmt with assignments := pairs }.statement ∧
      Restamped columns.update time stmt.assignments pairs := by
  obtain ⟨list, listed, rfl⟩ := update_eq_ok_iff.mp ok
  obtain ⟨pairs, rfl, restamped⟩ := assignments_simple listed
  exact ⟨pairs, rfl, restamped⟩

/-- A stamped UPDATE of simple values is one, but for the name of the audit column. -/
theorem Restamped.framed {column : String} {stmt : SimpleUpdate} {pairs : List (Ident × Expr)}
    (restamped : Restamped column time stmt.assignments pairs) (wellFormed : stmt.WellFormed d) :
    { stmt with assignments := pairs }.Framed d where
  table := wellFormed.table
  tableFine := wellFormed.tableFine
  tableKey := wellFormed.tableKey
  assignments := by
    intro pair member
    constructor
    · rcases restamped.columns pair member with ⟨same, -⟩ | ⟨value, inside⟩
      · rw [same]
        exact nofun
      · exact (wellFormed.assignments _ inside).1.shaped
    · rcases restamped.values pair member with same | ⟨name, inside⟩
      · rw [same]
        exact simple_time d time
      · exact (wellFormed.assignments _ inside).2
  someAssignment := by
    obtain ⟨name, member⟩ := restamped.timed
    exact List.ne_nil_of_mem member
  columns := wellFormed.columns
  values := wellFormed.values

theorem Restamped.survives {column : String} {stmt : SimpleUpdate} {pairs : List (Ident × Expr)}
    (restamped : Restamped column time stmt.assignments pairs)
    (fineTime : time.expr.survives d = true) (fine : stmt.survives d = true) :
    { stmt with assignments := pairs }.survives d = true := by
  simp only [SimpleUpdate.survives, Bool.and_eq_true, List.all_eq_true] at fine ⊢
  refine ⟨fun pair member => ⟨?_, ?_⟩, fine.2⟩
  · rcases restamped.columns pair member with ⟨same, -⟩ | ⟨value, inside⟩
    · rw [same]
      rfl
    · exact (fine.1 _ inside).1
  · rcases restamped.values pair member with same | ⟨name, inside⟩
    · rw [same]
      exact fineTime
    · exact (fine.1 _ inside).2

private theorem update_simple (plain : columns.Plain) {stmt : SimpleUpdate}
    (wellFormed : stmt.WellFormed d) {done : Sql.Update}
    (ok : update columns time stmt.statement = .ok done) :
    ∃ stamped : SimpleUpdate, done = stamped.statement ∧ stamped.WellFormed d ∧
      (time.expr.survives d = true → stmt.survives d = true → stamped.survives d = true) := by
  obtain ⟨pairs, rfl, restamped⟩ := update_restamped ok
  have framed := restamped.framed wellFormed
  refine ⟨_, rfl, ?_, restamped.survives⟩
  refine { framed with assignments := fun pair member => ⟨?_, (framed.assignments pair member).2⟩ }
  rcases restamped.columns pair member with ⟨same, -⟩ | ⟨value, inside⟩
  · rw [same]
    exact plain.update
  · exact (wellFormed.assignments _ inside).1

/-! ### Statements -/

theorem stamped_simple_cases {config : AuditConfig} {kind : StatementKind}
    {stmt : SimpleStatement} {stamped : Statement}
    (ok : stampStatement config kind time stmt.statement = .ok (.stamped stamped)) :
    (∃ given done, stmt = .insert given ∧ stamped = .insert done ∧
        insert config.columns time given.statement = .ok done) ∨
      ∃ given done, stmt = .update given ∧ stamped = .update done ∧
        update config.columns time given.statement = .ok done := by
  rcases stamped_cases ok with ⟨-, given, done, same, rfl, -, inserted⟩ |
    ⟨-, given, done, same, rfl, -, updated⟩
  · cases stmt with
    | insert stmt =>
      obtain rfl := Statement.insert.inj same
      exact .inl ⟨stmt, done, rfl, rfl, inserted⟩
    | update stmt => cases same
  · cases stmt with
    | insert stmt => cases same
    | update stmt =>
      obtain rfl := Statement.update.inj same
      exact .inr ⟨stmt, done, rfl, rfl, updated⟩

theorem stampStatement_simple {config : AuditConfig} (plain : config.columns.Plain)
    {kind : StatementKind} {stmt : SimpleStatement} (wellFormed : stmt.WellFormed d)
    {stamped : Statement}
    (ok : stampStatement config kind time stmt.statement = .ok (.stamped stamped)) :
    ∃ done : SimpleStatement, stamped = done.statement ∧ done.WellFormed d ∧
      (time.expr.survives d = true → stmt.survives d = true → done.survives d = true) := by
  obtain ⟨given, done, rfl, rfl, inserted⟩ | ⟨given, done, rfl, rfl, updated⟩ :=
    stamped_simple_cases ok
  · obtain rfl := insert_simple inserted
    exact ⟨.insert (stampedInsert config.columns time given), rfl,
      wellFormed_stampedInsert plain wellFormed, survives_stampedInsert⟩
  · obtain ⟨stamped, rfl, well, survives⟩ := update_simple plain wellFormed updated
    exact ⟨.update stamped, rfl, well, survives⟩

end Stamp

end RowStamp
