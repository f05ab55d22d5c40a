import RowStamp.Proofs.ReadBack
import RowStamp.Proofs.Stamp.Placement

/-!
What stamping writes of its own: the names of the audit columns that a statement lacks, as they
were configured, and the literal of the time.  A name is written without quotes, so it is read back
as the column only where it is one word by itself; the literal is read back only where no quote of
it follows a quote or a backslash.
-/

set_option autoImplicit false
set_option relaxedAutoImplicit false

namespace RowStamp

open Sql (Expr Ident SimpleInsert SimpleStatement SimpleUpdate Statement isName)

/-- The names that stamping writes into a statement: those of the audit columns that it needs and
the statement lacks. -/
def AuditColumns.injected (columns : AuditColumns) : SimpleStatement → List String
  | .insert stmt =>
    [columns.create, columns.update].filter fun name => name ∉ stmt.columns.map Ident.value
  | .update stmt => [columns.update].filter fun name => name ∉ stmt.assignments.map (·.1.value)

namespace Stamp

variable {d : Dialect} {columns : AuditColumns} {time : Timestamp}

/-! ### INSERT -/

private theorem legible_stampedInsert {stmt : SimpleInsert} (wellFormed : stmt.WellFormed d) :
    (stampedInsert columns time stmt).legible d = true ↔
      ∀ name ∈ columns.injected (.insert stmt), isName d name = true := by
  have given : stmt.columns.all (Ident.legible d) = true := wellFormed.legible
  have plain (name : String) : (Ident.plain name).legible d = isName d name := rfl
  simp only [SimpleInsert.legible, stampedInsert, allColumns_eq_completed, completed,
    List.all_append, given, AuditColumns.injected]
  generalize stmt.columns.map Ident.value = names
  by_cases same : columns.update = columns.create
  · rw [same]
    by_cases create : columns.create ∈ names <;> simp [create, plain]
  · by_cases create : columns.create ∈ names <;> by_cases update : columns.update ∈ names <;>
      simp [create, update, same, plain]

private theorem time_mem_stampBoth {known : List Ident} {row : List Expr}
    (even : row.length = known.length) : time.expr ∈ stampBoth columns time known row := by
  have slot := getElem?_stampBoth columns time known row even (createSlot columns known)
  rw [if_pos (.inl rfl)] at slot
  exact List.mem_of_getElem? slot

private theorem even_of_insert {stmt : SimpleInsert} {done : Sql.Insert}
    (ok : insert columns time stmt.statement = .ok done) :
    ∀ row ∈ stmt.rows, row.length = stmt.columns.length := by
  obtain ⟨front, list, back, shape, -⟩ := stampable_of_insert ok
  have source := shape.source
  simp only [SimpleInsert.statement, Sql.InsertSource.query.injEq, Sql.Query.mk.injEq,
    Sql.QueryBody.values.injEq] at source
  obtain ⟨-, rfl, -⟩ := source
  exact shape.even

private theorem survives_stampedInsert_iff {stmt : SimpleInsert} (wellFormed : stmt.WellFormed d)
    (even : ∀ row ∈ stmt.rows, row.length = stmt.columns.length) (fine : stmt.survives d = true) :
    (stampedInsert columns time stmt).survives d = true ↔ time.expr.survives d = true := by
  refine ⟨fun all => ?_, fun fineTime => survives_stampedInsert fineTime fine⟩
  obtain ⟨row, rows, found⟩ := List.exists_cons_of_ne_nil wellFormed.someRow
  have member : row ∈ stmt.rows := found ▸ List.mem_cons_self
  simp only [SimpleInsert.survives, Bool.and_eq_true, List.all_eq_true] at all
  exact all.2 _ (List.mem_map_of_mem member) _ (time_mem_stampBoth (even row member))

/-! ### UPDATE -/

variable {column : String} {stmt : SimpleUpdate} {pairs : List (Ident × Expr)}

private theorem Restamped.legible_iff
    (restamped : Restamped columns.update time stmt.assignments pairs)
    (wellFormed : stmt.WellFormed d) :
    { stmt with assignments := pairs }.legible d = true ↔
      ∀ name ∈ columns.injected (.update stmt), isName d name = true := by
  simp only [SimpleUpdate.legible, List.all_eq_true, AuditColumns.injected, List.mem_filter,
    List.mem_singleton, decide_eq_true_eq]
  constructor
  · rintro legible name ⟨rfl, absent⟩
    obtain ⟨pair, member, named⟩ := List.mem_map.mp restamped.named
    have read := legible pair member
    rcases restamped.columns pair member with ⟨same, -⟩ | ⟨value, inside⟩
    · rwa [same] at read
    · exact absurd (List.mem_map.mpr ⟨_, inside, named⟩) absent
  · intro names pair member
    rcases restamped.columns pair member with ⟨same, absent⟩ | ⟨value, inside⟩
    · rw [same]
      exact names _ ⟨rfl, absent⟩
    · exact (wellFormed.assignments _ inside).1.legible

private theorem Restamped.survives_iff (restamped : Restamped column time stmt.assignments pairs)
    (fine : stmt.survives d = true) :
    { stmt with assignments := pairs }.survives d = true ↔ time.expr.survives d = true := by
  refine ⟨fun all => ?_, fun fineTime => restamped.survives fineTime fine⟩
  obtain ⟨name, member⟩ := restamped.timed
  simp only [SimpleUpdate.survives, Bool.and_eq_true, List.all_eq_true] at all
  exact (all.1 _ member).2

/-! ### Statements -/

private theorem stampStatement_framed {config : AuditConfig} {kind : StatementKind}
    {stmt : SimpleStatement} (wellFormed : stmt.WellFormed d) {stamped : Statement}
    (ok : stampStatement config kind time stmt.statement = .ok (.stamped stamped)) :
    ∃ done : SimpleStatement, stamped = done.statement ∧ done.Framed d ∧
      (done.legible d = true ↔ ∀ name ∈ config.columns.injected stmt, isName d name = true) ∧
      (stmt.survives d = true → (done.survives d = true ↔ time.expr.survives d = true)) := by
  obtain ⟨given, done, rfl, rfl, inserted⟩ | ⟨given, done, rfl, rfl, updated⟩ :=
    stamped_simple_cases ok
  · have even := even_of_insert inserted
    obtain rfl := insert_simple inserted
    exact ⟨.insert (stampedInsert config.columns time given), rfl,
      framed_stampedInsert wellFormed, legible_stampedInsert wellFormed,
      survives_stampedInsert_iff wellFormed even⟩
  · obtain ⟨pairs, rfl, restamped⟩ := update_restamped updated
    exact ⟨.update { given with assignments := pairs }, rfl, restamped.framed wellFormed,
      restamped.legible_iff wellFormed, restamped.survives_iff⟩

end Stamp

/-- Whatever the columns are called and whatever the literal of the time is: the text written for
a statement of simple values that survive is read back as the stamped statement exactly where each
name that is written into it is one word and the literal survives.  For MySQL it is known only
that the literal needs to survive where the names are words and no part is read past its closing
quote.

Limits: the given statement is one of simple values, whose table is named by one identifier and
whose condition is a conjunction of equations of a column and a literal or a placeholder; a name is
any text, and so is the literal of the time. -/
theorem injected_reads_back_iff {config : AuditConfig} {kind : StatementKind} {time : Timestamp}
    {sql written : String} {stmt : SimpleStatement}
    (wellFormed : stmt.WellFormed config.dialect) (fine : stmt.survives config.dialect = true)
    (parsed : parseStatement config.dialect sql = .ok stmt.statement)
    (rewritten : (config.prepareAt kind sql time).result = .ok (.rewritten written)) :
    ∃ stamped : SimpleStatement,
      Stamp.stampStatement config kind time stmt.statement =
        .ok (.stamped stamped.statement) ∧
      ((∀ name ∈ config.columns.injected stmt, isName config.dialect name = true) ∧
          time.expr.survives config.dialect = true →
        parseStatement config.dialect written = .ok stamped.statement) ∧
      (config.dialect ≠ .mySql ∨
          stamped.legible config.dialect = true ∧ stamped.closes config.dialect = true →
        (parseStatement config.dialect written = .ok stamped.statement ↔
          (∀ name ∈ config.columns.injected stmt, isName config.dialect name = true) ∧
            time.expr.survives config.dialect = true)) := by
  obtain ⟨found, done, rfl⟩ := config.stamped_of_rewritten parsed rewritten
  obtain ⟨stamped, rfl, framed, legible, survives⟩ := Stamp.stampStatement_framed wellFormed done
  have exact (known : config.dialect ≠ .mySql ∨
      stamped.legible config.dialect = true ∧ stamped.closes config.dialect = true) :
      parseStatement config.dialect stamped.statement.text = .ok stamped.statement ↔
        (∀ name ∈ config.columns.injected stmt, isName config.dialect name = true) ∧
          time.expr.survives config.dialect = true := by
    rw [parseStatement_eq_ok_iff, framed.parse_text_iff known, survives fine, legible]
    exact and_comm
  refine ⟨stamped, done, fun ⟨names, fineTime⟩ => ?_, exact⟩
  have closed := (framed.survives_iff.mp ((survives fine).mpr fineTime)).1
  exact (exact (.inr ⟨legible.mpr names, closed⟩)).mpr ⟨names, fineTime⟩

def oneInsert : SimpleStatement :=
  .insert ⟨.plain "t", [.plain "a"], [[.literal (.number "1" false)]]⟩

private theorem wellFormed_oneInsert (d : Dialect) : oneInsert.WellFormed d :=
  wellFormed_oneValue d (.number "1" (by decide))

/-- The columns `#made` and `gmt_modified`, the first of which is a word for some dialects. -/
def AuditConfig.hashed : AuditConfig := ⟨⟨"#made", "gmt_modified"⟩, .empty, .generic⟩

def stampedOneInsert : Statement :=
  .insert (SimpleInsert.statement
    ⟨.plain "t", [.plain "a", .plain "#made", .plain "gmt_modified"],
      [[.literal (.number "1" false), .literal (.string .plain "it's"),
        .literal (.string .plain "it's")]]⟩)

/-- A name that starts with `#` and a literal with a quote in it are read back. -/
theorem injected_reads_back_iff_hashed :
    (AuditConfig.hashed.prepareAt .insert "INSERT INTO t (a) VALUES (1)" ⟨"it's"⟩).result =
        .ok (.rewritten "INSERT INTO t (a, #made, gmt_modified) VALUES (1, 'it''s', 'it''s')") ∧
      parseStatement .generic
          "INSERT INTO t (a, #made, gmt_modified) VALUES (1, 'it''s', 'it''s')" =
        .ok stampedOneInsert ∧
      AuditConfig.hashed.columns.injected oneInsert = ["#made", "gmt_modified"] := by
  have parsed : parseStatement .generic "INSERT INTO t (a) VALUES (1)" =
      .ok oneInsert.statement := by decide +kernel
  have rewritten : (AuditConfig.hashed.prepareAt .insert "INSERT INTO t (a) VALUES (1)"
      ⟨"it's"⟩).result =
        .ok (.rewritten
          "INSERT INTO t (a, #made, gmt_modified) VALUES (1, 'it''s', 'it''s')") := by
    decide +kernel
  have done : Stamp.stampStatement .hashed .insert ⟨"it's"⟩ oneInsert.statement =
      .ok (.stamped stampedOneInsert) := by decide +kernel
  obtain ⟨stamped, same, reads, -⟩ :=
    @injected_reads_back_iff .hashed _ _ _ _ _ (wellFormed_oneInsert _) (by decide +kernel) parsed
      rewritten
  rw [done] at same
  rw [← Stamp.Outcome.stamped.inj (Except.ok.inj same)] at reads
  exact ⟨rewritten, reads ⟨by decide +kernel, by decide +kernel⟩, by decide +kernel⟩

def AuditConfig.spaced : AuditConfig := ⟨⟨"created at", "gmt_modified"⟩, .empty, .generic⟩

/-- The settings with a name for the modification column that ends an assignment, brings a
condition of its own and opens a comment. -/
def AuditConfig.trailing : AuditConfig :=
  ⟨⟨"gmt_create", "b = 1 WHERE c = 2 --"⟩, .empty, .generic⟩

/-- Configured names are taken that make the text unreadable, or another statement without the
time; and a literal with two quotes in a row is read back with one. -/
theorem injected_text_read_otherwise :
    (AuditConfig.ofProperties [("createDateColumnName", "created at")] = .ok .spaced ∧
      (AuditConfig.spaced.prepareAt .insert "INSERT INTO t (a) VALUES (1)" .plain).result =
        .ok (.rewritten ("INSERT INTO t (a, created at, gmt_modified) VALUES " ++
          "(1, '2024-05-06 07:08:09.010', '2024-05-06 07:08:09.010')")) ∧
      (parseStatement .generic ("INSERT INTO t (a, created at, gmt_modified) VALUES " ++
        "(1, '2024-05-06 07:08:09.010', '2024-05-06 07:08:09.010')")).toOption = none) ∧
    (AuditConfig.ofProperties [("updateDateColumnName", "b = 1 WHERE c = 2 --")] =
        .ok .trailing ∧
      (AuditConfig.trailing.prepareAt .update "UPDATE t SET a = 3" .plain).result =
        .ok (.rewritten
          "UPDATE t SET a = 3, b = 1 WHERE c = 2 -- = '2024-05-06 07:08:09.010'") ∧
      parseStatement .generic
          "UPDATE t SET a = 3, b = 1 WHERE c = 2 -- = '2024-05-06 07:08:09.010'" =
        parseStatement .generic "UPDATE t SET a = 3, b = 1 WHERE c = 2" ∧
      (parseStatement .generic "UPDATE t SET a = 3, b = 1 WHERE c = 2").toOption.isSome = true) ∧
    (AuditConfig.standard.prepareAt .update "UPDATE t SET a = 3" ⟨"it''s"⟩).result =
        .ok (.rewritten "UPDATE t SET a = 3, gmt_modified = 'it''s'") ∧
      parseStatement .generic "UPDATE t SET a = 3, gmt_modified = 'it''s'" =
        .ok (.update (SimpleUpdate.statement
          ⟨.plain "t", [(.plain "a", .literal (.number "3" false)),
            (.plain "gmt_modified", .literal (.string .plain "it's"))], []⟩)) := by
  refine ⟨⟨rfl, ?_, ?_⟩, ⟨rfl, ?_, ?_, ?_⟩, ?_, ?_⟩ <;> decide +kernel

end RowStamp
