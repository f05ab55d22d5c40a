import RowStamp.Proofs.Phases
import RowStamp.Proofs.Stamp.Simple

/-!
What the prepare phase writes is read back as the stamped statement where its identifiers and
values survive being written, and only there: a text in which a quote follows a quote or a backslash
is written with fewer quotes than it needs.
-/

set_option autoImplicit false
set_option relaxedAutoImplicit false

namespace RowStamp

open Sql (Expr Ident SimpleInsert SimpleStatement Statement)

theorem AuditConfig.stamped_of_rewritten {config : AuditConfig} {kind : StatementKind}
    {time : Timestamp} {sql written : String} {statement : Statement}
    (parsed : parseStatement config.dialect sql = .ok statement)
    (rewritten : (config.prepareAt kind sql time).result = .ok (.rewritten written)) :
    ∃ stamped, Stamp.stampStatement config kind time statement = .ok (.stamped stamped) ∧
      written = stamped.text := by
  obtain ⟨other, stamped, again, done, same⟩ := prepareAt_rewritten_iff.mp rewritten
  obtain rfl : statement = other := Except.ok.inj (parsed.symm.trans again)
  exact ⟨stamped, done, same⟩

/-- The text written for a statement of simple values is read back as the stamped statement exactly
where the parts of the stamped statement survive, which they do where the given ones do.  For
MySQL it is known only that they need to survive where no part is read past its closing quote.

Limits: the table is named by one identifier, every value is a literal or a placeholder, and the
condition of an UPDATE is a conjunction of equations of a column and such a value.  Nothing is said
of other expressions, of names with several parts, of joins, or of a text of another form, such as
a national or an escaped one. -/
theorem rewritten_reads_back_iff {config : AuditConfig} {kind : StatementKind} {time : WallTime}
    {sql written : String} {stmt : SimpleStatement} (plain : config.columns.Plain)
    (wellFormed : stmt.WellFormed config.dialect)
    (parsed : parseStatement config.dialect sql = .ok stmt.statement)
    (rewritten : (config.prepareAt kind sql (.ofWallTime time)).result =
      .ok (.rewritten written)) :
    ∃ stamped : SimpleStatement,
      Stamp.stampStatement config kind (.ofWallTime time) stmt.statement =
        .ok (.stamped stamped.statement) ∧
      (stmt.survives config.dialect = true → stamped.survives config.dialect = true) ∧
      (stamped.survives config.dialect = true →
        parseStatement config.dialect written = .ok stamped.statement) ∧
      (config.dialect ≠ .mySql ∨ stamped.closes config.dialect = true →
        (parseStatement config.dialect written = .ok stamped.statement ↔
          stamped.survives config.dialect = true)) := by
  obtain ⟨found, done, rfl⟩ := config.stamped_of_rewritten parsed rewritten
  obtain ⟨stamped, rfl, stampedFormed, survives⟩ :=
    Stamp.stampStatement_simple plain wellFormed done
  refine ⟨stamped, done, survives (Timestamp.survives_expr _ time), fun fine => ?_, fun known => ?_⟩
  · have closed := (stampedFormed.survives_iff.mp fine).1
    exact parseStatement_eq_ok_iff.mpr
      ((SimpleStatement.parse_text_iff stampedFormed (.inr closed)).mpr fine)
  · exact parseStatement_eq_ok_iff.trans (SimpleStatement.parse_text_iff stampedFormed known)

theorem wellFormed_oneValue (d : Dialect) {e : Expr} (simple : e.Simple d) :
    (SimpleStatement.insert ⟨.plain "t", [.plain "a"], [[e]]⟩).WellFormed d where
  table := show (Ident.plain "t").Simple d from by
    change Sql.isWord _ = true
    decide
  tableKey := show (Ident.plain "t").token.key ∉ _ from by decide
  columns := by
    intro column member
    obtain rfl := List.mem_singleton.mp member
    change Sql.isWord _ = true
    decide
  someColumn := List.cons_ne_nil _ _
  columnKey := by
    intro column member
    obtain rfl := Option.some.inj member
    decide
  rows := by
    intro row member
    obtain rfl := List.mem_singleton.mp member
    exact ⟨List.cons_ne_nil _ _, fun e inside => List.mem_singleton.mp inside ▸ simple⟩
  someRow := List.cons_ne_nil _ _

def textInsert (value : String) : SimpleStatement :=
  .insert ⟨.plain "t", [.plain "a"], [[.literal (.string .plain value)]]⟩

private theorem wellFormed_textInsert (d : Dialect) (value : String) :
    (textInsert value).WellFormed d :=
  wellFormed_oneValue d (.string value)

def stampedTextInsert (value time : String) : SimpleStatement :=
  .insert ⟨.plain "t", [.plain "a", .plain "gmt_create", .plain "gmt_modified"],
    [[.literal (.string .plain value), .literal (.string .plain time),
      .literal (.string .plain time)]]⟩

def WallTime.plain : WallTime := ⟨⟨2024, 5, 6⟩, 7, 8, 9, 10000000⟩

/-- One quote is written twice and read once. -/
theorem rewritten_reads_back_iff_oneQuote :
    parseStatement .generic "INSERT INTO t (a) VALUES ('it''s')" =
        .ok (textInsert "it's").statement ∧
      (AuditConfig.standard.prepareAt .insert "INSERT INTO t (a) VALUES ('it''s')"
          (.ofWallTime .plain)).result =
        .ok (.rewritten ("INSERT INTO t (a, gmt_create, gmt_modified) VALUES " ++
          "('it''s', '2024-05-06 07:08:09.010', '2024-05-06 07:08:09.010')")) ∧
      parseStatement .generic ("INSERT INTO t (a, gmt_create, gmt_modified) VALUES " ++
          "('it''s', '2024-05-06 07:08:09.010', '2024-05-06 07:08:09.010')") =
        .ok (stampedTextInsert "it's" "2024-05-06 07:08:09.010").statement := by
  have parsed : parseStatement .generic "INSERT INTO t (a) VALUES ('it''s')" =
      .ok (textInsert "it's").statement := by decide +kernel
  have rewritten : (AuditConfig.standard.prepareAt .insert "INSERT INTO t (a) VALUES ('it''s')"
      (.ofWallTime .plain)).result =
      .ok (.rewritten ("INSERT INTO t (a, gmt_create, gmt_modified) VALUES " ++
        "('it''s', '2024-05-06 07:08:09.010', '2024-05-06 07:08:09.010')")) := by
    decide +kernel
  have done : Stamp.stampStatement .standard .insert (.ofWallTime .plain)
      (textInsert "it's").statement =
        .ok (.stamped (stampedTextInsert "it's" "2024-05-06 07:08:09.010").statement) := by
    decide +kernel
  have fine : (textInsert "it's").survives .generic = true := by decide +kernel
  obtain ⟨stamped, same, survives, reads, -⟩ :=
    @rewritten_reads_back_iff .standard _ _ _ _ _ AuditColumns.plain_standard
      (wellFormed_textInsert _ _) parsed rewritten
  rw [done] at same
  rw [Stamp.Outcome.stamped.inj (Except.ok.inj same)]
  exact ⟨parsed, rewritten, reads (survives fine)⟩

/-- Two quotes in a row are written as they are and read as one. -/
theorem doubled_quote_lost :
    parseStatement .generic "INSERT INTO t (a) VALUES ('it''''s')" =
        .ok (textInsert "it''s").statement ∧
      Stamp.stampStatement .standard .insert (.ofWallTime .plain) (textInsert "it''s").statement =
        .ok (.stamped (stampedTextInsert "it''s" "2024-05-06 07:08:09.010").statement) ∧
      (AuditConfig.standard.prepareAt .insert "INSERT INTO t (a) VALUES ('it''''s')"
          (.ofWallTime .plain)).result =
        .ok (.rewritten ("INSERT INTO t (a, gmt_create, gmt_modified) VALUES " ++
          "('it''s', '2024-05-06 07:08:09.010', '2024-05-06 07:08:09.010')")) ∧
      parseStatement .generic ("INSERT INTO t (a, gmt_create, gmt_modified) VALUES " ++
          "('it''s', '2024-05-06 07:08:09.010', '2024-05-06 07:08:09.010')") ≠
        .ok (stampedTextInsert "it''s" "2024-05-06 07:08:09.010").statement := by
  refine ⟨?_, ?_, ?_, ?_⟩ <;> decide +kernel

end RowStamp
