import RowStamp.Proofs.Stamp.Decision

/-!
Several stamps of one statement: the last one counts, and all of them reject the same statements.
An UPDATE of several tables is therefore stamped once, and a text that was rewritten is rewritten
again as the text that the user gave.
-/

set_option autoImplicit false
set_option relaxedAutoImplicit false

namespace RowStamp

open Sql (Statement)

namespace Stamp

/-- A later stamp absorbs an earlier one, and whether a statement is stamped does not depend on the
time. -/
structure Absorbs {σ : Type} (stamp : Timestamp → σ → Except Failure σ) : Prop where
  absorbed : ∀ (first second : Timestamp) (given stamped : σ), stamp first given = .ok stamped →
    ∃ other, stamp second stamped = .ok other ∧ stamp second given = .ok other
  rejected : ∀ (first second : Timestamp) (given : σ) (failure : Failure),
    stamp first given = .error failure → stamp second given = .error failure

namespace Absorbs

variable {σ : Type} {stamp : Timestamp → σ → Except Failure σ}

private theorem stamped_iff (absorbs : Absorbs stamp) (first second : Timestamp) (given : σ) :
    (∃ stamped, stamp first given = .ok stamped) ↔ ∃ other, stamp second given = .ok other := by
  constructor
  · rintro ⟨stamped, ok⟩
    obtain ⟨other, -, again⟩ := absorbs.absorbed first second given stamped ok
    exact ⟨other, again⟩
  · rintro ⟨other, ok⟩
    obtain ⟨stamped, -, again⟩ := absorbs.absorbed second first given other ok
    exact ⟨stamped, again⟩

private theorem bind_eq (absorbs : Absorbs stamp) (first second : Timestamp) (given : σ) :
    (stamp first given >>= stamp second) = stamp second given := by
  cases ok : stamp first given with
  | error failure => exact (absorbs.rejected first second given failure ok).symm
  | ok stamped =>
    obtain ⟨other, after, before⟩ := absorbs.absorbed first second given stamped ok
    exact after.trans before.symm

private theorem foldlM_concat (absorbs : Absorbs stamp) (earlier : List Timestamp)
    (last : Timestamp) (given : σ) :
    (earlier ++ [last]).foldlM (fun stmt time => stamp time stmt) given = stamp last given := by
  induction earlier generalizing given with
  | nil => exact bind_pure _
  | cons first earlier ih =>
    rw [List.cons_append, List.foldlM_cons]
    simp only [ih]
    exact absorbs.bind_eq first last given

private theorem foldlM_const (absorbs : Absorbs stamp) {α : Type} {entries : List α}
    (some : entries ≠ []) (time : Timestamp) (given : σ) :
    entries.foldlM (fun stmt _ => stamp time stmt) given = stamp time given := by
  obtain ⟨earlier, last, rfl⟩ := (List.eq_nil_or_concat entries).resolve_left some
  have times : earlier.map (fun _ => time) ++ [time] = (earlier.concat last).map fun _ => time := by
    simp
  have run := absorbs.foldlM_concat (earlier.map fun _ => time) time given
  rwa [times, List.foldlM_map] at run

end Absorbs

private theorem insert_absorbs (columns : AuditColumns) : Absorbs (insert columns) where
  absorbed first second given stamped ok := by
    obtain ⟨front, list, back, shape, -⟩ := stampable_of_insert ok
    have again := insert_of_stampable columns second shape
    exact ⟨_, (insert_insert second ok).trans again, again⟩
  rejected first second given failure failed :=
    insert_error_iff.mpr (insert_error_iff.mp failed)

private theorem update_absorbs (columns : AuditColumns) : Absorbs (update columns) where
  absorbed first second given stamped ok := by
    obtain ⟨other, again⟩ := update_isOk second ok
    exact ⟨other, (update_update second ok).trans again, again⟩
  rejected first second given failure failed :=
    update_error_iff.mpr (update_error_iff.mp failed)

/-! ### One stamp for each table -/

def updatePerTable (config : AuditConfig) (time : Timestamp) (stmt : Sql.Update) :
    Except Failure Sql.Update :=
  (stmt.tableNames.filter (!config.isExempt ·)).foldlM
    (fun given _ => update config.columns time given) stmt

private theorem touchesAudited_iff (config : AuditConfig) (tables : List String) :
    touchesAudited config tables = true ↔ tables.filter (!config.isExempt ·) ≠ [] := by
  simp [touchesAudited, List.filter_eq_nil_iff]

private theorem stampUpdate_eq (config : AuditConfig) (time : Timestamp) (stmt : Sql.Update) :
    stampUpdate config time (.update stmt) =
      if touchesAudited config stmt.tableNames then
        (updatePerTable config time stmt).map fun done => .stamped (.update done)
      else .ok (.exempt []) := by
  have once : stampUpdate config time (.update stmt) =
      if touchesAudited config stmt.tableNames then
        (update config.columns time stmt).map fun done => .stamped (.update done)
      else .ok (.exempt []) :=
    stampStatement_update stmt
  rw [once]
  by_cases touched : touchesAudited config stmt.tableNames = true
  · have some := (touchesAudited_iff config stmt.tableNames).mp touched
    rw [if_pos touched, if_pos touched, updatePerTable,
      (update_absorbs config.columns).foldlM_const some]
  · rw [if_neg touched, if_neg touched]

end Stamp

/-! ### Texts -/

private theorem AuditConfig.prepareAt_rewritten {config : AuditConfig} {kind : StatementKind}
    {first : Timestamp} {sql written : String}
    (rewritten : (config.prepareAt kind sql first).result = .ok (.rewritten written)) :
    ∃ statement stamped, parseStatement config.dialect sql = .ok statement ∧
      Stamp.stampStatement config kind first statement = .ok (.stamped stamped) ∧
      written = stamped.text ∧
      (parseStatement config.dialect written = .ok stamped → ∀ second,
        (config.prepareAt kind written second).result =
          (config.prepareAt kind sql second).result) := by
  obtain ⟨statement, stamped, parsed, done, rfl⟩ := prepareAt_rewritten_iff.mp rewritten
  refine ⟨statement, stamped, parsed, done, rfl, fun reads second => ?_⟩
  obtain ⟨other, again⟩ := Stamp.stampStatement_isOk second done
  rw [prepareAt_of_stamped reads ((Stamp.stampStatement_stamped second done).trans again),
    prepareAt_of_stamped parsed again]

/-- A later stamp absorbs an earlier one: of an INSERT, of an UPDATE, of an UPDATE once for each of
its tables, and of a text that was rewritten and is read back. -/
theorem later_stamp_absorbs :
    (∀ columns, Stamp.Absorbs (Stamp.insert columns) ∧ Stamp.Absorbs (Stamp.update columns) ∧
      (∀ first second stmt, (∃ stamped, Stamp.insert columns first stmt = .ok stamped) ↔
        ∃ other, Stamp.insert columns second stmt = .ok other) ∧
      ∀ first second stmt, (∃ stamped, Stamp.update columns first stmt = .ok stamped) ↔
        ∃ other, Stamp.update columns second stmt = .ok other) ∧
    (∀ config time stmt, Stamp.stampUpdate config time (.update stmt) =
      if Stamp.touchesAudited config stmt.tableNames then
        (Stamp.updatePerTable config time stmt).map fun done => .stamped (.update done)
      else .ok (.exempt [])) ∧
    ∀ (config : AuditConfig) kind first sql written,
      (config.prepareAt kind sql first).result = .ok (.rewritten written) →
        ∃ statement stamped, parseStatement config.dialect sql = .ok statement ∧
          Stamp.stampStatement config kind first statement = .ok (.stamped stamped) ∧
          written = stamped.text ∧
          (parseStatement config.dialect written = .ok stamped → ∀ second,
            (config.prepareAt kind written second).result =
              (config.prepareAt kind sql second).result) := by
  refine ⟨fun columns => ?_, Stamp.stampUpdate_eq, ?_⟩
  · have inserts := Stamp.insert_absorbs columns
    have updates := Stamp.update_absorbs columns
    exact ⟨inserts, updates, inserts.stamped_iff, updates.stamped_iff⟩
  · intro config kind first sql written rewritten
    exact AuditConfig.prepareAt_rewritten rewritten

def doubledInsert : Sql.Insert :=
  Sql.plainInsert ["gmt_modified", "a", "gmt_modified"]
    [[.placeholder "?", .placeholder "?", .literal .null]]

def stampedDoubled : Sql.Insert :=
  Sql.plainInsert ["gmt_modified", "a", "gmt_modified", "gmt_create"]
    [[.placeholder "?", .placeholder "?", Timestamp.plain.expr, Timestamp.plain.expr]]

def joinedSql : String := "UPDATE a JOIN b SET x = ?"

def stampedJoinedSql : String :=
  joinedSql ++ ", gmt_modified = '2024-05-06 07:08:09.010'"

def Timestamp.next : Timestamp := ⟨"2024-05-06 07:08:10.010"⟩

theorem later_stamp_absorbs_joined :
    (∃ other, Stamp.insert .standard .next stampedDoubled = .ok other ∧
      Stamp.insert .standard .next doubledInsert = .ok other) ∧
    (AuditConfig.standard.prepareAt .update joinedSql .plain).result =
        .ok (.rewritten stampedJoinedSql) ∧
      (AuditConfig.standard.prepareAt .update stampedJoinedSql .next).result =
        (AuditConfig.standard.prepareAt .update joinedSql .next).result := by
  obtain ⟨absorb, -, texts⟩ := later_stamp_absorbs
  have doubled : Stamp.insert .standard .plain doubledInsert = .ok stampedDoubled := by rfl
  have rewritten : (AuditConfig.standard.prepareAt .update joinedSql .plain).result =
      .ok (.rewritten stampedJoinedSql) := by
    decide +kernel
  have reads : (parseStatement AuditConfig.standard.dialect joinedSql).bind
      (Stamp.stampStatement .standard .update .plain) =
        (parseStatement AuditConfig.standard.dialect stampedJoinedSql).map .stamped := by
    decide +kernel
  refine ⟨(absorb .standard).1.absorbed .plain .next _ _ doubled, rewritten, ?_⟩
  obtain ⟨statement, stamped, parsed, done, -, again⟩ :=
    texts .standard .update .plain _ _ rewritten
  refine again ?_ .next
  rw [parsed, Except.bind, done] at reads
  cases other : parseStatement AuditConfig.standard.dialect stampedJoinedSql with
  | error failure => simp [other, Except.map] at reads
  | ok back => simpa [other, Except.map, eq_comm] using reads

end RowStamp
