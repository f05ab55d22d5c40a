import RowStamp.Proofs.Sql.Equality
import RowStamp.Proofs.Stamp.Insert
import RowStamp.Proofs.Stamp.Update
import RowStamp.Stamp.Statement

/-!
Stamping a statement of a kind: what is stamped, that the decision to stamp and the stamped
statement do not depend on earlier stamps, and that bindings are reconciled where a statement is
stamped.
-/

set_option autoImplicit false
set_option relaxedAutoImplicit false

namespace RowStamp

open Sql (Statement)

namespace Stamp

deriving instance DecidableEq for Outcome

variable {config : AuditConfig} {kind : StatementKind} {time : Timestamp}
  {statement stamped : Statement}

/-- Some table that a statement of a kind writes to is not left alone. -/
def Audited (config : AuditConfig) (kind : StatementKind) (statement : Statement) : Prop :=
  isAudited config kind statement = .ok true

def exemption? (config : AuditConfig) (stmt : Sql.Insert) : Option Event :=
  stmt.tableName?.bind fun table =>
    (config.ignored.firstMatch? table).map fun pattern => Event.exemptInsert table pattern

theorem stampStatement_insert (stmt : Sql.Insert) :
    stampStatement config .insert time (.insert stmt) =
      match exemption? config stmt with
      | some event => .ok (.exempt [event])
      | none => (insert config.columns time stmt).map fun done => .stamped (.insert done) := by
  change (match exemption? config stmt with
    | some event => pure (Outcome.exempt [event])
    | none => do return Outcome.stamped (.insert (← insert config.columns time stmt))) = _
  cases exemption? config stmt with
  | some event => rfl
  | none => cases insert config.columns time stmt <;> rfl

theorem stampStatement_update (stmt : Sql.Update) :
    stampStatement config .update time (.update stmt) =
      if touchesAudited config stmt.tableNames then
        (update config.columns time stmt).map fun done => .stamped (.update done)
      else .ok (.exempt []) := by
  rw [stampStatement, stampUpdate]
  cases touchesAudited config stmt.tableNames with
  | false => rfl
  | true => cases update config.columns time stmt <;> rfl

/-- The bind phase asks whether a table is left alone, the prepare phase by which pattern. -/
theorem isAudited_insert (stmt : Sql.Insert) :
    isAudited config .insert (.insert stmt) = .ok (exemption? config stmt).isNone := by
  have agree (table : String) : config.isExempt table =
      (config.ignored.firstMatch? table).isSome := by
    have none' := IgnoreList.firstMatch?_eq_none_iff config.ignored table
    cases found : config.ignored.firstMatch? table with
    | none => exact none'.mp found
    | some pattern =>
      rw [found] at none'
      simpa [AuditConfig.isExempt] using none'
  rw [isAudited, exemption?]
  cases stmt.tableName? with
  | none => rfl
  | some table => simp [agree]

theorem stampStatement_insert_iff (stmt : Sql.Insert) :
    stampStatement config .insert time (.insert stmt) = .ok (.stamped stamped) ↔
      Audited config .insert (.insert stmt) ∧
        ∃ done, insert config.columns time stmt = .ok done ∧ stamped = .insert done := by
  rw [Audited, isAudited_insert, stampStatement_insert]
  cases exemption? config stmt with
  | some event => simp
  | none => cases insert config.columns time stmt <;> simp [Except.map, eq_comm]

theorem stampStatement_update_iff (stmt : Sql.Update) :
    stampStatement config .update time (.update stmt) = .ok (.stamped stamped) ↔
      Audited config .update (.update stmt) ∧
        ∃ done, update config.columns time stmt = .ok done ∧ stamped = .update done := by
  rw [Audited, isAudited, stampStatement_update]
  cases touchesAudited config stmt.tableNames with
  | false => simp
  | true => cases update config.columns time stmt <;> simp [Except.map, eq_comm]

theorem stamped_cases (ok : stampStatement config kind time statement = .ok (.stamped stamped)) :
    (kind = .insert ∧ ∃ stmt done, statement = .insert stmt ∧ stamped = .insert done ∧
        Audited config kind statement ∧ insert config.columns time stmt = .ok done) ∨
      (kind = .update ∧ ∃ stmt done, statement = .update stmt ∧ stamped = .update done ∧
        Audited config kind statement ∧ update config.columns time stmt = .ok done) := by
  cases kind with
  | other => simp [stampStatement] at ok
  | insert =>
    cases statement with
    | insert stmt =>
      obtain ⟨audited, done, inserted, rfl⟩ := (stampStatement_insert_iff stmt).mp ok
      exact .inl ⟨rfl, stmt, done, rfl, rfl, audited, inserted⟩
    | _ => simp [stampStatement, stampInsert] at ok
  | update =>
    cases statement with
    | update stmt =>
      obtain ⟨audited, done, updated, rfl⟩ := (stampStatement_update_iff stmt).mp ok
      exact .inr ⟨rfl, stmt, done, rfl, rfl, audited, updated⟩
    | _ => simp [stampStatement, stampUpdate] at ok

theorem kind_ne_other (ok : stampStatement config kind time statement = .ok (.stamped stamped)) :
    kind ≠ .other := by
  rcases stamped_cases ok with ⟨rfl, -⟩ | ⟨rfl, -⟩ <;> simp

theorem audited_of_stamped
    (ok : stampStatement config kind time statement = .ok (.stamped stamped)) :
    Audited config kind statement := by
  rcases stamped_cases ok with ⟨rfl, stmt, done, rfl, rfl, audited, -⟩ |
    ⟨rfl, stmt, done, rfl, rfl, audited, -⟩ <;> exact audited

theorem audited_stamped
    (ok : stampStatement config kind time statement = .ok (.stamped stamped)) :
    Audited config kind stamped := by
  rcases stamped_cases ok with ⟨rfl, stmt, done, rfl, rfl, audited, inserted⟩ |
    ⟨rfl, stmt, done, rfl, rfl, audited, updated⟩
  · obtain ⟨front, list, back, -, rfl⟩ := stampable_of_insert inserted
    exact audited
  · obtain ⟨list, -, rfl⟩ := update_eq_ok_iff.mp updated
    exact audited

theorem stampStatement_stamped (later : Timestamp)
    (ok : stampStatement config kind time statement = .ok (.stamped stamped)) :
    stampStatement config kind later stamped = stampStatement config kind later statement := by
  have audited := audited_stamped ok
  rcases stamped_cases ok with ⟨rfl, stmt, done, rfl, rfl, given, inserted⟩ |
    ⟨rfl, stmt, done, rfl, rfl, given, updated⟩
  · obtain ⟨front, list, back, shape, rfl⟩ := stampable_of_insert inserted
    have first := insert_of_stampable config.columns later shape
    have second := (insert_insert later inserted).trans first
    exact ((stampStatement_insert_iff _).mpr ⟨audited, _, second, rfl⟩).trans
      ((stampStatement_insert_iff _).mpr ⟨given, _, first, rfl⟩).symm
  · obtain ⟨other, first⟩ := update_isOk later updated
    have second := (update_update later updated).trans first
    exact ((stampStatement_update_iff _).mpr ⟨audited, _, second, rfl⟩).trans
      ((stampStatement_update_iff _).mpr ⟨given, _, first, rfl⟩).symm

theorem stampStatement_isOk (later : Timestamp)
    (ok : stampStatement config kind time statement = .ok (.stamped stamped)) :
    ∃ other, stampStatement config kind later statement = .ok (.stamped other) := by
  rcases stamped_cases ok with ⟨rfl, stmt, done, rfl, rfl, audited, inserted⟩ |
    ⟨rfl, stmt, done, rfl, rfl, audited, updated⟩
  · obtain ⟨front, list, back, shape, -⟩ := stampable_of_insert inserted
    exact ⟨_, (stampStatement_insert_iff stmt).mpr
      ⟨audited, _, insert_of_stampable config.columns later shape, rfl⟩⟩
  · obtain ⟨other, again⟩ := update_isOk later updated
    exact ⟨_, (stampStatement_update_iff stmt).mpr ⟨audited, other, again, rfl⟩⟩

end Stamp

end RowStamp
