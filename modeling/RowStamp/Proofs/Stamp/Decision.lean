import RowStamp.Proofs.Phases
import RowStamp.Proofs.Stamp.Failures

/-!
What the two phases decide about a statement: of another kind than the host says, left alone, or
stamped.  Both phases decide on the statement that they are given, with its table names only.
-/

set_option autoImplicit false
set_option relaxedAutoImplicit false

namespace RowStamp

open Sql (Statement)

namespace Stamp

variable {config : AuditConfig} {kind : StatementKind} {time : Timestamp}
  {statement : Statement} {failure : Failure}

/-! ### Kinds -/

def Mismatched (kind : StatementKind) (statement : Statement) : Prop :=
  match kind, statement with
  | .insert, .insert _ => False
  | .update, .update _ => False
  | .other, _ => False
  | _, _ => True

def mismatch (kind : StatementKind) (statement : Statement) : Failure :=
  match kind with
  | .insert => .kindMismatch "INSERT" statement.label
  | .update => .kindMismatch "UPDATE" statement.label
  | .other => .kindMismatch "" statement.label

theorem stampStatement_of_mismatched (mismatched : Mismatched kind statement) :
    stampStatement config kind time statement = .error (mismatch kind statement) := by
  cases kind with
  | other => exact mismatched.elim
  | insert =>
    cases statement with
    | insert stmt => exact mismatched.elim
    | _ => rfl
  | update =>
    cases statement with
    | update stmt => exact mismatched.elim
    | _ => rfl

theorem isAudited_of_mismatched (mismatched : Mismatched kind statement) :
    isAudited config kind statement = .error (mismatch kind statement) := by
  cases kind with
  | other => exact mismatched.elim
  | insert =>
    cases statement with
    | insert stmt => exact mismatched.elim
    | _ => rfl
  | update =>
    cases statement with
    | update stmt => exact mismatched.elim
    | _ => rfl

theorem matched_cases (matched : ¬Mismatched kind statement) :
    kind = .other ∨ (kind = .insert ∧ ∃ stmt, statement = .insert stmt) ∨
      (kind = .update ∧ ∃ stmt, statement = .update stmt) := by
  cases kind with
  | other => exact .inl rfl
  | insert =>
    cases statement with
    | insert stmt => exact .inr (.inl ⟨rfl, stmt, rfl⟩)
    | _ => exact absurd trivial matched
  | update =>
    cases statement with
    | update stmt => exact .inr (.inr ⟨rfl, stmt, rfl⟩)
    | _ => exact absurd trivial matched

/-! ### The decision -/

/-- A statement is left alone before it is prepared exactly where its bindings are. -/
theorem exempt_iff :
    (∃ log, stampStatement config kind time statement = .ok (.exempt log)) ↔
      isAudited config kind statement = .ok false := by
  by_cases mismatched : Mismatched kind statement
  · rw [stampStatement_of_mismatched mismatched, isAudited_of_mismatched mismatched]
    simp
  · obtain rfl | ⟨rfl, stmt, rfl⟩ | ⟨rfl, stmt, rfl⟩ := matched_cases mismatched
    · cases statement <;> simp [stampStatement, isAudited]
    · rw [stampStatement_insert, isAudited_insert]
      cases exemption? config stmt with
      | some event => simp
      | none => cases insert config.columns time stmt <;> simp [Except.map]
    · rw [stampStatement_update, isAudited]
      cases touchesAudited config stmt.tableNames with
      | false => simp
      | true => cases update config.columns time stmt <;> simp [Except.map]

/-- A statement is rejected where it is of another kind, and as an INSERT or an UPDATE is. -/
theorem stampStatement_error_cases
    (failed : stampStatement config kind time statement = .error failure) :
    (Mismatched kind statement ∧ failure = mismatch kind statement) ∨
      (∃ stmt code, statement = .insert stmt ∧ InsertRejected stmt failure code) ∨
        ∃ stmt code, statement = .update stmt ∧ UpdateRejected config.columns stmt failure code := by
  by_cases mismatched : Mismatched kind statement
  · rw [stampStatement_of_mismatched mismatched] at failed
    exact .inl ⟨mismatched, (Except.error.inj failed).symm⟩
  · obtain rfl | ⟨rfl, stmt, rfl⟩ | ⟨rfl, stmt, rfl⟩ := matched_cases mismatched
    · simp [stampStatement] at failed
    · rw [stampStatement_insert] at failed
      split at failed
      · simp at failed
      · obtain ⟨code, rejected⟩ := InsertRejected.of_error (map_eq_error_iff.mp failed)
        exact .inr (.inl ⟨stmt, code, rfl, rejected⟩)
    · rw [stampStatement_update] at failed
      split at failed
      · obtain ⟨code, rejected⟩ := UpdateRejected.of_error (map_eq_error_iff.mp failed)
        exact .inr (.inr ⟨stmt, code, rfl, rejected⟩)
      · simp at failed

/-- The prepare phase rejects a statement as being of another kind only where it is one. -/
theorem stampStatement_mismatch_iff (expected found : String) :
    stampStatement config kind time statement = .error (.kindMismatch expected found) ↔
      Mismatched kind statement ∧ .kindMismatch expected found = mismatch kind statement := by
  constructor
  · intro failed
    obtain mismatched | ⟨stmt, code, -, rejected⟩ | ⟨stmt, code, -, rejected⟩ :=
      stampStatement_error_cases failed
    · exact mismatched
    · cases rejected
    · cases rejected
  · rintro ⟨mismatched, same⟩
    rw [stampStatement_of_mismatched mismatched, same]

theorem isAudited_error_iff :
    isAudited config kind statement = .error failure ↔
      Mismatched kind statement ∧ failure = mismatch kind statement := by
  by_cases mismatched : Mismatched kind statement
  · rw [isAudited_of_mismatched mismatched]
    simp [mismatched, eq_comm]
  · simp only [mismatched, false_and, iff_false]
    obtain rfl | ⟨rfl, stmt, rfl⟩ | ⟨rfl, stmt, rfl⟩ := matched_cases mismatched
    · cases statement <;> simp [isAudited]
    · simp [isAudited]
    · simp [isAudited]

end Stamp

/-! ### Texts -/

namespace AuditConfig

variable {config : AuditConfig} {kind : StatementKind} {time : Timestamp} {sql : String}

/-- A text that the bind phase leaves alone, with every mapping. -/
def LeavesAlone (config : AuditConfig) (kind : StatementKind) (sql : String) : Prop :=
  ∃ statement, parseStatement config.dialect sql = .ok statement ∧
    ¬Stamp.Mismatched kind statement ∧ Stamp.isAudited config kind statement = .ok false ∧
    ∀ mappings, config.reconcile kind ⟨sql, mappings⟩ = ⟨[], .ok (0, ⟨sql, mappings⟩)⟩

theorem leavesAlone_iff (given : kind ≠ .other) :
    config.LeavesAlone kind sql ↔ ∃ statement,
      parseStatement config.dialect sql = .ok statement ∧
        Stamp.isAudited config kind statement = .ok false := by
  constructor
  · rintro ⟨statement, parsed, -, decided, -⟩
    exact ⟨statement, parsed, decided⟩
  · rintro ⟨statement, parsed, decided⟩
    refine ⟨statement, parsed, ?_, decided, ?_⟩
    · intro mismatched
      rw [Stamp.isAudited_of_mismatched mismatched] at decided
      simp at decided
    · intro mappings
      simp [reconcile, given, parsed, decided]

theorem prepareAt_unchanged_iff :
    (config.prepareAt kind sql time).result = .ok .unchanged ↔
      kind = .other ∨ config.LeavesAlone kind sql := by
  by_cases given : kind = .other
  · simp [prepareAt, given]
  · rw [leavesAlone_iff given]
    simp only [given, false_or, prepareAt, if_false]
    cases parsed : parseStatement config.dialect sql with
    | error failure => simp
    | ok statement =>
      have decided : (∃ log, Stamp.stampStatement config kind time statement =
          .ok (.exempt log)) ↔ Stamp.isAudited config kind statement = .ok false :=
        Stamp.exempt_iff
      rcases done : Stamp.stampStatement config kind time statement with
        failure | (log | stamped) <;> simpa [done] using decided

/-- The text of a stamped statement, no change, or a failure: the prepare phase does nothing
else. -/
theorem prepareAt_cases (config : AuditConfig) (kind : StatementKind) (sql : String)
    (time : Timestamp) :
    (config.prepareAt kind sql time).result = .ok .unchanged ∨
      (∃ statement stamped, parseStatement config.dialect sql = .ok statement ∧
        Stamp.stampStatement config kind time statement = .ok (.stamped stamped) ∧
        (config.prepareAt kind sql time).result = .ok (.rewritten stamped.text)) ∨
      ∃ failure, (config.prepareAt kind sql time).result = .error failure := by
  rcases result : (config.prepareAt kind sql time).result with failure | (written | -)
  · exact .inr (.inr ⟨failure, rfl⟩)
  · obtain ⟨statement, stamped, parsed, done, rfl⟩ := prepareAt_rewritten_iff.mp result
    exact .inr (.inl ⟨statement, stamped, parsed, done, rfl⟩)
  · exact .inl rfl

end AuditConfig

end RowStamp
