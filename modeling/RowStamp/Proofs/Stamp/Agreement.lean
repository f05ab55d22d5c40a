import RowStamp.Proofs.Stamp.InPlace

/-!
One decision for both phases.  A statement is left alone before it is prepared exactly where its
bindings are left alone, both phases reject the same statements as being of another kind, and a
stamped statement has its bindings reconciled.
-/

set_option autoImplicit false
set_option relaxedAutoImplicit false

namespace RowStamp

open Sql (Statement)

namespace Stamp

variable {config : AuditConfig} {kind : StatementKind} {time : Timestamp} {never : Failure}
  {statement after : Statement}

private theorem run_eq_exempt_iff {log : List Event} :
    (stampInPlace config kind time never).run statement = .ok (.exempt log) after ↔
      stampStatement config kind time statement = .ok (.exempt log) ∧ after = statement := by
  rw [stampInPlace_run]
  rcases stampStatement config kind time statement with failure | (given | stamped) <;>
    simp [atomically, Except.map, Outcome.settled, eq_comm]

private theorem run_eq_stamped_iff :
    (stampInPlace config kind time never).run statement = .ok .stamped after ↔
      stampStatement config kind time statement = .ok (.stamped after) := by
  rw [stampInPlace_run]
  rcases stampStatement config kind time statement with failure | (given | stamped) <;>
    simp [atomically, Except.map, Outcome.settled]

private theorem run_eq_error_iff {failure : Failure} :
    (stampInPlace config kind time never).run statement = .error failure after ↔
      stampStatement config kind time statement = .error failure ∧ after = statement := by
  rw [stampInPlace_run]
  rcases stampStatement config kind time statement with other | (given | stamped) <;>
    simp [atomically, Except.map, eq_comm]

/-- What is written to a statement in place, by the decision of the bind phase: nothing where it
leaves the bindings alone and nothing where stamping fails; what is stamped it does not leave
alone. -/
structure DecidesInPlace (config : AuditConfig) (kind : StatementKind) (time : Timestamp)
    (never : Failure) (statement : Statement) : Prop where
  exempt : isAudited config kind statement = .ok false ↔
    ∃ log, (stampInPlace config kind time never).run statement = .ok (.exempt log) statement
  untouched : ∀ log after,
    (stampInPlace config kind time never).run statement = .ok (.exempt log) after →
      after = statement
  mismatched : ∀ expected found after,
    (stampInPlace config kind time never).run statement =
        .error (.kindMismatch expected found) after ↔
      isAudited config kind statement = .error (.kindMismatch expected found) ∧ after = statement
  stamped : ∀ after, (stampInPlace config kind time never).run statement = .ok .stamped after →
    isAudited config kind after = .ok true

private theorem decidesInPlace (config : AuditConfig) (kind : StatementKind) (time : Timestamp)
    (never : Failure) (statement : Statement) :
    DecidesInPlace config kind time never statement := by
  constructor
  case exempt =>
    have decided : (∃ log, stampStatement config kind time statement = .ok (.exempt log)) ↔
        isAudited config kind statement = .ok false := exempt_iff
    simp [← decided, run_eq_exempt_iff]
  case untouched =>
    intro log after ends
    exact (run_eq_exempt_iff.mp ends).2
  case mismatched =>
    intro expected found after
    rw [run_eq_error_iff, stampStatement_mismatch_iff, isAudited_error_iff]
  case stamped =>
    intro after ends
    exact audited_stamped (run_eq_stamped_iff.mp ends)

end Stamp

/-- The two phases take the same decision on every statement, and so the prepare phase leaves
exactly those texts that the bind phase leaves alone.  A statement that is left alone, or rejected
as being of another kind, is left as it was by every write of the stamping. -/
theorem AuditConfig.phases_decide_alike (config : AuditConfig) (kind : StatementKind)
    (time : Timestamp) :
    (∀ statement,
      ((∃ log, Stamp.stampStatement config kind time statement = .ok (.exempt log)) ↔
        Stamp.isAudited config kind statement = .ok false) ∧
      (∀ never, Stamp.DecidesInPlace config kind time never statement) ∧
      (∀ failure, Stamp.isAudited config kind statement = .error failure ↔
        Stamp.Mismatched kind statement ∧ failure = Stamp.mismatch kind statement) ∧
      (∀ expected found,
        Stamp.stampStatement config kind time statement = .error (.kindMismatch expected found) ↔
          Stamp.Mismatched kind statement ∧
            .kindMismatch expected found = Stamp.mismatch kind statement) ∧
      ∀ stamped, Stamp.stampStatement config kind time statement = .ok (.stamped stamped) →
        Stamp.isAudited config kind stamped = .ok true) ∧
    ∀ sql,
      ((config.prepareAt kind sql time).result = .ok .unchanged ↔
        kind = .other ∨ config.LeavesAlone kind sql) ∧
      ((config.prepareAt kind sql time).result = .ok .unchanged ∨
        (∃ statement stamped, parseStatement config.dialect sql = .ok statement ∧
          Stamp.stampStatement config kind time statement = .ok (.stamped stamped) ∧
          (config.prepareAt kind sql time).result = .ok (.rewritten stamped.text)) ∨
        ∃ failure, (config.prepareAt kind sql time).result = .error failure) := by
  refine ⟨fun statement => ⟨Stamp.exempt_iff, ?_, ?_, ?_, ?_⟩, ?_⟩
  · intro never
    exact Stamp.decidesInPlace config kind time never statement
  · intro failure
    exact Stamp.isAudited_error_iff
  · intro expected found
    exact Stamp.stampStatement_mismatch_iff expected found
  · intro stamped done
    exact Stamp.audited_stamped done
  · intro sql
    exact ⟨AuditConfig.prepareAt_unchanged_iff, config.prepareAt_cases kind sql time⟩

end RowStamp
