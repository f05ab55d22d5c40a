import RowStamp.Proofs.Host.Continuation
import RowStamp.Session

/-!
The calls of a session that run a phase.  An intercepted call that leaves the bound statement does
to it what the phase alone does, whatever the phase makes of it.
-/

set_option autoImplicit false
set_option relaxedAutoImplicit false

namespace RowStamp

variable {config : AuditConfig} (clock : Clock) {session : Session} {kind : StatementKind}
  {proceed : BoundSql → Except Failure BoundSql}

namespace Session

/-- A call logs what a phase alone logs and leaves the bound statement that it leaves; where the
phase succeeds it may answer that the call went on. -/
structure Follows (alone through : Logged Answer × Session) : Prop where
  log : through.1.log = alone.1.log
  result : through.1.result = alone.1.result ∨
    through.1.result = alone.1.result.map fun _ => .proceeded
  bound : through.2.bound = alone.2.bound

theorem intercept_prepare (leaves : ∀ bound, proceed bound = .ok bound) :
    Follows (session.prepareAt config kind (clock session.readings))
        (session.intercept config clock prepareMethod .statementHandler kind proceed) ∧
      (session.intercept config clock prepareMethod .statementHandler kind proceed).2.readings =
        session.readings + 1 := by
  simp only [intercept, interceptHost, MemoryTarget.ofRole, MemoryTarget.role,
    AuditConfig.intercept_eq, AuditConfig.runPhase_prepare, prepareAt]
  cases (config.prepareAt kind session.bound.sql (clock session.readings)).result with
  | error failure => exact ⟨⟨rfl, .inr rfl, rfl⟩, trivial⟩
  | ok outcome =>
    simp only [Except.map, Except.bind, MemoryTarget.bound, leaves]
    exact ⟨⟨rfl, .inr rfl, rfl⟩, trivial⟩

theorem intercept_setParameters (leaves : ∀ bound, proceed bound = .ok bound) :
    Follows (session.reconcile config kind)
        (session.intercept config clock setParametersMethod .parameterHandler kind proceed) ∧
      (session.intercept config clock setParametersMethod .parameterHandler kind
        proceed).2.readings = session.readings := by
  simp only [intercept, interceptHost, MemoryTarget.ofRole, MemoryTarget.role,
    AuditConfig.intercept_eq, AuditConfig.runPhase_setParameters, reconcile]
  cases (config.reconcile kind session.bound).result with
  | error failure => exact ⟨⟨rfl, .inr rfl, rfl⟩, trivial⟩
  | ok done =>
    simp only [Except.map, Except.bind, MemoryTarget.bound, leaves]
    exact ⟨⟨rfl, .inr rfl, rfl⟩, trivial⟩

end Session

end RowStamp
