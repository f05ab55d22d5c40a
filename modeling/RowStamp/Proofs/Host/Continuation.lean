import RowStamp.Host.Memory
import RowStamp.Proofs.Phases

/-!
An intercepted call on a target in memory is one of the two operations on the target's bound
statement, and then the call itself on the target with the operation's result written back.
-/

set_option autoImplicit false
set_option relaxedAutoImplicit false

namespace RowStamp

private theorem Phase.of_prepare : Phase.of prepareMethod = .prepare := if_pos rfl

theorem Phase.of_setParameters : Phase.of setParametersMethod = .bind := by
  simp [Phase.of, prepareMethod, setParametersMethod]

theorem Phase.of_other {method : String} (notPrepare : method ≠ prepareMethod)
    (notBind : method ≠ setParametersMethod) : Phase.of method = .passThrough := by
  rw [Phase.of, if_neg notPrepare, if_neg notBind]

namespace AuditConfig

/-! ### Handlers in memory -/

section Memory

variable {config : AuditConfig} {kind : StatementKind}

private theorem prepareHost_statement (time : Timestamp) (id : String) (bound : BoundSql) :
    config.prepareHost time (MemoryTarget.statement ⟨⟨⟨id, kind⟩, bound⟩⟩) =
      ⟨(config.prepareAt kind bound.sql time).log,
        (config.prepareAt kind bound.sql time).result.map fun outcome =>
          .statement ⟨⟨⟨id, kind⟩, { bound with sql := outcome.sqlOr bound.sql }⟩⟩⟩ := by
  have mappedPath : RoutedHandler.innerPath? preparedStatementPath = some "mappedStatement" := by
    decide +kernel
  have sqlPath : RoutedHandler.innerPath? preparedSqlPath = some "boundSql.sql" := by
    decide +kernel
  have kindAt : PropertyBag.kindAt preparedStatementPath
      (MemoryTarget.statement ⟨⟨⟨id, kind⟩, bound⟩⟩) = .ok kind := by
    simp [PropertyBag.kindAt, PropertyBag.value, mappedPath]
  have textAt : PropertyBag.textAt preparedSqlPath
      (MemoryTarget.statement ⟨⟨⟨id, kind⟩, bound⟩⟩) = .ok bound.sql := by
    simp [PropertyBag.textAt, PropertyBag.value, sqlPath]
  have withText (text : String) : PropertyBag.withText preparedSqlPath text
      (MemoryTarget.statement ⟨⟨⟨id, kind⟩, bound⟩⟩) =
        .ok (.statement ⟨⟨⟨id, kind⟩, { bound with sql := text }⟩⟩) := by
    simp [PropertyBag.withText, PropertyBag.setText, sqlPath]
  cases kind with
  | other => simp [prepareHost, kindAt, prepareAt, Except.map, Prepared.sqlOr]
  | insert | update =>
    simp only [prepareHost, kindAt, textAt, withText]
    congr 1
    rcases (config.prepareAt _ bound.sql time).result with failure | text | - <;> rfl

private theorem bindHost_parameter (id : String) (bound : BoundSql) :
    config.bindHost (MemoryTarget.parameter ⟨⟨id, kind⟩, bound⟩) =
      ⟨(config.reconcile kind bound).log,
        (config.reconcile kind bound).result.map fun done =>
          .parameter ⟨⟨id, kind⟩, done.2⟩⟩ := rfl

end Memory

/-! ### The phases of a host -/

section Phases

variable {σ : Type} [PropertyBag σ] (config : AuditConfig) (clock : Clock) (readings : Nat)
  (host : σ)

private theorem runPhase_run (method : String) (role : Role) :
    (config.runPhase clock method role host).run readings =
      match Phase.of method, role with
      | .prepare, .statementHandler => (config.prepareHost (clock readings) host, readings + 1)
      | .prepare, _ => (⟨[], .error .notStatementHandler⟩, readings + 1)
      | .bind, .parameterHandler => (config.bindHost host, readings)
      | .bind, _ => (⟨[], .error .notParameterHandler⟩, readings)
      | .passThrough, _ => (⟨[], .ok host⟩, readings) := by
  unfold runPhase
  cases Phase.of method <;> cases role <;> rfl

theorem runPhase_statementHandler :
    (config.runPhase clock prepareMethod .statementHandler host).run readings =
      (config.prepareHost (clock readings) host, readings + 1) := by
  rw [runPhase_run, Phase.of_prepare]

theorem runPhase_parameterHandler :
    (config.runPhase clock setParametersMethod .parameterHandler host).run readings =
      (config.bindHost host, readings) := by
  rw [runPhase_run, Phase.of_setParameters]

theorem runPhase_notStatementHandler {role : Role} (wrong : role ≠ .statementHandler) :
    (config.runPhase clock prepareMethod role host).run readings =
      (⟨[], .error .notStatementHandler⟩, readings + 1) := by
  rw [runPhase_run, Phase.of_prepare]
  cases role with
  | statementHandler => exact absurd rfl wrong
  | _ => rfl

theorem runPhase_notParameterHandler {role : Role} (wrong : role ≠ .parameterHandler) :
    (config.runPhase clock setParametersMethod role host).run readings =
      (⟨[], .error .notParameterHandler⟩, readings) := by
  rw [runPhase_run, Phase.of_setParameters]
  cases role with
  | parameterHandler => exact absurd rfl wrong
  | _ => rfl

theorem runPhase_other {method : String} (role : Role) (notPrepare : method ≠ prepareMethod)
    (notBind : method ≠ setParametersMethod) :
    (config.runPhase clock method role host).run readings = (⟨[], .ok host⟩, readings) := by
  rw [runPhase_run, Phase.of_other notPrepare notBind]

/-- The time is read once to prepare, whatever the target is, and for no other method. -/
theorem readings_runPhase (method : String) (role : Role) :
    ((config.runPhase clock method role host).run readings).2 =
      readings + if method = prepareMethod then 1 else 0 := by
  by_cases prepares : method = prepareMethod
  · subst prepares
    by_cases handler : role = .statementHandler
    · subst handler
      rw [runPhase_statementHandler, if_pos rfl]
    · rw [runPhase_notStatementHandler config clock readings host handler, if_pos rfl]
  · rw [if_neg prepares, Nat.add_zero]
    by_cases binds : method = setParametersMethod
    · subst binds
      by_cases handler : role = .parameterHandler
      · subst handler
        rw [runPhase_parameterHandler]
      · rw [runPhase_notParameterHandler config clock readings host handler]
    · rw [runPhase_other config clock readings host role prepares binds]

theorem runPhase_prepare (mapped : MappedStatement) (bound : BoundSql) :
    let operation := config.prepareAt mapped.command bound.sql (clock readings)
    (config.runPhase clock prepareMethod .statementHandler
        (MemoryTarget.statement ⟨⟨mapped, bound⟩⟩)).run readings =
      (⟨operation.log, operation.result.map fun prepared =>
        .statement ⟨⟨mapped, { bound with sql := prepared.sqlOr bound.sql }⟩⟩⟩, readings + 1) := by
  rw [runPhase_statementHandler, prepareHost_statement]

theorem runPhase_setParameters (mapped : MappedStatement) (bound : BoundSql) :
    (config.runPhase clock setParametersMethod .parameterHandler
        (MemoryTarget.parameter ⟨mapped, bound⟩)).run readings =
      (⟨(config.reconcile mapped.command bound).log,
        (config.reconcile mapped.command bound).result.map fun reconciled =>
          .parameter ⟨mapped, reconciled.2⟩⟩, readings) := by
  rw [runPhase_parameterHandler, bindHost_parameter]

end Phases

/-! ### The call -/

variable {α : Type} (config : AuditConfig) (clock : Clock) (readings : Nat)

def interceptTarget (method : String) (target : MemoryTarget)
    (call : MemoryTarget → Except Failure α) : StateM Nat (Interception MemoryTarget α) :=
  config.intercept clock method target.role target call

/-- The call runs on what the phase leaves, if it leaves anything; its own result is the answer. -/
theorem intercept_eq {σ : Type} [PropertyBag σ] (method : String) (role : Role) (host : σ)
    (call : σ → Except Failure α) :
    let phase := (config.runPhase clock method role host).run readings
    (config.intercept clock method role host call).run readings =
      (⟨phase.1.log, phase.1.result.toOption, phase.1.result.bind call⟩, phase.2) := by
  unfold intercept
  rw [StateT.run_bind]
  generalize (config.runPhase clock method role host).run readings = phase
  obtain ⟨⟨log, result⟩, later⟩ := phase
  cases result <;> rfl

theorem readings_intercept {σ : Type} [PropertyBag σ] (method : String) (role : Role) (host : σ)
    (call : σ → Except Failure α) :
    ((config.intercept clock method role host call).run readings).2 =
      readings + if method = prepareMethod then 1 else 0 := by
  rw [intercept_eq, readings_runPhase]

private theorem interceptTarget_eq (method : String) (target : MemoryTarget)
    (call : MemoryTarget → Except Failure α) :
    let phase := (config.runPhase clock method target.role target).run readings
    (config.interceptTarget clock method target call).run readings =
      (⟨phase.1.log, phase.1.result.toOption, phase.1.result.bind call⟩, phase.2) :=
  config.intercept_eq clock readings method target.role target call

/-- An intercepted call is the operation of its method, at the time that is read for it, and then
the call, once, on the target with the result of the operation; where the operation fails there is
no call.  Only a prepare reads the clock, once and whatever becomes of it. -/
theorem intercept_runs_operation_then_call (call : MemoryTarget → Except Failure α) :
    (∀ mapped bound,
      let target := MemoryTarget.statement ⟨⟨mapped, bound⟩⟩
      let operation := config.prepareAt mapped.command bound.sql (clock readings)
      (∀ prepared, operation.result = .ok prepared →
        let after := MemoryTarget.statement
          ⟨⟨mapped, { bound with sql := prepared.sqlOr bound.sql }⟩⟩
        (config.interceptTarget clock prepareMethod target call).run readings =
          (⟨operation.log, some after, call after⟩, readings + 1)) ∧
      ∀ failure, operation.result = .error failure →
        (config.interceptTarget clock prepareMethod target call).run readings =
          (⟨operation.log, none, .error failure⟩, readings + 1)) ∧
    (∀ mapped bound,
      let target := MemoryTarget.parameter ⟨mapped, bound⟩
      let operation := config.reconcile mapped.command bound
      (∀ n reconciled, operation.result = .ok (n, reconciled) →
        let after := MemoryTarget.parameter
          ⟨mapped, { bound with mappings := reconciled.mappings }⟩
        (config.interceptTarget clock setParametersMethod target call).run readings =
          (⟨operation.log, some after, call after⟩, readings)) ∧
      ∀ failure, operation.result = .error failure →
        (config.interceptTarget clock setParametersMethod target call).run readings =
          (⟨operation.log, none, .error failure⟩, readings)) ∧
    (∀ state, ∃ failure, failure.code? = some .internalInvariant ∧
      (config.interceptTarget clock prepareMethod (.parameter state) call).run readings =
        (⟨[], none, .error failure⟩, readings + 1)) ∧
    (∀ handler, ∃ failure, failure.code? = some .internalInvariant ∧
      (config.interceptTarget clock setParametersMethod (.statement handler) call).run readings =
        (⟨[], none, .error failure⟩, readings)) ∧
    (∀ method target, method ≠ prepareMethod → method ≠ setParametersMethod →
      (config.interceptTarget clock method target call).run readings =
        (⟨[], some target, call target⟩, readings)) ∧
    ∀ method target, ∃ log, ∃ reached : Except Failure MemoryTarget,
      ∀ call : MemoryTarget → Except Failure α,
        (config.interceptTarget clock method target call).run readings =
          (⟨log, reached.toOption, reached.bind call⟩,
            readings + if method = prepareMethod then 1 else 0) := by
  refine ⟨fun mapped bound => ⟨?_, ?_⟩, fun mapped bound => ⟨?_, ?_⟩, ?_, ?_, ?_, ?_⟩
  · intro prepared ok
    rw [interceptTarget_eq, MemoryTarget.role, runPhase_prepare, ok]
    rfl
  · intro failure failed
    rw [interceptTarget_eq, MemoryTarget.role, runPhase_prepare, failed]
    rfl
  · intro n reconciled ok
    have same : reconciled = { bound with mappings := reconciled.mappings } := by
      rw [← sql_of_reconcile ok]
    rw [interceptTarget_eq, MemoryTarget.role, runPhase_setParameters, ok, ← same]
    rfl
  · intro failure failed
    rw [interceptTarget_eq, MemoryTarget.role, runPhase_setParameters, failed]
    rfl
  · intro state
    refine ⟨.notStatementHandler, rfl, ?_⟩
    rw [interceptTarget_eq, MemoryTarget.role,
      runPhase_notStatementHandler config clock readings _ (by simp)]
    rfl
  · intro handler
    refine ⟨.notParameterHandler, rfl, ?_⟩
    rw [interceptTarget_eq, MemoryTarget.role,
      runPhase_notParameterHandler config clock readings _ (by simp)]
    rfl
  · intro method target notPrepare notBind
    rw [interceptTarget_eq, runPhase_other config clock readings _ _ notPrepare notBind]
    rfl
  · intro method target
    let phase := (config.runPhase clock method target.role target).run readings
    refine ⟨phase.1.log, phase.1.result, fun call => ?_⟩
    rw [interceptTarget_eq, readings_runPhase]

end AuditConfig

end RowStamp
