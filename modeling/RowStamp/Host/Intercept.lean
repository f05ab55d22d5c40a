import RowStamp.Host.Basic
import RowStamp.Interceptor

/-!
Intercepting a call of a host: the phase that the method names runs first, then the call goes on.
The call does not go on where the phase fails.
-/

set_option autoImplicit false
set_option relaxedAutoImplicit false

namespace RowStamp

inductive Role where
  | statementHandler
  | parameterHandler
  | neither
  deriving DecidableEq, Repr

inductive Phase where
  | prepare
  | bind
  | passThrough
  deriving DecidableEq, Repr

def prepareMethod : String := "prepare"

def setParametersMethod : String := "setParameters"

def Phase.of (method : String) : Phase :=
  if method = prepareMethod then prepare
  else if method = setParametersMethod then bind
  else passThrough

/-- A method that the interceptor registers for. -/
structure Signature where
  target : String
  method : String
  args : List String
  deriving DecidableEq, Repr

def signatures : List Signature :=
  [⟨"StatementHandler", prepareMethod, ["Connection", "Integer"]⟩,
    ⟨"ParameterHandler", setParametersMethod, ["PreparedStatement"]⟩]

def preparedStatementPath : String := "delegate.mappedStatement"

def preparedSqlPath : String := "delegate.boundSql.sql"

def boundStatementPath : String := "mappedStatement"

def boundSqlPath : String := "boundSql"

namespace PropertyBag

variable {σ : Type} [PropertyBag σ]

def kindAt (path : String) (host : σ) : Except Failure StatementKind :=
  match value host path with
  | some (.mapped statement) => .ok statement.command
  | _ => .error (.missingProperty path)

def textAt (path : String) (host : σ) : Except Failure String :=
  match value host path with
  | some (.text s) => .ok s
  | _ => .error (.missingProperty path)

def withText (path text : String) (host : σ) : Except Failure σ :=
  match setText host path text with
  | some host => .ok host
  | none => .error (.missingProperty path)

def boundAt (path : String) (host : σ) : Except Failure BoundSql :=
  match bound? host path with
  | some bound => .ok bound
  | none => .error (.missingProperty path)

end PropertyBag

open PropertyBag (kindAt textAt withText boundAt)

namespace AuditConfig

variable {σ : Type} [PropertyBag σ]

def prepareHost (config : AuditConfig) (time : Timestamp) (host : σ) : Logged σ :=
  match kindAt preparedStatementPath host with
  | .error failure => ⟨[], .error failure⟩
  | .ok .other => ⟨[], .ok host⟩
  | .ok kind =>
    match textAt preparedSqlPath host with
    | .error failure => ⟨[], .error failure⟩
    | .ok sql =>
      let prepared := config.prepareAt kind sql time
      ⟨prepared.log, prepared.result.bind fun
        | .rewritten sql => withText preparedSqlPath sql host
        | .unchanged => .ok host⟩

/-- A parameter handler before its parameters are bound. -/
def bindHost (config : AuditConfig) (host : σ) : Logged σ :=
  match kindAt boundStatementPath host, boundAt boundSqlPath host with
  | .error failure, _ => ⟨[], .error failure⟩
  | _, .error failure => ⟨[], .error failure⟩
  | .ok kind, .ok bound =>
    let reconciled := config.reconcile kind bound
    ⟨reconciled.log, reconciled.result.map fun (_, bound) =>
      PropertyBag.setBound host boundSqlPath bound⟩

/-- A host after the phase that a method names.  The time is read before the target is looked
at. -/
def runPhase (config : AuditConfig) (clock : Clock) (method : String) (role : Role) (host : σ) :
    StateM Nat (Logged σ) :=
  match Phase.of method with
  | .prepare => do
    let time ← clock.read
    match role with
    | .statementHandler => return config.prepareHost time host
    | _ => return ⟨[], .error .notStatementHandler⟩
  | .bind =>
    match role with
    | .parameterHandler => return config.bindHost host
    | _ => return ⟨[], .error .notParameterHandler⟩
  | .passThrough => return ⟨[], .ok host⟩

end AuditConfig

/-- What became of an intercepted call: the events, the host as the call received it, if the call
went on, and the call's result or the failure. -/
structure Interception (σ α : Type) where
  log : List Event
  received : Option σ
  result : Except Failure α

/-- Runs the phase of a method, then the call, unless the phase fails. -/
def AuditConfig.intercept {σ α : Type} [PropertyBag σ] (config : AuditConfig) (clock : Clock)
    (method : String) (role : Role) (host : σ) (proceed : σ → Except Failure α) :
    StateM Nat (Interception σ α) := do
  let phase ← config.runPhase clock method role host
  match phase.result with
  | .error failure => return ⟨phase.log, none, .error failure⟩
  | .ok host => return ⟨phase.log, some host, proceed host⟩

end RowStamp
