import RowStamp.Host.Memory

/-!
Sessions: calls of one interceptor, one after the other, on one bound statement.  A call that
succeeds replaces the statement; one that fails leaves it.
-/

set_option autoImplicit false
set_option relaxedAutoImplicit false

namespace RowStamp

inductive Call where
  | intercept (method : String) (role : Role) (kind : StatementKind)
      (proceed : BoundSql → Except Failure BoundSql)
  | prepare (kind : StatementKind)
  | prepareAt (kind : StatementKind) (time : Timestamp)
  | reconcile (kind : StatementKind)

inductive Answer where
  | proceeded
  | prepared (outcome : Prepared)
  | removed (n : Nat)
  deriving DecidableEq, Repr

/-- The state of a session: the bound statement, how often the clock was read, and how often an
intercepted call went on. -/
structure Session where
  bound : BoundSql
  readings : Nat
  runs : Nat
  deriving DecidableEq, Repr

namespace Session

def start : Session := ⟨⟨"", []⟩, 0, 0⟩

def statementId : String := "m"

/-- An intercepted call on a host that is not the session's own: only the clock is the session's. -/
def interceptHost {σ α : Type} [PropertyBag σ] (config : AuditConfig) (clock : Clock)
    (session : Session) (method : String) (role : Role) (host : σ)
    (proceed : σ → Except Failure α) : Interception σ α × Session :=
  let (done, readings) := (config.intercept clock method role host proceed).run session.readings
  (done, { session with readings := readings })

def intercept (config : AuditConfig) (clock : Clock) (session : Session) (method : String)
    (role : Role) (kind : StatementKind) (proceed : BoundSql → Except Failure BoundSql) :
    Logged Answer × Session :=
  let target := MemoryTarget.ofRole role ⟨statementId, kind⟩ session.bound
  let (done, after) := session.interceptHost config clock method target.role target
    (fun target => proceed target.bound)
  let bound := match done.result with
    | .ok bound => bound
    | .error _ => session.bound
  (⟨done.log, done.result.map fun _ => .proceeded⟩,
    { after with
      bound := bound
      runs := session.runs + if done.received.isSome then 1 else 0 })

def prepareAt (config : AuditConfig) (session : Session) (kind : StatementKind)
    (time : Timestamp) : Logged Answer × Session :=
  let prepared := config.prepareAt kind session.bound.sql time
  let sql := match prepared.result with
    | .ok outcome => outcome.sqlOr session.bound.sql
    | .error _ => session.bound.sql
  (⟨prepared.log, prepared.result.map .prepared⟩,
    { session with bound := { session.bound with sql := sql } })

def reconcile (config : AuditConfig) (session : Session) (kind : StatementKind) :
    Logged Answer × Session :=
  let reconciled := config.reconcile kind session.bound
  let bound := match reconciled.result with
    | .ok (_, bound) => bound
    | .error _ => session.bound
  (⟨reconciled.log, reconciled.result.map fun (n, _) => .removed n⟩,
    { session with bound := bound })

def call (config : AuditConfig) (clock : Clock) (session : Session) :
    Call → Logged Answer × Session
  | .intercept method role kind proceed =>
    session.intercept config clock method role kind proceed
  | .prepare kind =>
    let (time, readings) := clock.read.run session.readings
    let (reply, after) := session.prepareAt config kind time
    (reply, { after with readings := readings })
  | .prepareAt kind time => session.prepareAt config kind time
  | .reconcile kind => session.reconcile config kind

def calls (config : AuditConfig) (clock : Clock) (session : Session) :
    List Call → List (Logged Answer) × Session
  | [] => ([], session)
  | first :: rest =>
    let (reply, after) := session.call config clock first
    let (replies, last) := calls config clock after rest
    (reply :: replies, last)

end Session

end RowStamp
