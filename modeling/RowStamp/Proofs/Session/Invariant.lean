import RowStamp.Proofs.Host.Continuation
import RowStamp.Proofs.Stamp.Decision
import RowStamp.Proofs.Stamp.Slots
import RowStamp.Session

/-!
What every run of a session keeps.  A run is a list of turns: the host puts a bound statement in
place, or makes a call.  Each kind of call is one case of what the interceptor does before the
call goes on; what a run keeps follows turn by turn.
-/

set_option autoImplicit false
set_option relaxedAutoImplicit false

namespace RowStamp

open Sql (Statement)

/-! ### Calls -/

namespace Call

/-- The call reads the clock: it prepares at the time of now, or is intercepted in order to. -/
def readsClock : Call → Bool
  | .intercept method _ _ _ => method = prepareMethod
  | .prepare _ => true
  | .prepareAt _ _ => false
  | .reconcile _ => false

def isIntercepted : Call → Bool
  | .intercept _ _ _ _ => true
  | _ => false

/-- The kind and the time of a call that prepares a statement, where it is `now`. -/
def prepares? (now : Timestamp) : Call → Option (StatementKind × Timestamp)
  | .intercept method role kind _ =>
    if method = prepareMethod ∧ role ≠ .parameterHandler then some (kind, now) else none
  | .prepare kind => some (kind, now)
  | .prepareAt kind time => some (kind, time)
  | .reconcile _ => none

/-- An intercepted call that hands on the bound statement that it gets, unless it fails. -/
def HandsOn : Call → Prop
  | .intercept _ _ _ proceed => ∀ bound after, proceed bound = .ok after → after = bound
  | _ => True

private theorem time_of_readsClock {now time : Timestamp} {call : Call} {kind : StatementKind}
    (reads : call.readsClock = true) (prepares : call.prepares? now = some (kind, time)) :
    time = now := by
  cases call with
  | intercept method role given proceed =>
    obtain ⟨-, -, same⟩ : (method = prepareMethod ∧ role ≠ .parameterHandler) ∧ given = kind ∧
        now = time := by simpa [prepares?] using prepares
    exact same.symm
  | prepare given => exact (Prod.mk.inj (Option.some.inj prepares)).2.symm
  | prepareAt given at_ => simp [readsClock] at reads
  | reconcile given => simp [prepares?] at prepares

end Call

namespace AuditConfig

variable {config : AuditConfig} {kind : StatementKind} {time : Timestamp}
  {bound left : BoundSql}

private theorem left_of_prepareAt
    (ok : ((config.prepareAt kind bound.sql time).result.map fun prepared =>
      { bound with sql := prepared.sqlOr bound.sql }) = .ok left) :
    left = bound ∨ ∃ statement stamped,
      parseStatement config.dialect bound.sql = .ok statement ∧
        Stamp.stampStatement config kind time statement = .ok (.stamped stamped) ∧
        left = { bound with sql := stamped.text } := by
  rcases config.prepareAt_cases kind bound.sql time with
    unchanged | ⟨statement, stamped, parsed, done, rewritten⟩ | ⟨failure, failed⟩
  · rw [unchanged] at ok
    exact .inl (Except.ok.inj ok).symm
  · rw [rewritten] at ok
    exact .inr ⟨statement, stamped, parsed, done, (Except.ok.inj ok).symm⟩
  · rw [failed] at ok
    simp [Except.map] at ok

private theorem left_of_reconcile
    (ok : (config.reconcile kind bound).result.map Prod.snd = .ok left) :
    left = bound ∨ left = { bound with mappings := config.columns.remaining bound.mappings } := by
  cases done : (config.reconcile kind bound).result with
  | error failure => simp [done, Except.map] at ok
  | ok reconciled =>
    obtain rfl : reconciled.2 = left := by simpa [done, Except.map] using ok
    rcases reconcile_ok_cases done with ⟨-, same⟩ | ⟨-, same⟩
    · exact .inl same
    · exact .inr same

end AuditConfig

namespace Session

variable {config : AuditConfig} {clock : Clock} {session : Session} {call : Call}
  {left : BoundSql}

/-! ### One call -/

/-- The bound statement that the interceptor leaves for a call to go on with, or its failure. -/
def handed (config : AuditConfig) (clock : Clock) (session : Session) :
    Call → Except Failure BoundSql
  | .intercept method role kind _ =>
    let target := MemoryTarget.ofRole role ⟨statementId, kind⟩ session.bound
    ((config.runPhase clock method target.role target).run session.readings).1.result.map
      MemoryTarget.bound
  | .prepare kind =>
    (config.prepareAt kind session.bound.sql (clock session.readings)).result.map fun prepared =>
      { session.bound with sql := prepared.sqlOr session.bound.sql }
  | .prepareAt kind time =>
    (config.prepareAt kind session.bound.sql time).result.map fun prepared =>
      { session.bound with sql := prepared.sqlOr session.bound.sql }
  | .reconcile kind => (config.reconcile kind session.bound).result.map Prod.snd

private theorem handed_prepare {role : Role} (kind : StatementKind)
    (proceed : BoundSql → Except Failure BoundSql) (handler : role ≠ .parameterHandler) :
    session.handed config clock (.intercept prepareMethod role kind proceed) =
      session.handed config clock (.prepare kind) := by
  have target : MemoryTarget.ofRole role ⟨statementId, kind⟩ session.bound =
      .statement ⟨⟨⟨statementId, kind⟩, session.bound⟩⟩ := by
    cases role with
    | parameterHandler => exact absurd rfl handler
    | _ => rfl
  simp only [handed, target, MemoryTarget.role, AuditConfig.runPhase_prepare]
  cases (config.prepareAt kind session.bound.sql (clock session.readings)).result <;> rfl

/-- An intercepted call is handed what preparing leaves or what binding leaves, fails on a target
that is no handler for its method, or has no phase. -/
theorem handed_intercept (config : AuditConfig) (clock : Clock) (session : Session)
    (method : String) (role : Role) (kind : StatementKind)
    (proceed : BoundSql → Except Failure BoundSql) :
    let through := session.handed config clock (.intercept method role kind proceed)
    (method = prepareMethod ∧ role ≠ .parameterHandler ∧
        through = session.handed config clock (.prepare kind)) ∨
      through = session.handed config clock (.reconcile kind) ∨
      (∃ failure, through = .error failure) ∨ through = .ok session.bound := by
  intro through
  by_cases prepares : method = prepareMethod
  · subst prepares
    by_cases parameter : role = .parameterHandler
    · subst parameter
      exact .inr (.inr (.inl ⟨.notStatementHandler, rfl⟩))
    · exact .inl ⟨rfl, parameter, handed_prepare kind proceed parameter⟩
  · by_cases binds : method = setParametersMethod
    · subst binds
      cases role with
      | parameterHandler =>
        refine .inr (.inl ?_)
        simp only [through, handed, MemoryTarget.ofRole, MemoryTarget.role,
          AuditConfig.runPhase_setParameters]
        cases (config.reconcile kind session.bound).result <;> rfl
      | _ => exact .inr (.inr (.inl ⟨.notParameterHandler, rfl⟩))
    · refine .inr (.inr (.inr ?_))
      simp only [through, handed, AuditConfig.runPhase_other config _ _ _ _ prepares binds,
        Except.map]
      cases role <;> rfl

/-- What the interceptor can leave of a bound statement, for a call at a time: all of it, the text
of the stamped statement, or the mappings that remain. -/
inductive Leaves (config : AuditConfig) (now : Timestamp) (bound : BoundSql) (call : Call) :
    BoundSql → Prop
  | everything : Leaves config now bound call bound
  | stamped {kind : StatementKind} {time : Timestamp} {statement done : Statement}
      (prepares : call.prepares? now = some (kind, time))
      (parsed : parseStatement config.dialect bound.sql = .ok statement)
      (stamps : Stamp.stampStatement config kind time statement = .ok (.stamped done)) :
      Leaves config now bound call { bound with sql := done.text }
  | remaining :
      Leaves config now bound call
        { bound with mappings := config.columns.remaining bound.mappings }

private theorem leaves_of_handed (ok : session.handed config clock call = .ok left) :
    Leaves config (clock session.readings) session.bound call left := by
  have prepared {kind : StatementKind} {time : Timestamp}
      (given : call.prepares? (clock session.readings) = some (kind, time))
      (ok : session.handed config clock (.prepareAt kind time) = .ok left) :
      Leaves config (clock session.readings) session.bound call left := by
    rcases AuditConfig.left_of_prepareAt ok with rfl | ⟨statement, done, parsed, stamps, rfl⟩
    · exact .everything
    · exact .stamped given parsed stamps
  have reconciled {kind : StatementKind}
      (ok : session.handed config clock (.reconcile kind) = .ok left) :
      Leaves config (clock session.readings) session.bound call left := by
    rcases AuditConfig.left_of_reconcile ok with rfl | rfl
    · exact .everything
    · exact .remaining
  cases call with
  | prepare kind => exact prepared rfl ok
  | prepareAt kind time => exact prepared rfl ok
  | reconcile kind => exact reconciled ok
  | intercept method role kind proceed =>
    rcases handed_intercept config clock session method role kind proceed with
      ⟨prepares, statement, same⟩ | same | ⟨failure, same⟩ | same
    · exact prepared (by simp [Call.prepares?, prepares, statement]) (same.symm.trans ok)
    · exact reconciled (same.symm.trans ok)
    · rw [same] at ok
      simp at ok
    · obtain rfl := Except.ok.inj (ok.symm.trans same)
      exact .everything

private theorem readings_call (config : AuditConfig) (clock : Clock) (session : Session)
    (call : Call) :
    (session.call config clock call).2.readings =
      session.readings + if call.readsClock then 1 else 0 := by
  cases call with
  | prepare kind => rfl
  | prepareAt kind time => rfl
  | reconcile kind => rfl
  | intercept method role kind proceed =>
    have read := config.readings_intercept clock session.readings method
      (MemoryTarget.ofRole role ⟨statementId, kind⟩ session.bound).role
      (MemoryTarget.ofRole role ⟨statementId, kind⟩ session.bound)
      (fun target => proceed target.bound)
    simp only [Call.readsClock, decide_eq_true_eq]
    exact read

private theorem intercept_ends (config : AuditConfig) (clock : Clock) (session : Session)
    (method : String)
    (role : Role) (kind : StatementKind) (proceed : BoundSql → Except Failure BoundSql) :
    let handed := session.handed config clock (.intercept method role kind proceed)
    let done := session.call config clock (.intercept method role kind proceed)
    done.1.result = (handed.bind proceed).map (fun _ => .proceeded) ∧
      done.2.bound = (handed.bind proceed).toOption.getD session.bound ∧
      done.2.runs = session.runs + if handed.toOption.isSome then 1 else 0 := by
  intro handed done
  have through := config.intercept_eq clock session.readings method
    (MemoryTarget.ofRole role ⟨statementId, kind⟩ session.bound).role
    (MemoryTarget.ofRole role ⟨statementId, kind⟩ session.bound) (fun target => proceed target.bound)
  cases phase : ((config.runPhase clock method
      (MemoryTarget.ofRole role ⟨statementId, kind⟩ session.bound).role
      (MemoryTarget.ofRole role ⟨statementId, kind⟩ session.bound)).run session.readings).1.result with
  | error failure =>
    simp [handed, done, Session.handed, call, intercept, interceptHost, through, phase,
      Except.map, Except.bind, Except.toOption]
  | ok target =>
    have reached : handed = .ok target.bound := by
      simp [handed, Session.handed, phase, Except.map]
    cases answer : proceed target.bound with
    | error failure =>
      simp [reached, answer, done, call, intercept, interceptHost, through, phase, Except.map,
        Except.bind, Except.toOption]
    | ok bound =>
      simp [reached, answer, done, call, intercept, interceptHost, through, phase, Except.map,
        Except.bind, Except.toOption]

/-- A call on a session, by what the interceptor leaves: it fails where the interceptor fails, and
else it leaves what it is handed or fails itself.  An intercepted call is run exactly where the
interceptor does not fail. -/
inductive Runs (config : AuditConfig) (clock : Clock) (session : Session) (call : Call) : Prop
  | stopped {failure : Failure}
      (handed : session.handed config clock call = .error failure)
      (result : (session.call config clock call).1.result = .error failure)
      (bound : (session.call config clock call).2.bound = session.bound)
      (runs : (session.call config clock call).2.runs = session.runs)
  | reached {left : BoundSql}
      (handed : session.handed config clock call = .ok left)
      (ended : ((∃ answer, (session.call config clock call).1.result = .ok answer) ∧
          (session.call config clock call).2.bound = left) ∨
        ((∃ failure, (session.call config clock call).1.result = .error failure) ∧
          (session.call config clock call).2.bound = session.bound))
      (runs : (session.call config clock call).2.runs =
        session.runs + if call.isIntercepted then 1 else 0)

private theorem prepareAt_ends (config : AuditConfig) (session : Session) (kind : StatementKind)
    (time : Timestamp) :
    let left := (config.prepareAt kind session.bound.sql time).result.map fun prepared =>
      { session.bound with sql := prepared.sqlOr session.bound.sql }
    let done := session.prepareAt config kind time
    (∃ failure, left = .error failure ∧ done.1.result = .error failure ∧
        done.2.bound = session.bound) ∨
      ∃ after, left = .ok after ∧ (∃ answer, done.1.result = .ok answer) ∧
        done.2.bound = after := by
  simp only [prepareAt]
  cases (config.prepareAt kind session.bound.sql time).result with
  | error failure => exact .inl ⟨failure, rfl, rfl, rfl⟩
  | ok prepared => exact .inr ⟨_, rfl, ⟨_, rfl⟩, rfl⟩

private theorem call_runs (config : AuditConfig) (clock : Clock) (session : Session)
    (handsOn : call.HandsOn) : Runs config clock session call := by
  cases call with
  | prepare kind =>
    rcases session.prepareAt_ends config kind (clock session.readings) with
      ⟨failure, failed, result, bound⟩ | ⟨left, ok, answered, bound⟩
    · exact .stopped failed result bound rfl
    · exact .reached ok (.inl ⟨answered, bound⟩) rfl
  | prepareAt kind time =>
    rcases session.prepareAt_ends config kind time with
      ⟨failure, failed, result, bound⟩ | ⟨left, ok, answered, bound⟩
    · exact .stopped failed result bound rfl
    · exact .reached ok (.inl ⟨answered, bound⟩) rfl
  | reconcile kind =>
    cases done : (config.reconcile kind session.bound).result with
    | error failure =>
      have failed : session.handed config clock (.reconcile kind) = .error failure := by
        simp [handed, done, Except.map]
      apply Runs.stopped failed <;> simp [Session.call, reconcile, done, Except.map]
    | ok reconciled =>
      have ok : session.handed config clock (.reconcile kind) = .ok reconciled.2 := by
        simp [handed, done, Except.map]
      apply Runs.reached ok <;>
        simp [Session.call, reconcile, done, Except.map, Call.isIntercepted]
  | intercept method role kind proceed =>
    obtain ⟨result, bound, runs⟩ := intercept_ends config clock session method role kind proceed
    cases through : session.handed config clock (.intercept method role kind proceed) with
    | error failure =>
      rw [through] at result bound runs
      exact .stopped through result bound runs
    | ok left =>
      rw [through] at result bound runs
      refine .reached through ?_ runs
      cases answer : proceed left with
      | error failure =>
        simp only [Except.bind, answer] at result bound
        exact .inr ⟨⟨failure, result⟩, bound⟩
      | ok after =>
        simp only [Except.bind, answer] at result bound
        obtain rfl : after = left := handsOn left after answer
        exact .inl ⟨⟨.proceeded, result⟩, bound⟩

private theorem handed_of_prepares {kind : StatementKind} {time : Timestamp}
    {statement stamped : Statement}
    (prepares : call.prepares? (clock session.readings) = some (kind, time))
    (parsed : parseStatement config.dialect session.bound.sql = .ok statement)
    (done : Stamp.stampStatement config kind time statement = .ok (.stamped stamped)) :
    session.handed config clock call = .ok { session.bound with sql := stamped.text } := by
  have written : session.handed config clock (.prepareAt kind time) =
      .ok { session.bound with sql := stamped.text } := by
    rw [handed, AuditConfig.prepareAt_of_stamped parsed done]
    rfl
  cases call with
  | prepareAt given at_ =>
    obtain ⟨rfl, rfl⟩ := Prod.mk.inj (Option.some.inj prepares)
    exact written
  | prepare given =>
    obtain ⟨rfl, rfl⟩ := Prod.mk.inj (Option.some.inj prepares)
    exact written
  | reconcile given => simp [Call.prepares?] at prepares
  | intercept method role given proceed =>
    obtain ⟨⟨rfl, handler⟩, rfl, rfl⟩ : (method = prepareMethod ∧ role ≠ .parameterHandler) ∧
        given = kind ∧ clock session.readings = time := by
      simpa [Call.prepares?] using prepares
    rw [handed_prepare given proceed handler]
    exact written

/-- What a call keeps.  A failure leaves the bound statement; the text becomes that of a stamped
statement or stays, and each slot of what is stamped at the time of now holds the time that the
call itself reads; mappings are only removed. -/
structure Keeps (config : AuditConfig) (clock : Clock) (before : Session) (call : Call) :
    Prop where
  failed : ∀ failure, (before.call config clock call).1.result = .error failure →
    (before.call config clock call).2.bound = before.bound
  answered : ∀ answer, (before.call config clock call).1.result = .ok answer →
    before.handed config clock call = .ok (before.call config clock call).2.bound
  text : (before.call config clock call).2.bound.sql ≠ before.bound.sql →
    (∃ answer, (before.call config clock call).1.result = .ok answer) ∧
      ∃ kind time statement stamped,
        call.prepares? (clock before.readings) = some (kind, time) ∧ kind ≠ .other ∧
          parseStatement config.dialect before.bound.sql = .ok statement ∧
          Stamp.Audited config kind statement ∧
          Stamp.stampStatement config kind time statement = .ok (.stamped stamped) ∧
          (before.call config clock call).2.bound.sql = stamped.text
  slots : call.readsClock = true → ∀ kind time statement stamped,
    call.prepares? (clock before.readings) = some (kind, time) →
    parseStatement config.dialect before.bound.sql = .ok statement →
    Stamp.stampStatement config kind time statement = .ok (.stamped stamped) →
      before.handed config clock call = .ok { before.bound with sql := stamped.text } ∧
        ∀ value ∈ Stamp.slots config.columns stamped,
          value = some (clock before.readings).expr
  mappings : (before.call config clock call).2.bound.mappings.Sublist before.bound.mappings

private theorem call_keeps (config : AuditConfig) (clock : Clock) (session : Session)
    (handsOn : call.HandsOn) : Keeps config clock session call := by
  have leaves := session.call_runs config clock handsOn
  constructor
  case failed =>
    intro failure failed
    cases leaves with
    | stopped handed result bound runs => exact bound
    | reached handed ended runs =>
      rcases ended with ⟨⟨answer, ok⟩, -⟩ | ⟨-, bound⟩
      · rw [failed] at ok
        simp at ok
      · exact bound
  case answered =>
    intro answer ok
    cases leaves with
    | stopped handed result bound runs =>
      rw [ok] at result
      simp at result
    | reached handed ended runs =>
      rcases ended with ⟨-, bound⟩ | ⟨⟨failure, failed⟩, -⟩
      · rw [bound]
        exact handed
      · rw [ok] at failed
        simp at failed
  case text =>
    intro changed
    cases leaves with
    | stopped handed result bound runs => simp [bound] at changed
    | reached handed ended runs =>
      rcases ended with ⟨answered, bound⟩ | ⟨-, bound⟩
      · refine ⟨answered, ?_⟩
        rw [bound] at changed ⊢
        cases leaves_of_handed handed with
        | everything => exact absurd rfl changed
        | remaining => exact absurd rfl changed
        | @stamped kind time statement done prepares parsed stamps =>
          exact ⟨kind, time, statement, done, prepares, Stamp.kind_ne_other stamps, parsed,
            Stamp.audited_of_stamped stamps, stamps, rfl⟩
      · simp [bound] at changed
  case slots =>
    intro reads kind time statement stamped prepares parsed done
    obtain rfl := Call.time_of_readsClock reads prepares
    exact ⟨handed_of_prepares prepares parsed done, Stamp.slots_stamped done⟩
  case mappings =>
    cases leaves with
    | stopped handed result bound runs => simp only [bound, List.Sublist.refl]
    | reached handed ended runs =>
      rcases ended with ⟨-, bound⟩ | ⟨-, bound⟩
      · simp only [bound]
        cases leaves_of_handed handed with
        | everything => exact List.Sublist.refl _
        | stamped => exact List.Sublist.refl _
        | remaining => exact List.filter_sublist
      · simp only [bound, List.Sublist.refl]

end Session

/-! ### Runs -/

/-- A turn of a session: a bound statement is put in place, or a call is made. -/
inductive Turn where
  | install (bound : BoundSql)
  | call (made : Call)

namespace Turn

def readsClock : Turn → Bool
  | .install _ => false
  | .call made => made.readsClock

/-- An intercepted call of the turn hands on what it gets, unless it fails. -/
def HandsOn : Turn → Prop
  | .install _ => True
  | .call made => made.HandsOn

/-- The bound statement that was put in place last, where `last` is the one before the turn. -/
def installed (last : BoundSql) : Turn → BoundSql
  | .install bound => bound
  | .call _ => last

end Turn

namespace Session

def turn (config : AuditConfig) (clock : Clock) (session : Session) : Turn → Session
  | .install bound => { session with bound := bound }
  | .call made => (session.call config clock made).2

/-- A session after turns, one after the other. -/
def run (config : AuditConfig) (clock : Clock) (session : Session) (turns : List Turn) : Session :=
  turns.foldl (turn config clock) session

/-- The turns of a run, each with the session before it. -/
def trace (config : AuditConfig) (clock : Clock) (session : Session) :
    List Turn → List (Session × Turn)
  | [] => []
  | first :: rest => (session, first) :: trace config clock (session.turn config clock first) rest

/-- A turn whose call is intercepted and does not fail inside of the interceptor. -/
def goesOn (config : AuditConfig) (clock : Clock) (moment : Session × Turn) : Bool :=
  match moment.2 with
  | .install _ => false
  | .call made => made.isIntercepted && (moment.1.handed config clock made).toOption.isSome

private theorem readings_turn (config : AuditConfig) (clock : Clock) (session : Session)
    (turn : Turn) :
    (session.turn config clock turn).readings =
      session.readings + if turn.readsClock then 1 else 0 := by
  cases turn with
  | install bound => rfl
  | call made => exact readings_call config clock session made

private theorem runs_turn (config : AuditConfig) (clock : Clock) (session : Session) {turn : Turn}
    (handsOn : turn.HandsOn) :
    (session.turn config clock turn).runs =
      session.runs + if goesOn config clock (session, turn) then 1 else 0 := by
  cases turn with
  | install bound => rfl
  | call made =>
    have stays : made.HandsOn := handsOn
    cases session.call_runs config clock stays with
    | stopped handed result bound runs =>
      simpa [turn, goesOn, handed, Except.toOption] using runs
    | reached handed ended runs => simpa [turn, goesOn, handed, Except.toOption] using runs

private theorem mappings_turn (config : AuditConfig) (clock : Clock) (session : Session)
    {turn : Turn} {last : BoundSql} (handsOn : turn.HandsOn)
    (fewer : session.bound.mappings.Sublist last.mappings) :
    (session.turn config clock turn).bound.mappings.Sublist (turn.installed last).mappings := by
  cases turn with
  | install bound => exact List.Sublist.refl _
  | call made =>
    have keeps : Keeps config clock session made := session.call_keeps config clock handsOn
    exact keeps.mappings.trans fewer

private theorem readings_run (config : AuditConfig) (clock : Clock) (start : Session)
    (turns : List Turn) :
    (start.run config clock turns).readings = start.readings + turns.countP Turn.readsClock := by
  induction turns generalizing start with
  | nil => rfl
  | cons first rest ih =>
    have later := ih (start.turn config clock first)
    have now := start.readings_turn config clock first
    rw [List.countP_cons]
    change ((start.turn config clock first).run config clock rest).readings = _
    omega

private theorem runs_run (config : AuditConfig) (clock : Clock) (start : Session)
    {turns : List Turn} (handsOn : ∀ turn ∈ turns, turn.HandsOn) :
    (start.run config clock turns).runs =
      start.runs + (start.trace config clock turns).countP (goesOn config clock) := by
  induction turns generalizing start with
  | nil => rfl
  | cons first rest ih =>
    obtain ⟨here, others⟩ := List.forall_mem_cons.mp handsOn
    have later := ih (start.turn config clock first) others
    have now := start.runs_turn config clock here
    rw [trace, List.countP_cons]
    change ((start.turn config clock first).run config clock rest).runs = _
    omega

private theorem mappings_run (config : AuditConfig) (clock : Clock) (start : Session)
    {turns : List Turn} {last : BoundSql} (handsOn : ∀ turn ∈ turns, turn.HandsOn)
    (fewer : start.bound.mappings.Sublist last.mappings) :
    (start.run config clock turns).bound.mappings.Sublist
      (turns.foldl Turn.installed last).mappings := by
  induction turns generalizing start last with
  | nil => exact fewer
  | cons first rest ih =>
    obtain ⟨here, others⟩ := List.forall_mem_cons.mp handsOn
    exact ih (start.turn config clock first) others
      (start.mappings_turn config clock here fewer)

private theorem handsOn_of_mem_trace {config : AuditConfig} {clock : Clock} {start before : Session}
    {turns : List Turn} {turn : Turn} (handsOn : ∀ turn ∈ turns, turn.HandsOn)
    (member : (before, turn) ∈ start.trace config clock turns) : turn.HandsOn := by
  induction turns generalizing start with
  | nil => simp [trace] at member
  | cons first rest ih =>
    obtain ⟨here, others⟩ := List.forall_mem_cons.mp handsOn
    rcases List.mem_cons.mp member with same | later
    · obtain ⟨-, rfl⟩ := Prod.mk.inj same
      exact here
    · exact ih others later

/-- What every run of a session keeps, at every point and for every call. -/
theorem run_invariant (config : AuditConfig) (clock : Clock) (start : Session) {turns : List Turn}
    (handsOn : ∀ turn ∈ turns, turn.HandsOn) :
    (start.run config clock turns).readings = start.readings + turns.countP Turn.readsClock ∧
      (start.run config clock turns).runs =
        start.runs + (start.trace config clock turns).countP (goesOn config clock) ∧
      (∀ earlier, earlier <+: turns →
        (start.run config clock earlier).bound.mappings.Sublist
          (earlier.foldl Turn.installed start.bound).mappings) ∧
      ∀ before made, (before, .call made) ∈ start.trace config clock turns →
        Keeps config clock before made := by
  refine ⟨start.readings_run config clock turns, start.runs_run config clock handsOn, ?_, ?_⟩
  · intro earlier first
    apply start.mappings_run config clock _ (List.Sublist.refl _)
    intro turn member
    exact handsOn turn (first.subset member)
  · intro before made member
    have hands : made.HandsOn := handsOn_of_mem_trace handsOn member
    exact before.call_keeps config clock hands

def swingingClock : Clock := Clock.cycle .plain [.plain, ⟨"2024-05-06 07:08:10.250"⟩]

/-- An INSERT whose modification time is bound is prepared on a target that is no statement
handler, by a call that fails, as a statement of another kind and at last as what it is; then its
parameters are bound. -/
def mixedTurns : List Turn :=
  [.install ⟨(Statement.insert (Sql.plainInsert ["a", "gmt_modified"]
      [[.placeholder "?", .placeholder "?"]])).text, [⟨"a", none⟩, ⟨"gmtModified", none⟩]⟩,
    .call (.intercept prepareMethod .parameterHandler .insert .ok),
    .call (.intercept prepareMethod .statementHandler .insert fun bound =>
      .error (.reported "HOST" "Host failure" bound.sql)),
    .call (.prepare .other),
    .call (.prepare .insert),
    .call (.intercept setParametersMethod .parameterHandler .insert .ok)]

theorem run_invariant_mixed :
    (∀ turn ∈ mixedTurns, turn.HandsOn) ∧
      (start.run .standard swingingClock mixedTurns).readings = 4 ∧
      (start.run .standard swingingClock mixedTurns).runs = 2 ∧
      (start.run .standard swingingClock mixedTurns).bound =
        ⟨(Statement.insert (Sql.plainInsert ["a", "gmt_modified", "gmt_create"]
          [[.placeholder "?", (swingingClock 3).expr, (swingingClock 3).expr]])).text,
          [⟨"a", none⟩]⟩ ∧
      ∀ before made, (before, .call made) ∈ start.trace .standard swingingClock mixedTurns →
        Keeps .standard swingingClock before made := by
  have handsOn : ∀ turn ∈ mixedTurns, turn.HandsOn := by
    simp [mixedTurns, Turn.HandsOn, Call.HandsOn, eq_comm]
  obtain ⟨readings, runs, -, keeps⟩ := run_invariant .standard swingingClock start handsOn
  refine ⟨handsOn, readings.trans ?_, runs.trans ?_, ?_, keeps⟩ <;> decide +kernel

end Session

end RowStamp
