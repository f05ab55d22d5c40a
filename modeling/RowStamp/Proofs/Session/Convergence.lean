import Mathlib
import RowStamp.Proofs.Session.Phases

/-!
Runs of the two phases in any order.  A later prepare absorbs the stamp of an earlier one, and a
later bind finds no further mapping to remove, so that a run ends where one prepare at the last
time read and one bind end.
-/

set_option autoImplicit false
set_option relaxedAutoImplicit false

namespace RowStamp

open Sql (Statement)
open Stamp (Audited stampStatement)

/-! ### Removed mappings -/

def Event.isRemoval : Event → Bool
  | droppedBinding _ _ => true
  | _ => false

def Logged.removals {α : Type} (reply : Logged α) : Nat := reply.log.countP Event.isRemoval

private theorem AuditColumns.countP_warnings (columns : AuditColumns)
    (mappings : List ParameterMapping) :
    (columns.warnings mappings).countP Event.isRemoval = columns.removedCount mappings := by
  induction mappings with
  | nil => rfl
  | cons mapping mappings ih =>
    cases bound : columns.columnOf? mapping.property with
    | none => simpa [warnings, removedCount, binds, bound] using ih
    | some column =>
      simpa [warnings, removedCount, binds, bound, List.countP_cons, Event.isRemoval] using ih

private theorem AuditConfig.countP_unevenLog (statement : Statement) (sql : String)
    (mappings : List ParameterMapping) :
    (unevenLog statement sql mappings).countP Event.isRemoval = 0 := by
  simp only [unevenLog]
  split <;> rfl

/-- A reply that is no failure; a number that it answers is that of the removals it logs. -/
def Logged.Succeeds (reply : Logged Answer) : Prop :=
  ∃ answer, reply.result = .ok answer ∧ ∀ n, answer = .removed n → n = reply.removals

/-! ### Calls of a phase -/

namespace Call

/-- A call of the prepare phase, alone or intercepted, at the time that the clock tells. -/
inductive Prepares (kind : StatementKind) : Call → Prop
  | phase : Prepares kind (.prepare kind)
  | intercepted {proceed : BoundSql → Except Failure BoundSql}
      (leaves : ∀ bound, proceed bound = .ok bound) :
      Prepares kind (.intercept prepareMethod .statementHandler kind proceed)

/-- A call of the bind phase, alone or intercepted. -/
inductive Binds (kind : StatementKind) : Call → Prop
  | phase : Binds kind (.reconcile kind)
  | intercepted {proceed : BoundSql → Except Failure BoundSql}
      (leaves : ∀ bound, proceed bound = .ok bound) :
      Binds kind (.intercept setParametersMethod .parameterHandler kind proceed)

private theorem Prepares.not_binds {kind : StatementKind} {call : Call}
    (prepares : call.Prepares kind) :
    ¬call.Binds kind := by
  intro binds
  cases prepares with
  | phase => cases binds
  | @intercepted proceed leaves =>
    generalize same : Call.intercept prepareMethod .statementHandler kind proceed = other at binds
    cases binds with
    | phase => cases same
    | intercepted => injection same with _ roles; cases roles

end Call

namespace Session

variable {config : AuditConfig} {clock : Clock} {kind : StatementKind} {session : Session}
  {call : Call}

private theorem Follows.removals_eq {alone through : Logged Answer × Session}
    (follows : Follows alone through) : through.1.removals = alone.1.removals :=
  congrArg (List.countP Event.isRemoval) follows.log

private theorem Follows.succeeds {alone through : Logged Answer × Session}
    (follows : Follows alone through) (ok : alone.1.Succeeds) : through.1.Succeeds := by
  obtain ⟨answer, result, counted⟩ := ok
  rcases follows.result with same | mapped
  · exact ⟨answer, same.trans result, fun n removed =>
      (counted n removed).trans follows.removals_eq.symm⟩
  · exact ⟨.proceeded, by rw [mapped, result]; rfl, by simp⟩

private theorem call_of_prepares (config : AuditConfig) (clock : Clock) (session : Session)
    (prepares : call.Prepares kind) :
    Follows (session.prepareAt config kind (clock session.readings))
        (session.call config clock call) ∧
      (session.call config clock call).2.readings = session.readings + 1 := by
  cases prepares with
  | phase => exact ⟨⟨rfl, .inl rfl, rfl⟩, rfl⟩
  | intercepted leaves => exact intercept_prepare clock leaves

private theorem call_of_binds (config : AuditConfig) (clock : Clock) (session : Session)
    (binds : call.Binds kind) :
    Follows (session.reconcile config kind) (session.call config clock call) ∧
      (session.call config clock call).2.readings = session.readings := by
  cases binds with
  | phase => exact ⟨⟨rfl, .inl rfl, rfl⟩, rfl⟩
  | intercepted leaves => exact intercept_setParameters clock leaves

private theorem prepareAt_of_stamped {time : Timestamp} {statement stamped : Statement}
    (parsed : parseStatement config.dialect session.bound.sql = .ok statement)
    (done : stampStatement config kind time statement = .ok (.stamped stamped)) :
    (session.prepareAt config kind time).1.Succeeds ∧
      (session.prepareAt config kind time).1.removals = 0 ∧
      (session.prepareAt config kind time).2.bound = ⟨stamped.text, session.bound.mappings⟩ := by
  rw [prepareAt, AuditConfig.prepareAt_of_stamped parsed done]
  exact ⟨⟨_, rfl, by simp⟩, rfl, rfl⟩

private theorem reconcile_of_audited {statement : Statement}
    (parsed : parseStatement config.dialect session.bound.sql = .ok statement)
    (audited : Audited config kind statement) :
    (session.reconcile config kind).1.Succeeds ∧
      (session.reconcile config kind).1.removals =
        config.columns.removedCount session.bound.mappings ∧
      (session.reconcile config kind).2.bound =
        ⟨session.bound.sql, config.columns.remaining session.bound.mappings⟩ := by
  have reconciled := AuditConfig.reconcile_of_audited session.bound.mappings parsed audited
  have counted : (session.reconcile config kind).1.removals =
      config.columns.removedCount session.bound.mappings := by
    simp [reconcile, reconciled, Logged.removals, AuditColumns.countP_warnings,
      AuditConfig.countP_unevenLog]
  refine ⟨⟨.removed (config.columns.removedCount session.bound.mappings), ?_, ?_⟩, counted, ?_⟩
  · simp [reconcile, reconciled, Except.map]
  · intro n same
    rw [counted, Answer.removed.inj same]
  · simp [reconcile, reconciled]

/-! ### Runs -/

def owed (columns : AuditColumns) (mappings : List ParameterMapping) (isBound : Bool) : Nat :=
  if isBound then 0 else columns.removedCount mappings

/-- A session that calls of the two phases reach from another one: its text is the given one until
the clock is read, and then the statement stamped at the time read last; its mappings are the
given ones until they are bound. -/
structure Reached (config : AuditConfig) (clock : Clock) (kind : StatementKind)
    (statement : Statement) (start : Session) (isBound : Bool) (session : Session) : Prop where
  advanced : start.readings ≤ session.readings
  unread : session.readings = start.readings → session.bound.sql = start.bound.sql
  read : start.readings < session.readings → ∃ stamped,
    stampStatement config kind (clock (session.readings - 1)) statement = .ok (.stamped stamped) ∧
      session.bound.sql = stamped.text
  mappings : session.bound.mappings =
    if isBound then config.columns.remaining start.bound.mappings else start.bound.mappings

section Runs

variable {statement : Statement} {start : Session} {isBound : Bool}
  (given : parseStatement config.dialect start.bound.sql = .ok statement)
  (accepted : ∃ time stamped, stampStatement config kind time statement = .ok (.stamped stamped))
  (reads : ∀ n stamped, stampStatement config kind (clock n) statement = .ok (.stamped stamped) →
    parseStatement config.dialect stamped.text = .ok stamped)

include given accepted reads

private theorem Reached.parsed
    (reached : Reached config clock kind statement start isBound session) :
    ∃ current, parseStatement config.dialect session.bound.sql = .ok current ∧
      Audited config kind current ∧
      ∀ time, stampStatement config kind time current =
        stampStatement config kind time statement := by
  obtain ⟨time, stamped, done⟩ := accepted
  rcases Nat.eq_or_lt_of_le reached.advanced with same | later
  · refine ⟨statement, ?_, Stamp.audited_of_stamped done, fun _ => rfl⟩
    rw [reached.unread same.symm, given]
  · obtain ⟨current, written, text⟩ := reached.read later
    refine ⟨current, ?_, Stamp.audited_stamped written, fun time =>
      Stamp.stampStatement_stamped time written⟩
    rw [text, reads _ _ written]

/-- A prepare writes the text at the time read now, over whatever was written before. -/
theorem Reached.prepare (reached : Reached config clock kind statement start isBound session)
    (prepares : call.Prepares kind) :
    (session.call config clock call).1.Succeeds ∧
      (session.call config clock call).1.removals = 0 ∧
      (session.call config clock call).2.readings = session.readings + 1 ∧
      Reached config clock kind statement start isBound (session.call config clock call).2 := by
  obtain ⟨current, parsed, -, absorbs⟩ := reached.parsed given accepted reads
  obtain ⟨time, stamped, done⟩ := accepted
  obtain ⟨other, again⟩ := Stamp.stampStatement_isOk (clock session.readings) done
  obtain ⟨follows, readings⟩ := call_of_prepares config clock session prepares
  obtain ⟨succeeds, removals, bound⟩ := prepareAt_of_stamped parsed ((absorbs _).trans again)
  have after := follows.bound.trans bound
  refine ⟨follows.succeeds succeeds, follows.removals_eq.trans removals, readings, ?_⟩
  refine ⟨?_, ?_, ?_, ?_⟩
  · rw [readings]
    exact Nat.le_succ_of_le reached.advanced
  · intro same
    have advanced := reached.advanced
    omega
  · intro _
    refine ⟨other, ?_, congrArg BoundSql.sql after⟩
    rw [readings, Nat.add_sub_cancel, again]
  · rw [after]
    exact reached.mappings

/-- A bind removes what is owed, and nothing once the mappings were bound. -/
theorem Reached.bind (reached : Reached config clock kind statement start isBound session)
    (binds : call.Binds kind) :
    (session.call config clock call).1.Succeeds ∧
      (session.call config clock call).1.removals =
        owed config.columns start.bound.mappings isBound ∧
      (session.call config clock call).2.readings = session.readings ∧
      Reached config clock kind statement start true (session.call config clock call).2 := by
  obtain ⟨current, parsed, audited, -⟩ := reached.parsed given accepted reads
  obtain ⟨follows, readings⟩ := call_of_binds config clock session binds
  obtain ⟨succeeds, removals, bound⟩ := reconcile_of_audited parsed audited
  have after := follows.bound.trans bound
  refine ⟨follows.succeeds succeeds, ?_, readings, ?_⟩
  · rw [follows.removals_eq, removals, reached.mappings, owed]
    cases isBound with
    | true => exact config.columns.removedCount_remaining start.bound.mappings
    | false => rfl
  · refine ⟨?_, ?_, ?_, ?_⟩
    · rw [readings]
      exact reached.advanced
    · rw [readings, after]
      exact reached.unread
    · rw [readings, after]
      exact reached.read
    · rw [after, reached.mappings]
      cases isBound with
      | true => exact config.columns.remaining_remaining start.bound.mappings
      | false => rfl

private theorem Reached.calls (reached : Reached config clock kind statement start isBound session)
    {list : List Call} (phases : ∀ call ∈ list, call.Prepares kind ∨ call.Binds kind) :
    ∃ isBound', Reached config clock kind statement start isBound'
        (session.calls config clock list).2 ∧
      (∀ reply ∈ (session.calls config clock list).1, reply.Succeeds) ∧
      ((session.calls config clock list).1.map Logged.removals).sum +
          owed config.columns start.bound.mappings isBound' =
        owed config.columns start.bound.mappings isBound ∧
      session.readings ≤ (session.calls config clock list).2.readings ∧
      ((∃ call ∈ list, call.Prepares kind) →
        session.readings < (session.calls config clock list).2.readings) ∧
      ((isBound = true ∨ ∃ call ∈ list, call.Binds kind) → isBound' = true) := by
  induction list generalizing session isBound with
  | nil => exact ⟨isBound, reached, by simp [calls], by simp [calls], by simp [calls],
      by simp, by simp⟩
  | cons first rest ih =>
    have others : ∀ call ∈ rest, call.Prepares kind ∨ call.Binds kind := fun call member =>
      phases call (List.mem_cons_of_mem first member)
    have run : session.calls config clock (first :: rest) =
        ((session.call config clock first).1 ::
          ((session.call config clock first).2.calls config clock rest).1,
          ((session.call config clock first).2.calls config clock rest).2) := rfl
    simp only [run, List.map_cons, List.sum_cons, List.mem_cons, forall_eq_or_imp,
      exists_eq_or_imp]
    rcases phases first List.mem_cons_self with prepares | binds
    · obtain ⟨succeeds, removals, readings, next⟩ := reached.prepare given accepted reads prepares
      obtain ⟨isBound', last, replies, sum, grows, -, bound⟩ := ih next others
      refine ⟨isBound', last, ⟨succeeds, replies⟩, by omega, by omega, fun _ => by omega, ?_⟩
      rintro (already | now | later)
      · exact bound (.inl already)
      · exact absurd now prepares.not_binds
      · exact bound (.inr later)
    · obtain ⟨succeeds, removals, readings, next⟩ := reached.bind given accepted reads binds
      obtain ⟨isBound', last, replies, sum, grows, read, bound⟩ := ih next others
      have settled : owed config.columns start.bound.mappings true = 0 := rfl
      refine ⟨isBound', last, ⟨succeeds, replies⟩, by omega, by omega, ?_,
        fun _ => bound (.inl rfl)⟩
      rintro (now | later)
      · exact absurd binds now.not_binds
      · have advanced := read later
        omega

end Runs

/-- A run of calls of the two phases in any order, with at least one of each.  Every call
succeeds, the run ends where one prepare at the time read last and one bind end, and it removes
each mapping that binds an audit column once. -/
theorem run_converges {statement : Statement} {list : List Call}
    (parsed : parseStatement config.dialect session.bound.sql = .ok statement)
    (accepted : ∃ time stamped,
      stampStatement config kind time statement = .ok (.stamped stamped))
    (reads : ∀ n stamped,
      stampStatement config kind (clock n) statement = .ok (.stamped stamped) →
        parseStatement config.dialect stamped.text = .ok stamped)
    (phases : ∀ call ∈ list, call.Prepares kind ∨ call.Binds kind)
    (prepares : ∃ call ∈ list, call.Prepares kind) (binds : ∃ call ∈ list, call.Binds kind) :
    let run := session.calls config clock list
    let prepared := session.prepareAt config kind (clock (run.2.readings - 1))
    let bound := prepared.2.reconcile config kind
    (∀ reply ∈ run.1, reply.Succeeds) ∧ session.readings < run.2.readings ∧
      prepared.1.Succeeds ∧ bound.1.Succeeds ∧ run.2.bound = bound.2.bound ∧
      (run.1.map Logged.removals).sum = config.columns.removedCount session.bound.mappings := by
  have start : Reached config clock kind statement session false session :=
    ⟨Nat.le_refl _, fun _ => rfl, fun later => absurd later (Nat.lt_irrefl _), rfl⟩
  obtain ⟨isBound, reached, replies, sum, -, read, settled⟩ :=
    start.calls parsed accepted reads phases
  obtain rfl := settled (.inr binds)
  obtain ⟨stamped, done, text⟩ := reached.read (read prepares)
  obtain ⟨preparedOk, -, prepared⟩ := prepareAt_of_stamped parsed done
  have again : parseStatement config.dialect (session.prepareAt config kind
      (clock ((session.calls config clock list).2.readings - 1))).2.bound.sql = .ok stamped := by
    rw [prepared, reads _ _ done]
  obtain ⟨boundOk, -, bound⟩ := reconcile_of_audited again (Stamp.audited_stamped done)
  refine ⟨replies, read prepares, preparedOk, boundOk, ?_, sum⟩
  rw [bound, prepared, ← text]
  exact congrArg (BoundSql.mk _) reached.mappings

/-- A clock that tells another time after its first reading. -/
def laterClock : Clock := fun n =>
  if n = 0 then .plain else ⟨"2024-05-06 07:08:10.250"⟩

def retriedInsert : Sql.Insert :=
  Sql.plainInsert ["a", "gmt_modified"] [[.placeholder "?", .placeholder "?"]]

def stampedRetry (time : Timestamp) : Sql.Insert :=
  Sql.plainInsert ["a", "gmt_modified", "gmt_create"]
    [[.placeholder "?", time.expr, time.expr]]

def retriedSession : Session :=
  ⟨⟨(Statement.insert retriedInsert).text, [⟨"a", none⟩, ⟨"gmtModified", none⟩]⟩, 0, 0⟩

/-- Parameters are bound before a statement is prepared, and both are done again. -/
def retries : List Call :=
  [.reconcile .insert, .prepare .insert,
    .intercept setParametersMethod .parameterHandler .insert .ok,
    .intercept prepareMethod .statementHandler .insert .ok]

theorem run_converges_retries :
    parseStatement .generic retriedSession.bound.sql = .ok (.insert retriedInsert) ∧
      (∀ reply ∈ (retriedSession.calls .standard laterClock retries).1, reply.Succeeds) ∧
      (retriedSession.calls .standard laterClock retries).2.bound =
        ⟨(Statement.insert (stampedRetry (laterClock 1))).text, [⟨"a", none⟩]⟩ ∧
      ((retriedSession.calls .standard laterClock retries).1.map Logged.removals).sum = 1 := by
  have parsed : parseStatement .generic retriedSession.bound.sql = .ok (.insert retriedInsert) := by
    decide +kernel
  have done (n : Nat) : stampStatement .standard .insert (laterClock n) (.insert retriedInsert) =
      .ok (.stamped (.insert (stampedRetry (laterClock n)))) := by
    unfold laterClock
    split <;> decide +kernel
  have reads (n : Nat) (stamped : Statement) (ok : stampStatement .standard .insert (laterClock n)
      (.insert retriedInsert) = .ok (.stamped stamped)) :
      parseStatement .generic stamped.text = .ok stamped := by
    obtain rfl : .insert (stampedRetry (laterClock n)) = stamped := by
      simpa [done n] using ok
    unfold laterClock
    split <;> decide +kernel
  have phases : ∀ call ∈ retries, call.Prepares .insert ∨ call.Binds .insert := by
    simp only [retries, List.forall_mem_cons]
    exact ⟨.inr .phase, .inl .phase, .inr (.intercepted fun _ => rfl),
      .inl (.intercepted fun _ => rfl), by simp⟩
  have prepares : ∃ call ∈ retries, call.Prepares .insert :=
    ⟨.prepare .insert, by simp [retries], .phase⟩
  have binds : ∃ call ∈ retries, call.Binds .insert :=
    ⟨.reconcile .insert, by simp [retries], .phase⟩
  obtain ⟨replies, -, -, -, bound, removed⟩ :=
    @run_converges .standard laterClock .insert retriedSession _ _ parsed ⟨_, _, done 0⟩ reads
      phases prepares binds
  refine ⟨parsed, replies, bound.trans ?_, removed.trans ?_⟩ <;> decide +kernel

end Session

end RowStamp
