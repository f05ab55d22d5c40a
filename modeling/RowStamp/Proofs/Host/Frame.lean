import RowStamp.Proofs.Host.Continuation
import RowStamp.Proofs.Stamp.Decision

/-!
What an intercepted call may change in a host that is a map from paths to values: the text that a
statement handler is about to prepare, or the mappings of the bound statement of a parameter
handler, and nothing else.  The call does not go on where a property that its phase needs is
missing, has a value of another type, cannot be written or is not lent for a change in place.
-/

set_option autoImplicit false
set_option relaxedAutoImplicit false

namespace RowStamp

open PropertyBag (value setText bound? setBound kindAt textAt withText boundAt)

/-! ### Hosts that are maps -/

/-- A host whose properties are the entries of a map.  Only a text can be set, if the host lets it
be, and only a bound statement can be changed in place, if the host lends it; either changes no
other entry. -/
class EntryHost (σ : Type) [PropertyBag σ] : Prop where
  value_setText : ∀ {host after : σ} {path text : String}, setText host path text = some after →
    ∀ other, value after other = if other = path then some (.text text) else value host other
  value_of_lent : ∀ {host : σ} {path : String} {bound : BoundSql},
    bound? host path = some bound → value host path = some (.bound bound)
  value_setBound : ∀ {host : σ} {path : String} {bound : BoundSql} (left : BoundSql),
    bound? host path = some bound →
    ∀ other, value (setBound host path left) other =
      if other = path then some (.bound left) else value host other

namespace FlatHost

private theorem lookup_replace {path : String} {entries : List (String × HostValue)}
    (present : (entries.lookup path).isSome) (new : HostValue) (other : String) :
    (replace path new entries).lookup other =
      if other = path then some new else entries.lookup other := by
  induction entries with
  | nil => simp at present
  | cons entry rest ih =>
    obtain ⟨name, given⟩ := entry
    rw [replace]
    by_cases here : name = path
    · subst here
      rw [if_pos rfl, List.lookup_cons, List.lookup_cons]
      cases same : other == name with
      | true => simp [eq_of_beq same]
      | false => simp [ne_of_beq_false same]
    · have apart : (path == name) = false := beq_eq_false_iff_ne.mpr (Ne.symm here)
      have later : (rest.lookup path).isSome := by
        rw [List.lookup_cons, apart] at present
        exact present
      rw [if_neg here, List.lookup_cons, List.lookup_cons, ih later]
      cases same : other == name with
      | true => simp [eq_of_beq same, here]
      | false => rfl

private theorem value_of_lent {host : FlatHost} {path : String} {bound : BoundSql}
    (lent : bound? host path = some bound) : value host path = some (.bound bound) := by
  simp only [bound?] at lent
  split at lent
  · rename_i given found
    obtain rfl := Option.some.inj lent
    exact found
  · simp at lent

/-- A flat host is a map; one that is read-only lets no text be set. -/
instance : EntryHost FlatHost where
  value_setText := by
    intro host after path text set other
    simp only [setText] at set
    split at set
    · rename_i writable found
      obtain rfl := Option.some.inj set
      exact lookup_replace (by rw [found]; rfl) (.text text) other
    · simp at set
  value_of_lent := value_of_lent
  value_setBound := by
    intro host path bound left lent other
    have found : host.entries.lookup path = some (.bound bound) := value_of_lent lent
    exact lookup_replace (by rw [found]; rfl) (.bound left) other

end FlatHost

/-! ### Properties of a host -/

section Properties

variable {σ : Type} [PropertyBag σ] {host : σ} {path : String}

private theorem kindAt_of_mapped {mapped : MappedStatement}
    (found : value host path = some (.mapped mapped)) : kindAt path host = .ok mapped.command := by
  simp [kindAt, found]

private theorem kindAt_of_absent (absent : ∀ mapped, value host path ≠ some (.mapped mapped)) :
    kindAt path host = .error (.missingProperty path) := by
  unfold kindAt
  split
  · rename_i mapped found
    exact absurd found (absent mapped)
  · rfl

private theorem textAt_of_text {sql : String} (found : value host path = some (.text sql)) :
    textAt path host = .ok sql := by
  simp [textAt, found]

private theorem textAt_of_absent (absent : ∀ sql, value host path ≠ some (.text sql)) :
    textAt path host = .error (.missingProperty path) := by
  unfold textAt
  split
  · rename_i sql found
    exact absurd found (absent sql)
  · rfl

private theorem boundAt_of_lent {bound : BoundSql} (lent : bound? host path = some bound) :
    boundAt path host = .ok bound := by
  simp [boundAt, lent]

private theorem boundAt_of_refused (refused : bound? host path = none) :
    boundAt path host = .error (.missingProperty path) := by
  simp [boundAt, refused]

private theorem lends_none [EntryHost σ] (absent : ∀ bound, value host path ≠ some (.bound bound)) :
    bound? host path = none := by
  cases lent : bound? host path with
  | none => rfl
  | some bound => exact absurd (EntryHost.value_of_lent lent) (absent bound)

end Properties

/-! ### What a call receives -/

namespace AuditConfig

variable {σ : Type} [PropertyBag σ]

/-- The host that an intercepted call receives: the given one, or the one with the stamped text or
with the mappings that remain. -/
inductive Receives (config : AuditConfig) (time : Timestamp) (host : σ) :
    String → Role → σ → Prop
  | passed {method : String} {role : Role} (notPrepare : method ≠ prepareMethod)
      (notBind : method ≠ setParametersMethod) : Receives config time host method role host
  | otherKind {mapped : MappedStatement}
      (found : value host preparedStatementPath = some (.mapped mapped))
      (other : mapped.command = .other) :
      Receives config time host prepareMethod .statementHandler host
  | unchanged {mapped : MappedStatement} {sql : String}
      (found : value host preparedStatementPath = some (.mapped mapped))
      (given : mapped.command ≠ .other)
      (text : value host preparedSqlPath = some (.text sql))
      (same : (config.prepareAt mapped.command sql time).result = .ok .unchanged) :
      Receives config time host prepareMethod .statementHandler host
  | rewritten {mapped : MappedStatement} {sql stamped : String} {after : σ}
      (found : value host preparedStatementPath = some (.mapped mapped))
      (given : mapped.command ≠ .other)
      (text : value host preparedSqlPath = some (.text sql))
      (done : (config.prepareAt mapped.command sql time).result = .ok (.rewritten stamped))
      (entries : ∀ path, value after path =
        if path = preparedSqlPath then some (.text stamped) else value host path) :
      Receives config time host prepareMethod .statementHandler after
  | reconciled {mapped : MappedStatement} {bound left : BoundSql} {n : Nat} {after : σ}
      (found : value host boundStatementPath = some (.mapped mapped))
      (present : value host boundSqlPath = some (.bound bound))
      (lent : bound? host boundSqlPath = some bound)
      (done : (config.reconcile mapped.command bound).result = .ok (n, left))
      (entries : ∀ path, value after path =
        if path = boundSqlPath then some (.bound ⟨bound.sql, left.mappings⟩)
        else value host path) :
      Receives config time host setParametersMethod .parameterHandler after

/-- The first property that a phase needs and the host does not have, has as a value of another
type, or does not let be written or changed in place. -/
inductive Lacks (config : AuditConfig) (time : Timestamp) (host : σ) :
    String → Role → String → Prop
  | preparedStatement
      (absent : ∀ mapped, value host preparedStatementPath ≠ some (.mapped mapped)) :
      Lacks config time host prepareMethod .statementHandler preparedStatementPath
  | preparedSql {mapped : MappedStatement}
      (found : value host preparedStatementPath = some (.mapped mapped))
      (given : mapped.command ≠ .other)
      (absent : ∀ sql, value host preparedSqlPath ≠ some (.text sql)) :
      Lacks config time host prepareMethod .statementHandler preparedSqlPath
  | unwritable {mapped : MappedStatement} {sql stamped : String}
      (found : value host preparedStatementPath = some (.mapped mapped))
      (given : mapped.command ≠ .other)
      (text : value host preparedSqlPath = some (.text sql))
      (done : (config.prepareAt mapped.command sql time).result = .ok (.rewritten stamped))
      (refused : setText host preparedSqlPath stamped = none) :
      Lacks config time host prepareMethod .statementHandler preparedSqlPath
  | boundStatement
      (absent : ∀ mapped, value host boundStatementPath ≠ some (.mapped mapped)) :
      Lacks config time host setParametersMethod .parameterHandler boundStatementPath
  | boundSql {mapped : MappedStatement}
      (found : value host boundStatementPath = some (.mapped mapped))
      (absent : ∀ bound, value host boundSqlPath ≠ some (.bound bound)) :
      Lacks config time host setParametersMethod .parameterHandler boundSqlPath
  | unlent {mapped : MappedStatement} {bound : BoundSql}
      (found : value host boundStatementPath = some (.mapped mapped))
      (present : value host boundSqlPath = some (.bound bound))
      (refused : bound? host boundSqlPath = none) :
      Lacks config time host setParametersMethod .parameterHandler boundSqlPath

/-- A failure that is none of the host's properties: a target that is no handler for its method,
or the failure of the phase on what the host holds. -/
inductive Rejects (config : AuditConfig) (time : Timestamp) (host : σ) :
    String → Role → Failure → Prop
  | notStatementHandler {role : Role} (wrong : role ≠ .statementHandler) :
      Rejects config time host prepareMethod role .notStatementHandler
  | notParameterHandler {role : Role} (wrong : role ≠ .parameterHandler) :
      Rejects config time host setParametersMethod role .notParameterHandler
  | preparing {mapped : MappedStatement} {sql : String} {failure : Failure}
      (found : value host preparedStatementPath = some (.mapped mapped))
      (given : mapped.command ≠ .other)
      (text : value host preparedSqlPath = some (.text sql))
      (failed : (config.prepareAt mapped.command sql time).result = .error failure) :
      Rejects config time host prepareMethod .statementHandler failure
  | binding {mapped : MappedStatement} {bound : BoundSql} {failure : Failure}
      (found : value host boundStatementPath = some (.mapped mapped))
      (present : value host boundSqlPath = some (.bound bound))
      (lent : bound? host boundSqlPath = some bound)
      (failed : (config.reconcile mapped.command bound).result = .error failure) :
      Rejects config time host setParametersMethod .parameterHandler failure

variable {config : AuditConfig} {time : Timestamp} {clock : Clock} {readings : Nat} {host : σ}
  {method : String} {role : Role}

private theorem prepareHost_of_text (config : AuditConfig) (time : Timestamp)
    {mapped : MappedStatement}
    {sql : String} (found : value host preparedStatementPath = some (.mapped mapped))
    (given : mapped.command ≠ .other) (text : value host preparedSqlPath = some (.text sql)) :
    (∀ failure, (config.prepareAt mapped.command sql time).result = .error failure →
      (config.prepareHost time host).result = .error failure) ∧
    ((config.prepareAt mapped.command sql time).result = .ok .unchanged →
      (config.prepareHost time host).result = .ok host) ∧
    ∀ stamped, (config.prepareAt mapped.command sql time).result = .ok (.rewritten stamped) →
      (config.prepareHost time host).result = withText preparedSqlPath stamped host := by
  have kind := kindAt_of_mapped found
  refine ⟨?_, ?_, ?_⟩
  · intro failure failed
    simp only [prepareHost, kind, textAt_of_text text, failed, Except.bind]
  · intro same
    simp only [prepareHost, kind, textAt_of_text text, same, Except.bind]
  · intro stamped done
    simp only [prepareHost, kind, textAt_of_text text, done, Except.bind]

private theorem runPhase_of_lacks [EntryHost σ] {path : String}
    (lacks : Lacks config (clock readings) host method role path) :
    ((config.runPhase clock method role host).run readings).1.result =
      .error (.missingProperty path) := by
  cases lacks with
  | preparedStatement absent =>
    rw [runPhase_statementHandler]
    simp only [prepareHost, kindAt_of_absent absent]
  | preparedSql found given absent =>
    rw [runPhase_statementHandler]
    simp only [prepareHost, kindAt_of_mapped found, textAt_of_absent absent]
  | unwritable found given text done refused =>
    have prepared := (prepareHost_of_text config (clock readings) found given text).2.2 _ done
    rw [runPhase_statementHandler, prepared]
    simp only [withText, refused]
  | boundStatement absent =>
    rw [runPhase_parameterHandler]
    simp only [bindHost, kindAt_of_absent absent]
  | boundSql found absent =>
    rw [runPhase_parameterHandler]
    simp only [bindHost, kindAt_of_mapped found, boundAt_of_refused (lends_none absent)]
  | unlent found present refused =>
    rw [runPhase_parameterHandler]
    simp only [bindHost, kindAt_of_mapped found, boundAt_of_refused refused]

private theorem runPhase_of_rejects {failure : Failure}
    (rejects : Rejects config (clock readings) host method role failure) :
    ((config.runPhase clock method role host).run readings).1.result = .error failure := by
  cases rejects with
  | notStatementHandler wrong => rw [runPhase_notStatementHandler config clock readings host wrong]
  | notParameterHandler wrong => rw [runPhase_notParameterHandler config clock readings host wrong]
  | preparing found given text failed =>
    rw [runPhase_statementHandler]
    exact (prepareHost_of_text config (clock readings) found given text).1 _ failed
  | binding found present lent failed =>
    rw [runPhase_parameterHandler]
    simp only [bindHost, kindAt_of_mapped found, boundAt_of_lent lent, failed, Except.map]

private theorem prepareHost_cases [EntryHost σ] (config : AuditConfig) (time : Timestamp)
    (host : σ) :
    (∃ after, (config.prepareHost time host).result = .ok after ∧
        Receives config time host prepareMethod .statementHandler after) ∨
      (∃ path, Lacks config time host prepareMethod .statementHandler path) ∨
      ∃ failure, Rejects config time host prepareMethod .statementHandler failure := by
  by_cases found : ∃ mapped, value host preparedStatementPath = some (.mapped mapped)
  · obtain ⟨mapped, found⟩ := found
    by_cases given : mapped.command = .other
    · refine .inl ⟨host, ?_, .otherKind found given⟩
      simp only [prepareHost, kindAt_of_mapped found, given]
    · by_cases text : ∃ sql, value host preparedSqlPath = some (.text sql)
      · obtain ⟨sql, text⟩ := text
        -- The text is there: only the write of a stamped one can still be refused.
        obtain ⟨-, same, rewritten⟩ := prepareHost_of_text config time found given text
        cases done : (config.prepareAt mapped.command sql time).result with
        | error failure => exact .inr (.inr ⟨failure, .preparing found given text done⟩)
        | ok prepared =>
          cases prepared with
          | unchanged => exact .inl ⟨host, same done, .unchanged found given text done⟩
          | rewritten stamped =>
            cases set : setText host preparedSqlPath stamped with
            | none => exact .inr (.inl ⟨_, .unwritable found given text done set⟩)
            | some after =>
              refine .inl ⟨after, ?_, .rewritten found given text done ?_⟩
              · rw [rewritten stamped done]
                simp only [withText, set]
              · exact EntryHost.value_setText set
      · exact .inr (.inl ⟨_, .preparedSql found given (not_exists.mp text)⟩)
  · exact .inr (.inl ⟨_, .preparedStatement (not_exists.mp found)⟩)

private theorem bindHost_cases [EntryHost σ] (config : AuditConfig) (time : Timestamp) (host : σ) :
    (∃ after, (config.bindHost host).result = .ok after ∧
        Receives config time host setParametersMethod .parameterHandler after) ∨
      (∃ path, Lacks config time host setParametersMethod .parameterHandler path) ∨
      ∃ failure, Rejects config time host setParametersMethod .parameterHandler failure := by
  by_cases found : ∃ mapped, value host boundStatementPath = some (.mapped mapped)
  · obtain ⟨mapped, found⟩ := found
    cases lent : bound? host boundSqlPath with
    | none =>
      by_cases present : ∃ bound, value host boundSqlPath = some (.bound bound)
      · obtain ⟨bound, present⟩ := present
        exact .inr (.inl ⟨_, .unlent found present lent⟩)
      · exact .inr (.inl ⟨_, .boundSql found (not_exists.mp present)⟩)
    | some bound =>
      have present := EntryHost.value_of_lent lent
      cases done : (config.reconcile mapped.command bound).result with
      | error failure => exact .inr (.inr ⟨failure, .binding found present lent done⟩)
      | ok reconciled =>
        obtain ⟨n, left⟩ := reconciled
        refine .inl ⟨PropertyBag.setBound host boundSqlPath left, ?_,
          .reconciled found present lent done ?_⟩
        · simp only [bindHost, kindAt_of_mapped found, boundAt_of_lent lent, done, Except.map]
        · intro path
          rw [EntryHost.value_setBound left lent, ← sql_of_reconcile done]
  · exact .inr (.inl ⟨_, .boundStatement (not_exists.mp found)⟩)

private theorem runPhase_cases [EntryHost σ] (config : AuditConfig) (clock : Clock) (readings : Nat)
    (method : String) (role : Role) (host : σ) :
    (∃ after, ((config.runPhase clock method role host).run readings).1.result = .ok after ∧
        Receives config (clock readings) host method role after) ∨
      (∃ path, Lacks config (clock readings) host method role path) ∨
      ∃ failure, Rejects config (clock readings) host method role failure := by
  by_cases prepares : method = prepareMethod
  · subst prepares
    cases role with
    | statementHandler =>
      rw [runPhase_statementHandler]
      exact prepareHost_cases config (clock readings) host
    | _ => exact .inr (.inr ⟨_, .notStatementHandler (by simp)⟩)
  · by_cases binds : method = setParametersMethod
    · subst binds
      cases role with
      | parameterHandler =>
        rw [runPhase_parameterHandler]
        exact bindHost_cases config (clock readings) host
      | _ => exact .inr (.inr ⟨_, .notParameterHandler (by simp)⟩)
    · refine .inl ⟨host, ?_, .passed prepares binds⟩
      rw [runPhase_other config clock readings host role prepares binds]

/-! ### Failures of the phases -/

private theorem parseStatement_ne_missing {dialect : Dialect} {sql : String} {failure : Failure}
    (unread : parseStatement dialect sql = .error failure) (path : String) :
    failure ≠ .missingProperty path := by
  obtain ⟨fault, rfl⟩ := exists_fault_of_parseStatement unread
  simp

private theorem mismatch_ne_missing (kind : StatementKind) (statement : Sql.Statement)
    (path : String) :
    Stamp.mismatch kind statement ≠ .missingProperty path := by
  cases kind <;> simp [Stamp.mismatch]

private theorem stampStatement_ne_missing {kind : StatementKind} {statement : Sql.Statement}
    {failure : Failure} (failed : Stamp.stampStatement config kind time statement = .error failure)
    (path : String) : failure ≠ .missingProperty path := by
  obtain ⟨-, rfl⟩ | ⟨stmt, code, -, rejected⟩ | ⟨stmt, code, -, rejected⟩ :=
    Stamp.stampStatement_error_cases failed
  · exact mismatch_ne_missing kind statement path
  · cases rejected <;> simp
  · cases rejected
    simp

private theorem prepareAt_ne_missing {kind : StatementKind} {sql : String} {failure : Failure}
    (failed : (config.prepareAt kind sql time).result = .error failure) (path : String) :
    failure ≠ .missingProperty path := by
  obtain ⟨-, unread | ⟨statement, -, rejected⟩⟩ := prepareAt_error_iff.mp failed
  · exact parseStatement_ne_missing unread path
  · exact stampStatement_ne_missing rejected path

private theorem reconcile_ne_missing {kind : StatementKind} {bound : BoundSql} {failure : Failure}
    (failed : (config.reconcile kind bound).result = .error failure) (path : String) :
    failure ≠ .missingProperty path := by
  obtain ⟨-, unread | ⟨statement, -, undecided⟩⟩ := reconcile_error_iff.mp failed
  · exact parseStatement_ne_missing unread path
  · obtain ⟨-, rfl⟩ := Stamp.isAudited_error_iff.mp undecided
    exact mismatch_ne_missing kind statement path

private theorem Rejects.ne_missing {failure : Failure}
    (rejects : Rejects config time host method role failure) (path : String) :
    failure ≠ .missingProperty path := by
  cases rejects with
  | notStatementHandler wrong => simp
  | notParameterHandler wrong => simp
  | preparing found given text failed => exact prepareAt_ne_missing failed path
  | binding found present lent failed => exact reconcile_ne_missing failed path

/-! ### The frame -/

/-- The one entry that a call may receive changed. -/
inductive Changes (method path : String) : HostValue → HostValue → Prop
  | text (sql stamped : String) (prepares : method = prepareMethod)
      (here : path = preparedSqlPath) : Changes method path (.text sql) (.text stamped)
  | mappings (bound : BoundSql) (left : List ParameterMapping)
      (binds : method = setParametersMethod) (here : path = boundSqlPath) :
      Changes method path (.bound bound) (.bound ⟨bound.sql, left⟩)

private theorem Receives.entry {after : σ} (receives : Receives config time host method role after)
    (path : String) :
    value after path = value host path ∨
      ∃ given left, value host path = some given ∧ value after path = some left ∧
        Changes method path given left := by
  cases receives with
  | passed notPrepare notBind => exact .inl rfl
  | otherKind found other => exact .inl rfl
  | unchanged found given text same => exact .inl rfl
  | rewritten found given text done entries =>
    rw [entries]
    by_cases here : path = preparedSqlPath
    · subst here
      exact .inr ⟨_, _, text, if_pos rfl, .text _ _ rfl rfl⟩
    · exact .inl (if_neg here)
  | reconciled found present lent done entries =>
    rw [entries]
    by_cases here : path = boundSqlPath
    · subst here
      exact .inr ⟨_, _, present, if_pos rfl, .mappings _ _ rfl rfl⟩
    · exact .inl (if_neg here)

private theorem Changes.path_eq {path other : String} {given left given' left' : HostValue}
    (one : Changes method path given left) (two : Changes method other given' left') :
    path = other := by
  have apart : prepareMethod ≠ setParametersMethod := by decide +kernel
  cases one with
  | text sql stamped prepares here =>
    cases two with
    | text sql' stamped' prepares' here' => rw [here, here']
    | mappings bound left binds here' => exact absurd (prepares.symm.trans binds) apart
  | mappings bound left binds here =>
    cases two with
    | text sql stamped prepares here' => exact absurd (prepares.symm.trans binds) apart
    | mappings bound' left' binds' here' => rw [here, here']

private theorem Receives.eq_of_differ {after : σ}
    (receives : Receives config time host method role after)
    {path other : String} (differs : value after path ≠ value host path)
    (differs' : value after other ≠ value host other) : path = other := by
  obtain ⟨given, left, -, -, one⟩ := (receives.entry path).resolve_left differs
  obtain ⟨given', left', -, -, two⟩ := (receives.entry other).resolve_left differs'
  exact one.path_eq two

private theorem Receives.isSome_iff {after : σ}
    (receives : Receives config time host method role after)
    (path : String) : (value after path).isSome ↔ (value host path).isSome := by
  rcases receives.entry path with same | ⟨given, left, before, later, -⟩
  · rw [same]
  · simp [before, later]

section Call

variable {α : Type} {proceed : σ → Except Failure α}

private theorem not_received_iff {failure : Failure} :
    (((config.intercept clock method role host proceed).run readings).1.received = none ∧
        ((config.intercept clock method role host proceed).run readings).1.result =
          .error failure) ↔
      ((config.runPhase clock method role host).run readings).1.result = .error failure := by
  rw [intercept_eq]
  cases ((config.runPhase clock method role host).run readings).1.result with
  | error other => simp [Except.toOption, Except.bind]
  | ok after => simp [Except.toOption]

private theorem received_iff {after : σ} :
    ((config.intercept clock method role host proceed).run readings).1.received = some after ↔
      ((config.runPhase clock method role host).run readings).1.result = .ok after := by
  rw [intercept_eq]
  cases ((config.runPhase clock method role host).run readings).1.result <;>
    simp [Except.toOption]

variable [EntryHost σ]

private theorem receives_of_runPhase {after : σ}
    (done : ((config.runPhase clock method role host).run readings).1.result = .ok after) :
    Receives config (clock readings) host method role after := by
  rcases runPhase_cases config clock readings method role host with
    ⟨other, ends, receives⟩ | ⟨path, lacks⟩ | ⟨failure, rejects⟩
  · obtain rfl : other = after := Except.ok.inj (ends.symm.trans done)
    exact receives
  · rw [runPhase_of_lacks lacks] at done
    simp at done
  · rw [runPhase_of_rejects rejects] at done
    simp at done

private theorem runPhase_error_iff {failure : Failure} :
    ((config.runPhase clock method role host).run readings).1.result = .error failure ↔
      (∃ path, failure = .missingProperty path ∧ Lacks config (clock readings) host method role path) ∨
        Rejects config (clock readings) host method role failure := by
  constructor
  · intro failed
    rcases runPhase_cases config clock readings method role host with
      ⟨after, ends, -⟩ | ⟨path, lacks⟩ | ⟨other, rejects⟩
    · rw [ends] at failed
      simp at failed
    · have ends := runPhase_of_lacks lacks
      exact .inl ⟨path, Except.error.inj (failed.symm.trans ends), lacks⟩
    · have ends := runPhase_of_rejects rejects
      obtain rfl : failure = other := Except.error.inj (failed.symm.trans ends)
      exact .inr rejects
  · rintro (⟨path, rfl, lacks⟩ | rejects)
    · exact runPhase_of_lacks lacks
    · exact runPhase_of_rejects rejects

private theorem runPhase_missing_iff {path : String} :
    ((config.runPhase clock method role host).run readings).1.result = .error (.missingProperty path) ↔
      Lacks config (clock readings) host method role path := by
  rw [runPhase_error_iff]
  constructor
  · rintro (⟨other, same, lacks⟩ | rejects)
    · rw [Failure.missingProperty.inj same]
      exact lacks
    · exact absurd rfl (rejects.ne_missing path)
  · intro lacks
    exact .inl ⟨path, rfl, lacks⟩

end Call

/-- An intercepted call receives the host with at most one entry changed: the text of a statement
that is prepared, or the mappings of a bound statement.  It is not made, with a failure that names
the path, exactly where the phase lacks a property, and with another failure exactly where the
target is no handler for the method or the phase fails on what the host holds. -/
theorem intercept_frame {σ α : Type} [PropertyBag σ] [EntryHost σ] (config : AuditConfig)
    (clock : Clock) (readings : Nat) (method : String) (role : Role) (host : σ)
    (proceed : σ → Except Failure α) :
    let done := ((config.intercept clock method role host proceed).run readings).1
    (∀ after, done.received = some after →
      done.result = proceed after ∧ Receives config (clock readings) host method role after ∧
      (∀ path, (value after path).isSome ↔ (value host path).isSome) ∧
      (∀ path, value after path = value host path ∨
        ∃ given left, value host path = some given ∧ value after path = some left ∧
          Changes method path given left) ∧
      ∀ path other, value after path ≠ value host path →
        value after other ≠ value host other → path = other) ∧
    (done.received = none → ∃ failure, done.result = .error failure) ∧
    (∀ path, done.received = none ∧ done.result = .error (.missingProperty path) ↔
      Lacks config (clock readings) host method role path) ∧
    (∀ failure, done.received = none ∧ done.result = .error failure ↔
      (∃ path, failure = .missingProperty path ∧ Lacks config (clock readings) host method role path) ∨
        Rejects config (clock readings) host method role failure) ∧
    ∀ path,
      (Failure.missingProperty path).code? = some .internalInvariant ∧
      (Failure.missingProperty path).description =
        "host handler has no readable property " ++ Failure.quoted path ++
          " of the expected type" := by
  intro done
  refine ⟨?_, ?_, ?_, ?_, ?_⟩
  · intro after received
    have reached := received_iff.mp received
    have receives := receives_of_runPhase reached
    have answer : done.result = proceed after := by
      change ((config.intercept clock method role host proceed).run readings).1.result = _
      rw [intercept_eq, reached]
      rfl
    refine ⟨answer, receives, receives.isSome_iff, receives.entry, ?_⟩
    intro path other differs differs'
    exact receives.eq_of_differ differs differs'
  · intro nothing
    cases ends : ((config.runPhase clock method role host).run readings).1.result with
    | error failure => exact ⟨failure, (not_received_iff.mpr ends).2⟩
    | ok after =>
      have received : done.received = some after := received_iff.mpr ends
      rw [nothing] at received
      simp at received
  · intro path
    exact not_received_iff.trans runPhase_missing_iff
  · intro failure
    exact not_received_iff.trans runPhase_error_iff
  · intro path
    exact ⟨rfl, rfl⟩

/-- A host with an INSERT that is about to be prepared, and one more property. -/
def savingHost (stmt : Sql.Insert) (readOnly : Bool) : FlatHost :=
  ⟨[(preparedSqlPath, .text (Sql.Statement.insert stmt).text), ("delegate.cursor", .text "forward"),
    (preparedStatementPath, .mapped ⟨"save", .insert⟩)], readOnly⟩

/-- A flat host that can be read and not changed. -/
structure SealedHost where
  inner : FlatHost
  deriving DecidableEq, Repr

instance : PropertyBag SealedHost where
  value host path := value host.inner path
  setText _ _ _ := none
  bound? _ _ := none
  setBound host _ _ := host

instance : EntryHost SealedHost where
  value_setText set := by simp [setText] at set
  value_of_lent lent := by simp [bound?] at lent
  value_setBound left lent := by simp [bound?] at lent

def boundHost (bound : BoundSql) : SealedHost :=
  ⟨⟨[(boundSqlPath, .bound bound), (boundStatementPath, .mapped ⟨"save", .insert⟩)], false⟩⟩

/-- The text is replaced where it can be; the call is not made on a read-only host, and on one that
does not lend its bound statement. -/
theorem intercept_frame_readOnly :
    let given := Sql.plainInsert ["a"] [[.placeholder "?"]]
    let stamped := Sql.plainInsert ["a", "gmt_create", "gmt_modified"]
      [[.placeholder "?", Timestamp.plain.expr, Timestamp.plain.expr]]
    let bound : BoundSql := ⟨(Sql.Statement.insert stamped).text, [⟨"a", none⟩]⟩
    Receives .standard .plain (savingHost given false) prepareMethod .statementHandler
        (savingHost stamped false) ∧
      Lacks .standard .plain (savingHost given true) prepareMethod .statementHandler
        preparedSqlPath ∧
      Lacks .standard .plain (boundHost bound) setParametersMethod .parameterHandler
        boundSqlPath := by
  intro given stamped bound
  obtain ⟨receives, -⟩ := intercept_frame .standard (.fixed .plain) 0 prepareMethod
    .statementHandler (savingHost given false) Except.ok
  obtain ⟨-, -, lacks, -⟩ := intercept_frame .standard (.fixed .plain) 0 prepareMethod
    .statementHandler (savingHost given true) Except.ok
  obtain ⟨-, -, unlent, -⟩ := intercept_frame .standard (.fixed .plain) 0 setParametersMethod
    .parameterHandler (boundHost bound) Except.ok
  refine ⟨(receives (savingHost stamped false) ?_).2.1, (lacks preparedSqlPath).mp ⟨?_, ?_⟩,
    (unlent boundSqlPath).mp ⟨?_, ?_⟩⟩ <;>
    decide +kernel

end AuditConfig

end RowStamp
