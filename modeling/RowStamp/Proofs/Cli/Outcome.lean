import RowStamp.Cli.Command
import RowStamp.Proofs.Cli.Report
import RowStamp.Proofs.Host.Continuation

/-!
The command line is the two operations, one after the other, on what the arguments and the input
give.  It prints a report exactly where every step succeeds, and otherwise the fault of the first
step that fails.
-/

set_option autoImplicit false
set_option relaxedAutoImplicit false

namespace RowStamp

namespace Cli

/-! ### Bindings -/

/-- Nothing but blanks stands in front of the first colon of an entry. -/
def BlankProperty (entry : String) : Prop := Text.trimChars (bindingParts entry).1 = []

private theorem binding?_eq_none_iff {entry : String} :
    binding? entry = none ↔ BlankProperty entry := by
  rw [BlankProperty, ← List.isEmpty_iff]
  unfold binding?
  split
  simp_all

theorem bindings?_eq_none_iff {entries : List String} :
    bindings? entries = none ↔ ∃ entry ∈ entries, BlankProperty entry := by
  unfold bindings?
  induction entries with
  | nil => simp
  | cons entry entries ih =>
    rw [List.mapM_cons, List.exists_mem_cons_iff, ← ih, ← binding?_eq_none_iff]
    cases binding? entry with
    | none => simp
    | some mapping => cases entries.mapM binding? <;> simp

namespace Command

variable {command : Command} {input : String} {time : Timestamp}

/-! ### Steps -/

/-- The text that a command works on: its statement as it is, or the input without the blanks
around it. -/
inductive Resolves (command : Command) (input : String) : String → Prop
  | argument (given : command.statement ≠ "-") : Resolves command input command.statement
  | input (dash : command.statement = "-") (visible : (Text.trim input).isEmpty = false) :
      Resolves command input (Text.trim input)

/-- What the arguments and the input give: a text with its bindings, and the settings. -/
structure Gives (command : Command) (input : String) (given : BoundSql) (config : AuditConfig) :
    Prop where
  source : command.Resolves input given.sql
  bindings : bindings? command.entries = some given.mappings
  settings : AuditConfig.ofProperties command.properties = .ok config

/-- Every step of a command succeeds. -/
structure Completes (command : Command) (input : String) (time : Timestamp) (config : AuditConfig)
    (given : BoundSql) (prepared : Prepared) (removed : Nat) (left : BoundSql) : Prop where
  gives : command.Gives input given config
  prepares : (config.prepareAt command.kind given.sql time).result = .ok prepared
  reconciles : (config.reconcile command.kind ⟨prepared.sqlOr given.sql, given.mappings⟩).result =
    .ok (removed, left)

/-- The first step that fails, and its fault. -/
inductive StopsAt (command : Command) (input : String) (time : Timestamp) : CommandFault → Prop
  | source (dash : command.statement = "-") (blank : (Text.trim input).isEmpty = true) :
      StopsAt command input time .emptyInput
  | bindings {sql : String} (source : command.Resolves input sql)
      (blank : ∃ entry ∈ command.entries, BlankProperty entry) :
      StopsAt command input time .emptyProperty
  | settings {sql : String} {mappings : List ParameterMapping} {failure : Failure}
      (source : command.Resolves input sql) (bindings : bindings? command.entries = some mappings)
      (invalid : AuditConfig.ofProperties command.properties = .error failure) :
      StopsAt command input time (.settings failure)
  | prepare {given : BoundSql} {config : AuditConfig} {failure : Failure}
      (gives : command.Gives input given config)
      (failed : (config.prepareAt command.kind given.sql time).result = .error failure) :
      StopsAt command input time (.stamping failure)
  | reconcile {given : BoundSql} {config : AuditConfig} {prepared : Prepared} {failure : Failure}
      (gives : command.Gives input given config)
      (prepares : (config.prepareAt command.kind given.sql time).result = .ok prepared)
      (failed : (config.reconcile command.kind
        ⟨prepared.sqlOr given.sql, given.mappings⟩).result = .error failure) :
      StopsAt command input time (.stamping failure)

private theorem sql_of_resolves {sql : String} (source : command.Resolves input sql) :
    command.sql (some input) = .ok sql := by
  cases source with
  | argument given => simp [Command.sql, readsInput, given]
  | input dash visible => simp [Command.sql, readsInput, dash, visible]

private theorem prepare_run (config : AuditConfig) (clock : Clock) (readings : Nat)
    (mapped : MappedStatement) (given : BoundSql) :
    let operation := config.prepareAt mapped.command given.sql (clock readings)
    ∃ received, (config.intercept clock prepareMethod .statementHandler
        (MemoryTarget.statement ⟨⟨mapped, given⟩⟩) fun target => .ok target.bound).run readings =
      (⟨operation.log, received, operation.result.map fun prepared =>
        ⟨prepared.sqlOr given.sql, given.mappings⟩⟩, readings + 1) := by
  intro operation
  rw [AuditConfig.intercept_eq, AuditConfig.runPhase_prepare]
  refine ⟨_, congrArg (fun result => (Interception.mk _ _ result, _)) ?_⟩
  cases operation.result <;> rfl

private theorem bind_run (config : AuditConfig) (clock : Clock) (readings : Nat)
    (mapped : MappedStatement) (given : BoundSql) :
    let operation := config.reconcile mapped.command given
    ∃ received, (config.intercept clock setParametersMethod .parameterHandler
        (MemoryTarget.parameter ⟨mapped, given⟩) fun target => .ok target.bound).run readings =
      (⟨operation.log, received, operation.result.map Prod.snd⟩, readings) := by
  intro operation
  rw [AuditConfig.intercept_eq, AuditConfig.runPhase_setParameters]
  refine ⟨_, congrArg (fun result => (Interception.mk _ _ result, _)) ?_⟩
  cases operation.result <;> rfl

private theorem phases_result (command : Command) (config : AuditConfig) (clock : Clock)
    (readings : Nat) (given : BoundSql) :
    ((command.phases config clock given).run readings).1.2 =
      match (config.prepareAt command.kind given.sql (clock readings)).result with
      | .error failure => .error (.stamping failure)
      | .ok prepared =>
        ((config.reconcile command.kind ⟨prepared.sqlOr given.sql, given.mappings⟩).result.map
          Prod.snd).mapError .stamping := by
  obtain ⟨received, prepare⟩ := prepare_run config clock readings command.mapped given
  have kind : command.mapped.command = command.kind := rfl
  simp only [kind] at prepare
  simp only [phases, MemoryTarget.role, StateT.run_bind, prepare]
  cases (config.prepareAt command.kind given.sql (clock readings)).result with
  | error failure => rfl
  | ok prepared =>
    obtain ⟨received, bind⟩ := bind_run config clock (readings + 1) command.mapped
      ⟨prepared.sqlOr given.sql, given.mappings⟩
    exact congrArg (fun ended => (ended.1.result).mapError CommandFault.stamping) bind

private theorem run_of_gives {given : BoundSql} {config : AuditConfig}
    (gives : command.Gives input given config) (now : Timestamp) :
    (command.run (some input) now).2 =
      ((command.phases config (.fixed (command.time?.getD now)) given).run 0).1.2.map fun after =>
        ⟨given.sql, after, given.mappings.length - after.mappings.length⟩ := by
  have source := sql_of_resolves gives.source
  have bindings : command.mappings = .ok given.mappings := by
    rw [mappings, gives.bindings]
  have settings : command.config = .ok config := by
    rw [Command.config, gives.settings]
    rfl
  simp only [run, source, bindings, settings, bind, Except.bind, pure, Except.pure]

private theorem Completes.counted {config : AuditConfig} {given left : BoundSql}
    {prepared : Prepared}
    {removed : Nat} (completes : command.Completes input time config given prepared removed left) :
    removed + left.mappings.length = given.mappings.length := by
  have counted := AuditConfig.length_of_reconcile completes.reconciles
  exact counted

private theorem run_of_completes {config : AuditConfig} {given left : BoundSql}
    {prepared : Prepared} {removed : Nat} (pinned : command.time? = some time) (now : Timestamp)
    (completes : command.Completes input time config given prepared removed left) :
    (command.run (some input) now).2 = .ok ⟨given.sql, left, removed⟩ := by
  have counted := completes.counted
  have gone : given.mappings.length - left.mappings.length = removed := by omega
  rw [run_of_gives completes.gives, phases_result, pinned, Option.getD_some, Clock.fixed,
    completes.prepares]
  simp only [completes.reconciles, Except.map, Except.mapError, gone]

private theorem run_of_stopsAt {fault : CommandFault} (pinned : command.time? = some time)
    (now : Timestamp)
    (stops : command.StopsAt input time fault) : (command.run (some input) now).2 = .error fault := by
  cases stops with
  | source dash blank => simp [run, Command.sql, readsInput, dash, blank, bind, Except.bind]
  | bindings source blank =>
    have failed : command.mappings = .error .emptyProperty := by
      rw [mappings, bindings?_eq_none_iff.mpr blank]
    simp only [run, sql_of_resolves source, failed, bind, Except.bind]
  | @settings sql given failure source bindings invalid =>
    have listed : command.mappings = .ok given := by
      rw [mappings, bindings]
    have failed : command.config = .error (.settings failure) := by
      rw [Command.config, invalid]
      rfl
    simp only [run, sql_of_resolves source, listed, failed, bind, Except.bind]
  | prepare gives failed =>
    rw [run_of_gives gives, phases_result, pinned, Option.getD_some, Clock.fixed, failed]
    rfl
  | reconcile gives prepares failed =>
    rw [run_of_gives gives, phases_result, pinned, Option.getD_some, Clock.fixed, prepares]
    simp only [failed, Except.map, Except.mapError]

private theorem completes_or_stopsAt (command : Command) (input : String) (time : Timestamp) :
    (∃ config given prepared removed left,
        command.Completes input time config given prepared removed left) ∨
      ∃ fault, command.StopsAt input time fault := by
  have source : (∃ sql, command.Resolves input sql) ∨ command.StopsAt input time .emptyInput := by
    by_cases dash : command.statement = "-"
    · cases blank : (Text.trim input).isEmpty with
      | true => exact .inr (.source dash blank)
      | false => exact .inl ⟨_, .input dash blank⟩
    · exact .inl ⟨_, .argument dash⟩
  rcases source with ⟨sql, source⟩ | stops
  · cases bindings : bindings? command.entries with
    | none => exact .inr ⟨_, .bindings source (bindings?_eq_none_iff.mp bindings)⟩
    | some mappings =>
      cases settings : AuditConfig.ofProperties command.properties with
      | error failure => exact .inr ⟨_, .settings source bindings settings⟩
      | ok config =>
        have gives : command.Gives input ⟨sql, mappings⟩ config := ⟨source, bindings, settings⟩
        cases prepares : (config.prepareAt command.kind sql time).result with
        | error failure => exact .inr ⟨_, .prepare gives prepares⟩
        | ok prepared =>
          cases reconciles : (config.reconcile command.kind
              ⟨prepared.sqlOr sql, mappings⟩).result with
          | error failure => exact .inr ⟨_, .reconcile gives prepares reconciles⟩
          | ok done => exact .inl ⟨config, _, prepared, done.1, done.2, gives, prepares, reconciles⟩
  · exact .inr ⟨_, stops⟩

end Command

namespace Outcome

private theorem ofCommand_of_completes {command : Command} {input : String} {time : Timestamp}
    {config : AuditConfig} {given left : BoundSql} {prepared : Prepared} {removed : Nat}
    (pinned : command.time? = some time) (now : Timestamp)
    (completes : command.Completes input time config given prepared removed left) :
    (ofCommand command (some input) now).exit = 0 ∧
      (ofCommand command (some input) now).stdout =
        Report.text ⟨given.sql, left, removed⟩ command.format := by
  have report := Command.run_of_completes pinned now completes
  simp only [ofCommand, report, and_self]

private theorem ofCommand_of_stopsAt {command : Command} {input : String} {time : Timestamp}
    {fault : CommandFault} (pinned : command.time? = some time) (now : Timestamp)
    (stops : command.StopsAt input time fault) :
    (ofCommand command (some input) now).exit = 1 ∧
      (ofCommand command (some input) now).stdout = "" ∧
      ∃ records, (ofCommand command (some input) now).stderr =
        Record.linesOf command.verbose records ++ "error: " ++ fault.message ++ "\n" := by
  have failed := Command.run_of_stopsAt pinned now stops
  simp only [ofCommand, failed]
  exact ⟨trivial, trivial, _, rfl⟩

/-- A command with a given time prints nothing unless its text resolves, its bindings and settings
are valid and both operations succeed; else it reports the first of these that fails.  The report
tells what the operations returned, and as JSON it is one document. -/
theorem ofArguments_runs_operations {args : List String} {parsed : Arguments} {time : Timestamp}
    (accepted : Arguments.read args = .ok parsed)
    (pinned : parsed.value? .timestamp = some time.text) (input : String) (now : Timestamp) :
    let command := Command.ofArguments parsed
    let outcome := ofArguments args (some input) now
    (outcome.exit = 0 ↔ ∃ config given prepared removed left,
      command.Completes input time config given prepared removed left) ∧
    (outcome.exit ≠ 0 → ∃ fault, command.StopsAt input time fault) ∧
    (∀ fault, command.StopsAt input time fault →
      outcome.exit = 1 ∧ outcome.stdout = "" ∧ ∃ records, outcome.stderr =
        Record.linesOf command.verbose records ++ "error: " ++ fault.message ++ "\n") ∧
    ∀ config given prepared removed left,
      command.Completes input time config given prepared removed left →
      left.mappings.length ≤ given.mappings.length ∧
      removed = given.mappings.length - left.mappings.length ∧
      (parsed.value .format = "json" → ∃ doc : Json,
        outcome.stdout = doc.linedText ++ "\n" ∧
        (removed < UInt64.size → Json.read? outcome.stdout = some doc) ∧
        doc.member? "originalSql" = some (.string given.sql) ∧
        doc.member? "sql" = some (.string (prepared.sqlOr given.sql)) ∧
        doc.member? "changed" = some (.bool (prepared.sqlOr given.sql ≠ given.sql)) ∧
        (∃ listed, doc.member? "parameterMappings" = some listed ∧
          Json.Decoder.list ParameterMapping.decoder listed = .ok left.mappings) ∧
        doc.member? "removedBindings" = some (.integer removed)) := by
  intro command outcome
  have known : command.time? = some time := by
    change (parsed.value? .timestamp).map Timestamp.mk = some time
    rw [pinned]
    rfl
  have ran : outcome = ofCommand command (some input) now := by
    change ofArguments args (some input) now = _
    rw [ofArguments, accepted]
  rw [ran]
  have stopped : ∀ fault, command.StopsAt input time fault →
      (ofCommand command (some input) now).exit = 1 := by
    intro fault stops
    exact (ofCommand_of_stopsAt known now stops).1
  refine ⟨⟨?_, ?_⟩, ?_, ?_, ?_⟩
  · intro succeeds
    rcases command.completes_or_stopsAt input time with completes | ⟨fault, stops⟩
    · exact completes
    · rw [stopped fault stops] at succeeds
      simp at succeeds
  · rintro ⟨config, given, prepared, removed, left, completes⟩
    exact (ofCommand_of_completes known now completes).1
  · intro fails
    rcases command.completes_or_stopsAt input time with
      ⟨config, given, prepared, removed, left, completes⟩ | stops
    · exact absurd (ofCommand_of_completes known now completes).1 fails
    · exact stops
  · intro fault stops
    exact ofCommand_of_stopsAt known now stops
  · intro config given prepared removed left completes
    have counted := completes.counted
    refine ⟨by omega, by omega, ?_⟩
    intro json
    have format : command.format = .json := by
      change (if parsed.value .format = "json" then Report.Format.json else .table) = .json
      rw [if_pos json]
    have printed := (ofCommand_of_completes known now completes).2
    rw [format] at printed
    have after : left.sql = prepared.sqlOr given.sql :=
      AuditConfig.sql_of_reconcile completes.reconciles
    obtain ⟨original, sql, changed, listed, count⟩ :=
      Report.member?_toJson ⟨given.sql, left, removed⟩
    rw [after] at sql changed
    refine ⟨Report.toJson ⟨given.sql, left, removed⟩, printed, ?_, original, sql, changed,
      ⟨_, listed, ?_⟩, count⟩
    · intro small
      rw [printed]
      exact Report.read?_text small
    · exact Json.decode_ofList ParameterMapping.decoder_toJson left.mappings

/-- Arguments with a given time, a statement of two placeholders and a binding for each. -/
def savingArguments : Arguments :=
  ⟨[], [(.timestamp, Timestamp.plain.text), (.format, "json"), (.bind, "a:INTEGER"),
    (.bind, "gmtCreate")], "INSERT INTO t (a, gmt_create) VALUES (?, ?)"⟩

theorem ofArguments_runs_operations_saving :
    let args := ["rewrite", "--timestamp", Timestamp.plain.text, "--format=json", "--bind",
      "a:INTEGER", "--bind", "gmtCreate", savingArguments.statement]
    let outcome := ofArguments args (some "") .plain
    outcome.exit = 0 ∧ ∃ doc : Json, Json.read? outcome.stdout = some doc ∧
      doc.member? "originalSql" = some (.string savingArguments.statement) := by
  intro args outcome
  have accepted : Arguments.read args = .ok savingArguments := by decide +kernel
  have pinned : savingArguments.value? .timestamp = some Timestamp.plain.text := by decide +kernel
  have succeeds : outcome.exit = 0 := by decide +kernel
  obtain ⟨completed, -, -, report⟩ := ofArguments_runs_operations accepted pinned "" .plain
  obtain ⟨config, given, prepared, removed, left, completes⟩ := completed.mp succeeds
  obtain ⟨-, counted, printed⟩ := report config given prepared removed left completes
  obtain ⟨doc, -, read, original, -⟩ := printed (by decide +kernel)
  have listed : bindings? (Command.ofArguments savingArguments).entries =
      some [⟨"a", some "INTEGER"⟩, ⟨"gmtCreate", none⟩] := by decide +kernel
  have bindings := Option.some.inj (completes.gives.bindings.symm.trans listed)
  have small : removed < UInt64.size := by
    have two : given.mappings.length = 2 := by rw [bindings]; rfl
    have large : 2 < UInt64.size := by decide
    omega
  have resolved := Command.sql_of_resolves completes.gives.source
  have source : given.sql = savingArguments.statement := by
    have argument : (Command.ofArguments savingArguments).sql (some "") =
        .ok savingArguments.statement := by decide +kernel
    exact Except.ok.inj (resolved.symm.trans argument)
  rw [source] at original
  exact ⟨succeeds, doc, read small, original⟩

end Outcome

end Cli

end RowStamp
