import RowStamp.Cli.Binding
import RowStamp.Cli.Help
import RowStamp.Cli.Record
import RowStamp.Cli.Report
import RowStamp.Host.Memory

/-!
The command line: both phases run on one statement, and the report about it.  Nothing is printed
unless all steps succeed; the first step that fails is reported.
-/

set_option autoImplicit false
set_option relaxedAutoImplicit false

namespace RowStamp.Cli

/-- Why a command fails. -/
inductive CommandFault where
  | unreadableInput
  | emptyInput
  | emptyProperty
  | settings (failure : Failure)
  | stamping (failure : Failure)
  deriving DecidableEq, Repr

def CommandFault.within (context : String) (failure : Failure) : String :=
  context ++ ": " ++ failure.message ++ " [" ++ failure.code ++ "]"

def CommandFault.message : CommandFault → String
  | unreadableInput => "failed to read SQL from stdin: stream did not contain valid UTF-8"
  | emptyInput => "invalid arguments: stdin SQL input is empty"
  | emptyProperty => "invalid arguments: --bind property must not be empty"
  | settings failure => within "invalid interceptor settings" failure
  | stamping failure => within "audit stamping failed" failure

/-- A command that stamps a statement. -/
structure Command where
  properties : List (String × String)
  verbose : Bool
  kind : StatementKind
  entries : List String
  time? : Option Timestamp
  format : Report.Format
  statement : String
  deriving DecidableEq, Repr

namespace Command

def ofArguments (args : Arguments) : Command where
  properties := [
    ("createDateColumnName", args.value .createColumn),
    ("updateDateColumnName", args.value .updateColumn),
    ("ignoreTables", args.value .ignoreTables),
    ("sqlDialect", args.value .dialect)]
  verbose := args.has .verbose
  kind := .ofCommand (args.value .kind)
  entries := args.values .bind
  time? := (args.value? .timestamp).map Timestamp.mk
  format := if args.value .format = "json" then .json else .table
  statement := args.statement

def readsInput (command : Command) : Bool := command.statement = "-"

/-- The text of the statement; `input` is nothing where it cannot be read. -/
def sql (command : Command) (input : Option String) : Except CommandFault String :=
  if command.readsInput then
    match input with
    | none => .error .unreadableInput
    | some text =>
      if (Text.trim text).isEmpty then .error .emptyInput else .ok (Text.trim text)
  else .ok command.statement

def mappings (command : Command) : Except CommandFault (List ParameterMapping) :=
  match bindings? command.entries with
  | some mappings => .ok mappings
  | none => .error .emptyProperty

def config (command : Command) : Except CommandFault AuditConfig :=
  (AuditConfig.ofProperties command.properties).mapError .settings

def mapped (command : Command) : MappedStatement := ⟨"audit-stamp.cli", command.kind⟩

/-- The records of a phase, which reads a text unless the kind is another one. -/
def phaseRecords (command : Command) (sql : String) (log : List Event) : List Record :=
  (if command.kind = .other then [] else [.parsing sql]) ++ log.map Record.ofEvent

/-- Both phases on a bound statement, one after the other, with one clock. -/
def phases (command : Command) (config : AuditConfig) (clock : Clock) (bound : BoundSql) :
    StateM Nat (List Record × Except CommandFault BoundSql) := do
  let call (method : String) (target : MemoryTarget) :=
    config.intercept clock method target.role target (fun target => .ok target.bound)
  let prepare ← call prepareMethod (.statement ⟨⟨command.mapped, bound⟩⟩)
  let records := command.phaseRecords bound.sql prepare.log
  match prepare.result with
  | .error failure => return (records, .error (.stamping failure))
  | .ok prepared =>
    let bind ← call setParametersMethod (.parameter ⟨command.mapped, prepared⟩)
    return (records ++ command.phaseRecords prepared.sql bind.log, bind.result.mapError .stamping)

def run (command : Command) (input : Option String) (now : Timestamp) :
    List Record × Except CommandFault Report :=
  let ready : Except CommandFault (BoundSql × AuditConfig) := do
    let sql ← command.sql input
    let mappings ← command.mappings
    return (⟨sql, mappings⟩, ← command.config)
  match ready with
  | .error fault => ([], .error fault)
  | .ok (bound, config) =>
    let clock := Clock.fixed (command.time?.getD now)
    let done := ((command.phases config clock bound).run 0).1
    let report (after : BoundSql) : Report :=
      ⟨bound.sql, after, bound.mappings.length - after.mappings.length⟩
    (.settings config :: done.1, done.2.map report)

end Command

/-- What a program leaves behind: its exit code and what it prints. -/
structure Outcome where
  exit : Nat
  stdout : String
  stderr : String
  deriving DecidableEq, Repr

namespace Outcome

def ofStop : Stop → Outcome
  | .help page => ⟨0, page.text, ""⟩
  | .usage => ⟨2, "", HelpPage.root.text⟩
  | .fault fault => ⟨2, "", "error: " ++ fault.message ++ "\n"⟩

def ofCommand (command : Command) (input : Option String) (now : Timestamp) : Outcome :=
  let (records, result) := command.run input now
  let log := Record.linesOf command.verbose records
  match result with
  | .ok report => ⟨0, report.text command.format, log⟩
  | .error fault => ⟨1, "", log ++ "error: " ++ fault.message ++ "\n"⟩

def ofArguments (args : List String) (input : Option String) (now : Timestamp) : Outcome :=
  match Arguments.read args with
  | .error stop => ofStop stop
  | .ok args => ofCommand (.ofArguments args) input now

end Outcome

end RowStamp.Cli
