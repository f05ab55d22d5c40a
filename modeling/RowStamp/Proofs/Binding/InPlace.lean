import RowStamp.Binding.InPlace
import RowStamp.Proofs.Stamp.Decision

/-!
The bind phase in place.  Its pass over the mappings drops those that bind audit columns and warns
about each of them; it starts only after every check that may fail, so that a failure changes
nothing, and a second run finds nothing to drop.
-/

set_option autoImplicit false
set_option relaxedAutoImplicit false

namespace RowStamp

open Sql (Statement)

/-! ### One pass over the mappings -/

namespace AuditColumns

variable (columns : AuditColumns)

def warning (mapping : ParameterMapping) : List Event :=
  ((columns.columnOf? mapping.property).map (Event.droppedBinding · mapping.property)).toList

private theorem warnings_cons (mapping : ParameterMapping) (rest : List ParameterMapping) :
    columns.warnings (mapping :: rest) = columns.warning mapping ++ columns.warnings rest := by
  rw [warnings, List.filterMap_cons, warning]
  cases columns.columnOf? mapping.property <;> rfl

private theorem remaining_cons (mapping : ParameterMapping) (rest : List ParameterMapping) :
    columns.remaining (mapping :: rest) =
      if !columns.binds mapping then mapping :: columns.remaining rest
      else columns.remaining rest :=
  List.filter_cons

private theorem remaining_eq (mappings : List ParameterMapping) :
    columns.remaining mappings = mappings.filter fun mapping =>
      mapping.property ≠ columns.createProperty ∧ mapping.property ≠ columns.updateProperty := by
  refine List.filter_congr fun mapping _ => ?_
  rw [Bool.eq_iff_iff, Bool.not_eq_true', ← Bool.not_eq_true, binds_iff]
  simp

/-- The mappings that go are warned about, the creation column coming first where both columns have
one property. -/
theorem warnings_eq (mappings : List ParameterMapping) :
    columns.warnings mappings =
      (mappings.filter fun mapping => mapping.property = columns.createProperty ∨
          mapping.property = columns.updateProperty).map fun mapping =>
        .droppedBinding
          (if mapping.property = columns.createProperty then columns.create else columns.update)
          mapping.property := by
  induction mappings with
  | nil => rfl
  | cons mapping rest ih =>
    rw [warnings_cons, ih, List.filter_cons, warning, columnOf?]
    split_ifs <;> simp_all

private theorem warnings_remaining (mappings : List ParameterMapping) :
    columns.warnings (columns.remaining mappings) = [] := by
  rw [warnings, List.filterMap_eq_nil_iff]
  intro mapping member
  have unbound := columns.binds_eq_false_of_mem_remaining member
  simpa [binds] using unbound

private theorem keeps_run (mapping : ParameterMapping) (s : Reconciling) :
    (columns.keeps mapping).run s =
      .ok (!columns.binds mapping) { s with log := s.log ++ columns.warning mapping } := by
  unfold keeps binds warning
  cases columns.columnOf? mapping.property with
  | none => simp [EStateM.run, pure, EStateM.pure]
  | some column => rfl

private theorem retained_run (mappings : List ParameterMapping) (s : Reconciling) :
    (columns.retained mappings).run s =
      .ok (columns.remaining mappings) { s with log := s.log ++ columns.warnings mappings } := by
  induction mappings generalizing s with
  | nil => simp [retained, remaining, warnings]
  | cons mapping rest ih =>
    rw [retained, EStateM.run_bind, keeps_run]
    simp only [EStateM.run_bind, ih, EStateM.run_pure, remaining_cons, warnings_cons,
      List.append_assoc]

private theorem dropBindings_run (s : Reconciling) :
    columns.dropBindings.run s =
      .ok (columns.removedCount s.bound.mappings)
        ⟨{ s.bound with mappings := columns.remaining s.bound.mappings },
          s.log ++ columns.warnings s.bound.mappings⟩ := by
  have counted := columns.removedCount_add_remaining s.bound.mappings
  have dropped : s.bound.mappings.length - (columns.remaining s.bound.mappings).length =
      columns.removedCount s.bound.mappings := by
    omega
  simp only [dropBindings, EStateM.run_bind, EStateM.run_get, retained_run, EStateM.run_pure, dropped]
  rfl

end AuditColumns

/-! ### The run -/

/-- The end of a run that adds to the log, and changes the statement only where it succeeds. -/
def Reconciling.settled (s : Reconciling) (done : Logged (Nat × BoundSql)) :
    EStateM.Result Failure Reconciling Nat :=
  match done.result with
  | .ok (removed, bound) => .ok removed ⟨bound, s.log ++ done.log⟩
  | .error failure => .error failure ⟨s.bound, s.log ++ done.log⟩

private theorem run_ofExcept {α : Type} (x : Except Failure α) (s : Reconciling) :
    (MonadExcept.ofExcept x : BindSteps α).run s =
      match x with
      | .ok a => .ok a s
      | .error failure => .error failure s := by
  cases x <;> rfl

namespace AuditConfig

variable (config : AuditConfig) (kind : StatementKind) (s : Reconciling)

private theorem reconcileInPlace_run :
    (config.reconcileInPlace kind).run s = s.settled (config.reconcile kind s.bound) := by
  unfold reconcileInPlace reconcile
  by_cases other : kind = .other
  · simp [other, Reconciling.settled]
  · simp only [other, if_false, EStateM.run_bind, EStateM.run_get, run_ofExcept]
    cases parsed : parseStatement config.dialect s.bound.sql with
    | error failure => simp [Reconciling.settled]
    | ok statement =>
      simp only
      rcases decided : Stamp.isAudited config kind statement with failure | (_ | _)
      · simp [Reconciling.settled]
      · simp [Reconciling.settled]
      · simp only [Bool.not_true, Bool.false_eq_true, if_false, EStateM.run_bind,
          AuditColumns.dropBindings_run, EStateM.run_get, Reconciling.settled, unevenLog]
        by_cases even : statement.placeholders.length =
            (config.columns.remaining s.bound.mappings).length
        · simp [even]
        · simp only [even, ne_eq, not_false_iff, if_true, if_false, ← List.append_assoc]
          rfl

/-- The target of a statement is left alone: the table of an INSERT, or every relation of an UPDATE
that is a table by itself. -/
def Spares (config : AuditConfig) : Statement → Prop
  | .insert stmt => ∃ table, stmt.tableName? = some table ∧ config.isExempt table = true
  | .update stmt => ∀ table ∈ stmt.tableNames, config.isExempt table = true
  | _ => False

private theorem isAudited_of_matched {config : AuditConfig} {kind : StatementKind}
    {statement : Statement} (given : kind ≠ .other) (matched : ¬Stamp.Mismatched kind statement) :
    ∃ audited, Stamp.isAudited config kind statement = .ok audited ∧
      (audited = false ↔ config.Spares statement) := by
  obtain rfl | ⟨rfl, stmt, rfl⟩ | ⟨rfl, stmt, rfl⟩ := Stamp.matched_cases matched
  · exact absurd rfl given
  · refine ⟨_, rfl, ?_⟩
    rw [Bool.not_eq_false', Option.any_eq_true]
    rfl
  · refine ⟨_, rfl, ?_⟩
    simp [Stamp.touchesAudited, Spares]

/-- The bindings of audit columns are dropped from a bound statement: its text stays, and so do the
other mappings, in order; each mapping that goes is warned about, and a last record says where
those that stay are not as many as the placeholders. -/
structure Drops (config : AuditConfig) (statement : Statement) (s : Reconciling) (removed : Nat)
    (after : Reconciling) : Prop where
  sql : after.bound.sql = s.bound.sql
  mappings : after.bound.mappings = s.bound.mappings.filter fun mapping =>
    mapping.property ≠ Naming.camelCase config.columns.create ∧
      mapping.property ≠ Naming.camelCase config.columns.update
  removed : removed + after.bound.mappings.length = s.bound.mappings.length
  log : after.log = s.log ++
    ((s.bound.mappings.filter fun mapping =>
        mapping.property = Naming.camelCase config.columns.create ∨
          mapping.property = Naming.camelCase config.columns.update).map fun mapping =>
      .droppedBinding
        (if mapping.property = Naming.camelCase config.columns.create then config.columns.create
          else config.columns.update) mapping.property) ++
    if statement.placeholders.length = after.bound.mappings.length then []
    else [.unevenBindings after.bound.mappings.length statement.placeholders.length s.bound.sql]

variable {config kind s} {statement : Statement}

def dropped (config : AuditConfig) (statement : Statement) (s : Reconciling) : Reconciling :=
  ⟨{ s.bound with mappings := config.columns.remaining s.bound.mappings },
    s.log ++ (config.columns.warnings s.bound.mappings ++
      unevenLog statement s.bound.sql (config.columns.remaining s.bound.mappings))⟩

private theorem drops_dropped :
    config.Drops statement s (config.columns.removedCount s.bound.mappings)
      (config.dropped statement s) where
  sql := rfl
  mappings := config.columns.remaining_eq s.bound.mappings
  removed := config.columns.removedCount_add_remaining s.bound.mappings
  log := by
    rw [dropped, config.columns.warnings_eq, ← List.append_assoc]
    rfl

private theorem Drops.unique {removed other : Nat} {after further : Reconciling}
    (first : config.Drops statement s removed after)
    (second : config.Drops statement s other further) : removed = other ∧ after = further := by
  have bounds : after.bound = further.bound := by
    have sqls := first.sql.trans second.sql.symm
    have mappings := first.mappings.trans second.mappings.symm
    cases after with | mk bound _ => cases further with | mk bound' _ =>
      cases bound
      cases bound'
      simp_all
  have logs : after.log = further.log := by
    rw [first.log, second.log, bounds]
  have counts := first.removed.trans second.removed.symm
  rw [bounds] at counts
  refine ⟨Nat.add_right_cancel counts, ?_⟩
  cases after
  cases further
  simp_all

private theorem drops_iff {removed : Nat} {after : Reconciling} :
    config.Drops statement s removed after ↔
      config.columns.removedCount s.bound.mappings = removed ∧
        config.dropped statement s = after := by
  constructor
  · exact drops_dropped.unique
  · rintro ⟨rfl, rfl⟩
    exact drops_dropped

private theorem run_of_other : (config.reconcileInPlace .other).run s = .ok 0 s := by
  simp [reconcileInPlace_run, reconcile, Reconciling.settled]

private theorem run_of_unread (given : kind ≠ .other) {failure : Failure}
    (unread : parseStatement config.dialect s.bound.sql = .error failure) :
    (config.reconcileInPlace kind).run s = .error failure s := by
  simp [reconcileInPlace_run, reconcile, given, unread, Reconciling.settled]

private theorem run_of_mismatched (given : kind ≠ .other)
    (parsed : parseStatement config.dialect s.bound.sql = .ok statement)
    (mismatched : Stamp.Mismatched kind statement) :
    (config.reconcileInPlace kind).run s = .error (Stamp.mismatch kind statement) s := by
  simp [reconcileInPlace_run, reconcile, given, parsed, Stamp.isAudited_of_mismatched mismatched,
    Reconciling.settled]

private theorem run_of_spared (given : kind ≠ .other)
    (parsed : parseStatement config.dialect s.bound.sql = .ok statement)
    (matched : ¬Stamp.Mismatched kind statement) (spared : config.Spares statement) :
    (config.reconcileInPlace kind).run s = .ok 0 s := by
  obtain ⟨audited, decided, spares⟩ := isAudited_of_matched given matched
  obtain rfl := spares.mpr spared
  simp [reconcileInPlace_run, reconcile, given, parsed, decided, Reconciling.settled]

private theorem run_of_audited (given : kind ≠ .other)
    (parsed : parseStatement config.dialect s.bound.sql = .ok statement)
    (matched : ¬Stamp.Mismatched kind statement) (audited : ¬config.Spares statement) :
    (config.reconcileInPlace kind).run s =
      .ok (config.columns.removedCount s.bound.mappings) (config.dropped statement s) := by
  obtain ⟨decision, decided, spares⟩ := isAudited_of_matched given matched
  obtain rfl : decision = true := by simpa using mt spares.mp audited
  simp [reconcileInPlace_run, reconcile, given, parsed, decided, Reconciling.settled, dropped]

private theorem dropped_dropped (config : AuditConfig) (statement : Statement) (s : Reconciling) :
    config.columns.removedCount (config.dropped statement s).bound.mappings = 0 ∧
      ∃ records, (∀ event ∈ records, event.level = .debug) ∧
        config.dropped statement (config.dropped statement s) =
          ⟨(config.dropped statement s).bound, (config.dropped statement s).log ++ records⟩ := by
  have left : (config.dropped statement s).bound.mappings =
      config.columns.remaining s.bound.mappings := rfl
  refine ⟨left ▸ config.columns.removedCount_remaining s.bound.mappings,
    unevenLog statement s.bound.sql (config.columns.remaining s.bound.mappings), ?_, ?_⟩
  · intro event logged
    simp only [unevenLog] at logged
    split at logged
    · cases logged
    · obtain rfl := List.mem_singleton.mp logged
      rfl
  · have silent : config.columns.warnings (config.columns.remaining s.bound.mappings) = [] :=
      config.columns.warnings_remaining s.bound.mappings
    rw [dropped, left, config.columns.remaining_remaining, silent]
    rfl

/-- The bind phase in place fails exactly where the text is not read as one statement or is read as
one of another kind, and then it changes nothing.  Otherwise it changes nothing and counts none
where the host names another kind or the target is left alone, and in all other cases it drops the
bindings of audit columns.  A second run drops none and warns of none. -/
theorem reconcileInPlace_drops_exactly (config : AuditConfig) (kind : StatementKind)
    (s : Reconciling) :
    (∀ failure after, (config.reconcileInPlace kind).run s = .error failure after ↔
      after = s ∧ kind ≠ .other ∧
        (parseStatement config.dialect s.bound.sql = .error failure ∨
          ∃ statement, parseStatement config.dialect s.bound.sql = .ok statement ∧
            Stamp.Mismatched kind statement ∧ failure = Stamp.mismatch kind statement)) ∧
    (∀ removed after, (config.reconcileInPlace kind).run s = .ok removed after ↔
      ((removed = 0 ∧ after = s) ∧
        (kind = .other ∨ ∃ statement, parseStatement config.dialect s.bound.sql = .ok statement ∧
          ¬Stamp.Mismatched kind statement ∧ config.Spares statement)) ∨
      (kind ≠ .other ∧ ∃ statement, parseStatement config.dialect s.bound.sql = .ok statement ∧
        ¬Stamp.Mismatched kind statement ∧ ¬config.Spares statement ∧
        config.Drops statement s removed after)) ∧
    ∀ removed after, (config.reconcileInPlace kind).run s = .ok removed after →
      ∃ records, (∀ event ∈ records, event.level = .debug) ∧
        (config.reconcileInPlace kind).run after = .ok 0 ⟨after.bound, after.log ++ records⟩ := by
  by_cases given : kind = .other
  · subst given
    simp only [run_of_other]
    refine ⟨by simp, by simp [eq_comm], fun removed after ended => ⟨[], by simp, ?_⟩⟩
    obtain ⟨rfl, rfl⟩ := EStateM.Result.ok.inj ended
    simp
  · simp only [given, false_or, ne_eq, not_false_iff, true_and]
    cases parsed : parseStatement config.dialect s.bound.sql with
    | error failure =>
      simp only [run_of_unread given parsed]
      exact ⟨by simp [eq_comm, and_comm], by simp, by simp⟩
    | ok statement =>
      by_cases mismatched : Stamp.Mismatched kind statement
      · simp only [run_of_mismatched given parsed mismatched]
        exact ⟨by simp [mismatched, eq_comm, and_comm], by simp [mismatched], by simp⟩
      · by_cases spared : config.Spares statement
        · simp only [run_of_spared given parsed mismatched spared]
          refine ⟨by simp [mismatched], by simp [mismatched, spared, eq_comm], ?_⟩
          intro removed after ended
          obtain ⟨rfl, rfl⟩ := EStateM.Result.ok.inj ended
          exact ⟨[], by simp, by simp [run_of_spared given parsed mismatched spared]⟩
        · simp only [run_of_audited given parsed mismatched spared]
          refine ⟨by simp [mismatched], by simp [mismatched, spared, drops_iff], ?_⟩
          intro removed after ended
          obtain ⟨rfl, rfl⟩ := EStateM.Result.ok.inj ended
          obtain ⟨none_left, records, debug, again⟩ := config.dropped_dropped statement s
          have reread : parseStatement config.dialect (config.dropped statement s).bound.sql =
              .ok statement := parsed
          refine ⟨records, debug, ?_⟩
          rw [run_of_audited given reread mismatched spared, none_left, again]

def boundInsert : Reconciling :=
  ⟨⟨"INSERT INTO t (a, gmt_create, gmt_modified) VALUES (?, 'x', 'x')",
    [⟨"gmtCreate", none⟩, ⟨"a", some "INTEGER"⟩]⟩, []⟩

def leftInsert : Reconciling :=
  ⟨⟨"INSERT INTO t (a, gmt_create, gmt_modified) VALUES (?, 'x', 'x')", [⟨"a", some "INTEGER"⟩]⟩,
    [.droppedBinding "gmt_create" "gmtCreate"]⟩

theorem reconcileInPlace_drops_exactly_insert :
    (standard.reconcileInPlace .insert).run boundInsert = .ok 1 leftInsert ∧
      ∃ records, (∀ event ∈ records, event.level = .debug) ∧
        (standard.reconcileInPlace .insert).run leftInsert =
          .ok 0 ⟨leftInsert.bound, leftInsert.log ++ records⟩ := by
  have first : (standard.reconcileInPlace .insert).run boundInsert = .ok 1 leftInsert := by
    have logged : (standard.reconcile .insert boundInsert.bound).log = leftInsert.log := by
      decide +kernel
    have done : (standard.reconcile .insert boundInsert.bound).result =
        .ok (1, leftInsert.bound) := by
      decide +kernel
    rw [reconcileInPlace_run, Reconciling.settled, logged, done]
    rfl
  exact ⟨first, (standard.reconcileInPlace_drops_exactly .insert boundInsert).2.2 1 leftInsert first⟩

end AuditConfig

end RowStamp
