import RowStamp.Interceptor
import RowStamp.Proofs.Stamp.Statement

/-!
The two phases of a statement that is stamped: the prepare phase writes the text of the stamped
statement, and the bind phase keeps the mappings that bind no audit column.
-/

set_option autoImplicit false
set_option relaxedAutoImplicit false

namespace RowStamp

open Sql (Statement)

namespace AuditColumns

variable (columns : AuditColumns)

theorem binds_iff (mapping : ParameterMapping) :
    columns.binds mapping = true ↔
      mapping.property = columns.createProperty ∨ mapping.property = columns.updateProperty := by
  rw [binds, columnOf?]
  split_ifs <;> simp_all

theorem binds_eq_false_of_mem_remaining {mappings : List ParameterMapping}
    {mapping : ParameterMapping} (member : mapping ∈ columns.remaining mappings) :
    columns.binds mapping = false := by
  simpa using (List.mem_filter.mp member).2

theorem remaining_remaining (mappings : List ParameterMapping) :
    columns.remaining (columns.remaining mappings) = columns.remaining mappings := by
  rw [remaining, List.filter_eq_self]
  intro mapping member
  simp [columns.binds_eq_false_of_mem_remaining member]

theorem removedCount_add_remaining (mappings : List ParameterMapping) :
    columns.removedCount mappings + (columns.remaining mappings).length = mappings.length := by
  have counted := (List.length_eq_countP_add_countP columns.binds : mappings.length = _)
  rw [removedCount, remaining, ← List.countP_eq_length_filter, counted]
  simp

theorem removedCount_remaining (mappings : List ParameterMapping) :
    columns.removedCount (columns.remaining mappings) = 0 := by
  rw [removedCount, List.countP_eq_zero]
  intro mapping member
  simp [columns.binds_eq_false_of_mem_remaining member]

end AuditColumns

theorem parseStatement_eq_ok_iff {d : Dialect} {sql : String} {statement : Statement} :
    parseStatement d sql = .ok statement ↔ Statement.parse d sql = .ok statement := by
  unfold parseStatement
  cases Statement.parse d sql <;> simp [Except.mapError]

theorem exists_fault_of_parseStatement {d : Dialect} {sql : String} {failure : Failure}
    (unread : parseStatement d sql = .error failure) : ∃ fault, failure = .parse sql fault := by
  unfold parseStatement at unread
  cases read : Statement.parse d sql with
  | error fault => exact ⟨fault, by simpa [read, Except.mapError, eq_comm] using unread⟩
  | ok statement => simp [read, Except.mapError] at unread

namespace AuditConfig

variable {config : AuditConfig} {kind : StatementKind} {time : Timestamp} {sql : String}
  {statement stamped : Statement}

theorem prepareAt_of_stamped (parsed : parseStatement config.dialect sql = .ok statement)
    (done : Stamp.stampStatement config kind time statement = .ok (.stamped stamped)) :
    config.prepareAt kind sql time =
      ⟨[.intercepted kind sql, .stamped kind stamped.text], .ok (.rewritten stamped.text)⟩ := by
  simp [prepareAt, Stamp.kind_ne_other done, parsed, done]

theorem prepareAt_rewritten_iff {written : String} :
    (config.prepareAt kind sql time).result = .ok (.rewritten written) ↔
      ∃ statement stamped, parseStatement config.dialect sql = .ok statement ∧
        Stamp.stampStatement config kind time statement = .ok (.stamped stamped) ∧
        written = stamped.text := by
  constructor
  · intro rewritten
    unfold prepareAt at rewritten
    split at rewritten
    · simp at rewritten
    · split at rewritten
      · simp at rewritten
      · rename_i statement parsed
        dsimp only at rewritten
        split at rewritten
        · simp at rewritten
        · simp at rewritten
        · rename_i stamped done
          exact ⟨statement, stamped, parsed, done, by simpa using rewritten.symm⟩
  · rintro ⟨statement, stamped, parsed, done, rfl⟩
    rw [prepareAt_of_stamped parsed done]

/-- The prepare phase fails where the text is not read, or where what is read is rejected. -/
theorem prepareAt_error_iff {failure : Failure} :
    (config.prepareAt kind sql time).result = .error failure ↔ kind ≠ .other ∧
      (parseStatement config.dialect sql = .error failure ∨
        ∃ statement, parseStatement config.dialect sql = .ok statement ∧
          Stamp.stampStatement config kind time statement = .error failure) := by
  by_cases given : kind = .other
  · simp [prepareAt, given]
  · cases parsed : parseStatement config.dialect sql with
    | error other => simp [prepareAt, given, parsed]
    | ok statement =>
      rcases done : Stamp.stampStatement config kind time statement with
        other | (log | stamped) <;> simp [prepareAt, given, parsed, done]

theorem reconcile_of_audited (mappings : List ParameterMapping)
    (parsed : parseStatement config.dialect sql = .ok statement)
    (audited : Stamp.Audited config kind statement) :
    config.reconcile kind ⟨sql, mappings⟩ =
      ⟨config.columns.warnings mappings ++
          unevenLog statement sql (config.columns.remaining mappings),
        .ok (config.columns.removedCount mappings,
          ⟨sql, config.columns.remaining mappings⟩)⟩ := by
  have given : kind ≠ .other := by
    rintro rfl
    cases statement <;> simp [Stamp.Audited, Stamp.isAudited] at audited
  unfold Stamp.Audited at audited
  simp [reconcile, given, parsed, audited]

/-- The bind phase fails where the text is not read, or where it is not told whether what is read
is left alone. -/
theorem reconcile_error_iff {bound : BoundSql} {failure : Failure} :
    (config.reconcile kind bound).result = .error failure ↔ kind ≠ .other ∧
      (parseStatement config.dialect bound.sql = .error failure ∨
        ∃ statement, parseStatement config.dialect bound.sql = .ok statement ∧
          Stamp.isAudited config kind statement = .error failure) := by
  by_cases given : kind = .other
  · simp [reconcile, given]
  · cases parsed : parseStatement config.dialect bound.sql with
    | error other => simp [reconcile, given, parsed]
    | ok statement =>
      rcases decided : Stamp.isAudited config kind statement with other | (_ | _) <;>
        simp [reconcile, given, parsed, decided]

/-- The bind phase leaves every mapping, or those that bind no audit column. -/
theorem reconcile_ok_cases {bound left : BoundSql} {n : Nat}
    (ok : (config.reconcile kind bound).result = .ok (n, left)) :
    (n = 0 ∧ left = bound) ∨
      (n = config.columns.removedCount bound.mappings ∧
        left = { bound with mappings := config.columns.remaining bound.mappings }) := by
  unfold reconcile at ok
  split at ok
  · obtain ⟨rfl, rfl⟩ := Prod.mk.inj (Except.ok.inj ok)
    exact .inl ⟨rfl, rfl⟩
  · split at ok
    · simp at ok
    · split at ok
      · simp at ok
      · obtain ⟨rfl, rfl⟩ := Prod.mk.inj (Except.ok.inj ok)
        exact .inl ⟨rfl, rfl⟩
      · obtain ⟨rfl, rfl⟩ := Prod.mk.inj (Except.ok.inj ok)
        exact .inr ⟨rfl, rfl⟩

theorem sql_of_reconcile {bound left : BoundSql} {n : Nat}
    (ok : (config.reconcile kind bound).result = .ok (n, left)) : left.sql = bound.sql := by
  rcases reconcile_ok_cases ok with ⟨-, rfl⟩ | ⟨-, rfl⟩ <;> rfl

theorem length_of_reconcile {bound left : BoundSql} {n : Nat}
    (ok : (config.reconcile kind bound).result = .ok (n, left)) :
    n + left.mappings.length = bound.mappings.length := by
  rcases reconcile_ok_cases ok with ⟨rfl, rfl⟩ | ⟨rfl, rfl⟩
  · exact Nat.zero_add _
  · exact config.columns.removedCount_add_remaining bound.mappings

end AuditConfig

/-! ### Plain statements -/

namespace Sql

/-- An INSERT of rows of values into a table `t`. -/
def plainInsert (columns : List String) (rows : List (List Expr)) : Insert where
  conflict := none
  replaces := false
  priority := none
  ignores := false
  overwrites := false
  intoWord := true
  tableWord := false
  table := [.plain "t"]
  tableAlias := none
  columns := columns.map Ident.plain
  partition := []
  source := .query ⟨[], .values ⟨"VALUES", false, rows⟩, []⟩
  rowAlias := none
  onConflict := []
  returning := []

/-- An UPDATE of columns of a table `t`. -/
def plainUpdate (assignments : List (String × Expr)) (selection : Option Expr) : Update where
  conflict := none
  table := ⟨.table [.plain "t"] [] [] [], []⟩
  fromBefore := []
  assignments := assignments.map fun (column, value) => ⟨.column [.plain column], value⟩
  fromAfter := []
  selection := selection
  returning := []
  limit := none

end Sql

def Timestamp.plain : Timestamp := ⟨"2024-05-06 07:08:09.010"⟩

end RowStamp
