import RowStamp.Proofs.Ignore.WholeName
import RowStamp.Proofs.Stamp.Decision

/-!
Which UPDATE statements are left alone.  The decision looks at the relations that are tables by
themselves: it overlooks tables joined in parentheses, and finds nothing to stamp where no relation
is a table.
-/

set_option autoImplicit false
set_option relaxedAutoImplicit false

namespace RowStamp

open Sql (Ident TableRef baseName)

namespace Sql.Update

def seen (stmt : Update) : List (List Ident) :=
  stmt.table.relations.flatMap fun relation =>
    if relation.tableName?.isSome then relation.names else []

def overlooked (stmt : Update) : List (List Ident) :=
  stmt.table.relations.flatMap fun relation =>
    if relation.tableName?.isSome then [] else relation.names

private theorem mem_names_iff {stmt : Update} {name : List Ident} :
    name ∈ stmt.table.names ↔ name ∈ stmt.seen ∨ name ∈ stmt.overlooked := by
  simp only [JoinedTables.names, seen, overlooked, List.mem_flatMap, ← exists_or, ← and_or_left]
  refine exists_congr fun relation => and_congr_right fun _ => ?_
  split <;> simp

private theorem names_of_tableName? {relation : TableRef} {base : String}
    (table : relation.tableName? = some base) :
    ∃ name, relation.names = [name] ∧ baseName name = some base := by
  cases relation with
  | table name details label hints => exact ⟨name, rfl, table⟩
  | _ => cases table

private theorem mem_tableNames_iff {stmt : Update} {base : String} :
    base ∈ stmt.tableNames ↔ ∃ name ∈ stmt.seen, baseName name = some base := by
  simp only [tableNames, seen, List.mem_filterMap, List.mem_flatMap]
  constructor
  · rintro ⟨relation, mem, table⟩
    obtain ⟨name, names, named⟩ := names_of_tableName? table
    exact ⟨name, ⟨relation, mem, by simp [table, names]⟩, named⟩
  · rintro ⟨name, ⟨relation, mem, inside⟩, named⟩
    refine ⟨relation, mem, ?_⟩
    cases table : relation.tableName? with
    | none => simp [table] at inside
    | some other =>
      obtain ⟨only, names, based⟩ := names_of_tableName? table
      obtain rfl : name = only := by simpa [table, names] using inside
      exact based.symm.trans named

private theorem exists_baseName_of_mem_seen {stmt : Update} {name : List Ident}
    (mem : name ∈ stmt.seen) :
    ∃ base, baseName name = some base := by
  obtain ⟨relation, -, inside⟩ := List.mem_flatMap.mp mem
  cases table : relation.tableName? with
  | none => simp [table] at inside
  | some base =>
    obtain ⟨only, names, based⟩ := names_of_tableName? table
    obtain rfl : name = only := by simpa [table, names] using inside
    exact ⟨base, based⟩

end Sql.Update

namespace AuditConfig

variable {config : AuditConfig} {time : Timestamp}

/-- Some pattern describes the base name of a table, from its first to its last character. -/
def Ignores (config : AuditConfig) (name : List Ident) : Prop :=
  ∃ base, baseName name = some base ∧ ∃ pattern ∈ config.ignored.patterns, pattern.Describes base

/-- Some pattern matches the base name of a table. -/
def Skips (config : AuditConfig) (name : List Ident) : Prop :=
  ∃ base, baseName name = some base ∧ config.isExempt base = true

/-- An UPDATE names tables, and all of them are ignored. -/
def IgnoresAll (config : AuditConfig) (stmt : Sql.Update) : Prop :=
  stmt.table.names ≠ [] ∧ ∀ name ∈ stmt.table.names, config.Ignores name

def Exempts (config : AuditConfig) (time : Timestamp) (stmt : Sql.Update) : Prop :=
  ∃ log, Stamp.stampUpdate config time (.update stmt) = .ok (.exempt log)

private theorem exempts_iff_isAudited {stmt : Sql.Update} :
    config.Exempts time stmt ↔ Stamp.isAudited config .update (.update stmt) = .ok false :=
  @Stamp.exempt_iff config .update time (.update stmt)

/-- An UPDATE is left alone where every relation that is a table by itself is skipped. -/
theorem exempts_iff_skips {stmt : Sql.Update} :
    config.Exempts time stmt ↔ ∀ name ∈ stmt.seen, config.Skips name := by
  rw [exempts_iff_isAudited, Stamp.isAudited, Except.ok.injEq, Stamp.touchesAudited,
    List.any_eq_false]
  simp only [Bool.not_eq_true', Bool.not_eq_false, Sql.Update.mem_tableNames_iff]
  constructor
  · intro all name mem
    obtain ⟨base, based⟩ := Sql.Update.exists_baseName_of_mem_seen mem
    exact ⟨base, based, all base ⟨name, mem, based⟩⟩
  · rintro all base ⟨name, mem, based⟩
    obtain ⟨other, based', found⟩ := all name mem
    obtain rfl : base = other := Option.some.inj (based.symm.trans based')
    exact found

private theorem skips_iff_ignores (expressions : config.ignored.OfExpressions) (name : List Ident) :
    config.Skips name ↔ config.Ignores name :=
  exists_congr fun base => and_congr_right fun _ => expressions.matchesName_iff base

private theorem exempts_iff_ignores (expressions : config.ignored.OfExpressions)
    {stmt : Sql.Update} :
    config.Exempts time stmt ↔ ∀ name ∈ stmt.seen, config.Ignores name := by
  simp only [exempts_iff_skips, skips_iff_ignores expressions]

private theorem prepareAt_update_unchanged_iff {sql : String} {stmt : Sql.Update}
    (parsed : parseStatement config.dialect sql = .ok (.update stmt)) :
    (config.prepareAt .update sql time).result = .ok .unchanged ↔ config.Exempts time stmt := by
  have given : StatementKind.update ≠ .other := nofun
  rw [prepareAt_unchanged_iff, leavesAlone_iff given, exempts_iff_isAudited]
  simp [parsed]

private theorem not_skips_of_empty (empty : config.ignored.patterns = []) (name : List Ident) :
    ¬config.Skips name := by
  rintro ⟨base, -, matched⟩
  simp [isExempt, IgnoreList.matchesName, empty] at matched

private theorem not_ignores_of_empty (empty : config.ignored.patterns = []) (name : List Ident) :
    ¬config.Ignores name := by
  rintro ⟨base, -, pattern, mem, -⟩
  simp [empty] at mem

/-- An UPDATE is left alone where the tables that are seen are skipped.  Where the patterns are
expressions these are the tables that are ignored, and then all of its tables are ignored only where
it names any and those that are overlooked are ignored as well.  Without patterns it is left alone
where no relation is a table by itself, and otherwise it is stamped or rejected. -/
theorem update_exemption (config : AuditConfig) (time : Timestamp) :
    (∀ stmt : Sql.Update,
      (config.Exempts time stmt ↔ ∀ name ∈ stmt.seen, config.Skips name) ∧
      (config.ignored.OfExpressions →
        (config.Exempts time stmt ↔ ∀ name ∈ stmt.seen, config.Ignores name) ∧
        (config.Exempts time stmt → (config.IgnoresAll stmt ↔
          stmt.table.names ≠ [] ∧ ∀ name ∈ stmt.overlooked, config.Ignores name)))) ∧
    ∀ sql stmt, parseStatement config.dialect sql = .ok (.update stmt) →
      ((config.prepareAt .update sql time).result = .ok .unchanged ↔
        config.Exempts time stmt) ∧
      (config.ignored.patterns = [] →
        ((config.prepareAt .update sql time).result = .ok .unchanged ↔ stmt.seen = [])) := by
  refine ⟨fun stmt => ⟨exempts_iff_skips, fun expressions => ?_⟩, fun sql stmt parsed =>
    ⟨prepareAt_update_unchanged_iff parsed, fun empty => ?_⟩⟩
  · refine ⟨exempts_iff_ignores expressions, fun exempt => ?_⟩
    have seen := (exempts_iff_ignores expressions).mp exempt
    simp only [IgnoresAll, Sql.Update.mem_names_iff, or_imp, forall_and, and_iff_right seen]
  · rw [prepareAt_update_unchanged_iff parsed, exempts_iff_skips, List.eq_nil_iff_forall_not_mem]
    exact forall₂_congr fun name mem => iff_false_intro (not_skips_of_empty empty name)

def ignoring (pattern : String) : AuditConfig :=
  { standard with ignored := (IgnoreList.ofPatterns [pattern]).toOption.getD .empty }

def updates (tables : List String) : Sql.Statement → Bool
  | .update stmt => stmt.table.names = tables.map fun table => [.plain table]
  | _ => false

private theorem exists_update_of_updates {sql : String} {tables : List String}
    (read : (parseStatement .generic sql).toOption.any (updates tables) = true) :
    ∃ stmt, parseStatement .generic sql = .ok (.update stmt) ∧
      stmt.table.names = tables.map fun table => [.plain table] := by
  obtain ⟨statement, read, named⟩ := Option.any_eq_true .. |>.mp read
  cases statement with
  | update stmt => exact ⟨stmt, Regex.toOption_eq_some_iff.mp read, of_decide_eq_true named⟩
  | _ => cases named

theorem update_exemption_ignoring :
    ((ignoring "log_.*").ignored.OfExpressions ∧ ∀ stmt : Sql.Update,
      ((ignoring "log_.*").Exempts .plain stmt ↔
        ∀ name ∈ stmt.seen, (ignoring "log_.*").Ignores name) ∧
      ((ignoring "log_.*").Exempts .plain stmt → ((ignoring "log_.*").IgnoresAll stmt ↔
        stmt.table.names ≠ [] ∧ ∀ name ∈ stmt.overlooked, (ignoring "log_.*").Ignores name))) ∧
    standard.ignored.patterns = [] ∧
    ∃ stmt, parseStatement .generic "UPDATE t SET a = 1" = .ok (.update stmt) ∧
      ((standard.prepareAt .update "UPDATE t SET a = 1" .plain).result = .ok .unchanged ↔
        stmt.seen = []) := by
  have built : IgnoreList.ofPatterns ["log_.*"] = .ok (ignoring "log_.*").ignored := by
    have accepted : (IgnoreList.ofPatterns ["log_.*"]).toOption.isSome = true := by
      decide +kernel
    obtain ⟨list, read⟩ := Option.isSome_iff_exists.mp accepted
    have same : (ignoring "log_.*").ignored = list := by
      simp only [ignoring, read, Option.getD_some]
    rw [same]
    exact Regex.toOption_eq_some_iff.mp read
  have valid : IsExpression (Text.trim "log_.*") := by
    have compiled : (Regex.compile (Text.trim "log_.*")).toOption.isSome = true := by
      decide +kernel
    obtain ⟨e, compiled⟩ := Option.isSome_iff_exists.mp compiled
    exact ⟨e, Regex.toOption_eq_some_iff.mp compiled⟩
  have expressions : (ignoring "log_.*").ignored.OfExpressions :=
    ⟨["log_.*"], built, by simpa using valid⟩
  obtain ⟨stmt, parsed, -⟩ := exists_update_of_updates
    (show (parseStatement .generic "UPDATE t SET a = 1").toOption.any (updates ["t"]) = true by
      decide +kernel)
  exact ⟨⟨expressions, fun stmt =>
    ((update_exemption (ignoring "log_.*") .plain).1 stmt).2 expressions⟩, rfl, stmt, parsed,
    ((update_exemption standard .plain).2 _ stmt parsed).2 rfl⟩

/-- Two tables that no pattern ignores, joined in parentheses, are updated without a stamp. -/
theorem parenthesized_update_unstamped :
    ∃ stmt, parseStatement .generic "UPDATE (a JOIN b ON a.id = b.id) SET a.x = 1" =
        .ok (.update stmt) ∧
      stmt.table.names = [[.plain "a"], [.plain "b"]] ∧ ¬standard.IgnoresAll stmt ∧
      standard.Exempts .plain stmt ∧
      (standard.prepareAt .update "UPDATE (a JOIN b ON a.id = b.id) SET a.x = 1" .plain).result =
        .ok .unchanged := by
  have left : (standard.prepareAt .update "UPDATE (a JOIN b ON a.id = b.id) SET a.x = 1"
      .plain).result = .ok .unchanged := by
    decide +kernel
  obtain ⟨stmt, parsed, named⟩ := exists_update_of_updates
    (show (parseStatement .generic "UPDATE (a JOIN b ON a.id = b.id) SET a.x = 1").toOption.any
      (updates ["a", "b"]) = true by decide +kernel)
  have unchanged := @prepareAt_update_unchanged_iff standard .plain _ stmt parsed
  refine ⟨stmt, parsed, named, ?_, unchanged.mp left, left⟩
  rintro ⟨-, ignored⟩
  exact not_ignores_of_empty rfl [.plain "a"] (ignored _ (by simp [named]))

end AuditConfig

end RowStamp
