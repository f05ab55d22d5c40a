import RowStamp.Proofs.Sql.Equality
import RowStamp.Proofs.Sql.SetLists
import RowStamp.Proofs.Stamp.Exemption

/-!
Stamping an UPDATE that assigns to columns in parentheses.  Two columns or more, to which as many
values in parentheses are assigned, are stamped in place; one column in parentheses is not, since
the parentheses around its value are not read as a tuple.
-/

set_option autoImplicit false
set_option relaxedAutoImplicit false

namespace RowStamp

open Sql (Expr Ident Statement)
open Sql.Grammar (AssignsTuple listForm)

def Sql.Update.setTuple (stmt : Sql.Update) (i : Nat) (names : List (List Ident))
    (values : List Expr) : Sql.Update :=
  { stmt with assignments := stmt.assignments.set i ⟨.tuple names, .tuple values⟩ }

namespace Stamp

variable {columns : AuditColumns} {time : Timestamp} {stmt : Sql.Update} {i k : Nat}
  {names : List (List Ident)} {values : List Expr}

private theorem update_of_tuple (last : LastNamedAt columns.update stmt.assignments i k)
    (found : stmt.assignments[i]? = some ⟨.tuple names, .tuple values⟩)
    (wide : values.length = names.length) :
    update columns time stmt = .ok (stmt.setTuple i names (values.set k time.expr)) := by
  rcases unassigned_or_splitAtLast columns.update stmt.assignments with
    unassigned | ⟨before, given, after, l, split⟩
  · exact absurd last.here (unassigned_iff.mp unassigned i k)
  · obtain ⟨rfl, rfl⟩ := last.unique split.lastNamedAt
    obtain rfl : given = ⟨.tuple names, .tuple values⟩ :=
      Option.some.inj (split.at_place.symm.trans found)
    have place : lastName? columns.update names = some k := split.found
    rw [update_eq_map (split.assignments_eq time)]
    simp [Sql.Update.setTuple, overwrite, place, wide, split.same, Except.map]

end Stamp

namespace AuditConfig

variable {config : AuditConfig} {sql : String} {stmt : Sql.Update}

private theorem prepareAt_update (time : Timestamp)
    (parsed : parseStatement config.dialect sql = .ok (.update stmt))
    (audited : ∃ table ∈ stmt.tableNames, config.isExempt table = false) :
    (config.prepareAt .update sql time).result =
      (Stamp.update config.columns time stmt).map fun stamped =>
        .rewritten (Statement.update stamped).text := by
  have touched : Stamp.touchesAudited config stmt.tableNames = true := by
    simpa [Stamp.touchesAudited] using audited
  have decided := @Stamp.stampStatement_update config time stmt
  rw [touched, if_pos rfl] at decided
  simp only [prepareAt, parsed, decided]
  cases Stamp.update config.columns time stmt <;> rfl

/-- Let an UPDATE name the modification column last in a tuple of columns to which as many values
in parentheses are assigned.  It is stamped exactly where there is not one column only, and then in
place: the last value of the modification column is the time, and nothing else has changed.  One
value in parentheses is read as that value, and the UPDATE is rejected for it. -/
theorem tuple_stamped_iff {i k : Nat} {names : List (List Ident)} {values : List Expr}
    (time : Timestamp) (parsed : parseStatement config.dialect sql = .ok (.update stmt))
    (audited : ∃ table ∈ stmt.tableNames, config.isExempt table = false)
    (listed : AssignsTuple config.dialect sql i names values)
    (last : Stamp.LastNamedAt config.columns.update stmt.assignments i k) :
    stmt.assignments[i]? = some ⟨.tuple names, listForm values⟩ ∧
      ((∃ text, (config.prepareAt .update sql time).result = .ok (.rewritten text)) ↔
        names.length ≠ 1) ∧
      (names.length ≠ 1 → (config.prepareAt .update sql time).result =
        .ok (.rewritten (Statement.update (stmt.setTuple i names (values.set k time.expr))).text)) ∧
      (names.length = 1 → ∃ value, values = [value] ∧
        (config.prepareAt .update sql time).result =
          .error (.tupleValue config.columns.update 1 (Expr.nested value).text)) := by
  have wide := listed.1
  have inside : i < stmt.assignments.length := by
    obtain ⟨a, name, at_i, -⟩ := last.here
    exact (List.getElem?_eq_some_iff.mp at_i).1
  have found := listed.getElem? (parseStatement_eq_ok_iff.mp parsed) inside
  have phase := prepareAt_update time parsed audited
  have several (more : names.length ≠ 1) : (config.prepareAt .update sql time).result =
      .ok (.rewritten (Statement.update (stmt.setTuple i names (values.set k time.expr))).text) := by
    have tuple : listForm values = .tuple values :=
      Sql.Grammar.listForm_of_length_ne_one (wide ▸ more)
    rw [phase, Stamp.update_of_tuple last (tuple ▸ found) wide]
    rfl
  have single (one : names.length = 1) : ∃ value, values = [value] ∧
      (config.prepareAt .update sql time).result =
        .error (.tupleValue config.columns.update 1 (Expr.nested value).text) := by
    obtain ⟨value, rfl⟩ := List.length_eq_one_iff.mp (wide.trans one)
    have rejected := Stamp.UpdateRejected.tuple i k names (.nested value) last found nofun
    refine ⟨value, rfl, ?_⟩
    rw [phase, rejected.error, one]
    rfl
  refine ⟨found, ⟨?_, fun more => ⟨_, several more⟩⟩, several, single⟩
  rintro ⟨text, rewritten⟩ one
  obtain ⟨value, -, failed⟩ := single one
  rw [failed] at rewritten
  cases rewritten

/-- The names and values of the first assignment of an UPDATE text, where it assigns as many values
in parentheses to names in parentheses and no other assignment or clause comes after it. -/
def onlyTuple? (d : Dialect) (sql : String) : Option (List (List Ident) × List Expr) :=
  match Sql.lexemes d sql with
  | .error _ => none
  | .ok lexs =>
    match Sql.Grammar.statementAhead lexs with
    | [] => none
    | word :: rest =>
      match Sql.Grammar.updateHead (Sql.Grammar.context d (Sql.Grammar.depthLimit - 1)) rest with
      | .error _ => none
      | .ok (_, tokens) =>
        match Sql.Grammar.tupleAssignment d (Sql.Grammar.depthLimit - 2) tokens with
        | .error _ => none
        | .ok (pair, left) =>
          if word.token.key = "UPDATE" ∧ Sql.significant left = [] ∧
              pair.2.length = pair.1.length then some pair
          else none

private theorem assignsTuple_of_onlyTuple? {d : Dialect} {names : List (List Ident)}
    {values : List Expr}
    (only : onlyTuple? d sql = some (names, values)) : AssignsTuple d sql 0 names values := by
  unfold onlyTuple? at only
  split at only
  next => cases only
  next lexs lexed =>
    split at only
    next => cases only
    next word rest front =>
      split at only
      next => cases only
      next head tokens headed =>
        split at only
        next => cases only
        next pair left read =>
          split_ifs at only with checked
          obtain ⟨isUpdate, ended, wide⟩ := checked
          obtain rfl := Option.some.inj only
          exact ⟨wide, tokens, tokens, left,
            ⟨lexs, word, rest, head, lexed, front, isUpdate, headed⟩, .first tokens, read,
            by simp [Sql.Grammar.EndsAssignment, ended]⟩

def pairUpdate : Sql.Update :=
  { Sql.plainUpdate [] none with
    assignments := [⟨.tuple [[.plain "a"], [.plain "gmt_modified"]],
      .tuple [.literal (.number "1" false), .placeholder "?"]⟩] }

def singleUpdate : Sql.Update :=
  { Sql.plainUpdate [] none with
    assignments := [⟨.tuple [[.plain "gmt_modified"]], .nested (.literal (.number "1" false))⟩] }

theorem tuple_stamped_iff_pair :
    parseStatement .generic "UPDATE t SET (a, gmt_modified) = (1, ?)" = .ok (.update pairUpdate) ∧
      ∃ text, (standard.prepareAt .update "UPDATE t SET (a, gmt_modified) = (1, ?)" .plain).result =
        .ok (.rewritten text) := by
  have parsed : parseStatement standard.dialect "UPDATE t SET (a, gmt_modified) = (1, ?)" =
      .ok (.update pairUpdate) := by
    decide +kernel
  have listed : AssignsTuple standard.dialect "UPDATE t SET (a, gmt_modified) = (1, ?)" 0
      [[.plain "a"], [.plain "gmt_modified"]] [.literal (.number "1" false), .placeholder "?"] :=
    assignsTuple_of_onlyTuple? (by decide +kernel)
  have split : Stamp.SplitAtLast standard.columns.update pairUpdate.assignments [] _ [] 1 :=
    ⟨rfl, rfl, nofun⟩
  have stamped := tuple_stamped_iff .plain parsed ⟨"t", by decide, rfl⟩ listed split.lastNamedAt
  exact ⟨parsed, stamped.2.1.mpr (by decide)⟩

/-- One column in parentheses gets one value in parentheses, as many as there are columns, and the
UPDATE is rejected for want of a tuple. -/
theorem single_column_in_parentheses_rejected :
    parseStatement .generic "UPDATE t SET (gmt_modified) = (1)" = .ok (.update singleUpdate) ∧
      AssignsTuple .generic "UPDATE t SET (gmt_modified) = (1)" 0 [[.plain "gmt_modified"]]
        [.literal (.number "1" false)] ∧
      Stamp.LastNamedAt "gmt_modified" singleUpdate.assignments 0 0 ∧
      "t" ∈ singleUpdate.tableNames ∧ standard.isExempt "t" = false ∧
      (standard.prepareAt .update "UPDATE t SET (gmt_modified) = (1)" .plain).result =
        .error (.tupleValue "gmt_modified" 1 "(1)") := by
  have split : Stamp.SplitAtLast "gmt_modified" singleUpdate.assignments [] _ [] 0 :=
    ⟨rfl, rfl, nofun⟩
  exact ⟨by decide +kernel, assignsTuple_of_onlyTuple? (by decide +kernel), split.lastNamedAt,
    by decide, rfl, by decide +kernel⟩

end AuditConfig

end RowStamp
