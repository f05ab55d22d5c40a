import RowStamp.Proofs.Sql.Equality
import RowStamp.Proofs.Stamp.Assigned
import RowStamp.Sql.Grammar.Statements

/-!
Values of the modification column that outlive stamping.  A set-list may name the column several
times, once for each joined table say, and only the last naming gets the time, so that every naming
carries the time exactly where those before the last one carried it already.
-/

set_option autoImplicit false
set_option relaxedAutoImplicit false

namespace RowStamp.Stamp

open Sql (Assignment Expr Ident)

/-- An assignment gives a value to an element of its target: as the whole value of a column, or at
the same place of a tuple. -/
inductive Carries (value : Expr) : Nat → Assignment → Prop
  | whole (name : List Ident) : Carries value 0 ⟨.column name, value⟩
  | element (names : List (List Ident)) (values : List Expr) (k : Nat)
      (there : values[k]? = some value) : Carries value k ⟨.tuple names, .tuple values⟩

/-- The assignment at a place of a set-list gives a value to an element of its target. -/
def CarriedAt (value : Expr) (list : List Assignment) (i k : Nat) : Prop :=
  ∃ a, list[i]? = some a ∧ Carries value k a

variable {column : String} {value other : Expr} {given written : Assignment}
  {list : List Assignment} {i j k l : Nat}

/-! ### The slot that is written, and the others -/

private theorem SlotWritten.carries (slot : SlotWritten value k given written) :
    Carries value k written := by
  cases slot with
  | whole name given => exact .whole name
  | element names values k same inside => exact .element names _ k (by simp [inside])

private theorem SlotWritten.carries_other (slot : SlotWritten value k given written)
    (apart : l ≠ k) :
    Carries other l written ↔ Carries other l given := by
  cases slot with
  | whole name given =>
    constructor <;> rintro ⟨⟩ <;> exact absurd rfl apart
  | element names values k same inside =>
    have kept : (values.set k value)[l]? = values[l]? := List.getElem?_set_ne apart.symm
    constructor
    · rintro ⟨⟩
      exact .element names values l (kept ▸ ‹_›)
    · rintro ⟨⟩
      exact .element names _ l (kept.trans ‹_›)

private theorem SlotWritten.carriedAt (slot : SlotWritten value k given written)
    (before after : List Assignment) :
    CarriedAt value (before ++ written :: after) before.length k :=
  ⟨written, by simp, slot.carries⟩

private theorem SplitAtLast.carriedAt_other {before after : List Assignment} {last : Assignment}
    (split : SplitAtLast column list before last after k)
    (slot : SlotWritten value k last written) (apart : ¬(i = before.length ∧ l = k)) :
    CarriedAt other (before ++ written :: after) i l ↔ CarriedAt other list i l := by
  have replaced : before ++ written :: after = list.set before.length written := by
    simp [split.same]
  rw [replaced]
  by_cases same : i = before.length
  · subst same
    have inside : before.length < list.length := by simp [split.same]
    have other_slot : Carries other l written ↔ Carries other l last :=
      slot.carries_other fun equal => apart ⟨rfl, equal⟩
    simp only [CarriedAt, List.getElem?_set_self inside, split.at_place, Option.some.injEq,
      exists_eq_left', other_slot]
  · simp [CarriedAt, List.getElem?_set_ne (Ne.symm same)]

/-! ### Namings -/

private theorem namedAt_congr {first second : List Assignment}
    (same : first.map Assignment.target = second.map Assignment.target) :
    NamedAt column first i k ↔ NamedAt column second i k := by
  have at_place (list : List Assignment) : NamedAt column list i k ↔
      ∃ target name, (list.map Assignment.target)[i]? = some target ∧
        target.names[k]? = some name ∧ Sql.baseName name = some column := by
    simp only [NamedAt, List.getElem?_map, Option.map_eq_some_iff]
    constructor
    · rintro ⟨a, name, found, rest⟩
      exact ⟨_, name, ⟨a, found, rfl⟩, rest⟩
    · rintro ⟨_, name, ⟨a, found, rfl⟩, rest⟩
      exact ⟨a, name, found, rest⟩
  rw [at_place, at_place, same]

private theorem lastNamedAt_congr {first second : List Assignment}
    (same : first.map Assignment.target = second.map Assignment.target) :
    LastNamedAt column first i k ↔ LastNamedAt column second i k := by
  have named {i k : Nat} : NamedAt column first i k ↔ NamedAt column second i k :=
    namedAt_congr same
  constructor <;> rintro ⟨here, later⟩
  · exact ⟨named.mp here, fun j l there => later j l (named.mpr there)⟩
  · exact ⟨named.mpr here, fun j l there => later j l (named.mp there)⟩

private theorem namedAt_append_new (time : Timestamp)
    (unassigned : ∀ a ∈ list, assigns column a.target = false) :
    NamedAt column (list ++ [newAssignment column time]) i k ↔ i = list.length ∧ k = 0 := by
  constructor
  · rintro ⟨a, name, at_i, at_k, same⟩
    rcases Nat.lt_trichotomy i list.length with earlier | rfl | behind
    · rw [List.getElem?_append_left earlier] at at_i
      exact absurd ⟨a, name, at_i, at_k, same⟩ (unassigned_iff.mp unassigned i k)
    · obtain rfl : newAssignment column time = a := by simpa using at_i
      have inside : k < 1 := List.getElem?_eq_some_iff.mp at_k |>.1
      exact ⟨rfl, by omega⟩
    · have outside : (list ++ [newAssignment column time]).length ≤ i := by
        simpa using Nat.succ_le_of_lt behind
      rw [List.getElem?_eq_none outside] at at_i
      cases at_i
  · rintro ⟨rfl, rfl⟩
    exact ⟨newAssignment column time, [.plain column], by simp, rfl, rfl⟩

/-! ### Stamped set-lists -/

/-- After stamping every naming of the modification column carries the time exactly where each
naming before the last one carried it already.  The last one always carries it, and each of the
others carries what it was given. -/
theorem every_naming_carries_time_iff {columns : AuditColumns} {time : Timestamp}
    {stmt stamped : Sql.Update} (ok : update columns time stmt = .ok stamped) :
    ((∀ i k, NamedAt columns.update stamped.assignments i k →
        CarriedAt time.expr stamped.assignments i k) ↔
      ∀ i k, NamedAt columns.update stmt.assignments i k →
        ¬LastNamedAt columns.update stmt.assignments i k →
          CarriedAt time.expr stmt.assignments i k) ∧
    (∀ i k, LastNamedAt columns.update stamped.assignments i k →
      CarriedAt time.expr stamped.assignments i k) ∧
    ∀ i k value, NamedAt columns.update stmt.assignments i k →
      ¬LastNamedAt columns.update stmt.assignments i k →
        (CarriedAt value stamped.assignments i k ↔ CarriedAt value stmt.assignments i k) := by
  obtain ⟨list, done, rfl⟩ := update_eq_ok_iff.mp ok
  dsimp only
  rcases splitAtLast_cases done with
    ⟨unassigned, rfl⟩ | ⟨before, last, after, k, written, split, replaced, rfl⟩
  · have unnamed := unassigned_iff.mp unassigned
    have carried {i k : Nat} (named : NamedAt columns.update
        (stmt.assignments ++ [newAssignment columns.update time]) i k) :
        CarriedAt time.expr (stmt.assignments ++ [newAssignment columns.update time]) i k := by
      obtain ⟨rfl, rfl⟩ := (namedAt_append_new time unassigned).mp named
      exact ⟨newAssignment columns.update time, by simp, .whole _⟩
    refine ⟨⟨?_, fun _ i k named => carried named⟩, fun i k last => carried last.here, ?_⟩
    · intro _ i k named
      exact absurd named (unnamed i k)
    · intro i k value named
      exact absurd named (unnamed i k)
  · have slot := slotWritten_of_overwrite split.found replaced
    have targets : (before ++ written :: after).map Assignment.target =
        stmt.assignments.map Assignment.target := by
      simp [split.same, slot.target]
    have kept {i l : Nat} (value : Expr) (earlier : ¬LastNamedAt columns.update stmt.assignments i l) :
        CarriedAt value (before ++ written :: after) i l ↔ CarriedAt value stmt.assignments i l :=
      split.carriedAt_other slot (mt split.lastNamedAt_iff.mpr earlier)
    refine ⟨⟨?_, ?_⟩, ?_, fun i l value _ earlier => kept value earlier⟩
    · intro all i l named earlier
      exact (kept _ earlier).mp (all i l ((namedAt_congr targets).mpr named))
    · intro others i l named
      have named' := (namedAt_congr targets).mp named
      by_cases isLast : LastNamedAt columns.update stmt.assignments i l
      · obtain ⟨rfl, rfl⟩ := split.lastNamedAt_iff.mp isLast
        exact slot.carriedAt before after
      · exact (kept _ isLast).mpr (others i l named' isLast)
    · intro i l isLast
      obtain ⟨rfl, rfl⟩ := split.lastNamedAt_iff.mp ((lastNamedAt_congr targets).mp isLast)
      exact slot.carriedAt before after

/-- The three namings of a set-list, of which only the last is stamped. -/
theorem every_naming_carries_time_iff_mixed :
    update .standard .plain mixedUpdate = .ok stampedMixed ∧
      (NamedAt "gmt_modified" mixedUpdate.assignments 0 0 ∧
        ¬LastNamedAt "gmt_modified" mixedUpdate.assignments 0 0) ∧
      (CarriedAt (.placeholder "?") stampedMixed.assignments 0 0 ↔
        CarriedAt (.placeholder "?") mixedUpdate.assignments 0 0) ∧
      ¬∀ i k, NamedAt "gmt_modified" stampedMixed.assignments i k →
        CarriedAt Timestamp.plain.expr stampedMixed.assignments i k := by
  have ok : update .standard .plain mixedUpdate = .ok stampedMixed := by rfl
  have first : NamedAt "gmt_modified" mixedUpdate.assignments 0 0 := ⟨_, _, rfl, rfl, rfl⟩
  have second : NamedAt "gmt_modified" mixedUpdate.assignments 1 0 := ⟨_, _, rfl, rfl, rfl⟩
  have earlier : ¬LastNamedAt "gmt_modified" mixedUpdate.assignments 0 0 := fun last => by
    have := last.later 1 0 second
    omega
  obtain ⟨all, -, kept⟩ := every_naming_carries_time_iff ok
  refine ⟨ok, ⟨first, earlier⟩, kept 0 0 _ first earlier, fun carried => ?_⟩
  obtain ⟨a, found, there⟩ := all.mp carried 0 0 first earlier
  obtain rfl := Option.some.inj found
  cases there

def joinedAssignments : List Assignment :=
  [⟨.column [.plain "a", .plain "gmt_modified"], .placeholder "?"⟩,
   ⟨.column [.plain "b", .plain "gmt_modified"], .placeholder "?"⟩]

def setList? (d : Dialect) (sql : String) : Option (List Assignment) :=
  match parseStatement d sql with
  | .ok (.update stmt) => some stmt.assignments
  | _ => none

private theorem exists_of_setList? {d : Dialect} {sql : String} {list : List Assignment}
    (listed : setList? d sql = some list) :
    ∃ stmt, parseStatement d sql = .ok (.update stmt) ∧ stmt.assignments = list := by
  unfold setList? at listed
  split at listed
  next stmt parsed => exact ⟨stmt, parsed, Option.some.inj listed⟩
  next => cases listed

/-- Of two joined tables only the second gets the time: the placeholder of the first stays, without
a mapping, since the bind phase takes both for stamped. -/
theorem joined_update_keeps_given_time :
    ∃ stmt stamped,
      parseStatement .generic
          "UPDATE a JOIN b ON a.id = b.id SET a.gmt_modified = ?, b.gmt_modified = ?" =
        .ok (.update stmt) ∧
      update .standard .plain stmt = .ok stamped ∧
      NamedAt "gmt_modified" stamped.assignments 0 0 ∧
      ¬CarriedAt Timestamp.plain.expr stamped.assignments 0 0 ∧
      (AuditConfig.standard.prepareAt .update
          "UPDATE a JOIN b ON a.id = b.id SET a.gmt_modified = ?, b.gmt_modified = ?"
          .plain).result =
        .ok (.rewritten ("UPDATE a JOIN b ON a.id = b.id SET a.gmt_modified = ?, " ++
          "b.gmt_modified = '2024-05-06 07:08:09.010'")) ∧
      (AuditConfig.standard.reconcile .update
          ⟨"UPDATE a JOIN b ON a.id = b.id SET a.gmt_modified = ?, " ++
            "b.gmt_modified = '2024-05-06 07:08:09.010'",
            [⟨"gmtModified", none⟩, ⟨"gmtModified", none⟩]⟩).result =
        .ok (2, ⟨"UPDATE a JOIN b ON a.id = b.id SET a.gmt_modified = ?, " ++
          "b.gmt_modified = '2024-05-06 07:08:09.010'", []⟩) := by
  have listed : setList? .generic
      "UPDATE a JOIN b ON a.id = b.id SET a.gmt_modified = ?, b.gmt_modified = ?" =
        some joinedAssignments := by decide +kernel
  obtain ⟨stmt, parsed, given⟩ := exists_of_setList? listed
  refine ⟨stmt, _, parsed, update_eq_ok_iff.mpr ⟨_, by rw [given]; rfl, rfl⟩,
    ⟨_, _, rfl, rfl, rfl⟩, ?_, by decide +kernel, by decide +kernel⟩
  rintro ⟨a, found, carried⟩
  obtain rfl := Option.some.inj found
  cases carried

end RowStamp.Stamp
