import Mathlib.Logic.Basic
import RowStamp.Proofs.Phases
import RowStamp.Stamp.InPlace

/-!
Where a stamped UPDATE assigns the time: in the slot of the last naming of the modification column,
a whole value or an element of a tuple, or in one more assignment where nothing names the column.
-/

set_option autoImplicit false
set_option relaxedAutoImplicit false

namespace RowStamp.Stamp

open Sql (Assignment Expr Ident baseName)

/-! ### Namings of a column -/

/-- A set-list names a column in the assignment at a place, by an element of the target. -/
def NamedAt (column : String) (list : List Assignment) (i k : Nat) : Prop :=
  ∃ a name, list[i]? = some a ∧ a.target.names[k]? = some name ∧ baseName name = some column

/-- A set-list names a column at a place and, in reading order, at no later one. -/
structure LastNamedAt (column : String) (list : List Assignment) (i k : Nat) : Prop where
  here : NamedAt column list i k
  later : ∀ j l, NamedAt column list j l → j < i ∨ j = i ∧ l ≤ k

def namings (column : String) (list : List Assignment) : Nat :=
  (list.flatMap fun a => a.target.names).countP fun name => baseName name = some column

private theorem lastName?_eq_none_iff {column : String} {names : List (List Ident)} :
    lastName? column names = none ↔ ∀ name ∈ names, baseName name ≠ some column := by
  induction names with
  | nil => simp [lastName?]
  | cons name rest ih =>
    rw [List.forall_mem_cons, ← ih, lastName?]
    cases lastName? column rest <;> simp

private theorem le_of_lastName? {column : String} {names : List (List Ident)} {k l : Nat}
    {name : List Ident} (found : lastName? column names = some k) (at_l : names[l]? = some name)
    (same : baseName name = some column) : l ≤ k := by
  induction names generalizing k l with
  | nil => simp at at_l
  | cons first rest ih =>
    cases l with
    | zero => exact Nat.zero_le k
    | succ l =>
      rw [List.getElem?_cons_succ] at at_l
      cases later : lastName? column rest with
      | some m =>
        obtain rfl : m + 1 = k := by simpa [lastName?, later] using found
        exact Nat.succ_le_succ (ih later at_l)
      | none =>
        exact absurd same (lastName?_eq_none_iff.mp later name (List.mem_of_getElem? at_l))

private theorem assigns_eq (column : String) (target : Sql.Target) :
    assigns column target = (lastName? column target.names).isSome := by
  cases target with
  | column name =>
    by_cases same : baseName name = some column <;>
      simp [assigns, Sql.Target.names, lastName?, same]
  | tuple names => rfl

private theorem exists_lastName?_of_assigns {column : String} {target : Sql.Target}
    (named : assigns column target = true) : ∃ k, lastName? column target.names = some k :=
  Option.isSome_iff_exists.mp (assigns_eq column target ▸ named)

private theorem not_assigns_iff {column : String} {target : Sql.Target} :
    assigns column target = false ↔ ∀ name ∈ target.names, baseName name ≠ some column := by
  rw [assigns_eq, ← lastName?_eq_none_iff, Option.isSome_eq_false_iff, Option.isNone_iff_eq_none]

theorem unassigned_iff {column : String} {list : List Assignment} :
    (∀ a ∈ list, assigns column a.target = false) ↔ ∀ i k, ¬NamedAt column list i k := by
  simp only [not_assigns_iff]
  constructor
  · rintro unassigned i k ⟨a, name, at_i, at_k, same⟩
    exact unassigned a (List.mem_of_getElem? at_i) name (List.mem_of_getElem? at_k) same
  · intro unnamed a member name inside same
    obtain ⟨i, at_i⟩ := List.getElem?_of_mem member
    obtain ⟨k, at_k⟩ := List.getElem?_of_mem inside
    exact unnamed i k ⟨a, name, at_i, at_k, same⟩

private theorem unassigned_iff_namings {column : String} {list : List Assignment} :
    (∀ a ∈ list, assigns column a.target = false) ↔ namings column list = 0 := by
  simp only [not_assigns_iff, namings, List.countP_eq_zero, List.mem_flatMap, decide_eq_true_eq]
  constructor
  · rintro unassigned name ⟨a, member, inside⟩
    exact unassigned a member name inside
  · intro unnamed a member name inside
    exact unnamed name ⟨a, member, inside⟩

/-- A set-list is split at the last assignment to a column, which names the column last by its
`k`-th name. -/
structure SplitAtLast (column : String) (list before : List Assignment) (last : Assignment)
    (after : List Assignment) (k : Nat) : Prop where
  same : list = before ++ last :: after
  found : lastName? column last.target.names = some k
  later : ∀ a ∈ after, assigns column a.target = false

theorem unassigned_or_splitAtLast (column : String) (list : List Assignment) :
    (∀ a ∈ list, assigns column a.target = false) ∨
      ∃ before last after k, SplitAtLast column list before last after k := by
  rcases unassigned_or_split column list with unassigned | ⟨before, last, after, same, named, later⟩
  · exact .inl unassigned
  · obtain ⟨k, found⟩ := exists_lastName?_of_assigns named
    exact .inr ⟨before, last, after, k, same, found, later⟩

namespace SplitAtLast

variable {column : String} {list before : List Assignment} {last : Assignment}
  {after : List Assignment} {k : Nat}

theorem at_place (split : SplitAtLast column list before last after k) :
    list[before.length]? = some last := by
  simp [split.same]

theorem assignments_eq (split : SplitAtLast column list before last after k) (time : Timestamp) :
    assignments column time list =
      (overwrite column time last).map fun written => before ++ written :: after := by
  have named : assigns column last.target = true := by
    rw [assigns_eq, split.found, Option.isSome_some]
  rw [split.same, assignments_of_split time before named split.later]

theorem lastNamedAt (split : SplitAtLast column list before last after k) :
    LastNamedAt column list before.length k := by
  obtain ⟨rfl, found, later⟩ := split
  constructor
  · obtain ⟨name, at_k, same⟩ := Option.bind_eq_some_iff.mp (baseName_of_lastName? found)
    exact ⟨last, name, by simp, at_k, same⟩
  · rintro j l ⟨a, name, at_j, at_l, same⟩
    rcases Nat.lt_trichotomy j before.length with earlier | rfl | behind
    · exact .inl earlier
    · obtain rfl : last = a := by simpa using at_j
      exact .inr ⟨rfl, le_of_lastName? found at_l same⟩
    · -- behind the last assignment to the column there is no naming at all
      obtain ⟨m, rfl⟩ : ∃ m, j = before.length + 1 + m := ⟨j - (before.length + 1), by omega⟩
      have inAfter : a ∈ after := by
        rw [List.getElem?_append_right (by omega), Nat.add_assoc, Nat.add_sub_cancel_left,
          Nat.add_comm 1 m, List.getElem?_cons_succ] at at_j
        exact List.mem_of_getElem? at_j
      exact absurd same (not_assigns_iff.mp (later a inAfter) name (List.mem_of_getElem? at_l))

end SplitAtLast

/-- A stamped set-list has one more assignment where it did not name the column, and else the last
assignment to the column overwritten. -/
theorem splitAtLast_cases {column : String} {time : Timestamp} {list stamped : List Assignment}
    (ok : assignments column time list = .ok stamped) :
    ((∀ a ∈ list, assigns column a.target = false) ∧
        stamped = list ++ [newAssignment column time]) ∨
      ∃ before last after k written, SplitAtLast column list before last after k ∧
        overwrite column time last = .ok written ∧ stamped = before ++ written :: after := by
  rcases assignments_cases ok with
    appended | ⟨before, last, written, after, same, named, later, replaced, rfl⟩
  · exact .inl appended
  · obtain ⟨k, found⟩ := exists_lastName?_of_assigns named
    exact .inr ⟨before, last, after, k, written, ⟨same, found, later⟩, replaced, rfl⟩

theorem LastNamedAt.unique {column : String} {list : List Assignment} {i k j l : Nat}
    (first : LastNamedAt column list i k) (second : LastNamedAt column list j l) :
    i = j ∧ k = l := by
  have before := first.later j l second.here
  have behind := second.later i k first.here
  omega

theorem SplitAtLast.lastNamedAt_iff {column : String} {list before : List Assignment}
    {last : Assignment} {after : List Assignment} {i j k : Nat}
    (split : SplitAtLast column list before last after k) :
    LastNamedAt column list i j ↔ i = before.length ∧ j = k := by
  constructor
  · intro named
    exact named.unique split.lastNamedAt
  · rintro ⟨rfl, rfl⟩
    exact split.lastNamedAt

/-! ### The slot that is written -/

/-- An assignment before and after a value is written to the slot of an element of its target: the
whole value of a column, or the element at the same place of a tuple of as many values as names. -/
inductive SlotWritten (value : Expr) : Nat → Assignment → Assignment → Prop
  | whole (name : List Ident) (given : Expr) :
      SlotWritten value 0 ⟨.column name, given⟩ ⟨.column name, value⟩
  | element (names : List (List Ident)) (values : List Expr) (k : Nat)
      (same : values.length = names.length) (inside : k < values.length) :
      SlotWritten value k ⟨.tuple names, .tuple values⟩ ⟨.tuple names, .tuple (values.set k value)⟩

theorem SlotWritten.target {value : Expr} {k : Nat} {given written : Assignment}
    (slot : SlotWritten value k given written) : written.target = given.target := by
  cases slot <;> rfl

theorem slotWritten_of_overwrite {column : String} {time : Timestamp} {given written : Assignment}
    {k : Nat} (found : lastName? column given.target.names = some k)
    (ok : overwrite column time given = .ok written) :
    SlotWritten time.expr k given written := by
  obtain ⟨target, value⟩ := given
  rcases overwrite_cases ok with ⟨name, rfl, rfl⟩ | ⟨names, values, rfl, rfl, same, rfl⟩
  · have inside : k < [name].length := lt_of_lastName? found
    obtain rfl : k = 0 := by simpa using inside
    exact .whole name value
  · have inside : k < names.length := lt_of_lastName? found
    have place : lastName? column names = some k := found
    rw [place, Option.getD_some]
    exact .element names values k same (same ▸ inside)

/-! ### The stamped set-list -/

private theorem namings_eq_of_targets {column : String} {first second : List Assignment}
    (same : first.map Assignment.target = second.map Assignment.target) :
    namings column first = namings column second := by
  have names (list : List Assignment) : (list.flatMap fun a => a.target.names) =
      (list.map Assignment.target).flatMap Sql.Target.names := (List.flatMap_map ..).symm
  rw [namings, namings, names, names, same]

private theorem namings_append_new (column : String) (list : List Assignment) (update : String)
    (value : Expr) :
    namings column (list ++ [⟨.column [.plain update], value⟩]) =
      namings column list + if update = column then 1 else 0 := by
  simp [namings, Sql.Target.names, baseName, Ident.plain, List.countP_singleton]

/-- A stamped UPDATE has the time in the slot of the last naming of the modification column, or in
one more assignment where its set-list does not name the column; all else of it is as the user
wrote it.  No other column is named more often than before, and the modification column only where
it was not named. -/
theorem update_places_time {columns : AuditColumns} {time : Timestamp}
    {stmt stamped : Sql.Update} (ok : update columns time stmt = .ok stamped) :
    stamped = { stmt with assignments := stamped.assignments } ∧
      Xor
        (∃ i k given written,
          LastNamedAt columns.update stmt.assignments i k ∧
          stmt.assignments[i]? = some given ∧ SlotWritten time.expr k given written ∧
          stamped.assignments = stmt.assignments.set i written ∧
          stamped.assignments.map Assignment.target = stmt.assignments.map Assignment.target)
        ((∀ i k, ¬NamedAt columns.update stmt.assignments i k) ∧
          stamped.assignments =
            stmt.assignments ++ [⟨.column [.plain columns.update], time.expr⟩]) ∧
      (∀ column, column ≠ columns.update →
        namings column stamped.assignments = namings column stmt.assignments) ∧
      namings columns.update stamped.assignments =
        max 1 (namings columns.update stmt.assignments) := by
  obtain ⟨list, done, rfl⟩ := update_eq_ok_iff.mp ok
  refine ⟨rfl, ?_⟩
  dsimp only
  rcases splitAtLast_cases done with
    ⟨unassigned, rfl⟩ | ⟨before, last, after, k, written, split, replaced, rfl⟩
  · have unnamed := unassigned_iff.mp unassigned
    have none := unassigned_iff_namings.mp unassigned
    refine ⟨.inr ⟨⟨unnamed, rfl⟩, ?_⟩, ?_, ?_⟩
    · rintro ⟨i, k, -, -, last, -⟩
      exact unnamed i k last.here
    · intro column different
      rw [newAssignment, namings_append_new, if_neg (Ne.symm different), Nat.add_zero]
    · rw [newAssignment, namings_append_new, if_pos rfl, none]
      rfl
  · have place := split.lastNamedAt
    have slot := slotWritten_of_overwrite split.found replaced
    have targets : (before ++ written :: after).map Assignment.target =
        stmt.assignments.map Assignment.target := by
      simp [split.same, slot.target]
    refine ⟨.inl ⟨⟨before.length, k, last, written, place, split.at_place, slot,
      by simp [split.same], targets⟩, ?_⟩, ?_, ?_⟩
    · rintro ⟨unnamed, -⟩
      exact unnamed _ _ place.here
    · intro column _
      exact namings_eq_of_targets targets
    · have positive : namings columns.update stmt.assignments ≠ 0 := by
        intro none
        exact unassigned_iff.mp (unassigned_iff_namings.mpr none) _ _ place.here
      rw [namings_eq_of_targets targets]
      omega

/-- The modification column is assigned under a qualified name, and twice in a tuple. -/
def mixedUpdate : Sql.Update :=
  { Sql.plainUpdate [] none with
    assignments := [⟨.column [.plain "t", .plain "gmt_modified"], .placeholder "?"⟩,
      ⟨.tuple [[.plain "gmt_modified"], [.plain "t", .plain "gmt_modified"], [.plain "a"]],
        .tuple [.placeholder "?", .placeholder "?", .literal .null]⟩,
      ⟨.column [.plain "gmt_create"], .placeholder "?"⟩] }

def stampedMixed : Sql.Update :=
  { mixedUpdate with
    assignments := [⟨.column [.plain "t", .plain "gmt_modified"], .placeholder "?"⟩,
      ⟨.tuple [[.plain "gmt_modified"], [.plain "t", .plain "gmt_modified"], [.plain "a"]],
        .tuple [.placeholder "?", Timestamp.plain.expr, .literal .null]⟩,
      ⟨.column [.plain "gmt_create"], .placeholder "?"⟩] }

theorem update_places_time_mixed :
    update .standard .plain mixedUpdate = .ok stampedMixed ∧
      (∃ i k given written,
        LastNamedAt "gmt_modified" mixedUpdate.assignments i k ∧
        mixedUpdate.assignments[i]? = some given ∧
        SlotWritten Timestamp.plain.expr k given written ∧
        stampedMixed.assignments = mixedUpdate.assignments.set i written) ∧
      namings "gmt_modified" stampedMixed.assignments = 3 := by
  have ok : update .standard .plain mixedUpdate = .ok stampedMixed := by rfl
  obtain ⟨-, place, -, count⟩ := update_places_time ok
  rcases place with ⟨⟨i, k, given, written, last, at_i, slot, rest, -⟩, -⟩ | ⟨⟨unnamed, -⟩, -⟩
  · exact ⟨ok, ⟨i, k, given, written, last, at_i, slot, rest⟩, count⟩
  · exact absurd ⟨_, _, rfl, rfl, rfl⟩ (unnamed 0 0)

end RowStamp.Stamp
