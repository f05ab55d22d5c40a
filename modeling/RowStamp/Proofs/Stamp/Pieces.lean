import RowStamp.Proofs.Stamp.InPlace
import RowStamp.Proofs.Stamp.Placement

/-!
The pieces of a statement, some of which stamping overwrites: the values at the last places of the
audit columns in the rows of an INSERT, and the slot of the last naming of the modification column
in the set-list of an UPDATE.  The placeholders of these go and those of the others stay.
-/

set_option autoImplicit false
set_option relaxedAutoImplicit false

namespace RowStamp.Stamp

open Sql (Assignment Expr Ident Statement)

/-- An expression of a statement and whether stamping overwrites it. -/
structure Piece where
  value : Expr
  isOverwritten : Bool

namespace Piece

def placeholders (piece : Piece) : List String := piece.value.placeholders

/-- What a piece holds after a value is written over those that are overwritten. -/
def written (value : Expr) (piece : Piece) : Expr :=
  if piece.isOverwritten then value else piece.value

def flagged (flag : Nat → Bool) (es : List Expr) : List Piece :=
  es.zipIdx.map fun (e, j) => ⟨e, flag j⟩

def untouched (es : List Expr) : List Piece := flagged (fun _ => false) es

def left (pieces : List Piece) : List String :=
  (pieces.filter (!·.isOverwritten)).flatMap placeholders

def overwrittenCount : List Piece → Nat
  | [] => 0
  | piece :: rest =>
    (if piece.isOverwritten then piece.placeholders.length else 0) + overwrittenCount rest

@[simp] theorem left_append (first second : List Piece) :
    left (first ++ second) = left first ++ left second := by
  simp [left]

private theorem left_flatMap {α : Type} (pieces : α → List Piece) (parts : List α) :
    left (parts.flatMap pieces) = parts.flatMap fun part => left (pieces part) := by
  induction parts with
  | nil => rfl
  | cons part parts ih => simp [ih]

private theorem left_of_unflagged {pieces : List Piece}
    (none : ∀ piece ∈ pieces, piece.isOverwritten = false) :
    left pieces = pieces.flatMap placeholders := by
  rw [left, List.filter_eq_self.mpr]
  intro piece member
  simp [none piece member]

private theorem getElem?_flagged (flag : Nat → Bool) (es : List Expr) (j : Nat) :
    (flagged flag es)[j]? = es[j]?.map fun e => ⟨e, flag j⟩ := by
  rw [flagged, List.getElem?_map, List.getElem?_zipIdx, Option.map_map, Nat.zero_add]
  rfl

private theorem isOverwritten_of_mem_flagged {flag : Nat → Bool} {es : List Expr} {piece : Piece}
    (member : piece ∈ flagged flag es) : ∃ j, piece.isOverwritten = flag j := by
  obtain ⟨⟨e, j⟩, -, rfl⟩ := List.mem_map.mp member
  exact ⟨j, rfl⟩

@[simp] theorem flatMap_placeholders_flagged (flag : Nat → Bool) (es : List Expr) :
    (flagged flag es).flatMap placeholders = es.flatMap Expr.placeholders := by
  have values : (flagged flag es).map value = es := by
    rw [flagged, List.map_map]
    exact List.zipIdx_map_fst 0 es
  conv_rhs => rw [← values, List.flatMap_map]
  rfl

@[simp] theorem flatMap_placeholders_untouched (es : List Expr) :
    (untouched es).flatMap placeholders = es.flatMap Expr.placeholders :=
  flatMap_placeholders_flagged _ es

@[simp] theorem left_untouched (es : List Expr) :
    left (untouched es) = es.flatMap Expr.placeholders := by
  rw [left_of_unflagged, flatMap_placeholders_untouched]
  intro piece member
  obtain ⟨-, unflagged⟩ := isOverwritten_of_mem_flagged member
  exact unflagged

private theorem flatMap_placeholders_written {value : Expr} (closed : value.placeholders = [])
    (pieces : List Piece) :
    (pieces.map (written value)).flatMap Expr.placeholders = left pieces := by
  induction pieces with
  | nil => rfl
  | cons piece pieces ih =>
    rw [List.map_cons, List.flatMap_cons, ih]
    cases covered : piece.isOverwritten <;> simp [written, left, covered, closed, placeholders]

theorem length_left_add_overwrittenCount (pieces : List Piece) :
    (left pieces).length + overwrittenCount pieces = (pieces.flatMap placeholders).length := by
  induction pieces with
  | nil => rfl
  | cons piece pieces ih =>
    rw [List.flatMap_cons, List.length_append, ← ih]
    cases covered : piece.isOverwritten <;> simp [left, overwrittenCount, covered] <;> omega

end Piece

/-! ### Rows of values -/

private theorem lastAt_iff {known : List Ident} {column : String} {i : Nat} :
    LastAt known column i ↔ lastIndex? column known = some i := by
  constructor
  · intro last
    obtain ⟨ident, at_i, same⟩ := Option.map_eq_some_iff.mp last.here
    have present : (lastIndex? column known).isSome :=
      (isSome_lastIndex?_iff column known).mpr
        (List.mem_map.mpr ⟨ident, List.mem_of_getElem? at_i, same⟩)
    obtain ⟨j, found⟩ := Option.isSome_iff_exists.mp present
    rw [last.eq_of_lastIndex? found, found]
  · exact lastAt_of_lastIndex?

instance (known : List Ident) (column : String) (i : Nat) : Decidable (LastAt known column i) :=
  decidable_of_iff _ lastAt_iff.symm

/-- The values of a row, overwritten at the last place of each audit column. -/
def rowPieces (columns : AuditColumns) (known : List Ident) (row : List Expr) : List Piece :=
  Piece.flagged
    (fun j => decide (LastAt known columns.create j ∨ LastAt known columns.update j)) row

private theorem map_written_rowPieces (columns : AuditColumns) {known : List Ident}
    {row : List Expr} (same : row.length = known.length) (value : Expr) :
    (rowPieces columns known row).map (Piece.written value) =
      overwritten (slotFlags columns known) value row := by
  apply List.ext_getElem?
  intro j
  rw [overwritten, List.getElem?_zipWith, rowPieces, List.getElem?_map, Piece.getElem?_flagged]
  by_cases inside : j < row.length
  · have slot := isSlot_iff columns (same ▸ inside)
    rw [getElem?_slotFlags columns (same ▸ inside), List.getElem?_eq_getElem inside]
    simp [Piece.written, lastAt_iff, slot]
  · rw [List.getElem?_eq_none (Nat.le_of_not_lt inside)]
    cases (slotFlags columns known)[j]? <;> rfl

private theorem left_rowPieces (columns : AuditColumns) (time : Timestamp) {known : List Ident}
    {row : List Expr} (same : row.length = known.length) :
    Piece.left (rowPieces columns known row) =
      (stampBoth columns time known row).flatMap Expr.placeholders := by
  rw [flatMap_placeholders_stampBoth columns time known row same,
    ← map_written_rowPieces columns same,
    Piece.flatMap_placeholders_written (expr_placeholders time)]

/-! ### Set-lists -/

def AssignedSlot.place : AssignedSlot → Nat × Nat
  | whole i => (i, 0)
  | element i k => (i, k)

private theorem lastNamedAt_iff {column : String} {list : List Assignment} {i k : Nat} :
    LastNamedAt column list i k ↔
      (assignedSlot? column list).map AssignedSlot.place = some (i, k) := by
  rcases unassigned_or_splitAtLast column list with unassigned | ⟨before, last, after, l, split⟩
  · rw [assignedSlot?_of_unassigned unassigned]
    simp only [Option.map_none, reduceCtorEq, iff_false]
    exact fun named => unassigned_iff.mp unassigned i k named.here
  · have place : (slotAt before.length l last.target).place = (before.length, l) := by
      have inside := lt_of_lastName? split.found
      cases target : last.target with
      | column name =>
        obtain rfl : l = 0 := by simpa [target, Sql.Target.names] using inside
        rfl
      | tuple names => rfl
    rw [assignedSlot?_of_split split, Option.map_some, place, split.lastNamedAt_iff]
    simp [eq_comm]

instance (column : String) (list : List Assignment) (i k : Nat) :
    Decidable (LastNamedAt column list i k) :=
  decidable_of_iff _ lastNamedAt_iff.symm

/-- The values of an assignment: the elements of a tuple that is assigned to a tuple, else the
whole value. -/
def assignmentPieces (flag : Nat → Bool) (assignment : Assignment) : List Piece :=
  match assignment.target, assignment.value with
  | .tuple _, .tuple values => Piece.flagged flag values
  | _, value => Piece.flagged flag [value]

/-- The values of assignments, counted from a place, overwritten at the flagged places. -/
def assignmentsPieces (flag : Nat → Nat → Bool) (start : Nat) (list : List Assignment) :
    List Piece :=
  (list.zipIdx start).flatMap fun (a, i) => assignmentPieces (flag i) a

/-- The values of a set-list, overwritten where it names a column last. -/
def setPieces (column : String) (list : List Assignment) : List Piece :=
  assignmentsPieces (fun i k => decide (LastNamedAt column list i k)) 0 list

private theorem assignmentsPieces_cons (flag : Nat → Nat → Bool) (start : Nat)
    (assignment : Assignment)
    (list : List Assignment) : assignmentsPieces flag start (assignment :: list) =
      assignmentPieces (flag start) assignment ++ assignmentsPieces flag (start + 1) list := by
  rw [assignmentsPieces, List.zipIdx_cons, List.flatMap_cons, assignmentsPieces]

private theorem assignmentsPieces_append (flag : Nat → Nat → Bool) (start : Nat)
    (before after : List Assignment) : assignmentsPieces flag start (before ++ after) =
      assignmentsPieces flag start before ++
        assignmentsPieces flag (start + before.length) after := by
  rw [assignmentsPieces, List.zipIdx_append, List.flatMap_append, assignmentsPieces,
    assignmentsPieces]

private theorem flatMap_placeholders_assignmentPieces (flag : Nat → Bool)
    (assignment : Assignment) :
    (assignmentPieces flag assignment).flatMap Piece.placeholders =
      assignment.value.placeholders := by
  unfold assignmentPieces
  split
  · rename_i names values target value
    rw [value, Piece.flatMap_placeholders_flagged, Expr.placeholders_tuple]
  · rw [Piece.flatMap_placeholders_flagged, List.flatMap_singleton]

private theorem isOverwritten_of_mem_assignmentPieces {flag : Nat → Bool} {assignment : Assignment}
    {piece : Piece} (member : piece ∈ assignmentPieces flag assignment) :
    ∃ k, piece.isOverwritten = flag k := by
  unfold assignmentPieces at member
  split at member <;> exact Piece.isOverwritten_of_mem_flagged member

private theorem flatMap_placeholders_assignmentsPieces (flag : Nat → Nat → Bool) (start : Nat)
    (list : List Assignment) :
    (assignmentsPieces flag start list).flatMap Piece.placeholders =
      list.flatMap fun a => a.value.placeholders := by
  induction list generalizing start with
  | nil => rfl
  | cons a list ih =>
    rw [assignmentsPieces_cons, List.flatMap_append, ih, flatMap_placeholders_assignmentPieces,
      List.flatMap_cons]

private theorem left_assignmentsPieces {flag : Nat → Nat → Bool} {start : Nat}
    {list : List Assignment}
    (none : ∀ i k, start ≤ i → i < start + list.length → flag i k = false) :
    Piece.left (assignmentsPieces flag start list) =
      list.flatMap fun a => a.value.placeholders := by
  rw [Piece.left_of_unflagged, flatMap_placeholders_assignmentsPieces]
  intro piece member
  obtain ⟨⟨a, i⟩, counted, inside⟩ := List.mem_flatMap.mp member
  obtain ⟨k, same⟩ := isOverwritten_of_mem_assignmentPieces inside
  obtain ⟨behind, before, -⟩ := List.mem_zipIdx counted
  rw [same, none i k behind before]

private theorem left_assignmentPieces {value : Expr} (closed : value.placeholders = []) {k : Nat}
    {given written : Assignment} (slot : SlotWritten value k given written) {flag : Nat → Bool}
    (only : ∀ j, flag j = decide (j = k)) :
    Piece.left (assignmentPieces flag given) = written.value.placeholders := by
  cases slot with
  | whole name given =>
    simp [assignmentPieces, Piece.flagged, Piece.left, only, closed]
  | element names values k same inside =>
    have elements : (Piece.flagged flag values).map (Piece.written value) =
        values.set k value := by
      apply List.ext_getElem?
      intro j
      rw [List.getElem?_map, Piece.getElem?_flagged, List.getElem?_set, Option.map_map]
      by_cases here : k = j
      · subst here
        simp [Piece.written, only, inside]
      · cases values[j]? <;> simp [Piece.written, only, here, Ne.symm here]
    rw [assignmentPieces, ← Piece.flatMap_placeholders_written closed, elements,
      Expr.placeholders_tuple]

private theorem left_setPieces {column : String} {time : Timestamp} {list stamped : List Assignment}
    (ok : assignments column time list = .ok stamped) :
    Piece.left (setPieces column list) = stamped.flatMap fun a => a.value.placeholders := by
  rcases splitAtLast_cases ok with
    ⟨unassigned, rfl⟩ | ⟨before, last, after, k, written, split, replaced, rfl⟩
  · have none : ∀ i k, ¬LastNamedAt column list i k :=
      fun i k named => unassigned_iff.mp unassigned i k named.here
    rw [setPieces, left_assignmentsPieces fun i k _ _ => decide_eq_false (none i k),
      List.flatMap_append]
    simp [newAssignment, expr_placeholders]
  · have slot := slotWritten_of_overwrite split.found replaced
    have here := left_assignmentPieces (expr_placeholders time) slot fun j => rfl
    -- nothing is overwritten before the last assignment to the column nor after it
    rw [setPieces]
    simp only [split.lastNamedAt_iff]
    rw [split.same, assignmentsPieces_append, assignmentsPieces_cons]
    simp only [Piece.left_append]
    rw [left_assignmentsPieces fun i j _ _ => by simp; omega,
      left_assignmentsPieces fun i j _ _ => by simp; omega]
    simp [here]

/-! ### Statements -/

def insertPieces (columns : AuditColumns) (stmt : Sql.Insert) : List Piece :=
  Piece.untouched stmt.partition ++
    (match stmt.source with
      | .query ⟨front, .values list, back⟩ =>
        Piece.untouched front ++ list.rows.flatMap (rowPieces columns stmt.columns) ++
          Piece.untouched back
      | _ => Piece.untouched stmt.sourceFragments) ++
    Piece.untouched stmt.onConflict ++ Piece.untouched stmt.returning

def updatePieces (columns : AuditColumns) (stmt : Sql.Update) : List Piece :=
  Piece.untouched stmt.table.fragments ++
    Piece.untouched (Sql.JoinedTables.listFragments stmt.fromBefore) ++
    setPieces columns.update stmt.assignments ++
    Piece.untouched (Sql.JoinedTables.listFragments stmt.fromAfter) ++
    Piece.untouched stmt.selection.toList ++ Piece.untouched stmt.returning ++
    Piece.untouched stmt.limit.toList

theorem flatMap_placeholders_insertPieces (columns : AuditColumns) (stmt : Sql.Insert) :
    (insertPieces columns stmt).flatMap Piece.placeholders =
      (Statement.insert stmt).placeholders := by
  have source : (match stmt.source with
      | .query ⟨front, .values list, back⟩ =>
        Piece.untouched front ++ list.rows.flatMap (rowPieces columns stmt.columns) ++
          Piece.untouched back
      | _ => Piece.untouched stmt.sourceFragments).flatMap Piece.placeholders =
        stmt.sourceFragments.flatMap Expr.placeholders := by
    split
    · rename_i front list back same
      simp [Sql.Insert.sourceFragments, same, Sql.QueryBody.fragments, List.flatMap_assoc,
        rowPieces]
    · exact Piece.flatMap_placeholders_untouched _
  rw [Sql.Insert.placeholders_eq, insertPieces]
  simp only [List.flatMap_append, Piece.flatMap_placeholders_untouched, source]

theorem left_insertPieces {columns : AuditColumns} {time : Timestamp} {stmt stamped : Sql.Insert}
    (ok : insert columns time stmt = .ok stamped) :
    Piece.left (insertPieces columns stmt) = (Statement.insert stamped).placeholders := by
  obtain ⟨front, list, back, shape, rfl⟩ := stampable_of_insert ok
  have rows : Piece.left (list.rows.flatMap (rowPieces columns stmt.columns)) =
      (list.rows.map (stampBoth columns time stmt.columns)).flatMap
        fun row => row.flatMap Expr.placeholders := by
    rw [Piece.left_flatMap, List.flatMap_map]
    exact List.flatMap_congr fun row member => left_rowPieces columns time (shape.even row member)
  rw [Sql.Insert.placeholders_eq, insertPieces]
  simp [withBoth, Sql.Insert.sourceFragments, shape.source, Sql.QueryBody.fragments, rows]

theorem flatMap_placeholders_updatePieces (columns : AuditColumns) (stmt : Sql.Update) :
    (updatePieces columns stmt).flatMap Piece.placeholders =
      (Statement.update stmt).placeholders := by
  rw [Sql.Update.placeholders_eq, updatePieces]
  simp only [List.flatMap_append, Piece.flatMap_placeholders_untouched, setPieces,
    flatMap_placeholders_assignmentsPieces]

theorem left_updatePieces {columns : AuditColumns} {time : Timestamp} {stmt stamped : Sql.Update}
    (ok : update columns time stmt = .ok stamped) :
    Piece.left (updatePieces columns stmt) = (Statement.update stamped).placeholders := by
  obtain ⟨list, done, rfl⟩ := update_eq_ok_iff.mp ok
  rw [Sql.Update.placeholders_eq, updatePieces]
  simp only [Piece.left_append, Piece.left_untouched, left_setPieces done]

end RowStamp.Stamp
