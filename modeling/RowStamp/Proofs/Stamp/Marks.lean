import RowStamp.Proofs.Sql.Placeholders

/-!
Marked positions.  A statement has one mark for each of its placeholders, set where stamping
overwrites the expression around it; what is kept of a list are the elements without a mark.
-/

set_option autoImplicit false
set_option relaxedAutoImplicit false

namespace RowStamp.Stamp

open Sql (Expr)

def kept {α : Type} : List Bool → List α → List α
  | mark :: marks, x :: xs => if mark then kept marks xs else x :: kept marks xs
  | _, _ => []

section Kept

variable {α β : Type}

@[simp] theorem kept_nil (marks : List Bool) : kept marks ([] : List α) = [] := by
  cases marks <;> rfl

@[simp] theorem kept_true_cons (marks : List Bool) (x : α) (xs : List α) :
    kept (true :: marks) (x :: xs) = kept marks xs := rfl

@[simp] theorem kept_false_cons (marks : List Bool) (x : α) (xs : List α) :
    kept (false :: marks) (x :: xs) = x :: kept marks xs := rfl

theorem kept_append (marks more : List Bool) (xs ys : List α) (same : marks.length = xs.length) :
    kept (marks ++ more) (xs ++ ys) = kept marks xs ++ kept more ys := by
  induction marks generalizing xs with
  | nil =>
    obtain rfl := List.length_eq_zero_iff.mp same.symm
    rfl
  | cons mark marks ih =>
    cases xs with
    | nil => simp at same
    | cons x xs =>
      have tail := ih xs (Nat.succ.inj same)
      cases mark <;> simp [tail]

theorem kept_flatMap {γ : Type} (marks : γ → List Bool) (values : γ → List α) (parts : List γ)
    (same : ∀ part ∈ parts, (marks part).length = (values part).length) :
    kept (parts.flatMap marks) (parts.flatMap values) =
      parts.flatMap fun part => kept (marks part) (values part) := by
  induction parts with
  | nil => rfl
  | cons part parts ih =>
    rw [List.flatMap_cons, List.flatMap_cons, List.flatMap_cons,
      kept_append _ _ _ _ (same part List.mem_cons_self),
      ih fun other member => same other (List.mem_cons_of_mem part member)]

theorem kept_map (marks : List Bool) (f : α → β) (xs : List α) :
    kept marks (xs.map f) = (kept marks xs).map f := by
  induction marks generalizing xs with
  | nil => cases xs <;> rfl
  | cons mark marks ih =>
    cases xs with
    | nil => rfl
    | cons x xs => cases mark <;> simp [ih]

theorem kept_zip (marks : List Bool) (xs : List α) (ys : List β) :
    kept marks (xs.zip ys) = (kept marks xs).zip (kept marks ys) := by
  induction marks generalizing xs ys with
  | nil => cases xs <;> cases ys <;> rfl
  | cons mark marks ih =>
    cases xs with
    | nil => simp
    | cons x xs =>
      cases ys with
      | nil => simp
      | cons y ys => cases mark <;> simp [ih]

theorem length_kept (marks : List Bool) (xs : List α) (same : marks.length = xs.length) :
    (kept marks xs).length = marks.count false := by
  induction marks generalizing xs with
  | nil => cases xs <;> rfl
  | cons mark marks ih =>
    cases xs with
    | nil => simp at same
    | cons x xs =>
      have tail := ih xs (Nat.succ.inj same)
      cases mark <;> simp [tail]

theorem filter_eq_kept (p : α → Bool) (xs : List α) :
    xs.filter (!p ·) = kept (xs.map p) xs := by
  induction xs with
  | nil => rfl
  | cons x xs ih => cases marked : p x <;> simp [marked, ih]

end Kept

/-! ### Marks of expressions -/

def exprMarks (mark : Bool) (e : Expr) : List Bool := e.placeholders.map fun _ => mark

def unmarked (es : List Expr) : List Bool := es.flatMap (exprMarks false)

def rowMarks (flags : List Bool) (row : List Expr) : List Bool :=
  (flags.zipWith exprMarks row).flatten

@[simp] theorem length_exprMarks (mark : Bool) (e : Expr) :
    (exprMarks mark e).length = e.placeholders.length := List.length_map _

@[simp] theorem kept_exprMarks_true (e : Expr) : kept (exprMarks true e) e.placeholders = [] := by
  unfold exprMarks
  induction e.placeholders with
  | nil => rfl
  | cons x xs ih => simpa using ih

@[simp] theorem kept_exprMarks_false (e : Expr) :
    kept (exprMarks false e) e.placeholders = e.placeholders := by
  unfold exprMarks
  induction e.placeholders with
  | nil => rfl
  | cons x xs ih => simpa using ih

@[simp] theorem length_unmarked (es : List Expr) :
    (unmarked es).length = (es.flatMap Expr.placeholders).length := by
  simp [unmarked, List.length_flatMap]

@[simp] theorem kept_unmarked (es : List Expr) :
    kept (unmarked es) (es.flatMap Expr.placeholders) = es.flatMap Expr.placeholders := by
  unfold unmarked
  rw [kept_flatMap _ _ _ fun e _ => length_exprMarks false e]
  simp

@[simp] theorem length_rowMarks (flags : List Bool) (row : List Expr)
    (same : flags.length = row.length) :
    (rowMarks flags row).length = (row.flatMap Expr.placeholders).length := by
  induction flags generalizing row with
  | nil =>
    obtain rfl := List.length_eq_zero_iff.mp same.symm
    rfl
  | cons flag flags ih =>
    cases row with
    | nil => simp at same
    | cons e row =>
      have tail := ih row (Nat.succ.inj same)
      simpa [rowMarks] using tail

/-! ### Overwriting -/

def overwritten (flags : List Bool) (value : Expr) (row : List Expr) : List Expr :=
  flags.zipWith (fun flag e => if flag then value else e) row

@[simp] theorem length_overwritten (flags : List Bool) (value : Expr) (row : List Expr)
    (same : flags.length = row.length) : (overwritten flags value row).length = row.length := by
  simp [overwritten, same]

theorem flatMap_placeholders_overwritten (flags : List Bool) (value : Expr) (row : List Expr)
    (closed : value.placeholders = []) (same : flags.length = row.length) :
    (overwritten flags value row).flatMap Expr.placeholders =
      kept (rowMarks flags row) (row.flatMap Expr.placeholders) := by
  induction flags generalizing row with
  | nil =>
    obtain rfl := List.length_eq_zero_iff.mp same.symm
    rfl
  | cons flag flags ih =>
    cases row with
    | nil => simp at same
    | cons e row =>
      have tail := ih row (Nat.succ.inj same)
      have split : kept (rowMarks (flag :: flags) (e :: row))
          ((e :: row).flatMap Expr.placeholders) =
            kept (exprMarks flag e) e.placeholders ++
              kept (rowMarks flags row) (row.flatMap Expr.placeholders) :=
        kept_append _ _ _ _ (length_exprMarks flag e)
      rw [split, ← tail]
      cases flag <;> simp [overwritten, closed]

end RowStamp.Stamp
