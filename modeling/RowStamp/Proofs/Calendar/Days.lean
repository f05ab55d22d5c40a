import Mathlib.Data.Nat.Init
import RowStamp.Calendar

/-!
Days are numbered in the order of the calendar: by year, then by month, then by their place in the
month.
-/

set_option autoImplicit false
set_option relaxedAutoImplicit false

namespace RowStamp.Date

/-! ### Months in a year -/

private theorem daysBeforeMonth_succ (year : Int) {month : Nat} (first : 1 ≤ month) :
    daysBeforeMonth year (month + 1) = daysBeforeMonth year month + monthLength year month := by
  obtain ⟨before, rfl⟩ := Nat.exists_eq_add_of_le' first
  simp only [daysBeforeMonth, Nat.add_sub_cancel, List.range'_concat, List.map_append,
    List.foldl_append, List.map_cons, List.map_nil, List.foldl_cons, List.foldl_nil]
  rw [Nat.one_mul, Nat.add_comm 1 before]

private theorem daysBeforeMonth_le (year : Int) {month later : Nat} (first : 1 ≤ month)
    (before : month < later) :
    daysBeforeMonth year month + monthLength year month ≤ daysBeforeMonth year later := by
  rw [← daysBeforeMonth_succ year first]
  induction later, before using Nat.le_induction with
  | base => exact Nat.le_refl _
  | succ later before ih =>
    have onward := daysBeforeMonth_succ year (show 1 ≤ later by omega)
    omega

private theorem month_le_of_monthLength {year : Int} {month : Nat}
    (some' : 0 < monthLength year month) :
    1 ≤ month ∧ month ≤ 12 := by
  unfold monthLength at some'
  split at some' <;> omega

/-! ### Years -/

def yearLength (year : Int) : Nat := if isLeap year then 366 else 365

private theorem daysBeforeMonth_thirteen (year : Int) :
    daysBeforeMonth year 13 = yearLength year := by
  unfold yearLength
  cases leap : isLeap year <;> simp [daysBeforeMonth, List.range', monthLength, leap]

theorem daysBeforeYear_succ (year : Int) :
    daysBeforeYear (year + 1) = daysBeforeYear year + yearLength year := by
  unfold daysBeforeYear yearLength
  split
  · rename_i leap
    simp only [isLeap, Bool.and_eq_true, Bool.or_eq_true, decide_eq_true_eq] at leap
    omega
  · rename_i common
    simp only [isLeap, Bool.and_eq_true, Bool.or_eq_true, decide_eq_true_eq] at common
    omega

private theorem daysBeforeYear_le {year later : Int} (before : year < later) :
    daysBeforeYear year + yearLength year ≤ daysBeforeYear later := by
  rw [← daysBeforeYear_succ]
  unfold daysBeforeYear
  omega

/-! ### Days -/

/-- A day that exists, in any year. -/
structure Exists (date : Date) : Prop where
  first : 1 ≤ date.day
  last : date.day ≤ monthLength date.year date.month

variable {a b : Date}

theorem exists_of_isValid (valid : a.isValid = true) : a.Exists := by
  simp only [isValid, Bool.and_eq_true, decide_eq_true_eq] at valid
  exact ⟨valid.1.2, valid.2⟩

namespace Exists

theorem month (known : a.Exists) : 1 ≤ a.month ∧ a.month ≤ 12 :=
  month_le_of_monthLength (Nat.lt_of_lt_of_le known.first known.last)

theorem day_le (known : a.Exists) : a.day ≤ 31 := by
  refine Nat.le_trans known.last ?_
  unfold monthLength
  split
  · split <;> decide
  all_goals decide

private theorem place_le (known : a.Exists) :
    daysBeforeMonth a.year a.month + a.day ≤ yearLength a.year := by
  obtain ⟨first, last⟩ := known.month
  have within := daysBeforeMonth_le a.year first (Nat.lt_succ_of_le last)
  rw [daysBeforeMonth_thirteen] at within
  have day := known.last
  omega

end Exists

/-- A day comes before another in the calendar. -/
def Before (a b : Date) : Prop :=
  a.year < b.year ∨ a.year = b.year ∧ (a.month < b.month ∨ a.month = b.month ∧ a.day < b.day)

private theorem Before.dayNumber_lt (before : a.Before b) (left : a.Exists) (right : b.Exists) :
    a.dayNumber < b.dayNumber := by
  unfold dayNumber
  rcases before with year | ⟨year, month | ⟨month, day⟩⟩
  · have within := left.place_le
    have onward := daysBeforeYear_le year
    have first := right.first
    omega
  · have within := left.last
    have onward := daysBeforeMonth_le a.year left.month.1 month
    have first := right.first
    rw [← year]
    omega
  · rw [← year, ← month]
    omega

private theorem before_or_eq_or_before (a b : Date) : a.Before b ∨ a = b ∨ b.Before a := by
  obtain ⟨year, month, day⟩ := a
  obtain ⟨year', month', day'⟩ := b
  simp only [Before, mk.injEq]
  omega

theorem dayNumber_lt_iff (left : a.Exists) (right : b.Exists) :
    a.dayNumber < b.dayNumber ↔ a.Before b := by
  refine ⟨fun below => ?_, fun before => before.dayNumber_lt left right⟩
  rcases before_or_eq_or_before a b with before | rfl | after
  · exact before
  · exact absurd below (Int.lt_irrefl _)
  · exact absurd (after.dayNumber_lt right left) (Int.lt_asymm below)

theorem dayNumber_inj (left : a.Exists) (right : b.Exists) :
    a.dayNumber = b.dayNumber ↔ a = b := by
  refine ⟨fun same => ?_, fun same => same ▸ rfl⟩
  rcases before_or_eq_or_before a b with before | same' | after
  · exact absurd same (Int.ne_of_lt (before.dayNumber_lt left right))
  · exact same'
  · exact absurd same.symm (Int.ne_of_lt (after.dayNumber_lt right left))

end RowStamp.Date
