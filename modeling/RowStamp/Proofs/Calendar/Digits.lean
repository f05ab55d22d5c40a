import Mathlib.Algebra.Group.Nat.Defs
import RowStamp.Calendar

/-!
Numbers written with zeros in front.  They tell their numbers apart, and texts of one length are
ordered as their numbers are; so a text of such fields is ordered by its first field, and by what
follows where that is the same.
-/

set_option autoImplicit false
set_option relaxedAutoImplicit false

namespace RowStamp

/-! ### Texts that start with parts of one length -/

private theorem append_lt_append_iff {as bs cs ds : List Char} (same : as.length = bs.length) :
    as ++ cs < bs ++ ds ↔ as < bs ∨ as = bs ∧ cs < ds := by
  induction as generalizing bs with
  | nil =>
    obtain rfl : bs = [] := List.eq_nil_of_length_eq_zero same.symm
    simp
  | cons a as ih =>
    obtain _ | ⟨b, bs⟩ := bs
    · simp at same
    · have rest := ih (Nat.succ.inj same)
      rw [List.cons_append, List.cons_append, List.cons_lt_cons_iff, List.cons_lt_cons_iff, rest,
        List.cons.injEq, or_assoc, and_or_left, and_assoc]

/-! ### Digits -/

/-- Read after two numbers, digits of one length add to what the numbers were: the greater number
stays greater, and equal ones are told apart by the digits. -/
theorem ofDigitChars_lt_iff {as bs : List Char} (same : as.length = bs.length)
    (left : ∀ c ∈ as, c.isDigit = true) (right : ∀ c ∈ bs, c.isDigit = true) (m n : Nat) :
    Nat.ofDigitChars 10 as m < Nat.ofDigitChars 10 bs n ↔ m < n ∨ m = n ∧ as < bs := by
  induction as generalizing bs m n with
  | nil =>
    obtain rfl : bs = [] := List.eq_nil_of_length_eq_zero same.symm
    simp
  | cons a as ih =>
    obtain _ | ⟨b, bs⟩ := bs
    · simp at same
    · rw [List.forall_mem_cons, Char.isDigit_iff_toNat] at left right
      have rest := ih (Nat.succ.inj same) left.2 right.2
      have order : a < b ↔ a.toNat < b.toNat := UInt32.lt_iff_toNat_lt
      rw [Nat.ofDigitChars_cons, Nat.ofDigitChars_cons, rest, List.cons_lt_cons_iff, order,
        ← Char.toNat_inj]
      have zero : '0'.toNat = 48 := rfl
      have nine : '9'.toNat = 57 := rfl
      -- A digit adds less than ten, so it decides only where the numbers before it are the same.
      by_cases below : as < bs
      · simp only [below, and_true]
        omega
      · simp only [below, and_false, or_false]
        omega

namespace WallTime

theorem isDigit_padded (width n : Nat) : ∀ c ∈ padded width n, c.isDigit = true := by
  intro c member
  rcases List.mem_append.mp member with zero | digit
  · rw [(List.mem_replicate.mp zero).2]
    rfl
  · exact Nat.isDigit_of_mem_toDigits (by decide) (by decide) digit

theorem ofDigitChars_padded (width n : Nat) : Nat.ofDigitChars 10 (padded width n) 0 = n := by
  simp [padded, Nat.ofDigitChars_append, Nat.ofDigitChars_ten_toDigits]

theorem padded_inj {width m n : Nat} : padded width m = padded width n ↔ m = n := by
  refine ⟨fun same => ?_, fun same => same ▸ rfl⟩
  rw [← ofDigitChars_padded width m, same, ofDigitChars_padded]

theorem length_padded {width n : Nat} (some' : 0 < width) (fits : n < 10 ^ width) :
    (padded width n).length = width := by
  have short := (Nat.length_toDigits_le_iff (by decide) some').mpr fits
  simp only [padded, List.length_append, List.length_replicate]
  omega

theorem padded_lt_iff {width m n : Nat} (some' : 0 < width) (left : m < 10 ^ width)
    (right : n < 10 ^ width) : padded width m < padded width n ↔ m < n := by
  have same : (padded width m).length = (padded width n).length := by
    rw [length_padded some' left, length_padded some' right]
  have order := ofDigitChars_lt_iff same (isDigit_padded width m) (isDigit_padded width n) 0 0
  rw [ofDigitChars_padded, ofDigitChars_padded] at order
  simpa using order.symm

theorem padded_append_lt_iff {width m n : Nat} {cs ds : List Char} (some' : 0 < width)
    (left : m < 10 ^ width) (right : n < 10 ^ width) :
    padded width m ++ cs < padded width n ++ ds ↔ m < n ∨ m = n ∧ cs < ds := by
  have same : (padded width m).length = (padded width n).length := by
    rw [length_padded some' left, length_padded some' right]
  rw [append_lt_append_iff same, padded_lt_iff some' left right, padded_inj]

theorem padded_append_inj {width m n : Nat} {cs ds : List Char} (some' : 0 < width)
    (left : m < 10 ^ width) (right : n < 10 ^ width) :
    padded width m ++ cs = padded width n ++ ds ↔ m = n ∧ cs = ds := by
  have same : (padded width m).length = (padded width n).length := by
    rw [length_padded some' left, length_padded some' right]
  refine ⟨fun whole => ?_, fun ⟨number, rest⟩ => by rw [number, rest]⟩
  obtain ⟨digits, rest⟩ := List.append_inj whole same
  exact ⟨padded_inj.mp digits, rest⟩

end WallTime

end RowStamp
