import Mathlib.Data.String.Basic
import RowStamp.Proofs.Calendar.Moments
import RowStamp.Proofs.Stamp.Simple

/-!
Written times.  Main statement: a written time tells the time to the millisecond; in four-digit
years the texts are in the order of the times; and between quotes a text is a string literal of
every dialect, of that text.
-/

set_option autoImplicit false
set_option relaxedAutoImplicit false

namespace RowStamp

namespace WallTime

variable {a b : WallTime}

/-! ### The year -/

/-- The years that are written without a sign. -/
def FourDigits (year : Int) : Prop := 0 ≤ year ∧ year ≤ 9999

instance (year : Int) : Decidable (FourDigits year) := inferInstanceAs (Decidable (_ ∧ _))

theorem yearText_unsigned {year : Int} (plain : FourDigits year) :
    yearText year = padded 4 year.natAbs := if_pos plain

theorem yearText_signed {year : Int} (signed : ¬FourDigits year) :
    yearText year = (if year < 0 then '-' else '+') :: padded 4 year.natAbs := if_neg signed

private theorem padded_ne_sign (width m : Nat) (year : Int) (cs : List Char) :
    padded width m ≠ (if year < 0 then '-' else '+') :: cs := by
  intro same
  have digit := isDigit_padded width m _ (same ▸ List.mem_cons_self)
  split at digit <;> cases digit

private theorem yearText_inj {y z : Int} : yearText y = yearText z ↔ y = z := by
  refine ⟨fun same => ?_, fun same => same ▸ rfl⟩
  by_cases left : FourDigits y <;> by_cases right : FourDigits z
  · rw [yearText_unsigned left, yearText_unsigned right, padded_inj] at same
    unfold FourDigits at left right
    omega
  · rw [yearText_unsigned left, yearText_signed right] at same
    exact absurd same (padded_ne_sign _ _ _ _)
  · rw [yearText_signed left, yearText_unsigned right] at same
    exact absurd same.symm (padded_ne_sign _ _ _ _)
  · rw [yearText_signed left, yearText_signed right, List.cons.injEq, padded_inj] at same
    obtain ⟨sign, number⟩ := same
    have negative : y < 0 ↔ z < 0 := by
      by_cases before : y < 0 <;> by_cases before' : z < 0 <;> simp [before, before'] at sign ⊢
    omega

/-! ### What follows the year -/

def writtenSecond (time : WallTime) : Nat := time.second + time.nanos / nanosPerSecond

def writtenMillis (time : WallTime) : Nat := time.nanos % nanosPerSecond / 1000000

def afterYear (time : WallTime) : List Char :=
  '-' :: (padded 2 time.date.month ++ '-' :: (padded 2 time.date.day ++
    ' ' :: (padded 2 time.hour ++ ':' :: (padded 2 time.minute ++
      ':' :: (padded 2 time.writtenSecond ++ '.' :: padded 3 time.writtenMillis)))))

theorem toList_text (time : WallTime) :
    time.text.toList = yearText time.date.year ++ time.afterYear := by
  simp [text, afterYear, writtenSecond, writtenMillis]

/-- The numbers after the year fit their widths. -/
structure Fits (time : WallTime) : Prop where
  month : time.date.month < 10 ^ 2
  day : time.date.day < 10 ^ 2
  hour : time.hour < 10 ^ 2
  minute : time.minute < 10 ^ 2
  second : time.writtenSecond < 10 ^ 2
  millis : time.writtenMillis < 10 ^ 3

theorem Exists.fits (known : a.Exists) : a.Fits := by
  have month := known.date.month
  have day := known.date.day_le
  have hour := known.hour
  have minute := known.minute
  have second := known.second
  have nanos := known.nanos
  constructor
  case second =>
    unfold writtenSecond nanosPerSecond
    omega
  case millis =>
    unfold writtenMillis nanosPerSecond
    omega
  all_goals omega

private theorem Fits.length_afterYear (fits : a.Fits) : a.afterYear.length = 19 := by
  have two {n : Nat} (small : n < 10 ^ 2) := length_padded (by decide) small
  have three := length_padded (by decide) fits.millis
  simp [afterYear, two fits.month, two fits.day, two fits.hour, two fits.minute, two fits.second,
    three]

private theorem Fits.afterYear_inj (left : a.Fits) (right : b.Fits) :
    a.afterYear = b.afterYear ↔ a.date.month = b.date.month ∧ a.date.day = b.date.day ∧
      a.hour = b.hour ∧ a.minute = b.minute ∧ a.writtenSecond = b.writtenSecond ∧
      a.writtenMillis = b.writtenMillis := by
  have two {m n : Nat} {cs ds : List Char} (m2 : m < 10 ^ 2) (n2 : n < 10 ^ 2) :
      padded 2 m ++ cs = padded 2 n ++ ds ↔ m = n ∧ cs = ds := padded_append_inj (by decide) m2 n2
  simp only [afterYear, List.cons.injEq, true_and, two left.month right.month,
    two left.day right.day, two left.hour right.hour, two left.minute right.minute,
    two left.second right.second, padded_inj]

private theorem Fits.afterYear_lt_iff (left : a.Fits) (right : b.Fits) :
    a.afterYear < b.afterYear ↔ a.date.month < b.date.month ∨ a.date.month = b.date.month ∧
      (a.date.day < b.date.day ∨ a.date.day = b.date.day ∧ (a.hour < b.hour ∨ a.hour = b.hour ∧
        (a.minute < b.minute ∨ a.minute = b.minute ∧ (a.writtenSecond < b.writtenSecond ∨
          a.writtenSecond = b.writtenSecond ∧ a.writtenMillis < b.writtenMillis)))) := by
  have two {m n : Nat} {cs ds : List Char} (m2 : m < 10 ^ 2) (n2 : n < 10 ^ 2) :
      padded 2 m ++ cs < padded 2 n ++ ds ↔ m < n ∨ m = n ∧ cs < ds :=
    padded_append_lt_iff (by decide) m2 n2
  simp only [afterYear, List.cons_lt_cons_self, two left.month right.month,
    two left.day right.day, two left.hour right.hour, two left.minute right.minute,
    two left.second right.second, padded_lt_iff (by decide) left.millis right.millis]

/-! ### Seconds and milliseconds

A leap second can only follow second 59, so the written second 60 is that of no other second. -/

private theorem Exists.written_inj (left : a.Exists) (right : b.Exists) :
    a.writtenSecond = b.writtenSecond ∧ a.writtenMillis = b.writtenMillis ↔
      a.second = b.second ∧ a.toMillis.nanos = b.toMillis.nanos := by
  have second := left.second
  have nanos := left.nanos
  have second' := right.second
  have nanos' := right.nanos
  unfold writtenSecond writtenMillis WallTime.toMillis nanosPerSecond
  dsimp only
  omega

private theorem Exists.written_lt_iff (left : a.Exists) (right : b.Exists) :
    (a.writtenSecond < b.writtenSecond ∨
        a.writtenSecond = b.writtenSecond ∧ a.writtenMillis < b.writtenMillis) ↔
      a.second < b.second ∨ a.second = b.second ∧ a.toMillis.nanos < b.toMillis.nanos := by
  have second := left.second
  have nanos := left.nanos
  have second' := right.second
  have nanos' := right.nanos
  unfold writtenSecond writtenMillis WallTime.toMillis nanosPerSecond
  dsimp only
  omega

/-! ### Texts -/

private theorem text_inj (left : a.Exists) (right : b.Exists) :
    a.text = b.text ↔ a.toMillis = b.toMillis := by
  have lengths : a.afterYear.length = b.afterYear.length := by
    rw [left.fits.length_afterYear, right.fits.length_afterYear]
  have split : a.text = b.text ↔ a.date.year = b.date.year ∧ a.afterYear = b.afterYear := by
    rw [← String.toList_inj, toList_text, toList_text, ← yearText_inj]
    exact ⟨fun whole => List.append_inj' whole lengths, fun ⟨year, rest⟩ => by rw [year, rest]⟩
  rw [split, left.fits.afterYear_inj right.fits, left.written_inj right]
  obtain ⟨⟨year, month, day⟩, hour, minute, second, nanos⟩ := a
  obtain ⟨⟨year', month', day'⟩, hour', minute', second', nanos'⟩ := b
  simp only [toMillis, mk.injEq, Date.mk.injEq, and_assoc]

private theorem natAbs_lt_of_fourDigits {year : Int} (plain : FourDigits year) :
    year.natAbs < 10 ^ 4 := by
  unfold FourDigits at plain
  omega

private theorem length_text (known : a.Exists) (plain : FourDigits a.date.year) :
    a.text.length = 23 := by
  rw [← String.length_toList, toList_text, List.length_append, yearText_unsigned plain,
    length_padded (by decide) (natAbs_lt_of_fourDigits plain), known.fits.length_afterYear]

private theorem text_lt_iff (left : a.Exists) (right : b.Exists) (plain : FourDigits a.date.year)
    (plain' : FourDigits b.date.year) : a.text < b.text ↔ a.toMillis.Before b.toMillis := by
  have year : a.date.year.natAbs < b.date.year.natAbs ↔ a.date.year < b.date.year := by
    unfold FourDigits at plain plain'
    omega
  have same : a.date.year.natAbs = b.date.year.natAbs ↔ a.date.year = b.date.year := by
    unfold FourDigits at plain plain'
    omega
  have texts : a.text < b.text ↔
      a.date.year < b.date.year ∨ a.date.year = b.date.year ∧ a.afterYear < b.afterYear := by
    rw [String.lt_iff_toList_lt, toList_text, toList_text, yearText_unsigned plain,
      yearText_unsigned plain', padded_append_lt_iff (by decide) (natAbs_lt_of_fourDigits plain)
        (natAbs_lt_of_fourDigits plain'), year, same]
  rw [texts, left.fits.afterYear_lt_iff right.fits, left.written_lt_iff right,
    before_iff left.toMillis right.toMillis]
  obtain ⟨⟨year, month, day⟩, hour, minute, second, nanos⟩ := a
  obtain ⟨⟨year', month', day'⟩, hour', minute', second', nanos'⟩ := b
  simp only [toMillis, Date.Before, Date.mk.injEq]
  omega

end WallTime

/-! ### Literals -/

namespace Timestamp

private theorem text_expr (time : WallTime) : (ofWallTime time).expr.text =
    (ofWallTime time).display := by
  have apart : '\'' ∉ time.text.toList := fun member =>
    absurd (time.isTimeChar_text _ member) (by decide)
  have written : (ofWallTime time).expr.text.toList = '\'' :: (time.text.toList ++ ['\'']) := by
    rw [← Text.Quoted.encode_of_notMem '\'' false apart]
    exact Sql.Expr.text_string time.text
  rw [← String.toList_inj, written]
  simp [display, ofWallTime]

/-- Two times that exist are written alike exactly where they agree to the millisecond; in years
from 0 to 9999 the texts have 23 characters and are in the order of the times, leap seconds
included.  No written time has a quote or a backslash, so that its display is the text of its
expression, and every dialect reads it as that string. -/
theorem text_tells_time (a b : WallTime) (left : a.isValid = true) (right : b.isValid = true) :
    ((ofWallTime a).text = (ofWallTime b).text ↔ a.toMillis = b.toMillis) ∧
      (WallTime.FourDigits a.date.year → WallTime.FourDigits b.date.year →
        (ofWallTime a).text.length = 23 ∧ (ofWallTime b).text.length = 23 ∧
          ((ofWallTime a).text < (ofWallTime b).text ↔ a.toMillis.Before b.toMillis)) ∧
      (∀ c ∈ (ofWallTime a).text.toList, c ∉ ['\'', '"', '\x60', '\\']) ∧
      (ofWallTime a).expr.text = (ofWallTime a).display ∧
      ∀ d : Dialect, Sql.Denotes d (ofWallTime a).display (ofWallTime a).text := by
  have known := WallTime.exists_of_isValid left
  have known' := WallTime.exists_of_isValid right
  refine ⟨WallTime.text_inj known known', fun plain plain' => ?_, fun c member => ?_, text_expr a,
    fun d => ?_⟩
  · exact ⟨WallTime.length_text known plain, WallTime.length_text known' plain',
      WallTime.text_lt_iff known known' plain plain'⟩
  · intro special
    have timely : isTimeChar c = true := a.isTimeChar_text c member
    simp only [List.mem_cons, List.not_mem_nil, or_false] at special
    rcases special with rfl | rfl | rfl | rfl <;> exact absurd timely (by decide)
  · rw [← text_expr a]
    exact Sql.denotes_string (survives_expr d a)

/-- A leap second ends the year 2016: its text is before that of the next second. -/
theorem text_tells_time_leapSecond :
    (⟨⟨2016, 12, 31⟩, 23, 59, 59, 1500700000⟩ : WallTime).isValid = true ∧
      (⟨⟨2017, 1, 1⟩, 0, 0, 0, 0⟩ : WallTime).isValid = true ∧
      WallTime.FourDigits 2016 ∧ WallTime.FourDigits 2017 ∧
      "2016-12-31 23:59:60.500".length = 23 ∧
      "2016-12-31 23:59:60.500" < "2017-01-01 00:00:00.000" ∧
      ∀ d, Sql.Denotes d "'2016-12-31 23:59:60.500'" "2016-12-31 23:59:60.500" := by
  have left : (⟨⟨2016, 12, 31⟩, 23, 59, 59, 1500700000⟩ : WallTime).isValid = true := by decide
  have right : (⟨⟨2017, 1, 1⟩, 0, 0, 0, 0⟩ : WallTime).isValid = true := by decide
  have year : WallTime.FourDigits 2016 := by decide
  have year' : WallTime.FourDigits 2017 := by decide
  obtain ⟨-, ordered, -, -, read⟩ := text_tells_time _ _ left right
  obtain ⟨length, -, order⟩ := ordered year year'
  have written : (ofWallTime ⟨⟨2016, 12, 31⟩, 23, 59, 59, 1500700000⟩).text =
      "2016-12-31 23:59:60.500" := by decide +kernel
  have shown : (ofWallTime ⟨⟨2016, 12, 31⟩, 23, 59, 59, 1500700000⟩).display =
      "'2016-12-31 23:59:60.500'" := by decide +kernel
  have written' : (ofWallTime ⟨⟨2017, 1, 1⟩, 0, 0, 0, 0⟩).text = "2017-01-01 00:00:00.000" := by
    decide +kernel
  have earlier := order.mpr (by decide)
  rw [written] at length earlier
  rw [written'] at earlier
  refine ⟨left, right, year, year', length, earlier, fun d => ?_⟩
  have literal := read d
  rwa [written, shown] at literal

end Timestamp

end RowStamp
