import Mathlib.Tactic.IntervalCases
import RowStamp.Proofs.Calendar.Days

/-!
Days by their numbers.  The day of a number exists and has that number, for every integer: years
that start with March are counted by four hundreds, hundreds, fours and ones, and a leap day ends
such a year.
-/

set_option autoImplicit false
set_option relaxedAutoImplicit false

namespace RowStamp.Date

/-! ### Years from March to February -/

def marchStart (year : Int) : Int := daysBeforeYear (year + 1) - 306

/-- A place in a year that starts with March, where a leap year ends with a leap day. -/
def InMarchYear (year : Int) (place : Nat) : Prop :=
  place ≤ 364 ∨ place = 365 ∧ isLeap (year + 1) = true

variable {year : Int} {place month : Nat}

private theorem daysBeforeMonth_march (year : Int) (small : month < 10) :
    daysBeforeMonth year (month + 3) + 306 = yearLength year + (153 * month + 2) / 5 := by
  unfold yearLength
  cases leap : isLeap year <;> interval_cases month <;>
    simp [daysBeforeMonth, List.range', monthLength, leap]

private theorem monthLength_march (year : Int) (small : month < 10) :
    (153 * month + 2) / 5 + monthLength year (month + 3) = (153 * (month + 1) + 2) / 5 := by
  interval_cases month <;> simp [monthLength]

/-- From March to December the months of a place start alike in every year. -/
theorem march_spec (year : Int) (small : month < 10) (before : (153 * month + 2) / 5 ≤ place)
    (after : place < (153 * (month + 1) + 2) / 5) :
    (⟨year, month + 3, place - (153 * month + 2) / 5 + 1⟩ : Date).Exists ∧
      (⟨year, month + 3, place - (153 * month + 2) / 5 + 1⟩ : Date).dayNumber =
        marchStart year + place - 719528 := by
  have length := monthLength_march year small
  have months := daysBeforeMonth_march year small
  have next := daysBeforeYear_succ year
  refine ⟨⟨?_, ?_⟩, ?_⟩
  · dsimp only
    omega
  · dsimp only
    omega
  · unfold dayNumber marchStart
    dsimp only
    omega

private theorem january_spec (year : Int) (before : 306 ≤ place) (after : place < 337) :
    (⟨year + 1, 1, place - 306 + 1⟩ : Date).Exists ∧
      (⟨year + 1, 1, place - 306 + 1⟩ : Date).dayNumber = marchStart year + place - 719528 := by
  have length : monthLength (year + 1) 1 = 31 := rfl
  have months : daysBeforeMonth (year + 1) 1 = 0 := rfl
  refine ⟨⟨?_, ?_⟩, ?_⟩
  · dsimp only
    omega
  · dsimp only
    omega
  · unfold dayNumber marchStart
    dsimp only
    omega

private theorem february_spec (before : 337 ≤ place) (within : InMarchYear year place) :
    (⟨year + 1, 2, place - 337 + 1⟩ : Date).Exists ∧
      (⟨year + 1, 2, place - 337 + 1⟩ : Date).dayNumber = marchStart year + place - 719528 := by
  have length : monthLength (year + 1) 2 = if isLeap (year + 1) then 29 else 28 := rfl
  have months : daysBeforeMonth (year + 1) 2 = 31 := rfl
  refine ⟨⟨?_, ?_⟩, ?_⟩
  · dsimp only
    omega
  · dsimp only
    rw [length]
    rcases within with common | ⟨leap, ends⟩
    · split <;> omega
    · rw [if_pos ends]
      omega
  · unfold dayNumber marchStart
    dsimp only
    omega

private theorem ofMarchDay_spec (within : InMarchYear year place) :
    (ofMarchDay year place).Exists ∧
      (ofMarchDay year place).dayNumber = marchStart year + place - 719528 := by
  have short : place ≤ 365 := by
    rcases within with common | ⟨leap, -⟩ <;> omega
  obtain ⟨month, named⟩ : ∃ month, (5 * place + 2) / 153 = month := ⟨_, rfl⟩
  have before : (153 * month + 2) / 5 ≤ place := by omega
  have after : place < (153 * (month + 1) + 2) / 5 := by omega
  unfold ofMarchDay
  simp only [named]
  split
  · rename_i small
    exact march_spec year small before after
  · rename_i large
    have last : month = 10 ∨ month = 11 := by omega
    rcases last with rfl | rfl
    · exact january_spec year before after
    · exact february_spec before within

/-! ### Four hundred years -/

/-- A day of four hundred years that start with March: the hundreds, the fours and the years that
are over, and the place in its year.  Only the last year of four can have a leap day, and the last
year of a hundred has one only at the end of the four hundred. -/
structure InCycle (day century fours year place : Nat) : Prop where
  sum : day = 36524 * century + 1461 * fours + 365 * year + place
  century_le : century ≤ 3
  fours_le : fours ≤ 24
  year_le : year ≤ 3
  place_le : place ≤ 364 ∨ place = 365 ∧ year = 3 ∧ (fours = 24 → century = 3)

private theorem inCycle_of_lt {day : Nat} (small : day < 146097) :
    InCycle day (min (day / 36524) 3) ((day - min (day / 36524) 3 * 36524) / 1461)
      (min ((day - min (day / 36524) 3 * 36524) % 1461 / 365) 3)
      ((day - min (day / 36524) 3 * 36524) % 1461 -
        min ((day - min (day / 36524) 3 * 36524) % 1461 / 365) 3 * 365) := by
  constructor <;> omega

private theorem InCycle.inMarchYear {day century fours year place : Nat}
    (parts : InCycle day century fours year place) (cycle : Int) :
    InMarchYear (400 * cycle + 100 * century + 4 * fours + year) place := by
  have centuries := parts.century_le
  have short := parts.fours_le
  rcases parts.place_le with common | ⟨leap, last, ends⟩
  · exact .inl common
  · refine .inr ⟨leap, ?_⟩
    simp only [isLeap, Bool.and_eq_true, Bool.or_eq_true, decide_eq_true_eq]
    omega

private theorem InCycle.marchStart {day century fours year place : Nat}
    (parts : InCycle day century fours year place) (cycle : Int) :
    Date.marchStart (400 * cycle + 100 * century + 4 * fours + year) + place =
      146097 * cycle + day + 60 := by
  have sum := parts.sum
  have centuries := parts.century_le
  have short := parts.fours_le
  have years := parts.year_le
  unfold Date.marchStart daysBeforeYear
  omega

private theorem ofDayNumber_spec (n : Int) : (ofDayNumber n).Exists ∧
    (ofDayNumber n).dayNumber = n := by
  have small : ((n + 719468) % 146097).toNat < 146097 := by omega
  have parts := inCycle_of_lt small
  have within := parts.inMarchYear ((n + 719468) / 146097)
  have start := parts.marchStart ((n + 719468) / 146097)
  obtain ⟨known, number⟩ := ofMarchDay_spec within
  refine ⟨known, ?_⟩
  have counted : (ofDayNumber n).dayNumber =
      146097 * ((n + 719468) / 146097) + (((n + 719468) % 146097).toNat : Int) + 60 - 719528 := by
    rw [← start]
    exact number
  rw [counted]
  omega

private theorem exists_ofDayNumber (n : Int) : (ofDayNumber n).Exists := (ofDayNumber_spec n).1

theorem dayNumber_ofDayNumber (n : Int) : (ofDayNumber n).dayNumber = n := (ofDayNumber_spec n).2

/-! ### The years that are told -/

def Told (n : Int) : Prop :=
  (⟨firstYear, 1, 1⟩ : Date).dayNumber ≤ n ∧ n < (⟨lastYear + 1, 1, 1⟩ : Date).dayNumber

instance (n : Int) : Decidable (Told n) := inferInstanceAs (Decidable (_ ∧ _))

private theorem exists_newYear (year : Int) : (⟨year, 1, 1⟩ : Date).Exists :=
  ⟨Nat.le_refl 1, show 1 ≤ 31 by decide⟩

private theorem Exists.dayNumber_lt_newYear {date : Date} (known : date.Exists) (year : Int) :
    date.dayNumber < (⟨year, 1, 1⟩ : Date).dayNumber ↔ date.year < year := by
  have month := known.month
  have day := known.first
  rw [dayNumber_lt_iff known (exists_newYear year)]
  simp only [Before]
  omega

theorem isValid_ofDayNumber_iff (n : Int) : (ofDayNumber n).isValid = true ↔ Told n := by
  have known := exists_ofDayNumber n
  have first := known.dayNumber_lt_newYear firstYear
  have last := known.dayNumber_lt_newYear (lastYear + 1)
  have day := known.first
  have month := known.last
  rw [dayNumber_ofDayNumber] at first last
  simp only [isValid, Bool.and_eq_true, decide_eq_true_eq, Told]
  omega

end RowStamp.Date
