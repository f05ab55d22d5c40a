import RowStamp.Proofs.Calendar.Days

/-!
Times in their order: by the seconds that clocks count, then by the nanoseconds, which go on to the
end of a leap second before the next second starts.
-/

set_option autoImplicit false
set_option relaxedAutoImplicit false

namespace RowStamp.WallTime

def clockSecond (time : WallTime) : Int :=
  time.date.dayNumber * 86400 + time.hour * 3600 + time.minute * 60 + time.second

/-- A time is earlier than another. -/
def Before (a b : WallTime) : Prop :=
  a.clockSecond < b.clockSecond ∨ a.clockSecond = b.clockSecond ∧ a.nanos < b.nanos

instance (a b : WallTime) : Decidable (a.Before b) :=
  inferInstanceAs (Decidable (_ ∨ _ ∧ _))

def toMillis (time : WallTime) : WallTime :=
  { time with nanos := time.nanos / 1000000 * 1000000 }

/-- A time that exists, in any year. -/
structure Exists (time : WallTime) : Prop where
  date : time.date.Exists
  hour : time.hour < 24
  minute : time.minute < 60
  second : time.second < 60
  nanos : time.nanos < 1000000000 ∨ time.nanos < 2000000000 ∧ time.second = 59

variable {a b : WallTime}

theorem exists_of_isValid (valid : a.isValid = true) : a.Exists := by
  simp only [isValid, nanosFit, Bool.and_eq_true, Bool.or_eq_true, decide_eq_true_eq] at valid
  obtain ⟨⟨⟨⟨date, hour⟩, minute⟩, second⟩, nanos⟩ := valid
  unfold nanosPerSecond at nanos
  exact ⟨Date.exists_of_isValid date, hour, minute, second, by omega⟩

theorem Exists.toMillis (known : a.Exists) : a.toMillis.Exists where
  date := known.date
  hour := known.hour
  minute := known.minute
  second := known.second
  nanos := by
    have nanos := known.nanos
    simp only [WallTime.toMillis]
    omega

/-- Times that exist are in the order of what is told of them: day, hour, minute, second,
nanoseconds. -/
theorem before_iff (left : a.Exists) (right : b.Exists) :
    a.Before b ↔ a.date.Before b.date ∨ a.date = b.date ∧ (a.hour < b.hour ∨ a.hour = b.hour ∧
      (a.minute < b.minute ∨ a.minute = b.minute ∧ (a.second < b.second ∨ a.second = b.second ∧
        a.nanos < b.nanos))) := by
  have hours := And.intro left.hour right.hour
  have minutes := And.intro left.minute right.minute
  have seconds := And.intro left.second right.second
  -- What is told by the smaller units never makes up one of the next larger unit.
  rw [← Date.dayNumber_lt_iff left.date right.date, ← Date.dayNumber_inj left.date right.date]
  unfold Before clockSecond
  omega

end RowStamp.WallTime
