import RowStamp.Proofs.Calendar.Numbered
import RowStamp.Proofs.Calendar.Written

/-!
Reading written times.  Main statement: the text of a time is read as a time on the calendar, and
for the time that clocks show at an instant, at any offset, the second on the calendar less the
offset is the second of the instant.
-/

set_option autoImplicit false
set_option relaxedAutoImplicit false

namespace RowStamp

namespace WallTime

/-! ### The reader -/

/-- The number that all digits in front tell, at least four of them, and what follows. -/
def digits? (cs : List Char) : Option (Nat × List Char) :=
  let digits := cs.takeWhile Char.isDigit
  if 4 ≤ digits.length then
    some (Nat.ofDigitChars 10 digits 0, cs.dropWhile Char.isDigit)
  else none

/-- A year, perhaps behind a sign, and what follows. -/
def year? : List Char → Option (Int × List Char)
  | '-' :: cs => (digits? cs).map fun (number, rest) => (-(number : Int), rest)
  | '+' :: cs => (digits? cs).map fun (number, rest) => ((number : Int), rest)
  | cs => (digits? cs).map fun (number, rest) => ((number : Int), rest)

/-- A number of so many digits behind a mark, and what follows. -/
def field? (mark : Char) (width : Nat) (cs : List Char) : Option (Nat × List Char) :=
  match cs with
  | c :: rest =>
    let digits := rest.take width
    if c = mark && digits.length = width && digits.all Char.isDigit then
      some (Nat.ofDigitChars 10 digits 0, rest.drop width)
    else none
  | [] => none

/-- The time of what is written, where second 60 is the leap second behind second 59. -/
def ofFields (date : Date) (hour minute second millis : Nat) : WallTime :=
  if second = 60 then ⟨date, hour, minute, 59, nanosPerSecond + millis * 1000000⟩
  else ⟨date, hour, minute, second, millis * 1000000⟩

/-- The time that a text tells, if it tells one that exists. -/
def read? (text : String) : Option WallTime := do
  let (year, rest) ← year? text.toList
  let (month, rest) ← field? '-' 2 rest
  let (day, rest) ← field? '-' 2 rest
  let (hour, rest) ← field? ' ' 2 rest
  let (minute, rest) ← field? ':' 2 rest
  let (second, rest) ← field? ':' 2 rest
  let (millis, rest) ← field? '.' 3 rest
  let time := ofFields ⟨year, month, day⟩ hour minute second millis
  if rest.isEmpty && time.isValid then some time else none

variable {time : WallTime}

/-! ### Years -/

private theorem le_length_padded (width n : Nat) : width ≤ (padded width n).length := by
  simp only [padded, List.length_append, List.length_replicate]
  omega

private theorem digits?_padded (n : Nat) (rest : List Char) :
    digits? (padded 4 n ++ '-' :: rest) = some (n, '-' :: rest) := by
  have digit := isDigit_padded 4 n
  have taken : (padded 4 n ++ '-' :: rest).takeWhile Char.isDigit = padded 4 n := by
    rw [List.takeWhile_append_of_pos digit]
    exact List.append_nil _
  have left : (padded 4 n ++ '-' :: rest).dropWhile Char.isDigit = '-' :: rest := by
    rw [List.dropWhile_append_of_pos digit]
    rfl
  have long := le_length_padded 4 n
  rw [digits?, taken, left, ofDigitChars_padded]
  exact if_pos long

private theorem year?_of_digit {c : Char} (digit : c.isDigit = true) (cs : List Char) :
    year? (c :: cs) = (digits? (c :: cs)).map fun (number, rest) => ((number : Int), rest) := by
  have minus : c ≠ '-' := by
    rintro rfl
    exact absurd digit (by decide)
  have plus : c ≠ '+' := by
    rintro rfl
    exact absurd digit (by decide)
  rw [year?]
  · rintro rest ⟨⟩
    exact minus rfl
  · rintro rest ⟨⟩
    exact plus rfl

private theorem year?_unsigned (n : Nat) (rest : List Char) :
    year? (padded 4 n ++ '-' :: rest) = some ((n : Int), '-' :: rest) := by
  have long := le_length_padded 4 n
  have digit := isDigit_padded 4 n
  have read := digits?_padded n rest
  generalize padded 4 n = digits at long digit read
  obtain _ | ⟨c, cs⟩ := digits
  · simp at long
  · rw [List.cons_append] at read ⊢
    rw [year?_of_digit (digit c List.mem_cons_self), read]
    rfl

private theorem year?_signed (year : Int) (n : Nat) (rest : List Char) :
    year? ((if year < 0 then '-' else '+') :: (padded 4 n ++ '-' :: rest)) =
      some (if year < 0 then -(n : Int) else n, '-' :: rest) := by
  have read := digits?_padded n rest
  split
  · show (digits? _).map _ = _
    rw [read]
    rfl
  · show (digits? _).map _ = _
    rw [read]
    rfl

private theorem year?_yearText (year : Int) (rest : List Char) :
    year? (yearText year ++ '-' :: rest) = some (year, '-' :: rest) := by
  by_cases plain : FourDigits year
  · have same : (year.natAbs : Int) = year := by
      unfold FourDigits at plain
      omega
    rw [yearText_unsigned plain, year?_unsigned, same]
  · have same : (if year < 0 then -(year.natAbs : Int) else year.natAbs) = year := by
      split <;> omega
    rw [yearText_signed plain, List.cons_append, year?_signed, same]

/-! ### Fields -/

private theorem field?_padded {mark : Char} {width n : Nat} (some' : 0 < width)
    (fits : n < 10 ^ width) (rest : List Char) :
    field? mark width (mark :: (padded width n ++ rest)) = some (n, rest) := by
  have length := length_padded some' fits
  have taken : (padded width n ++ rest).take width = padded width n := by
    rw [List.take_append_of_le_length (by omega), List.take_of_length_le (by omega)]
  have left : (padded width n ++ rest).drop width = rest := by
    rw [List.drop_append_of_le_length (by omega), List.drop_of_length_le (by omega),
      List.nil_append]
  have all : (padded width n).all Char.isDigit = true :=
    List.all_eq_true.mpr (isDigit_padded width n)
  simp only [field?, taken, left, length, all, decide_true, Bool.and_self, if_true,
    ofDigitChars_padded]

private theorem ofFields_written (known : time.Exists) :
    ofFields time.date time.hour time.minute time.writtenSecond time.writtenMillis =
      time.toMillis := by
  have second := known.second
  have nanos := known.nanos
  unfold ofFields
  split
  · rename_i leap
    have last : time.second = 59 := by
      unfold writtenSecond nanosPerSecond at leap
      omega
    have millis : nanosPerSecond + time.writtenMillis * 1000000 =
        time.nanos / 1000000 * 1000000 := by
      unfold writtenSecond nanosPerSecond at leap
      unfold writtenMillis nanosPerSecond
      omega
    rw [toMillis, millis, ← last]
  · rename_i common
    have same : time.writtenSecond = time.second := by
      unfold writtenSecond nanosPerSecond at common ⊢
      omega
    have millis : time.writtenMillis * 1000000 = time.nanos / 1000000 * 1000000 := by
      unfold writtenSecond nanosPerSecond at common
      unfold writtenMillis nanosPerSecond
      omega
    rw [toMillis, same, millis]

private theorem isValid_toMillis (valid : time.isValid = true) : time.toMillis.isValid = true := by
  simp only [isValid, nanosFit, Bool.and_eq_true, Bool.or_eq_true, decide_eq_true_eq] at valid ⊢
  obtain ⟨clock, nanos⟩ := valid
  refine ⟨clock, ?_⟩
  show time.nanos / 1000000 * 1000000 < nanosPerSecond ∨
    time.nanos / 1000000 * 1000000 < 2 * nanosPerSecond ∧ (time.second : Int) % 60 = 59
  omega

private theorem read?_text (valid : time.isValid = true) :
    read? time.text = some time.toMillis := by
  have known := exists_of_isValid valid
  have fits := known.fits
  have two {mark : Char} {n : Nat} (small : n < 10 ^ 2) (rest : List Char) :
      field? mark 2 (mark :: (padded 2 n ++ rest)) = some (n, rest) :=
    field?_padded (by decide) small rest
  have three : field? '.' 3 ('.' :: padded 3 time.writtenMillis) =
      some (time.writtenMillis, []) := by
    have last : field? '.' 3 ('.' :: (padded 3 time.writtenMillis ++ [])) =
        some (time.writtenMillis, []) := field?_padded (by decide) fits.millis []
    rwa [List.append_nil] at last
  rw [read?, toList_text, afterYear, year?_yearText]
  simp only [Option.bind_eq_bind, Option.bind_some, two fits.month, two fits.day, two fits.hour,
    two fits.minute, two fits.second, three, ofFields_written known, isValid_toMillis valid,
    List.isEmpty_nil, Bool.and_self, if_true]

/-! ### Instants -/

def Told (second : Int) : Prop := Date.Told (second / 86400)

instance (second : Int) : Decidable (Told second) :=
  inferInstanceAs (Decidable (Date.Told (second / 86400)))

private theorem clockSecond_ofSeconds (date : Date) (seconds nanos : Nat) :
    (ofSeconds date seconds nanos).clockSecond = date.dayNumber * 86400 + seconds := by
  simp only [clockSecond, ofSeconds]
  omega

private theorem isValid_ofSeconds {date : Date} {seconds nanos : Nat} (known : date.isValid = true)
    (inDay : seconds < 86400) (fine : nanos < nanosPerSecond) :
    (ofSeconds date seconds nanos).isValid = true := by
  have hour : seconds / 3600 < 24 := by omega
  have minute : seconds / 60 % 60 < 60 := Nat.mod_lt _ (by decide)
  have second : seconds % 60 < 60 := Nat.mod_lt _ (by decide)
  simp [isValid, ofSeconds, nanosFit, known, hour, minute, second, fine]

private theorem ofUnix?_eq (seconds offset : Int) {nanos : Nat} (fine : nanos < nanosPerSecond) :
    ofUnix? seconds nanos offset =
      if Told seconds ∧ Told (seconds + offset) then
        some (ofSeconds (Date.ofDayNumber ((seconds + offset) / 86400))
          ((seconds + offset) % 86400).toNat nanos)
      else none := by
  have fit : nanosFit seconds nanos = true := by simp [nanosFit, fine]
  have told : (nanosFit seconds nanos && (Date.ofDayNumber (seconds / 86400)).isValid &&
      (Date.ofDayNumber ((seconds + offset) / 86400)).isValid) = true ↔
        Told seconds ∧ Told (seconds + offset) := by
    simp only [fit, Bool.true_and, Bool.and_eq_true, Date.isValid_ofDayNumber_iff, Told]
  exact if_congr told rfl rfl

private theorem ofUnix?_spec {seconds offset : Int} {nanos : Nat} (fine : nanos < nanosPerSecond)
    (shown : ofUnix? seconds nanos offset = some time) :
    time.isValid = true ∧ time.clockSecond = seconds + offset ∧ time.nanos = nanos := by
  rw [ofUnix?_eq seconds offset fine] at shown
  split at shown
  · rename_i told
    obtain rfl := Option.some.inj shown
    have known := (Date.isValid_ofDayNumber_iff _).mpr told.2
    refine ⟨isValid_ofSeconds known (by omega) fine, ?_, rfl⟩
    rw [clockSecond_ofSeconds, Date.dayNumber_ofDayNumber]
    omega
  · exact absurd shown (by simp)

end WallTime

namespace Timestamp

/-- An instant is shown exactly where its second is told at UTC and at the offset.  The text of the
time shown is read as a time on the calendar; its second less the offset is the second of the
instant, and its nanoseconds are those of the instant cut to milliseconds. -/
theorem zoned_text_tells_instant (seconds : Int) (nanos : Nat) (offset : Int)
    (fine : nanos < WallTime.nanosPerSecond) :
    ((∃ time, WallTime.ofUnix? seconds nanos offset = some time) ↔
        WallTime.Told seconds ∧ WallTime.Told (seconds + offset)) ∧
      ∀ time, WallTime.ofUnix? seconds nanos offset = some time →
        ∃ read, WallTime.read? (ofWallTime time).text = some read ∧
          read.clockSecond - offset = seconds ∧ read.nanos = nanos / 1000000 * 1000000 := by
  refine ⟨?_, ?_⟩
  · rw [WallTime.ofUnix?_eq seconds offset fine]
    split
    · rename_i told
      exact ⟨fun _ => told, fun _ => ⟨_, rfl⟩⟩
    · rename_i untold
      exact ⟨fun ⟨_, shown⟩ => absurd shown (by simp), fun told => absurd told untold⟩
  · intro time shown
    obtain ⟨valid, second, same⟩ := WallTime.ofUnix?_spec fine shown
    refine ⟨time.toMillis, WallTime.read?_text valid, ?_, ?_⟩
    · show time.clockSecond - offset = seconds
      omega
    · show time.nanos / 1000000 * 1000000 = _
      rw [same]

/-- Half an hour into the year 0, clocks one hour behind still show the last day of the year
before it. -/
theorem zoned_text_tells_instant_yearZero :
    123456789 < WallTime.nanosPerSecond ∧
      WallTime.ofUnix? (-62167217400) 123456789 (-3600) =
        some ⟨⟨-1, 12, 31⟩, 23, 30, 0, 123456789⟩ ∧
      (ofWallTime ⟨⟨-1, 12, 31⟩, 23, 30, 0, 123456789⟩).text = "-0001-12-31 23:30:00.123" ∧
      ∃ read, WallTime.read? "-0001-12-31 23:30:00.123" = some read ∧
        read.clockSecond - (-3600) = -62167217400 ∧ read.nanos = 123000000 := by
  have fine : 123456789 < WallTime.nanosPerSecond := by decide
  have shown : WallTime.ofUnix? (-62167217400) 123456789 (-3600) =
      some ⟨⟨-1, 12, 31⟩, 23, 30, 0, 123456789⟩ := by decide +kernel
  have written : (ofWallTime ⟨⟨-1, 12, 31⟩, 23, 30, 0, 123456789⟩).text =
      "-0001-12-31 23:30:00.123" := by decide +kernel
  have told := (zoned_text_tells_instant (-62167217400) 123456789 (-3600) fine).2 _ shown
  rw [written] at told
  exact ⟨fine, shown, written, told⟩

end Timestamp

end RowStamp
