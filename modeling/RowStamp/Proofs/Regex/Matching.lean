import RowStamp.Regex.Expr

/-!
The places that are computed for the ends of matches are those where matches end.  Repetitions
reach no further place once a step adds none, and a match that is repeated without a bound needs
no more steps than there are characters.
-/

set_option autoImplicit false
set_option relaxedAutoImplicit false

namespace RowStamp.Regex

variable {cs : List Char} {e : Expr} {i j n : Nat} {places : List Nat}

/-! ### Repeated matches -/

@[simp] theorem times_zero_iff : Times cs e 0 i j ↔ i = j := by
  constructor
  · rintro ⟨⟩
    rfl
  · rintro rfl
    exact .zero i

private theorem times_succ_iff : Times cs e
    (n + 1) i j ↔ ∃ k, Matches cs e i k ∧ Times cs e n k j := by
  constructor
  · rintro (_ | ⟨head, tail⟩)
    exact ⟨_, head, tail⟩
  · rintro ⟨k, head, tail⟩
    exact .succ head tail

private theorem times_add_iff {m : Nat} :
    Times cs e (m + n) i j ↔ ∃ k, Times cs e m i k ∧ Times cs e n k j := by
  induction m generalizing i with
  | zero => simp
  | succ m ih =>
    rw [Nat.add_right_comm, times_succ_iff]
    constructor
    · rintro ⟨k, head, tail⟩
      obtain ⟨l, first, second⟩ := ih.mp tail
      exact ⟨l, .succ head first, second⟩
    · rintro ⟨l, first, second⟩
      obtain ⟨k, head, tail⟩ := times_succ_iff.mp first
      exact ⟨k, head, ih.mpr ⟨l, tail, second⟩⟩

/-- Matches go forward and end within the text, unless they start behind its end. -/
def Advances (cs : List Char) (e : Expr) : Prop :=
  ∀ i j, Matches cs e i j → i ≤ j ∧ j ≤ max i cs.length

private theorem Advances.times (advances : Advances cs e) (times : Times cs e n i j) :
    i ≤ j ∧ j ≤ max i cs.length := by
  induction n generalizing i with
  | zero =>
    obtain rfl := times_zero_iff.mp times
    omega
  | succ n ih =>
    obtain ⟨k, head, tail⟩ := times_succ_iff.mp times
    have first := advances i k head
    have others := ih tail
    omega

theorem advances (cs : List Char) (e : Expr) : Advances cs e := by
  induction e with
  | empty =>
    rintro i j ⟨⟩
    omega
  | set chars =>
    rintro i j ⟨⟩
    rename_i c mem here
    have inside : i < cs.length := (List.getElem?_eq_some_iff.mp here).1
    omega
  | condition holds =>
    rintro i j ⟨⟩
    omega
  | seq first second ihFirst ihSecond =>
    rintro i j ⟨⟩
    rename_i k head tail
    have first := ihFirst i k head
    have others := ihSecond k j tail
    omega
  | alt left right ihLeft ihRight =>
    rintro i j (_ | _ | _ | _ | side | side)
    · exact ihLeft i j side
    · exact ihRight i j side
  | atLeast low operand ih =>
    rintro i j ⟨⟩
    rename_i enough times
    exact Advances.times ih times
  | upTo low extra operand ih =>
    rintro i j ⟨⟩
    rename_i enough atMost times
    exact Advances.times ih times

/-- Matches that do not move can be left out: no more are needed than there are characters
between the ends. -/
theorem exists_times_le (times : Times cs e n i j) : ∃ m ≤ j - i, Times cs e m i j := by
  induction n generalizing i with
  | zero => exact ⟨0, Nat.zero_le _, times⟩
  | succ n ih =>
    obtain ⟨k, head, tail⟩ := times_succ_iff.mp times
    obtain ⟨m, few, shorter⟩ := ih tail
    have forward : i ≤ k := (advances cs e i k head).1
    have onward : k ≤ j := ((advances cs e).times tail).1
    rcases Nat.eq_or_lt_of_le forward with rfl | moved
    · exact ⟨m, few, shorter⟩
    · exact ⟨m + 1, by omega, .succ head shorter⟩

/-! ### Steps -/

/-- A step computes where the matches of an expression end. -/
def Computes (cs : List Char) (e : Expr) (step : List Nat → List Nat) : Prop :=
  ∀ places j, j ∈ step places ↔ ∃ i ∈ places, Matches cs e i j

private theorem mem_of_times (closed : ∀ i ∈ places, ∀ k, Matches cs e i k → k ∈ places)
    (start : i ∈ places) (times : Times cs e n i j) : j ∈ places := by
  induction n generalizing i with
  | zero =>
    obtain rfl := times_zero_iff.mp times
    exact start
  | succ n ih =>
    obtain ⟨k, head, tail⟩ := times_succ_iff.mp times
    exact ih (closed i start k head) tail

private theorem mem_mergePlaces {more : List Nat} :
    j ∈ mergePlaces places more ↔ j ∈ places ∨ j ∈ more := by
  by_cases mem : j ∈ places <;> simp [mergePlaces, mem]

section Steps

variable {step : List Nat → List Nat} (computes : Computes cs e step)

include computes

private theorem mem_iff_times_of_fixed (fixed : step places = places) :
    j ∈ places ↔ ∃ i ∈ places, Times cs e n i j := by
  have here (k : Nat) : k ∈ places ↔ ∃ i ∈ places, Matches cs e i k := by
    rw [← computes places k, fixed]
  constructor
  · intro mem
    induction n with
    | zero => exact ⟨j, mem, .zero j⟩
    | succ n ih =>
      obtain ⟨k, inside, tail⟩ := ih
      obtain ⟨i, start, head⟩ := (here k).mp inside
      exact ⟨i, start, .succ head tail⟩
  · rintro ⟨i, start, times⟩
    exact mem_of_times (fun i start k head => (here k).mpr ⟨i, start, head⟩) start times

private theorem mem_stepTimes : j ∈ stepTimes step n places ↔ ∃ i ∈ places, Times cs e n i j := by
  induction n generalizing places with
  | zero => simp [stepTimes]
  | succ n ih =>
    simp only [stepTimes]
    split
    · rename_i fixed
      exact mem_iff_times_of_fixed computes fixed
    · rw [ih]
      simp only [computes places, times_succ_iff]
      constructor
      · rintro ⟨k, ⟨i, start, head⟩, tail⟩
        exact ⟨i, start, k, head, tail⟩
      · rintro ⟨i, start, k, head, tail⟩
        exact ⟨k, ⟨i, start, head⟩, tail⟩

private theorem mem_stepUpTo {frontier : List Nat} (last : ∀ i ∈ frontier, i ∈ places)
    (closed : ∀ i ∈ places, i ∉ frontier → ∀ k, Matches cs e i k → k ∈ places) :
    j ∈ stepUpTo step n places frontier ↔ ∃ i ∈ places, ∃ m ≤ n, Times cs e m i j := by
  induction n generalizing places frontier with
  | zero => simp [stepUpTo]
  | succ n ih =>
    have added (k : Nat) : k ∈ (step frontier).filter (!places.contains ·) ↔
        (∃ i ∈ frontier, Matches cs e i k) ∧ k ∉ places := by
      simp [computes frontier]
    have next : ∀ i ∈ places, ∀ k, Matches cs e i k →
        k ∈ places ∨ k ∈ (step frontier).filter (!places.contains ·) := by
      intro i start k head
      by_cases new : k ∈ places
      · exact .inl new
      · by_cases recent : i ∈ frontier
        · exact .inr ((added k).mpr ⟨⟨i, recent, head⟩, new⟩)
        · exact absurd (closed i start recent k head) new
    simp only [stepUpTo]
    split
    · rename_i nothing
      rw [List.isEmpty_iff] at nothing
      have stays : ∀ i ∈ places, ∀ k, Matches cs e i k → k ∈ places := by
        intro i start k head
        have inside := next i start k head
        rw [nothing] at inside
        simpa using inside
      constructor
      · intro mem
        exact ⟨j, mem, 0, Nat.zero_le _, .zero j⟩
      · rintro ⟨i, start, m, -, times⟩
        exact mem_of_times stays start times
    · rw [ih]
      · constructor
        · rintro ⟨k, mem, m, few, tail⟩
          rcases List.mem_append.mp mem with start | new
          · exact ⟨k, start, m, Nat.le_succ_of_le few, tail⟩
          · obtain ⟨⟨i, recent, head⟩, -⟩ := (added k).mp new
            exact ⟨i, last i recent, m + 1, Nat.succ_le_succ few, .succ head tail⟩
        · rintro ⟨i, start, m, few, times⟩
          cases m with
          | zero => exact ⟨i, List.mem_append_left _ start, 0, Nat.zero_le _, times⟩
          | succ m =>
            obtain ⟨k, head, tail⟩ := times_succ_iff.mp times
            exact ⟨k, List.mem_append.mpr (next i start k head), m,
              Nat.le_of_succ_le_succ few, tail⟩
      · intro i new
        exact List.mem_append_right _ new
      · intro i mem old k head
        rcases List.mem_append.mp mem with start | new
        · exact List.mem_append.mpr (next i start k head)
        · exact absurd new old

end Steps

/-! ### Ends -/

private theorem mem_stepUpTo_self {step : List Nat → List Nat} (computes : Computes cs e step) :
    j ∈ stepUpTo step n places places ↔ ∃ i ∈ places, ∃ m ≤ n, Times cs e m i j :=
  mem_stepUpTo computes (fun _ mem => mem) fun _ mem old => absurd mem old

private theorem computes_ends (cs : List Char) (e : Expr) : Computes cs e (e.ends cs) := by
  induction e with
  | empty =>
    intro places j
    constructor
    · intro mem
      exact ⟨j, mem, .empty j⟩
    · rintro ⟨i, mem, ⟨⟩⟩
      exact mem
  | set chars =>
    intro places j
    simp only [Expr.ends, List.mem_map, List.mem_filter, Option.any_eq_true_iff_get]
    constructor
    · rintro ⟨i, ⟨mem, inside, holds⟩, rfl⟩
      exact ⟨i, mem, .set (Option.some_get inside).symm holds⟩
    · rintro ⟨i, mem, ⟨⟩⟩
      rename_i c holds here
      refine ⟨i, ⟨mem, by simp [here], ?_⟩, rfl⟩
      simpa [here] using holds
  | condition holds =>
    intro places j
    simp only [Expr.ends, List.mem_filter]
    constructor
    · rintro ⟨mem, here⟩
      exact ⟨j, mem, .condition here⟩
    · rintro ⟨i, mem, ⟨⟩⟩
      rename_i here
      exact ⟨mem, here⟩
  | seq first second ihFirst ihSecond =>
    intro places j
    rw [Expr.ends, ihSecond]
    simp only [ihFirst places]
    constructor
    · rintro ⟨k, ⟨i, mem, head⟩, tail⟩
      exact ⟨i, mem, .seq head tail⟩
    · rintro ⟨i, mem, ⟨⟩⟩
      rename_i k head tail
      exact ⟨k, ⟨i, mem, head⟩, tail⟩
  | alt left right ihLeft ihRight =>
    intro places j
    rw [Expr.ends, mem_mergePlaces, ihLeft, ihRight]
    constructor
    · rintro (⟨i, mem, side⟩ | ⟨i, mem, side⟩)
      · exact ⟨i, mem, .left side⟩
      · exact ⟨i, mem, .right side⟩
    · rintro ⟨i, mem, _ | _ | _ | _ | side | side⟩
      · exact .inl ⟨i, mem, side⟩
      · exact .inr ⟨i, mem, side⟩
  | atLeast low operand ih =>
    intro places j
    rw [Expr.ends, mem_stepUpTo_self ih]
    simp only [mem_stepTimes ih]
    constructor
    · rintro ⟨k, ⟨i, mem, first⟩, m, -, more⟩
      exact ⟨i, mem, .atLeast (Nat.le_add_right low m) (times_add_iff.mpr ⟨k, first, more⟩)⟩
    · rintro ⟨i, mem, ⟨⟩⟩
      rename_i n enough times
      obtain ⟨rest, rfl⟩ := Nat.exists_eq_add_of_le enough
      obtain ⟨k, first, more⟩ := times_add_iff.mp times
      obtain ⟨m, few, shorter⟩ := exists_times_le more
      have bounds := (advances cs operand).times more
      exact ⟨k, ⟨i, mem, first⟩, m, by omega, shorter⟩
  | upTo low extra operand ih =>
    intro places j
    rw [Expr.ends, mem_stepUpTo_self ih]
    simp only [mem_stepTimes ih]
    constructor
    · rintro ⟨k, ⟨i, mem, first⟩, m, few, more⟩
      exact ⟨i, mem, .upTo (Nat.le_add_right low m) (by omega)
        (times_add_iff.mpr ⟨k, first, more⟩)⟩
    · rintro ⟨i, mem, ⟨⟩⟩
      rename_i n enough atMost times
      obtain ⟨rest, rfl⟩ := Nat.exists_eq_add_of_le enough
      obtain ⟨k, first, more⟩ := times_add_iff.mp times
      exact ⟨k, ⟨i, mem, first⟩, rest, by omega, more⟩

/-- A search finds an expression where it matches between some places of the text. -/
theorem matchesWithin_iff (e : Expr) (text : String) :
    e.matchesWithin text = true ↔
      ∃ i j, i ≤ text.toList.length ∧ Matches text.toList e i j := by
  simp only [Expr.matchesWithin, Bool.not_eq_true', List.isEmpty_eq_false_iff_exists_mem,
    computes_ends text.toList e _ _, List.mem_range, Nat.lt_succ_iff]
  constructor
  · rintro ⟨j, i, inside, found⟩
    exact ⟨i, j, inside, found⟩
  · rintro ⟨i, j, inside, found⟩
    exact ⟨j, i, inside, found⟩

/-! ### Whole texts -/

/-- An expression matches all of a text, from its first to its last character. -/
def Expr.MatchesAll (e : Expr) (text : String) : Prop :=
  Matches text.toList e 0 text.toList.length

theorem before?_eq_none_iff (inside : i ≤ cs.length) : before? cs i = none ↔ i = 0 := by
  cases i with
  | zero => simp [before?]
  | succ i => simp [before?, Nat.not_le.mpr (Nat.lt_of_succ_le inside)]

end RowStamp.Regex
