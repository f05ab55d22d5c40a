import RowStamp.Proofs.Regex.Advancing
import RowStamp.Proofs.Regex.Moved

/-!
Reading a pattern that stands in a group, before the parenthesis that closes it.  The reader takes
the same steps there as on the pattern alone until it has to look at that parenthesis.
-/

set_option autoImplicit false
set_option relaxedAutoImplicit false

namespace RowStamp.Regex

/-- A place for a pattern: how much stands before it, and what stands after the parenthesis that
closes it. -/
structure Enclosure where
  behind : Nat
  after : List Char
  plain : ∀ c ∈ after, c = '$'

/-- A state of the reader of a pattern alone, as it is where the pattern is enclosed. -/
def ReadState.within (i : Enclosure) (st : ReadState) : ReadState where
  rest := st.rest ++ ')' :: i.after
  place := st.place + i.behind
  freeSpacing := st.freeSpacing
  names := st.names.map fun named => (named.1, named.2.moved i.behind)

variable {α β : Type} {i : Enclosure}

section Within

variable (st : ReadState)

theorem within_rest : (st.within i).rest = st.rest ++ ')' :: i.after := rfl

@[simp] theorem within_place : (st.within i).place = st.place + i.behind := rfl

@[simp] theorem within_freeSpacing : (st.within i).freeSpacing = st.freeSpacing := rfl

variable {st} in
theorem head?_within_nil (nothing : st.rest = []) : (st.within i).rest.head? = some ')' := by
  rw [within_rest, nothing]
  rfl

variable {st} in
theorem head?_within_cons {c : Char} {rest : List Char} (next : st.rest = c :: rest) :
    (st.within i).rest.head? = some c := by
  rw [within_rest, next]
  rfl

variable {st} in
theorem hereChar_within {c : Char} {rest : List Char} (next : st.rest = c :: rest)
    (f : Span → Reader β) : (Reader.hereChar >>= f) (st.within i) =
      f (Span.moved i.behind ⟨st.place, st.place + 1⟩) (st.within i) := by
  simp only [Reader.hereChar_bind, head?_within_cons next, Option.isSome_some, if_true, Span.moved,
    within_place, Nat.add_right_comm]

theorem within_length :
    (st.within i).rest.length + 1 = st.rest.length + 1 + (i.after.length + 1) := by
  simp [within_rest, Nat.add_assoc, Nat.add_comm 1]

end Within

/-! ### Behind the pattern -/

/-- At most the closing parenthesis and what is after it are ahead. -/
def Late {α : Type} (i : Enclosure) (_ : α) (st : ReadState) : Prop := st.rest <:+ ')' :: i.after

/-- The closing parenthesis is behind. -/
def Past {α : Type} (i : Enclosure) (_ : α) (st : ReadState) : Prop := st.rest <:+ i.after

theorem Past.late {a : α} {st : ReadState} (past : Past i a st) : Late i a st :=
  past.trans (List.suffix_cons ')' i.after)

theorem Late.not_mem {a : α} {st : ReadState} (late : Late i a st) {c : Char} (notClose : c ≠ ')')
    (notEnd : c ≠ '$') : c ∉ st.rest := by
  intro mem
  rcases List.mem_cons.mp (late.subset mem) with rfl | mem
  · exact notClose rfl
  · exact notEnd (i.plain c mem)

theorem Past.not_mem {a : α} {st : ReadState} (past : Past i a st) : ')' ∉ st.rest := by
  intro mem
  cases i.plain ')' (past.subset mem)

theorem Late.head?_eq {a : α} {st : ReadState} (late : Late i a st) {c : Char}
    (next : st.rest.head? = some c) : c = ')' ∨ c = '$' := by
  rcases List.mem_cons.mp (late.subset (List.mem_of_head? next)) with close | mem
  · exact .inl close
  · exact .inr (i.plain c mem)

theorem Late.isNext_eq_false {a : α} {st : ReadState} (late : Late i a st) {c : Char}
    (notClose : c ≠ ')') (notEnd : c ≠ '$') : (st.rest.head? == some c) = false := by
  rw [beq_eq_false_iff_ne]
  intro next
  exact late.not_mem notClose notEnd (List.mem_of_head? next)

theorem late_within {a : α} {st : ReadState} (nothing : st.rest = []) : Late i a (st.within i) := by
  rw [Late, within_rest, nothing]
  exact List.suffix_rfl

/-! ### Following the pattern -/

/-- Where the pattern is enclosed, the reading comes to what the pattern alone comes to, further on;
or it is lost: it fails, or ends behind the pattern. -/
def Tracks (lost : Enclosure → α → ReadState → Prop) (moved : Nat → α → α)
    (alone : Except SyntaxFault (α × ReadState))
    (enclosed : Enclosure → Except SyntaxFault (α × ReadState)) : Prop :=
  (∃ a st, alone = .ok (a, st) ∧ ∀ i, enclosed i = .ok (moved i.behind a, st.within i)) ∨
    ∀ i, Ends (lost i) (enclosed i)

section Tracks

variable {lost : Enclosure → α → ReadState → Prop} {moved : Nat → α → α} {a : α} {st : ReadState}
  {alone : Except SyntaxFault (α × ReadState)}
  {enclosed : Enclosure → Except SyntaxFault (α × ReadState)}

theorem Tracks.same (read : alone = .ok (a, st))
    (further : ∀ i, enclosed i = .ok (moved i.behind a, st.within i)) :
    Tracks lost moved alone enclosed :=
  .inl ⟨a, st, read, further⟩

theorem Tracks.mono {weaker : Enclosure → α → ReadState → Prop}
    (tracks : Tracks lost moved alone enclosed)
    (implies : ∀ i a st, lost i a st → weaker i a st) : Tracks weaker moved alone enclosed :=
  tracks.imp_right fun ends i => (ends i).mono (implies i)

theorem Tracks.and {also : α → ReadState → Prop} (tracks : Tracks lost moved alone enclosed)
    (ends : ∀ i, Ends also (enclosed i)) :
    Tracks (fun i a st => lost i a st ∧ also a st) moved alone enclosed :=
  tracks.imp_right fun lost i => (lost i).and (ends i)

theorem Tracks.late (tracks : Tracks Past moved alone enclosed) :
    Tracks Late moved alone enclosed :=
  tracks.mono fun _ _ _ past => past.late

/-- Where nothing of the pattern is ahead, every reader that only consumes ends behind it. -/
theorem Tracks.of_nil {r : Enclosure → Reader α} [∀ i, Reader.Consumes (r i)]
    (nothing : st.rest = []) : Tracks Late moved alone fun i => r i (st.within i) := by
  refine .inr fun i => ?_
  have ends := Reader.Consumes.ends (r := r i) (st.within i)
  rw [within_rest, nothing] at ends
  exact ends

theorem Tracks.bind {lost' : Enclosure → β → ReadState → Prop} {moved' : Nat → β → β}
    {r : Reader α} {f : α → Reader β} {w : Enclosure → Reader α} {g : Enclosure → α → Reader β}
    (first : Tracks lost moved (r st) fun i => w i (st.within i))
    (next : ∀ a middle, r st = .ok (a, middle) →
      Tracks lost' moved' (f a middle) fun i => g i (moved i.behind a) (middle.within i))
    (further : ∀ i a middle, lost i a middle → Ends (lost' i) (g i a middle)) :
    Tracks lost' moved' ((r >>= f) st) fun i => (w i >>= g i) (st.within i) := by
  rcases first with ⟨a, middle, read, same⟩ | ends
  · have bound := next a middle read
    simpa only [Reader.bind_of_ok read, Reader.bind_of_ok (same _)] using bound
  · exact .inr fun i => (ends i).bind (further i)

theorem Tracks.ite {c : Prop} [Decidable c] {r s : Reader α} {w v : Enclosure → Reader α}
    (first : c → Tracks lost moved (r st) fun i => w i (st.within i))
    (second : ¬c → Tracks lost moved (s st) fun i => v i (st.within i)) :
    Tracks lost moved ((if c then r else s) st) fun i =>
      (if c then w i else v i) (st.within i) := by
  by_cases holds : c
  · simpa only [if_pos holds] using first holds
  · simpa only [if_neg holds] using second holds

end Tracks

section Further

variable {a : α} {st : ReadState} {r : Reader β}

theorem Late.ends_of (consumes : Reader.Consumes r) (late : Late i a st) : Ends (Late i) (r st) :=
  (consumes.ends st).mono fun _ _ suffix => suffix.trans late

theorem Past.ends_of (consumes : Reader.Consumes r) (past : Past i a st) : Ends (Past i) (r st) :=
  (consumes.ends st).mono fun _ _ suffix => suffix.trans past

theorem Late.ends [consumes : Reader.Consumes r] (late : Late i a st) : Ends (Late i) (r st) :=
  late.ends_of consumes

theorem Past.ends [consumes : Reader.Consumes r] (past : Past i a st) : Ends (Past i) (r st) :=
  past.ends_of consumes

end Further

theorem Late.ends_bump {a : α} {st : ReadState} (late : Late i a st) :
    Ends (Past i) (Reader.bump st) := by
  change st.rest.drop 1 <:+ i.after
  cases next : st.rest with
  | nil => exact List.nil_suffix
  | cons c rest =>
    rw [Late, next] at late
    rcases List.suffix_cons_iff.mp late with same | further
    · rw [(List.cons.inj same).2]
      exact List.suffix_rfl
    · exact (List.suffix_cons c rest).trans further

theorem Late.ends_step {a : α} {st : ReadState} (late : Late i a st) :
    Ends (Past i) (Reader.step st) :=
  late.ends_bump.bind fun _ _ past => past.ends

/-! ### White space -/

namespace Reader

/-- What is passed over does not depend on what follows the characters, unless they end in a
comment; then the comment goes on. -/
theorem skipSpaces_append (inComment : Bool) (chars : List Char) :
    (∀ c more, Text.isBlank c = false → c ≠ '#' →
      skipSpaces inComment (chars ++ c :: more) = skipSpaces inComment chars ++ c :: more) ∨
    skipSpaces inComment chars = [] ∧
      ∀ c more, c ≠ '\n' → skipSpaces inComment (chars ++ c :: more) = skipSpaces true more := by
  induction chars generalizing inComment with
  | nil =>
    cases inComment with
    | false =>
      left
      intro c more notBlank notComment
      simp [skipSpaces, notBlank, notComment]
    | true =>
      refine .inr ⟨rfl, ?_⟩
      intro c more notBreak
      simp [skipSpaces, notBreak]
  | cons d chars ih =>
    cases inComment with
    | true => simpa only [List.cons_append, skipSpaces] using ih _
    | false =>
      by_cases blank : Text.isBlank d
      · simpa only [List.cons_append, skipSpaces, blank, if_true] using ih false
      · by_cases comment : d = '#'
        · simpa only [List.cons_append, skipSpaces, if_neg blank, if_pos comment] using ih true
        · left
          intro c more _ _
          simp [skipSpaces, blank, comment]

end Reader

theorem tracks_space (st : ReadState) :
    Tracks Past (fun _ u => u) (Reader.space st) fun i => Reader.space (st.within i) := by
  simp only [Reader.space_run, ReadState.spaced, within_freeSpacing, within_rest]
  obtain ⟨rest, place, freeSpacing, names⟩ := st
  cases freeSpacing with
  | false => exact .same rfl fun _ => rfl
  | true =>
    rcases Reader.skipSpaces_append false rest with same | ⟨-, comment⟩
    · refine .same rfl fun i => ?_
      have passed := same ')' i.after (by decide) (by decide)
      simp only [if_true, passed, List.length_append, Nat.add_sub_add_right, ReadState.within,
        Nat.add_right_comm]
    · refine .inr fun i => ?_
      have passed := comment ')' i.after (by decide)
      simp only [if_true, passed]
      exact Reader.skipSpaces_suffix true i.after

theorem tracks_bump (st : ReadState) :
    Tracks Past (fun _ u => u) (Reader.bump st) fun i => Reader.bump (st.within i) := by
  cases next : st.rest with
  | nil =>
    have late (i : Enclosure) : Late i () (st.within i) := late_within next
    exact .inr fun i => (late i).ends_bump
  | cons c rest =>
    refine .same rfl fun i => ?_
    simp [next, ReadState.within, Nat.add_right_comm]

theorem tracks_step (st : ReadState) :
    Tracks Past (fun _ u => u) (Reader.step st) fun i => Reader.step (st.within i) :=
  .bind (tracks_bump st) (fun _ middle _ => tracks_space middle) fun _ _ _ past => past.ends

private theorem Tracks.within_or_past {r : Reader Unit} {after : ReadState → ReadState}
    (run : ∀ st, r st = .ok ((), after st)) {st : ReadState}
    (tracks : Tracks Past (fun _ u => u) (r st) fun i => r (st.within i)) :
    (∀ i, after (st.within i) = (after st).within i) ∨ ∀ i, Past i () (after (st.within i)) := by
  simp only [Tracks, run] at tracks
  rcases tracks with ⟨u, middle, ⟨⟩, same⟩ | past
  · exact .inl fun i => congrArg Prod.snd (Except.ok.inj (same i))
  · exact .inr past

theorem spaced_within (st : ReadState) :
    (∀ i, (st.within i).spaced = st.spaced.within i) ∨ ∀ i, Past i () (st.within i).spaced :=
  (tracks_space st).within_or_past Reader.space_run

theorem stepped_within (st : ReadState) :
    (∀ i, (st.within i).stepped = st.stepped.within i) ∨ ∀ i, Past i () (st.within i).stepped :=
  (tracks_step st).within_or_past Reader.step_run

theorem tracks_digits (extra : Enclosure → Nat) (fuel : Nat) (st : ReadState)
    (enough : st.rest.length < fuel) :
    Tracks Late (fun _ list => list) (Reader.digits fuel st) fun i =>
      Reader.digits (fuel + extra i) (st.within i) := by
  induction fuel generalizing st with
  | zero => omega
  | succ fuel ih =>
    cases next : st.rest with
    | nil => exact .of_nil next
    | cons c rest =>
      simp only [Nat.add_right_comm fuel 1, Reader.digits, Reader.peek_bind, within_rest, next,
        List.cons_append, List.head?_cons, Reader.ite_run]
      by_cases digit : c.isDigit
      · simp only [digit, if_true]
        refine .bind (tracks_step st).late (fun _ middle read => ?_) fun _ _ _ late => late.ends
        have fewer := Reader.Advances.length_lt read next enough
        exact .bind (ih middle fewer) (fun list last _ => .same rfl fun _ => rfl)
          fun _ _ _ late => late.ends
      · simp only [digit]
        exact .same rfl fun _ => rfl

end RowStamp.Regex
