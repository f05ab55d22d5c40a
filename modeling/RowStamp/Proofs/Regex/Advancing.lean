import RowStamp.Proofs.Regex.ConsumingPattern

/-!
Readers that are past the next character when they succeed.  The parts of a pattern and the items
of a class are read so, which is why the fuel of the readers that repeat them does not run out.
-/

set_option autoImplicit false
set_option relaxedAutoImplicit false

namespace RowStamp.Regex.Reader

variable {α β : Type}

/-- A reader that is past the next character when it succeeds. -/
class Advances (r : Reader α) : Prop where
  ends : ∀ st, Ends (fun _ next => next.rest <:+ st.rest.drop 1) (r st)

theorem Advances.length_le {r : Reader α} [advances : Advances r] {st next : ReadState} {a : α}
    (read : r st = .ok (a, next)) : next.rest.length ≤ st.rest.length - 1 := by
  have ends := advances.ends st
  rw [read] at ends
  simpa using ends.length_le

theorem Advances.length_lt {r : Reader α} [Advances r] {st last : ReadState} {a : α}
    (read : r st = .ok (a, last)) {c : Char} {rest : List Char} (next : st.rest = c :: rest)
    {fuel : Nat} (enough : st.rest.length < fuel + 1) : last.rest.length < fuel := by
  have fewer := Advances.length_le read
  simp only [next, List.length_cons] at fewer enough
  omega

private theorem drop_one_suffix {chars more : List Char} (suffix : chars <:+ more) :
    chars.drop 1 <:+ more.drop 1 := by
  obtain ⟨before, rfl⟩ := suffix
  cases before with
  | nil => exact List.suffix_rfl
  | cons c before => exact (List.drop_suffix 1 chars).trans (List.suffix_append before chars)

private theorem Advances.first {r : Reader α} {f : α → Reader β} (first : Advances r)
    (next : ∀ a, Consumes (f a)) : Advances (r >>= f) where
  ends st := (first.ends st).bind fun a middle suffix =>
    ((next a).ends middle).mono fun _ _ more => more.trans suffix

private theorem Advances.later {r : Reader α} {f : α → Reader β} (first : Consumes r)
    (next : ∀ a, Advances (f a)) : Advances (r >>= f) where
  ends st := (first.ends st).bind fun a middle suffix =>
    ((next a).ends middle).mono fun _ _ more => more.trans (drop_one_suffix suffix)

instance advances_first {r : Reader α} {f : α → Reader β} [first : Advances r]
    [next : ∀ a, Consumes (f a)] : Advances (r >>= f) :=
  first.first next

instance advances_later {r : Reader α} {f : α → Reader β} [first : Consumes r]
    [next : ∀ a, Advances (f a)] : Advances (r >>= f) :=
  .later first next

instance advances_fault (cause : Cause) (span : Span) [other : Holds (isOther cause)] :
    Advances (fault cause span : Reader α) where
  ends st := by
    rintro (rfl : cause = _)
    cases other.holds

instance advances_ite (c : Prop) [Decidable c] (r s : Reader α) [Advances r] [Advances s] :
    Advances (if c then r else s) := by
  split <;> infer_instance

instance advances_bump : Advances bump where
  ends _ := List.suffix_rfl

instance advances_step : Advances step := by
  unfold step
  infer_instance

instance advances_stepOr (cause : Cause) (start : Nat) [Holds (isOther cause)] :
    Advances (stepOr cause start) := by
  unfold stepOr
  infer_instance

/-! ### Items of a class -/

instance advances_escape : Advances escape := by
  rw [escape_eq]
  infer_instance

instance advances_primitive (c : Char) : Advances (primitive c) := by
  unfold primitive
  split
  · infer_instance
  · refine .later inferInstance fun span => .first inferInstance fun _ => ?_
    split <;> infer_instance

instance advances_classPrimitive (c : Char) : Advances (classPrimitive c) := by
  unfold classPrimitive
  infer_instance

instance advances_classRange (brackets : Span) (c : Char) : Advances (classRange brackets c) := by
  rw [classRange_eq]
  infer_instance

instance advances_classStart : Advances classStart := by
  rw [classStart_eq]
  refine .later inferInstance fun start => .first inferInstance fun _ => ?_
  infer_instance

private theorem ends_asciiClass (st : ReadState) :
    Ends (fun item next => item.isSome → next.rest <:+ st.rest.drop 1) (asciiClass st) := by
  obtain ⟨rest, place, freeSpacing, names⟩ := st
  obtain ⟨negated, name, kind, after, parsed, rfl⟩ | unnamed := asciiText_or_unnamed rest
  · rw [asciiClass_found negated after place freeSpacing names parsed]
    exact fun _ => List.suffix_append _ _
  · rw [asciiClass_other unnamed]
    intro given
    simp at given

instance advances_nestedItem (fuel : Nat) : Advances (nestedItem fuel) where
  ends st := by
    unfold nestedItem
    refine ((ends_asciiClass st).and (Consumes.ends st)).bind fun item middle ⟨passed, suffix⟩ => ?_
    cases item with
    | some item => exact passed rfl
    | none =>
      have advances : Advances (do
          let inner ← classStart
          classFrom fuel inner none inner.items) := inferInstance
      exact (advances.ends middle).mono fun _ _ more => more.trans (drop_one_suffix suffix)

private theorem ends_text (chars : String) (nonempty : chars.toList ≠ []) (st : ReadState) :
    Ends (fun found next => if found then next.rest <:+ st.rest.drop 1 else next = st)
      (text chars st) := by
  rw [text_run]
  split
  · have more : 1 ≤ chars.toList.length := List.length_pos_iff.mpr nonempty
    exact List.drop_suffix_drop_left st.rest more
  · rfl

/-- An operator is passed, where there is one; otherwise nothing is consumed. -/
theorem ends_setOperator (st : ReadState) :
    Ends (fun operator next => if operator.isSome then next.rest <:+ st.rest.drop 1 else next = st)
      (setOperator st) := by
  unfold setOperator
  refine (ends_text "&&" (by decide) st).bind fun found next passed => ?_
  cases found with
  | true => exact passed
  | false =>
    obtain rfl : next = st := passed
    refine (ends_text "--" (by decide) next).bind fun found st passed => ?_
    cases found with
    | true => exact passed
    | false =>
      obtain rfl : st = next := passed
      refine (ends_text "~~" (by decide) st).bind fun found next passed => ?_
      cases found with
      | true => exact passed
      | false => exact passed

/-! ### Parts of a pattern -/

instance advances_bracketed : Advances bracketed := by
  unfold bracketed
  infer_instance

instance advances_sign (low : Nat) (high : Option Nat) : Advances (sign low high) := by
  unfold sign
  infer_instance

instance advances_counts : Advances counts := by
  rw [counts_eq]
  refine .later inferInstance fun start => .first inferInstance fun _ => ?_
  exact consumes_decimal_bind fun low _ => inferInstance

instance advances_repeatLast (parts : List Node) (count : Reader (Nat × Option Nat))
    [Advances count] [Consumes count] : Advances (repeatLast parts count) := by
  rw [repeatLast_eq]
  split
  · infer_instance
  · unfold lastRepeated
    infer_instance

instance advances_opening : Advances opening := by
  rw [opening_eq]
  infer_instance

instance advances_grown (fuel : Nat) (parts : List Node) (stop : Nat) (c : Char) :
    Advances (grown fuel parts stop c) := by
  unfold grown
  split <;> infer_instance

instance advances_extended (fuel : Nat) (branches : List Node) (branchStart : Nat)
    (parts : List Node) (stop : Nat) (c : Char) :
    Advances (extended fuel branches branchStart parts stop c) := by
  unfold extended
  infer_instance

end RowStamp.Regex.Reader
