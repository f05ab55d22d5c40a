import RowStamp.Proofs.Regex.Advancing
import RowStamp.Proofs.Regex.EnclosedParts

/-!
Whole patterns where they are enclosed.  Brackets and groups that the pattern leaves open swallow
the closing parenthesis and then find no end; what the pattern closes itself is read as alone.
-/

set_option autoImplicit false
set_option relaxedAutoImplicit false

namespace RowStamp.Regex

open Reader

variable {i : Enclosure} {st : ReadState}

/-! ### The start of brackets -/

private theorem tracks_hyphens (start : Nat) (extra : Enclosure → Nat) (fuel : Nat) (st : ReadState)
    (enough : st.rest.length < fuel) :
    Tracks Late (fun distance => List.map (ClassSet.moved distance)) (hyphens start fuel st)
      fun i => hyphens (start + i.behind) (fuel + extra i) (st.within i) := by
  induction fuel generalizing st with
  | zero => omega
  | succ fuel ih =>
    cases next : st.rest with
    | nil => exact .of_nil next
    | cons c rest =>
      simp only [Nat.add_right_comm fuel 1, hyphens, peekIs_bind, next, head?_within_cons next,
        List.head?_cons]
      refine .ite (fun _ => ?_) fun _ => .same rfl fun _ => rfl
      simp only [hereChar_within next, hereChar_bind, next, List.head?_cons, Option.isSome_some,
        if_true]
      refine .bind (tracks_step st).late (fun _ middle read => ?_) fun _ _ _ late => late.ends
      have fewer := Advances.length_lt read next enough
      cases next : middle.rest with
      | nil => exact .of_nil next
      | cons d more =>
        simp only [peek_bind, next, head?_within_cons next, List.head?_cons, Option.isNone_some,
          Bool.false_eq_true, if_false]
        exact .bind (ih middle fewer) (fun _ _ _ => .same rfl fun _ => rfl)
          fun _ _ _ late => late.ends

def movedStart (distance : Nat) (start : ClassStart) : ClassStart :=
  ⟨start.span.moved distance, start.negated, start.items.map (ClassSet.moved distance)⟩

private theorem tracks_classItems (start : Nat) (negated : Bool) (st : ReadState) :
    Tracks Late movedStart (classItems start negated st) fun i =>
      classItems (start + i.behind) negated (st.within i) := by
  simp only [classItems, get_bind, within_length]
  refine .bind (tracks_hyphens start (fun i => i.after.length + 1) _ st (Nat.lt_succ_self _))
    (fun dashes middle _ => ?_) fun _ _ _ late => late.ends
  cases next : middle.rest with
  | nil => exact .of_nil next
  | cons c rest =>
    simp only [peekIs_bind, next, head?_within_cons next, List.head?_cons, List.isEmpty_map]
    refine .ite (fun _ => ?_) fun _ => .same rfl fun _ => rfl
    simp only [hereChar_within next, hereChar_bind, next, List.head?_cons, Option.isSome_some,
      if_true]
    exact .bind (tracks_stepOr .openClass start middle) (fun _ _ _ => .same rfl fun _ => rfl)
      fun _ _ _ late => late.ends

private theorem tracks_classStart (st : ReadState) :
    Tracks Late movedStart (classStart st) fun i => classStart (st.within i) := by
  simp only [classStart_eq, place_bind]
  refine .bind (tracks_stepOr .openClass st.place st) (fun _ middle _ => ?_) fun _ _ _ late =>
    late.ends
  cases next : middle.rest with
  | nil => exact .of_nil next
  | cons c rest =>
    simp only [peekIs_bind, next, head?_within_cons next, List.head?_cons]
    refine .ite (fun _ => ?_) fun _ => tracks_classItems st.place false middle
    exact .bind (tracks_stepOr .openClass st.place middle)
      (fun _ last _ => tracks_classItems st.place true last) fun _ _ _ late => late.ends

/-! ### Brackets -/

private theorem tracks_setOperator (st : ReadState) :
    Tracks Past (fun _ operator => operator) (setOperator st) fun i =>
      setOperator (st.within i) := by
  unfold setOperator
  refine .bind (tracks_text "&&" (by decide) st) (fun _ st _ => ?_) fun _ _ _ past => past.ends
  refine .ite (fun _ => .same rfl fun _ => rfl) fun _ => ?_
  refine .bind (tracks_text "--" (by decide) st) (fun _ st _ => ?_) fun _ _ _ past => past.ends
  refine .ite (fun _ => .same rfl fun _ => rfl) fun _ => ?_
  refine .bind (tracks_text "~~" (by decide) st) (fun _ st _ => ?_) fun _ _ _ past => past.ends
  exact .ite (fun _ => .same rfl fun _ => rfl) fun _ => .same rfl fun _ => rfl

private theorem unionOf_moved (distance place : Nat) (items : List ClassSet) :
    unionOf (place + distance) (items.map (ClassSet.moved distance)) =
      (unionOf place items).moved distance := by
  match items with
  | [] => rfl
  | [item] => rfl
  | first :: second :: rest =>
    have last : ((second :: rest).map (ClassSet.moved distance)).getLast? =
        (second :: rest).getLast?.map (ClassSet.moved distance) := List.getLast?_map
    have some : ∃ last, (second :: rest).getLast? = some last :=
      Option.isSome_iff_exists.mp (by simp)
    obtain ⟨last', eq⟩ := some
    rw [eq] at last
    simp only [List.map_cons] at last
    simp only [unionOf, List.map_cons, last, eq, ClassSet.moved, ClassSet.allMoved_eq,
      ClassSet.span_moved, Span.moved, Option.getD_some, Option.map_some]

/-- What stands before an operator, further on. -/
def movedLeft (distance : Nat) (left : Option (SetOperator × ClassSet)) :
    Option (SetOperator × ClassSet) :=
  left.map fun left => (left.1, left.2.moved distance)

private theorem combined_moved (distance : Nat) (left : Option (SetOperator × ClassSet))
    (right : ClassSet) :
    combined (movedLeft distance left) (right.moved distance) =
      (combined left right).moved distance := by
  cases left with
  | none => rfl
  | some left => simp only [combined, movedLeft, Option.map_some, ClassSet.moved,
      ClassSet.span_moved, Span.moved]

private theorem ends_classFrom (fuel : Nat) (start : ClassStart)
    (left : Option (SetOperator × ClassSet))
    (items : List ClassSet) (st : ReadState) (opened : ']' ∉ st.rest) :
    Ends (fun _ _ => False) (classFrom fuel start left items st) := by
  induction fuel generalizing start left items st with
  | zero => exact Ends.error (by simp)
  | succ fuel ih =>
    have opened : ']' ∉ st.spaced.rest := fun mem =>
      opened ((Consumes.ends (r := space) st).subset mem)
    cases next : st.spaced.rest.head? with
    | none =>
      simp only [classFrom_succ, space_bind, place_bind, peek_bind, next]
      exact Ends.error (by simp)
    | some c =>
      by_cases close : c = ']'
      · subst close
        exact absurd (List.mem_of_head? next) opened
      · by_cases nested : c = '['
        · subst nested
          simp only [classFrom_succ, space_bind, place_bind, peek_bind, next]
          refine (Consumes.ends (r := nestedItem fuel) _).bind fun item last suffix => ?_
          exact ih start left _ last fun mem => opened (suffix.subset mem)
        · simp only [classFrom_succ, space_bind, place_bind, peek_bind, next]
          refine (Consumes.ends (r := setOperator) _).bind fun operator middle suffix => ?_
          have opened : ']' ∉ middle.rest := fun mem => opened (suffix.subset mem)
          cases operator with
          | some operator => exact ih start _ [] middle opened
          | none =>
            refine (Consumes.ends (r := classRange start.span c) _).bind fun item last suffix => ?_
            exact ih start left _ last fun mem => opened (suffix.subset mem)

private theorem Late.ends_classFrom {α : Type} {a : α} (late : Late i a st) (fuel : Nat)
    (start : ClassStart) (left : Option (SetOperator × ClassSet)) (items : List ClassSet) :
    Ends (Past i) (classFrom fuel start left items st) :=
  (RowStamp.Regex.ends_classFrom fuel start left items st
    (late.not_mem (by decide) (by decide))).mono fun _ _ none => by simp at none

private theorem Late.ends_classAfter {α : Type} {a : α} (late : Late i a st) (fuel : Nat)
    (start : ClassStart) (left : Option (SetOperator × ClassSet)) (set : ClassSet)
    (items : List ClassSet) (c : Char) (operator : Option SetOperator) :
    Ends (Past i) (classAfter fuel start left set items c operator st) := by
  cases operator with
  | some operator => exact late.ends_classFrom fuel start _ []
  | none =>
    exact (late.ends (r := classRange start.span c)).bind fun item _ late =>
      late.ends_classFrom fuel start left _

section Brackets

variable {extra : Enclosure → Nat} {fuel : Nat}
  (further : ∀ start left items (st : ReadState), st.rest.length < fuel →
    Tracks Past ClassSet.moved (classFrom fuel start left items st) fun i =>
      classFrom (fuel + extra i) (movedStart i.behind start) (movedLeft i.behind left)
        (items.map (ClassSet.moved i.behind)) (st.within i))

include further

private theorem tracks_nestedItem_of {c : Char} {rest : List Char} (next : st.rest = c :: rest)
    (enough : st.rest.length < fuel + 1) :
    Tracks Past ClassSet.moved (nestedItem fuel st) fun i =>
      nestedItem (fuel + extra i) (st.within i) := by
  unfold nestedItem
  refine .bind (tracks_asciiClass st) (fun item middle read => ?_)
    fun _ _ _ => False.elim
  cases item with
  | some item => exact .same rfl fun _ => rfl
  | none =>
    have shorter : middle.rest.length ≤ st.rest.length := Consumes.length_le read
    refine .bind (tracks_classStart middle) (fun inner last read => ?_) fun _ _ _ late =>
      late.ends_classFrom ..
    have fewer : last.rest.length ≤ middle.rest.length - 1 := Advances.length_le read
    simp only [next, List.length_cons] at shorter enough
    exact further inner none inner.items last (by omega)

private theorem tracks_classAfter_of (start : ClassStart) (left : Option (SetOperator × ClassSet))
    (set : ClassSet) (items : List ClassSet) {c : Char} {rest : List Char} {middle : ReadState}
    {operator : Option SetOperator} (next : st.rest = c :: rest)
    (enough : st.rest.length < fuel + 1) (read : setOperator st = .ok (operator, middle)) :
    Tracks Past ClassSet.moved (classAfter fuel start left set items c operator middle) fun i =>
      classAfter (fuel + extra i) (movedStart i.behind start) (movedLeft i.behind left)
        (set.moved i.behind) (items.map (ClassSet.moved i.behind)) c operator
        (middle.within i) := by
  have passed := ends_setOperator st
  rw [read] at passed
  cases operator with
  | some operator =>
    have fewer : middle.rest.length ≤ (st.rest.drop 1).length := List.IsSuffix.length_le passed
    simp only [next, List.drop_one, List.tail_cons, List.length_cons] at fewer enough
    exact further start (some (operator, set)) [] middle (by omega)
  | none =>
    obtain rfl : middle = st := passed
    refine .bind (tracks_classRange start.span next) (fun item last read => ?_) fun _ _ _ late =>
      late.ends_classFrom ..
    have fewer := Advances.length_lt read next enough
    simpa only [List.map_append, List.map_cons, List.map_nil] using
      further start left (items ++ [item]) last fewer

end Brackets

private theorem tracks_classFrom (extra : Enclosure → Nat) (fuel : Nat) (start : ClassStart)
    (left : Option (SetOperator × ClassSet)) (items : List ClassSet) (st : ReadState)
    (enough : st.rest.length < fuel) :
    Tracks Past ClassSet.moved (classFrom fuel start left items st) fun i =>
      classFrom (fuel + extra i) (movedStart i.behind start) (movedLeft i.behind left)
        (items.map (ClassSet.moved i.behind)) (st.within i) := by
  induction fuel generalizing start left items st with
  | zero => omega
  | succ fuel ih =>
    simp only [Nat.add_right_comm fuel 1, classFrom_succ]
    refine .bind (tracks_space st) (fun _ middle read => ?_) fun _ _ _ past => past.ends_of
      (.bind inferInstance fun place => .bind inferInstance fun next => by
        split <;> infer_instance)
    have enough := Consumes.length_lt read enough
    simp only [place_bind, within_place, unionOf_moved, combined_moved]
    cases next : middle.rest with
    | nil =>
      refine .inr fun i => ?_
      have late : Late i () (middle.within i) := late_within next
      simp only [peek_bind, head?_within_nil next]
      exact (late.ends (r := setOperator)).bind fun operator _ late => late.ends_classAfter ..
    | cons c rest =>
      by_cases close : c = ']'
      · subst close
        simp only [peek_bind, next, head?_within_cons next, List.head?_cons]
        exact .bind (tracks_bump middle) (fun _ _ _ => .same rfl fun _ => rfl)
          fun _ _ _ past => past.ends
      · by_cases nested : c = '['
        · subst nested
          simp only [peek_bind, next, head?_within_cons next, List.head?_cons]
          refine .bind (tracks_nestedItem_of ih next enough) (fun item last read => ?_)
            fun _ _ _ past => past.late.ends_classFrom ..
          have fewer := Advances.length_lt read next enough
          simpa only [List.map_append, List.map_cons, List.map_nil] using
            ih start left (items ++ [item]) last fewer
        · simp only [peek_bind, next, head?_within_cons next, List.head?_cons]
          exact .bind (tracks_setOperator middle)
            (fun _ _ read => tracks_classAfter_of ih start left _ items next enough read)
            fun _ _ _ past => past.late.ends_classAfter ..

private theorem tracks_bracketed (st : ReadState) :
    Tracks Past Node.moved (bracketed st) fun i => bracketed (st.within i) := by
  unfold bracketed
  refine .bind (tracks_classStart st) (fun start middle _ => ?_) fun _ _ _ late => ?_
  · simp only [get_bind, within_length]
    exact .bind (tracks_classFrom (fun i => i.after.length + 1) _ start none start.items middle
      (Nat.lt_succ_self _)) (fun _ _ _ => .same rfl fun _ => rfl) fun _ _ _ past => past.ends
  · simp only [get_bind]
    exact (late.ends_classFrom ..).bind fun _ _ past => past.ends

/-! ### Parts of a branch -/

private theorem tracks_repeatLast {count : Reader (Nat × Option Nat)} [Consumes count]
    (tracks : Tracks Past (fun _ bounds => bounds) (count st) fun i => count (st.within i))
    (parts : List Node) :
    Tracks Past (fun distance => List.map (Node.moved distance)) (repeatLast parts count st)
      fun i => repeatLast (parts.map (Node.moved i.behind)) count (st.within i) := by
  have operand (i : Enclosure) : (parts.map (Node.moved i.behind)).getLast?.filter isOperand =
      (parts.getLast?.filter isOperand).map (Node.moved i.behind) := by
    rw [List.getLast?_map]
    cases parts.getLast? with
    | none => rfl
    | some last => cases last <;> rfl
  simp only [repeatLast_eq, operand]
  cases parts.getLast?.filter isOperand with
  | none => exact .inr fun _ => Ends.error (by simp)
  | some last =>
    refine .bind tracks (fun bounds after _ => .same rfl fun i => ?_) fun _ _ _ past => past.ends
    simp only [place_bind, pure_run, within_place, List.map_append, List.map_cons, List.map_nil,
      List.map_dropLast, Node.moved, Node.span_moved, Span.moved]

private theorem tracks_sign (low : Nat) (high : Option Nat) (st : ReadState) :
    Tracks Past (fun _ bounds => bounds) (sign low high st) fun i =>
      sign low high (st.within i) := by
  unfold sign
  refine .bind (tracks_bump st) (fun _ middle _ => ?_) fun _ _ _ past => past.ends
  cases next : middle.rest with
  | nil =>
    have plain : (some ')' == some '?') = false := rfl
    simp only [peekIs_bind, next, head?_within_nil next, List.head?_nil, plain]
    exact .same rfl fun _ => rfl
  | cons c rest =>
    simp only [peekIs_bind, next, head?_within_cons next, List.head?_cons]
    refine .ite (fun _ => ?_) fun _ => .same rfl fun _ => rfl
    exact .bind (tracks_bump middle) (fun _ _ _ => .same rfl fun _ => rfl) fun _ _ _ past =>
      past.ends

private theorem tracks_setSpacing (items : List FlagItem) (st : ReadState) :
    Tracks (fun _ _ _ => False) (fun _ u => u) (setSpacing items st) fun i =>
      setSpacing items (st.within i) :=
  .same rfl fun _ => rfl

private theorem Dangling.ends_grown (dangling : Dangling i st) (fuel : Nat) (parts : List Node)
    (stop : Nat) : Ends (fun _ _ => False) (grown fuel parts stop '\x7b' st) := by
  change Ends _ (repeatLast parts counts st)
  rw [repeatLast_eq]
  cases parts.getLast?.filter isOperand with
  | none => exact Ends.error (by simp)
  | some last => exact dangling.ends_counts.bind fun _ _ => False.elim

private theorem joined_moved (distance : Nat) (span : Span) (parts : List Node) :
    joined (span.moved distance) (parts.map (Node.moved distance)) =
      (joined span parts).moved distance := by
  match parts with
  | [] => rfl
  | [part] => rfl
  | first :: second :: rest => simp [joined, Node.moved]

private theorem branched_moved (distance : Nat) (span : Span) (branches : List Node) :
    branched (span.moved distance) (branches.map (Node.moved distance)) =
      (branched span branches).moved distance := by
  match branches with
  | [] => rfl
  | [branch] => rfl
  | first :: second :: rest => simp [branched, Node.moved]

theorem finished_moved (distance start : Nat) (branches : List Node) (branchStart : Nat)
    (parts : List Node) (stop : Nat) :
    finished (start + distance) (branches.map (Node.moved distance)) (branchStart + distance)
        (parts.map (Node.moved distance)) (stop + distance) =
      (finished start branches branchStart parts stop).moved distance := by
  simp only [finished, ← branched_moved, ← joined_moved, Span.moved, List.map_append, List.map_cons,
    List.map_nil]

private theorem Dangling.ends_extended (dangling : Dangling i st) (fuel : Nat)
    (branches : List Node) (branchStart : Nat) (parts : List Node) (stop : Nat) :
    Ends (fun _ _ => False) (extended fuel branches branchStart parts stop '\x7b' st) :=
  (dangling.ends_grown fuel parts stop).bind fun _ _ => False.elim

section Groups

variable {extra : Enclosure → Nat} {fuel : Nat}
  (further : ∀ parenthesis start (st : ReadState), st.rest.length < fuel →
    Tracks Late Node.moved (insideFrom fuel (some parenthesis) start [] start [] st) fun i =>
      insideFrom (fuel + extra i) (some (parenthesis.moved i.behind)) (start + i.behind) []
        (start + i.behind) [] (st.within i))

include further

private theorem tracks_grownGroup_of (parts : List Node) (stop : Nat) (parenthesis : Span)
    (opened : Opening) (enough : st.rest.length < fuel) :
    Tracks Past (fun distance => List.map (Node.moved distance))
      (grownGroup fuel parts stop parenthesis opened st) fun i =>
      grownGroup (fuel + extra i) (parts.map (Node.moved i.behind)) (stop + i.behind)
        (parenthesis.moved i.behind) opened (st.within i) := by
  cases opened with
  | setting items =>
    refine .bind (tracks_setSpacing items st)
      (fun _ middle _ => .same rfl fun i => ?_) fun _ _ _ => False.elim
    simp only [place_bind, pure_run, within_place, List.map_append, List.map_cons, List.map_nil,
      Node.moved, Span.moved]
  | group items =>
    simp only [grownGroup, get_bind]
    refine .bind (tracks_setSpacing items st) (fun _ middle read => ?_)
      fun _ _ _ => False.elim
    have enough := Consumes.length_lt read enough
    simp only [place_bind, within_place]
    refine .bind (further parenthesis middle.place middle enough)
      (fun inside close _ => ?_) fun i inside close late => ?_
    · simp only [modify_bind]
      refine .bind (tracks_bump { close with freeSpacing := st.freeSpacing })
        (fun _ last _ => .same rfl fun i => ?_) fun _ _ _ past => past.ends
      simp only [place_bind, pure_run, within_place, List.map_append, List.map_cons, List.map_nil,
        Node.moved, Span.moved]
    · simp only [modify_bind]
      have late : Late i () { close with freeSpacing := st.freeSpacing } := late
      exact late.ends_bump.bind fun _ _ past => past.ends

private theorem tracks_grown_of (parts : List Node) (stop : Nat) {c : Char} {rest : List Char}
    (next : st.rest = c :: rest) (enough : st.rest.length < fuel + 1) :
    Tracks (fun i parts last => Past i parts last ∨ Dangling i last)
      (fun distance => List.map (Node.moved distance)) (grown fuel parts stop c st) fun i =>
      grown (fuel + extra i) (parts.map (Node.moved i.behind)) (stop + i.behind) c
        (st.within i) := by
  have repeats {count : Reader (Nat × Option Nat)} [Consumes count]
      (tracks : Tracks Past (fun _ bounds => bounds) (count st) fun i => count (st.within i)) :
      Tracks (fun i parts last => Past i parts last ∨ Dangling i last)
        (fun distance => List.map (Node.moved distance)) (repeatLast parts count st) fun i =>
        repeatLast (parts.map (Node.moved i.behind)) count (st.within i) :=
    (tracks_repeatLast tracks parts).mono fun _ _ _ => .inl
  by_cases group : c = '('
  · subst group
    simp only [grown, hereChar_within next, hereChar_bind, next, List.head?_cons,
      Option.isSome_some, if_true]
    refine .bind (tracks_opening next) (fun opened middle read => ?_) fun _ _ _ past =>
      past.ends.mono fun _ _ => .inl
    have fewer := Advances.length_lt read next enough
    exact (tracks_grownGroup_of further parts stop _ opened fewer).mono fun _ _ _ => .inl
  by_cases bracket : c = '['
  · subst bracket
    refine .bind (tracks_bracketed st) (fun set last _ => .same rfl fun i => ?_) fun _ _ _ past =>
      .inl past
    simp only [pure_run, List.map_append, List.map_cons, List.map_nil]
  by_cases option : c = '?'
  · subst option
    exact repeats (tracks_sign 0 (some 1) st)
  by_cases star : c = '*'
  · subst star
    exact repeats (tracks_sign 0 none st)
  by_cases plus : c = '+'
  · subst plus
    exact repeats (tracks_sign 1 none st)
  by_cases brace : c = '\x7b'
  · subst brace
    exact repeats (tracks_counts st)
  simp only [grown]
  refine .bind (tracks_primitive next) (fun part last _ => .same rfl fun i => ?_)
    fun i part last astray => ?_
  · simp only [pure_run, List.map_append, List.map_cons, List.map_nil]
  · exact astray.imp_right And.right

theorem tracks_extended_of (branches : List Node) (branchStart : Nat) (parts : List Node)
    (stop : Nat) {c : Char} {rest : List Char} (next : st.rest = c :: rest)
    (enough : st.rest.length < fuel + 1) :
    Tracks (fun i _ last => Past i () last ∨ Dangling i last)
      (fun distance next => (next.1.map (Node.moved distance), next.2.1 + distance,
        next.2.2.map (Node.moved distance)))
      (extended fuel branches branchStart parts stop c st) fun i =>
      extended (fuel + extra i) (branches.map (Node.moved i.behind)) (branchStart + i.behind)
        (parts.map (Node.moved i.behind)) (stop + i.behind) c (st.within i) := by
  unfold extended
  refine .ite (fun bar => ?_) fun notBar => ?_
  · refine .bind (tracks_bump st) (fun _ last _ => .same rfl fun i => ?_)
      fun _ _ _ past => .inl past
    simp only [place_bind, pure_run, within_place, List.map_append, List.map_cons, List.map_nil,
      ← joined_moved, Span.moved]
  · exact .bind (tracks_grown_of further parts stop next enough)
      (fun parts last _ => .same rfl fun i => rfl) fun _ _ _ lost => lost

end Groups

/-! ### Groups -/

theorem ends_inside (fuel : Nat) (parenthesis : Option Span) (start : Nat) (branches : List Node)
    (branchStart : Nat) (parts : List Node) (st : ReadState) (opened : ')' ∉ st.spaced.rest) :
    Ends (fun _ _ => parenthesis = none)
      (insideFrom fuel parenthesis start branches branchStart parts st) := by
  induction fuel generalizing branches branchStart parts st with
  | zero => exact Ends.error (by simp)
  | succ fuel ih =>
    cases next : st.spaced.rest.head? with
    | none =>
      simp only [insideFrom_succ, space_bind, place_bind, peek_bind, next]
      cases parenthesis with
      | none => rfl
      | some span => exact Ends.error (by simp)
    | some c =>
      by_cases close : c = ')'
      · subst close
        exact absurd (List.mem_of_head? next) opened
      · simp only [insideFrom_succ, space_bind, place_bind, peek_bind, next]
        refine (Consumes.ends (r := extended fuel branches branchStart parts _ c) _).bind
          fun more last suffix => ih more.1 more.2.1 more.2.2 last fun mem => opened ?_
        exact suffix.subset ((Consumes.ends (r := space) last).subset mem)

theorem ends_inside_lost (lost : Past i () st ∨ Dangling i st) (fuel : Nat)
    (parenthesis : Option Span) (start : Nat) (branches : List Node) (branchStart : Nat)
    (parts : List Node) :
    Ends (fun _ _ => parenthesis = none)
      (insideFrom fuel parenthesis start branches branchStart parts st) := by
  rcases lost with past | dangling
  · refine ends_inside fuel parenthesis start branches branchStart parts st fun mem => ?_
    exact past.not_mem ((Consumes.ends (r := space) st).subset mem)
  · cases fuel with
    | zero => exact Ends.error (by simp)
    | succ fuel =>
      have spaced : st.spaced = st := spaced_of_head? dangling.1 (by decide) (by decide)
      simp only [insideFrom_succ, space_bind, place_bind, peek_bind, spaced, dangling.1]
      exact (dangling.ends_extended fuel branches branchStart parts st.place).bind
        fun _ _ => False.elim

theorem tracks_inside (extra : Enclosure → Nat) (fuel : Nat) (parenthesis : Span) (start : Nat)
    (branches : List Node) (branchStart : Nat) (parts : List Node) (st : ReadState)
    (enough : st.rest.length < fuel) :
    Tracks Late Node.moved
      (insideFrom fuel (some parenthesis) start branches branchStart parts st) fun i =>
      insideFrom (fuel + extra i) (some (parenthesis.moved i.behind)) (start + i.behind)
        (branches.map (Node.moved i.behind)) (branchStart + i.behind)
        (parts.map (Node.moved i.behind)) (st.within i) := by
  induction fuel generalizing parenthesis start branches branchStart parts st with
  | zero => omega
  | succ fuel ih =>
    rcases spaced_within st with same | past
    · have enough := Consumes.length_lt (space_run st) enough
      simp only [Nat.add_right_comm fuel 1, insideFrom_succ, space_bind, place_bind, same,
        within_place]
      cases next : st.spaced.rest with
      | nil =>
        refine .inr fun i => ?_
        simp only [peek_bind, head?_within_nil next]
        exact (late_within next : Late i () _)
      | cons c rest =>
        by_cases close : c = ')'
        · subst close
          simp only [peek_bind, next, head?_within_cons next, List.head?_cons]
          exact .same rfl fun i => by simp only [pure_run, finished_moved]
        · simp only [peek_bind, next, head?_within_cons next, List.head?_cons]
          have grows := tracks_extended_of (fun span start st => ih span start [] start [] st)
            branches branchStart parts st.spaced.place next enough
          refine .bind grows (fun more last read => ?_) fun i more last lost => ?_
          · exact ih parenthesis start more.1 more.2.1 more.2.2 last
              (Advances.length_lt read next enough)
          · exact (ends_inside_lost lost ..).mono fun _ _ none => by simp at none
    · exact .inr fun i => (ends_inside _ _ _ _ _ _ _ (past i).not_mem).mono fun _ _ none => by simp at none

end RowStamp.Regex
