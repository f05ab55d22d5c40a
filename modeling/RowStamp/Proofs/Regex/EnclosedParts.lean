import RowStamp.Proofs.Regex.EnclosedEscapes

/-!
The other parts of a pattern without nesting, where the pattern is enclosed: counts, names, flags
and what a parenthesis opens.
-/

set_option autoImplicit false
set_option relaxedAutoImplicit false

namespace RowStamp.Regex

open Reader

variable {i : Enclosure} {st : ReadState}

/-! ### Counts -/

def movedCount (distance : Nat) : Except SyntaxFault Nat → Except SyntaxFault Nat
  | .ok n => .ok n
  | .error fault => .error { fault with span := fault.span.moved distance }

instance isCount_moved (distance : Nat) (number : Except SyntaxFault Nat) [count : IsCount number] :
    IsCount (movedCount distance number) where
  other fault eq := by
    cases number with
    | ok n => cases eq
    | error earlier =>
      obtain ⟨⟩ := eq
      exact count.other earlier rfl

private theorem decimalOf_moved (distance : Nat) (span : Span) (list : List Char) :
    decimalOf (span.moved distance) list = movedCount distance (decimalOf span list) := by
  unfold decimalOf
  dsimp only
  split
  · rfl
  · split <;> rfl

private theorem tracks_blanks (extra : Enclosure → Nat) (fuel : Nat) (st : ReadState)
    (enough : st.rest.length < fuel) :
    Tracks Late (fun _ u => u) (blanks fuel st) fun i => blanks (fuel + extra i) (st.within i) := by
  induction fuel generalizing st with
  | zero => omega
  | succ fuel ih =>
    cases next : st.rest with
    | nil => exact .of_nil next
    | cons c rest =>
      simp only [Nat.add_right_comm fuel 1, blanks, peek_bind, next, head?_within_cons next,
        List.head?_cons]
      refine .ite (fun _ => ?_) fun _ => .same rfl fun _ => rfl
      refine .bind (tracks_step st).late (fun _ middle read => ?_) fun _ _ _ late => late.ends
      exact ih middle (Advances.length_lt read next enough)

private theorem tracks_decimal (st : ReadState) :
    Tracks Late movedCount (decimal st) fun i => decimal (st.within i) := by
  simp only [decimal_eq, get_bind, within_length]
  refine .bind (tracks_blanks (fun i => i.after.length + 1) _ st (Nat.lt_succ_self _))
    (fun _ first read => ?_) fun _ _ _ late => late.ends
  simp only [place_bind]
  have enough := Consumes.length_lt read (Nat.lt_succ_self _)
  refine .bind (tracks_digits (fun i => i.after.length + 1) _ first enough)
    (fun list last read => ?_) fun _ _ _ late => late.ends
  simp only [place_bind]
  have enough := Consumes.length_lt read enough
  refine .bind (tracks_blanks (fun i => i.after.length + 1) _ last enough)
    (fun _ _ _ => .same rfl fun i => ?_) fun _ _ _ late => late.ends
  rw [← decimalOf_moved]
  rfl

private theorem tracks_ofExcept (number : Except SyntaxFault Nat) [count : IsCount number]
    (st : ReadState) : Tracks Past (fun _ n => n) (counts.ofExcept number st) fun i =>
      counts.ofExcept (movedCount i.behind number) (st.within i) := by
  cases number with
  | ok n => exact .same rfl fun _ => rfl
  | error fault => exact .inr fun _ => count.other fault rfl

private theorem tracks_countHigh (low : Except SyntaxFault Nat) [IsCount low] (st : ReadState) :
    Tracks Late (fun _ bounds => bounds) (countHigh low st) fun i =>
      countHigh (movedCount i.behind low) (st.within i) := by
  cases next : st.rest with
  | nil => exact .of_nil next
  | cons c rest =>
    simp only [countHigh, peekIs_bind, next, head?_within_cons next, List.head?_cons]
    refine .ite (fun _ => ?_) fun _ => ?_
    · exact .bind (tracks_ofExcept low st).late (fun _ _ _ => .same rfl fun _ => rfl)
        fun _ _ _ late => late.ends
    · refine .bind (tracks_ofExcept low st).late (fun n middle _ => ?_) fun _ _ _ late =>
        late.ends_of (consumes_decimal_bind fun high _ => inferInstance)
      refine .bind ((tracks_decimal middle).and fun i => ends_decimal _) (fun high last read => ?_)
        fun _ _ _ ⟨late, _⟩ => late.ends
      have count := isCount_of_decimal read
      exact .bind (tracks_ofExcept high last).late (fun _ _ _ => .same rfl fun _ => rfl)
        fun _ _ _ late => late.ends

private theorem tracks_countBounds (start : Nat) (low : Except SyntaxFault Nat) [IsCount low]
    (st : ReadState) :
    Tracks Late (fun _ bounds => bounds) (countBounds start low st) fun i =>
      countBounds (start + i.behind) (movedCount i.behind low) (st.within i) := by
  cases next : st.rest with
  | nil => exact .of_nil next
  | cons c rest =>
    simp only [countBounds, peekIs_bind, next, head?_within_cons next, List.head?_cons]
    refine .ite (fun _ => ?_) fun _ => ?_
    · exact .bind (tracks_stepOr .openCount start st)
        (fun _ middle _ => tracks_countHigh low middle) fun _ _ _ late => late.ends
    · exact .bind (tracks_ofExcept low st).late (fun _ _ _ => .same rfl fun _ => rfl)
        fun _ _ _ late => late.ends

private theorem tracks_countOrdered (start : Nat) (bounds : Nat × Option Nat) (st : ReadState) :
    Tracks Past (fun _ bounds => bounds) (countOrdered start bounds st) fun i =>
      countOrdered (start + i.behind) bounds (st.within i) := by
  obtain ⟨low, _ | high⟩ := bounds
  · exact .same rfl fun _ => rfl
  · exact .ite (fun _ => .inr fun _ => Ends.error (by simp)) fun _ => .same rfl fun _ => rfl

private theorem Late.ends_countEnd {α : Type} {a : α} (late : Late i a st) (start : Nat)
    (bounds : Nat × Option Nat) : Ends (fun _ _ => False) (countEnd start bounds st) := by
  have unclosed : (st.rest.head? == some '\x7d') = false :=
    late.isNext_eq_false (by decide) (by decide)
  simp only [countEnd, peekIs_bind, unclosed]
  exact Ends.error (by simp)

private theorem tracks_countEnd (start : Nat) (bounds : Nat × Option Nat) (st : ReadState) :
    Tracks Past (fun _ bounds => bounds) (countEnd start bounds st) fun i =>
      countEnd (start + i.behind) bounds (st.within i) := by
  cases next : st.rest with
  | nil =>
    have late (i : Enclosure) : Late i () (st.within i) := late_within next
    exact .inr fun i => ((late i).ends_countEnd _ _).mono fun _ _ => False.elim
  | cons c rest =>
    simp only [countEnd, peekIs_bind, next, head?_within_cons next, List.head?_cons]
    refine .ite (fun _ => ?_) fun _ => .inr fun _ => Ends.error (by simp)
    refine .bind (tracks_step st) (fun _ middle _ => ?_) fun _ _ _ past => past.ends
    cases next : middle.rest with
    | nil =>
      have plain : (some ')' == some '?') = false := rfl
      simp only [peekIs_bind, next, head?_within_nil next, List.head?_nil, plain]
      exact tracks_countOrdered start bounds middle
    | cons d more =>
      simp only [peekIs_bind, next, head?_within_cons next, List.head?_cons]
      refine .ite (fun _ => ?_) fun _ => tracks_countOrdered start bounds middle
      exact .bind (tracks_bump middle) (fun _ last _ => tracks_countOrdered start bounds last)
        fun _ _ _ past => past.ends

private theorem Late.ends_countRest {α : Type} {a : α} (late : Late i a st) (start : Nat)
    (low : Except SyntaxFault Nat) [IsCount low] :
    Ends (fun _ _ => False) (countRest start low st) := by
  simp only [countRest, peek_bind, fault_bind]
  refine .ite (Ends.error (by simp)) ?_
  exact (late.ends (r := countBounds start low)).bind fun bounds _ late =>
    late.ends_countEnd start bounds

private theorem tracks_countRest (start : Nat) (low : Except SyntaxFault Nat) [IsCount low]
    (st : ReadState) :
    Tracks Past (fun _ bounds => bounds) (countRest start low st) fun i =>
      countRest (start + i.behind) (movedCount i.behind low) (st.within i) := by
  cases next : st.rest with
  | nil =>
    have late (i : Enclosure) : Late i () (st.within i) := late_within next
    exact .inr fun i => ((late i).ends_countRest _ _).mono fun _ _ => False.elim
  | cons c rest =>
    simp only [countRest, peek_bind, next, head?_within_cons next, List.head?_cons,
      Option.isNone_some, Bool.false_eq_true, if_false]
    exact .bind (tracks_countBounds start low st)
      (fun bounds last _ => tracks_countEnd start bounds last) fun _ bounds _ late =>
        (late.ends_countEnd _ bounds).mono fun _ _ => False.elim

private theorem Late.ends_number {α : Type} {a : α} (late : Late i a st) (start : Nat) :
    Ends (fun _ _ => False) ((do countRest start (← decimal)) st) :=
  ((late.ends (r := decimal)).and (ends_decimal st)).bind fun low _ ⟨late, _⟩ =>
    late.ends_countRest start low

theorem Dangling.ends_counts (dangling : Dangling i st) : Ends (fun _ _ => False) (counts st) := by
  have stepped : Ends (Late i) (stepOr .openCount st.place st) := by
    unfold stepOr
    simp only [step_bind, peek_bind]
    exact .ite (Ends.error (by simp)) dangling.2
  simp only [counts_eq, place_bind]
  exact stepped.bind fun _ _ late => late.ends_number _

theorem tracks_counts (st : ReadState) :
    Tracks Past (fun _ bounds => bounds) (counts st) fun i => counts (st.within i) := by
  simp only [counts_eq, place_bind]
  refine .bind (tracks_stepOr .openCount st.place st) (fun _ middle _ => ?_) fun _ _ _ late =>
    (late.ends_number _).mono fun _ _ => False.elim
  refine .bind ((tracks_decimal middle).and fun i => ends_decimal _) (fun low last read => ?_)
    fun _ low _ ⟨late, _⟩ => (late.ends_countRest _ low).mono fun _ _ => False.elim
  have count := isCount_of_decimal read
  exact tracks_countRest st.place low last

/-! ### Names -/

private theorem tracks_nameChars (extra : Enclosure → Nat) (fuel : Nat) (first : Bool)
    (st : ReadState) (enough : st.rest.length < fuel) :
    Tracks Late (fun _ name => name) (nameChars fuel first st) fun i =>
      nameChars (fuel + extra i) first (st.within i) := by
  induction fuel generalizing first st with
  | zero => omega
  | succ fuel ih =>
    cases next : st.rest with
    | nil => exact .of_nil next
    | cons c rest =>
      by_cases close : c = '>'
      · subst close
        simp only [Nat.add_right_comm fuel 1, nameChars, peek_bind, next, head?_within_cons next,
          List.head?_cons]
        exact .same rfl fun _ => rfl
      · simp only [Nat.add_right_comm fuel 1, nameChars, peek_bind, next, head?_within_cons next,
          List.head?_cons]
        refine .ite (fun _ => ?_) fun _ => .inr fun _ => Ends.error (by simp)
        refine .bind (tracks_bump st).late (fun _ middle read => ?_) fun _ _ _ late => late.ends
        have fewer := Advances.length_lt read next enough
        exact .bind (ih false middle fewer) (fun _ _ _ => .same rfl fun _ => rfl)
          fun _ _ _ late => late.ends

private theorem lookup_moved {γ : Type} [BEq γ] (distance : Nat) (key : γ)
    (named : List (γ × Span)) :
    (named.map fun named => (named.1, named.2.moved distance)).lookup key =
      (named.lookup key).map (Span.moved distance) := by
  induction named with
  | nil => rfl
  | cons head named ih =>
    obtain ⟨other, span⟩ := head
    simp only [List.map_cons, List.lookup_cons, ih]
    cases key == other <;> rfl

private theorem tracks_declare (name : String) (span : Span) (st : ReadState) :
    Tracks Past (fun _ u => u) (declare name span st) fun i =>
      declare name (span.moved i.behind) (st.within i) := by
  unfold declare
  have names (i : Enclosure) : (st.within i).names.lookup name =
      (st.names.lookup name).map (Span.moved i.behind) := lookup_moved ..
  simp only [get_bind, names]
  cases st.names.lookup name with
  | some earlier => exact .inr fun _ => Ends.error (by simp)
  | none => exact .same rfl fun _ => rfl

private theorem tracks_groupName (st : ReadState) :
    Tracks Past (fun _ u => u) (groupName st) fun i => groupName (st.within i) := by
  simp only [groupName_eq, place_bind, get_bind, within_length]
  refine .bind (tracks_nameChars (fun i => i.after.length + 1) _ true st (Nat.lt_succ_self _))
    (fun name middle _ => ?_) fun _ _ _ late => ?_
  · simp only [place_bind]
    refine .bind (tracks_bump middle) (fun _ last _ => ?_) fun _ _ _ past => past.ends
    exact .ite (fun _ => .inr fun _ => Ends.error (by simp)) fun _ =>
      tracks_declare _ ⟨st.place, middle.place⟩ last
  · simp only [place_bind]
    exact late.ends_bump.bind fun _ _ past => past.ends

/-! ### Flags -/

private theorem tracks_flagItem (c : Char) (st : ReadState) :
    Tracks (fun _ _ _ => False) (fun _ item => item) (flagItem c st) fun i =>
      flagItem c (st.within i) := by
  unfold flagItem
  refine .ite (fun _ => .same rfl fun _ => rfl) fun _ => ?_
  cases Flag.parse? c with
  | some f => exact .same rfl fun _ => rfl
  | none => exact .inr fun _ => Ends.error (by simp)

def movedItems (distance : Nat) (items : List (FlagItem × Span)) : List (FlagItem × Span) :=
  items.map fun item => (item.1, item.2.moved distance)

private theorem tracks_flagItems (extra : Enclosure → Nat) (fuel : Nat)
    (items : List (FlagItem × Span))
    (st : ReadState) (enough : st.rest.length < fuel) :
    Tracks Late movedItems (flagItems fuel items st) fun i =>
      flagItems (fuel + extra i) (movedItems i.behind items) (st.within i) := by
  induction fuel generalizing items st with
  | zero => omega
  | succ fuel ih =>
    cases next : st.rest with
    | nil => exact .of_nil next
    | cons c rest =>
      simp only [Nat.add_right_comm fuel 1, flagItems_succ, peek_bind, next, head?_within_cons next,
        List.head?_cons]
      refine .ite (fun _ => .same rfl fun _ => rfl) fun _ => ?_
      simp only [hereChar_within next, hereChar_bind, next, List.head?_cons, Option.isSome_some,
        if_true]
      refine .bind (tracks_flagItem c st) (fun item middle read => ?_)
        fun _ _ _ => False.elim
      unfold flagItemsAfter
      have listed (i : Enclosure) : (movedItems i.behind items).lookup item =
          (items.lookup item).map (Span.moved i.behind) := lookup_moved ..
      simp only [listed]
      cases items.lookup item with
      | some earlier => exact .inr fun i => repeated_cause_ne item _ _
      | none =>
        simp only [Option.map_none]
        refine .bind (tracks_bump middle).late (fun _ last read' => ?_) fun _ _ _ late => late.ends
        have fewer : last.rest.length < fuel := by
          have passed := Advances.length_le read'
          have before := Consumes.length_le read
          simp only [next, List.length_cons] at before enough
          omega
        have further := ih (items ++ [(item, ⟨st.place, st.place + 1⟩)]) last fewer
        simpa only [movedItems, List.map_append, List.map_cons, List.map_nil] using further

private theorem tracks_flagList (st : ReadState) :
    Tracks Late (fun _ items => items) (flagList st) fun i => flagList (st.within i) := by
  simp only [flagList, get_bind, within_length]
  refine .bind (tracks_flagItems (fun i => i.after.length + 1) _ [] st (Nat.lt_succ_self _))
    (fun items middle _ => ?_) fun _ _ _ late => late.ends_of (by split <;> infer_instance)
  have last (i : Enclosure) : (movedItems i.behind items).getLast? =
      items.getLast?.map fun item => (item.1, item.2.moved i.behind) := List.getLast?_map
  have names (i : Enclosure) : (movedItems i.behind items).map Prod.fst = items.map Prod.fst := by
    simp [movedItems]
  simp only [last, names]
  cases items.getLast? with
  | none => exact .same rfl fun _ => rfl
  | some item =>
    obtain ⟨_ | f, span⟩ := item
    · exact .inr fun _ => Ends.error (by simp)
    · exact .same rfl fun _ => rfl

/-! ### What a parenthesis opens -/

private theorem tracks_noLookAround (parenthesis : Span) (st : ReadState) :
    Tracks Past (fun _ u => u) (noLookAround parenthesis st) fun i =>
      noLookAround (parenthesis.moved i.behind) (st.within i) := by
  have forms (list : List String) (plain : ∀ form ∈ list, ')' ∉ form.toList) (st : ReadState) :
      Tracks Past (fun _ u => u) ((forIn list PUnit.unit fun form _ => do
        if ← text form then fault .lookAround ⟨parenthesis.start, ← place⟩
        pure (ForInStep.yield PUnit.unit) : Reader PUnit) st) fun i =>
      (forIn list PUnit.unit fun form _ => do
        if ← text form then fault .lookAround ⟨parenthesis.start + i.behind, ← place⟩
        pure (ForInStep.yield PUnit.unit) : Reader PUnit) (st.within i) := by
    induction list generalizing st with
    | nil => exact .same rfl fun _ => rfl
    | cons form list ih =>
      simp only [List.forIn_cons, bind_assoc]
      refine .bind (tracks_text form (plain form List.mem_cons_self) st) (fun found middle _ => ?_)
        fun _ _ _ past => past.ends_of (.bind inferInstance fun step => by
          cases step <;> infer_instance)
      cases found with
      | true => exact .inr fun _ => Ends.error (by simp)
      | false => exact ih (fun form mem => plain form (List.mem_cons_of_mem _ mem)) middle
  unfold noLookAround
  exact .bind (forms _ (by decide) st) (fun _ _ _ => .same rfl fun _ => rfl) fun _ _ _ past =>
    past.ends

private theorem Late.ends_closeFlags {α : Type} {a : α} (late : Late i a st) (inside : Span)
    (items : List FlagItem) : Ends (Past i) (closeFlags inside items st) := by
  simp only [closeFlags, peek_bind]
  exact late.ends_bump.bind fun _ _ past => past.ends

private theorem tracks_closeFlags (inside : Span) (items : List FlagItem) (st : ReadState) :
    Tracks Past (fun _ opening => opening) (closeFlags inside items st) fun i =>
      closeFlags (inside.moved i.behind) items (st.within i) := by
  cases next : st.rest with
  | nil =>
    have late (i : Enclosure) : Late i () (st.within i) := late_within next
    exact .inr fun i => (late i).ends_closeFlags _ items
  | cons c rest =>
    simp only [closeFlags, peek_bind, next, head?_within_cons next, List.head?_cons]
    refine .bind (tracks_bump st) (fun _ last _ => ?_) fun _ _ _ past => past.ends
    refine .ite (fun _ => .same rfl fun _ => rfl) fun _ => ?_
    exact .ite (fun _ => .inr fun _ => Ends.error (by simp)) fun _ => .same rfl fun _ => rfl

private theorem tracks_openingFlags (parenthesis inside : Span) (st : ReadState) :
    Tracks Past (fun _ opening => opening) (openingFlags parenthesis inside st) fun i =>
      openingFlags (parenthesis.moved i.behind) (inside.moved i.behind) (st.within i) := by
  cases next : st.rest with
  | nil =>
    refine .inr fun i => ?_
    have late : Late i () (st.within i) := late_within next
    simp only [openingFlags, peek_bind, head?_within_nil next, fault_bind]
    exact .ite (Ends.error (by simp)) ((late.ends (r := flagList)).bind fun items _ late =>
      late.ends_closeFlags _ items)
  | cons c rest =>
    simp only [openingFlags, peek_bind, next, head?_within_cons next, List.head?_cons,
      Option.isNone_some, Bool.false_eq_true, if_false]
    exact .bind (tracks_flagList st) (fun items last _ => tracks_closeFlags inside items last)
      fun _ items _ late => late.ends_closeFlags _ items

private theorem tracks_openingForm (parenthesis : Span) (st : ReadState) :
    Tracks Past (fun _ opening => opening) (openingForm parenthesis st) fun i =>
      openingForm (parenthesis.moved i.behind) (st.within i) := by
  unfold openingForm
  refine .bind (tracks_noLookAround parenthesis st) (fun _ st _ => ?_) fun _ _ _ past => past.ends
  simp only [here_bind]
  refine .bind (tracks_text "?P<" (by decide) st) (fun named st _ => ?_) fun _ _ _ past => past.ends
  refine .ite (fun _ => ?_) fun _ => ?_
  · exact .bind (tracks_groupName st) (fun _ _ _ => .same rfl fun _ => rfl)
      fun _ _ _ past => past.ends
  refine .bind (tracks_text "?<" (by decide) st) (fun named st _ => ?_) fun _ _ _ past => past.ends
  refine .ite (fun _ => ?_) fun _ => ?_
  · exact .bind (tracks_groupName st) (fun _ _ _ => .same rfl fun _ => rfl)
      fun _ _ _ past => past.ends
  refine .bind (tracks_text "?" (by decide) st) (fun flags st _ => ?_) fun _ _ _ past => past.ends
  exact .ite (fun _ => tracks_openingFlags parenthesis _ st) fun _ => .same rfl fun _ => rfl

theorem tracks_opening {c : Char} {rest : List Char} (next : st.rest = c :: rest) :
    Tracks Past (fun _ opening => opening) (opening st) fun i => opening (st.within i) := by
  simp only [opening_eq, hereChar_within next, hereChar_bind, next, List.head?_cons,
    Option.isSome_some, if_true]
  exact .bind (tracks_step st) (fun _ middle _ => tracks_openingForm _ middle)
    fun _ _ _ past => past.ends

end RowStamp.Regex
