import RowStamp.Proofs.Regex.EnclosedPattern

/-!
How the reading of a pattern ends, alone and enclosed.  A pattern is a whole one, which ends at its
end and, enclosed, at the parenthesis that closes it; or it closes a group that it does not open;
or its reading, enclosed, does not end at all.
-/

set_option autoImplicit false
set_option relaxedAutoImplicit false

namespace RowStamp.Regex

open Reader

def FailsUnopened {α : Type} (result : Except SyntaxFault α) : Prop :=
  ∃ fault, result = .error fault ∧ fault.cause = .unopenedGroup

theorem Ends.not_failsUnopened {α : Type} {holds : α → ReadState → Prop}
    {result : Except SyntaxFault (α × ReadState)} (ends : Ends holds result) :
    ¬FailsUnopened result := by
  rintro ⟨fault, rfl, unopened⟩
  exact ends unopened

theorem Ends.not_ok {α : Type} {result : Except SyntaxFault (α × ReadState)}
    (ends : Ends (fun _ _ => False) result) {pair : α × ReadState} : result ≠ .ok pair := by
  rintro rfl
  exact ends

/-- How a pattern is read: alone, and where it is enclosed, in a group that opens at a place or in
none. -/
inductive Outcome (alone : Except SyntaxFault (Node × ReadState))
    (enclosed : Enclosure → Option Span → Except SyntaxFault (Node × ReadState)) : Prop where
  | whole (node : Node) (st : ReadState) (read : alone = .ok (node, st)) (atEnd : st.rest = [])
      (grouped : ∀ i span, enclosed i (some span) = .ok (node.moved i.behind, st.within i))
      (ungrouped : ∀ i, FailsUnopened (enclosed i none))
  | unopened (fails : FailsUnopened alone)
  | lost (ends : ∀ i parenthesis,
      Ends (fun _ _ => parenthesis = none) (enclosed i parenthesis))

private theorem Tracks.outcome {α : Type} {lost : Enclosure → α → ReadState → Prop}
    {moved : Nat → α → α}
    {st : ReadState} {r : Reader α} {f : α → Reader Node} {w : Enclosure → Reader α}
    {g : Enclosure → Option Span → α → Reader Node}
    (first : Tracks lost moved (r st) fun i => w i (st.within i))
    (next : ∀ a middle, r st = .ok (a, middle) →
      Outcome (f a middle) fun i parenthesis =>
        g i parenthesis (moved i.behind a) (middle.within i))
    (further : ∀ i parenthesis a middle, lost i a middle →
      Ends (fun _ _ => parenthesis = none) (g i parenthesis a middle)) :
    Outcome ((r >>= f) st) fun i parenthesis => (w i >>= g i parenthesis) (st.within i) := by
  rcases first with ⟨a, middle, read, same⟩ | ends
  · have outcome := next a middle read
    simpa only [bind_of_ok read, bind_of_ok (same _)] using outcome
  · exact .lost fun i parenthesis => (ends i).bind (further i parenthesis)

theorem outcome_inside (extra : Enclosure → Nat) (fuel start : Nat) (branches : List Node)
    (branchStart : Nat) (parts : List Node) (st : ReadState) (enough : st.rest.length < fuel) :
    Outcome (insideFrom fuel none start branches branchStart parts st) fun i parenthesis =>
      insideFrom (fuel + extra i) parenthesis (start + i.behind)
        (branches.map (Node.moved i.behind)) (branchStart + i.behind)
        (parts.map (Node.moved i.behind)) (st.within i) := by
  induction fuel generalizing branches branchStart parts st with
  | zero => omega
  | succ fuel ih =>
    rcases spaced_within st with same | past
    · have enough := Consumes.length_lt (space_run st) enough
      simp only [Nat.add_right_comm fuel 1, insideFrom_succ, space_bind, place_bind, same,
        within_place]
      cases next : st.spaced.rest with
      | nil =>
        simp only [peek_bind, head?_within_nil next, next, List.head?_nil]
        refine .whole _ _ rfl next (fun i span => ?_) fun i => ⟨_, rfl, rfl⟩
        simp only [pure_run, finished_moved]
      | cons c rest =>
        by_cases close : c = ')'
        · subst close
          simp only [peek_bind, next, head?_within_cons next, List.head?_cons]
          exact .unopened ⟨_, rfl, rfl⟩
        · simp only [peek_bind, next, head?_within_cons next, List.head?_cons]
          have grows := tracks_extended_of
            (fun span start st => tracks_inside extra fuel span start [] start [] st)
            branches branchStart parts st.spaced.place next enough
          refine grows.outcome (fun more last read => ?_) fun i parenthesis more last lost => ?_
          · exact ih more.1 more.2.1 more.2.2 last (Advances.length_lt read next enough)
          · exact ends_inside_lost lost ..
    · exact .lost fun i parenthesis => ends_inside _ _ _ _ _ _ _ (past i).not_mem

end RowStamp.Regex
