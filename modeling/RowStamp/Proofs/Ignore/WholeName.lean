import RowStamp.Proofs.Regex.Anchored

/-!
Patterns of table names and the names they describe.  A pattern is compiled in a group between
anchors.  This holds it to whole names unless it closes that group itself.
-/

set_option autoImplicit false
set_option relaxedAutoImplicit false

namespace RowStamp

open Regex (FailsUnopened Node nestLimit sizeLimit stateSize)

def IsExpression (text : String) : Prop := ∃ e, Regex.compile text = .ok e

def ClosesUnopened (text : String) : Prop := FailsUnopened (Node.read text)

/-- There is room for a group around an expression and for anchors around the group: in depth and in
size, as the size is estimated. -/
def LeavesRoom (text : String) : Prop :=
  ∀ node, Node.read text = .ok node →
    node.tooDeep (nestLimit - 2) = none ∧ node.size + 4 * stateSize ≤ sizeLimit

variable {source : String}

private theorem ClosesUnopened.not_isExpression (closes : ClosesUnopened source) :
    ¬IsExpression source := by
  obtain ⟨fault, failed, -⟩ := closes
  rintro ⟨e, compiled⟩
  obtain ⟨node, flags, read, -⟩ := Regex.compile_eq_ok_iff.mp compiled
  rw [failed] at read
  cases read

namespace IgnorePattern

/-- What is accepted between the anchors is an expression there as it is by itself, or closes the
group between them. -/
theorem anchored_or_closesUnopened {anchored : Regex.Expr}
    (accepted : Regex.compile (IgnorePattern.anchored source) = .ok anchored) :
    (∃ e, Regex.compile source = .ok e ∧ anchored = e.anchored) ∨ ClosesUnopened source := by
  rcases Regex.readings source with ⟨node, close, alone, between, -⟩ | closes | ⟨-, lost⟩
  · exact .inl ((Regex.compile_anchored_iff alone between).mp accepted).1
  · exact .inr closes
  · obtain ⟨node, flags, read, -⟩ := Regex.compile_eq_ok_iff.mp accepted
    exact absurd read (lost node)

private theorem accepted_iff_of_isExpression (valid : IsExpression source) :
    (∃ e, Regex.compile (anchored source) = .ok e) ↔
      ClosesUnopened (source ++ ")") ∧ LeavesRoom source := by
  obtain ⟨e, compiled⟩ := valid
  obtain ⟨node, flags, read, -⟩ := Regex.compile_eq_ok_iff.mp compiled
  rcases Regex.readings source with ⟨whole, close, alone, between, closed⟩ | closes | ⟨open', lost⟩
  · obtain ⟨rfl, -⟩ := Regex.checked_eq_ok_iff.mp (alone.symm.trans read)
    have room : LeavesRoom source ↔
        whole.tooDeep (nestLimit - 2) = none ∧ whole.size + 4 * stateSize ≤ sizeLimit := by
      simp only [LeavesRoom, read, Except.ok.injEq, forall_eq']
    simp only [Regex.compile_anchored_iff alone between, room]
    constructor
    · rintro ⟨anchored, -, fits⟩
      exact ⟨closed, fits⟩
    · rintro ⟨-, fits⟩
      exact ⟨e.anchored, ⟨e, compiled, rfl⟩, fits⟩
  · exact absurd ⟨e, compiled⟩ (ClosesUnopened.not_isExpression closes)
  · constructor
    · rintro ⟨anchored, accepted⟩
      obtain ⟨node, flags, read, -⟩ := Regex.compile_eq_ok_iff.mp accepted
      exact absurd read (lost node)
    · rintro ⟨closed, -⟩
      exact absurd closed open'

/-- The expression that a pattern writes matches a table name from the first to the last
character. -/
def Describes (pattern : IgnorePattern) (table : String) : Prop :=
  ∃ e, Regex.compile pattern.source = .ok e ∧ e.MatchesAll table

theorem compile_eq_ok_iff {pattern : IgnorePattern} :
    compile source = .ok pattern ↔
      pattern.source = source ∧ Regex.compile (anchored source) = .ok pattern.expr := by
  obtain ⟨text, expr⟩ := pattern
  rw [compile]
  cases Regex.compile (anchored source) with
  | error fault => simp [bind, Except.bind]
  | ok e => simp [bind, Except.bind, pure, Except.pure, eq_comm]

private theorem matchesName_iff {pattern : IgnorePattern} (compiled : compile source = .ok pattern)
    (valid : IsExpression source) (table : String) :
    pattern.matchesName table = true ↔ pattern.Describes table := by
  obtain ⟨rfl, accepted⟩ := compile_eq_ok_iff.mp compiled
  rcases anchored_or_closesUnopened accepted with ⟨e, alone, same⟩ | closes
  · rw [matchesName, same, Regex.matchesWithin_anchored, Describes]
    simp only [alone, Except.ok.injEq, exists_eq_left']
  · exact absurd valid closes.not_isExpression

end IgnorePattern

namespace IgnoreList

-- Unfolding must stop at the compiler, which runs on.
attribute [local irreducible] Regex.compile in
theorem ofPatterns_cons (text : String) (texts : List String) :
    ofPatterns (text :: texts) =
      if (Text.trim text).isEmpty then ofPatterns texts
      else
        match IgnorePattern.compile (Text.trim text) with
        | .error fault => throw ⟨Text.trim text, fault⟩
        | .ok pattern => return ⟨pattern :: (← ofPatterns texts).patterns⟩ := rfl

theorem ofPatterns_cons_of_blank {text : String} (blank : Text.trim text = "")
    (texts : List String) : ofPatterns (text :: texts) = ofPatterns texts := by
  rw [ofPatterns_cons, if_pos (String.isEmpty_iff.mpr blank)]

theorem ofPatterns_cons_iff {text : String} (notBlank : Text.trim text ≠ "")
    {texts : List String} {list : IgnoreList} :
    ofPatterns (text :: texts) = .ok list ↔
      ∃ pattern others, IgnorePattern.compile (Text.trim text) = .ok pattern ∧
        ofPatterns texts = .ok others ∧ list = ⟨pattern :: others.patterns⟩ := by
  rw [ofPatterns_cons, if_neg (mt String.isEmpty_iff.mp notBlank)]
  cases IgnorePattern.compile (Text.trim text) with
  | error fault => simp [throw, throwThe, MonadExceptOf.throw]
  | ok pattern =>
    cases ofPatterns texts with
    | error fault => simp [bind, Except.bind]
    | ok others => simp [bind, Except.bind, pure, Except.pure, eq_comm]

private theorem exists_compile_of_mem {texts : List String} {list : IgnoreList}
    (built : ofPatterns texts = .ok list) {pattern : IgnorePattern}
    (mem : pattern ∈ list.patterns) :
    ∃ text ∈ texts, IgnorePattern.compile (Text.trim text) = .ok pattern := by
  induction texts generalizing list with
  | nil =>
    cases built
    cases mem
  | cons text texts ih =>
    by_cases blank : Text.trim text = ""
    · rw [ofPatterns_cons_of_blank blank] at built
      obtain ⟨other, later, compiled⟩ := ih built mem
      exact ⟨other, .tail text later, compiled⟩
    · obtain ⟨first, others, compiled, rest, rfl⟩ := (ofPatterns_cons_iff blank).mp built
      rcases List.mem_cons.mp mem with rfl | mem
      · exact ⟨text, .head texts, compiled⟩
      · obtain ⟨other, later, compiled⟩ := ih rest mem
        exact ⟨other, .tail text later, compiled⟩

/-- The list of some texts, each of which is an expression by itself. -/
def OfExpressions (list : IgnoreList) : Prop :=
  ∃ texts, ofPatterns texts = .ok list ∧ ∀ text ∈ texts, IsExpression (Text.trim text)

theorem OfExpressions.matchesName_iff {list : IgnoreList} (expressions : list.OfExpressions)
    (table : String) :
    list.matchesName table = true ↔ ∃ pattern ∈ list.patterns, pattern.Describes table := by
  obtain ⟨texts, built, valid⟩ := expressions
  rw [matchesName, List.any_eq_true]
  refine exists_congr fun pattern => and_congr_right fun mem => ?_
  obtain ⟨text, written, compiled⟩ := exists_compile_of_mem built mem
  exact IgnorePattern.matchesName_iff compiled (valid text written) table

/-- A text as the only pattern of a list describes whole names: it is accepted where it is an
expression by itself, and matches what this expression matches from the first to the last
character. -/
structure DescribesWholeNames (text : String) : Prop where
  accepted_iff : (∃ list, ofPatterns [text] = .ok list) ↔ IsExpression (Text.trim text)
  matches_iff : ∀ list, ofPatterns [text] = .ok list →
    ∃ e, Regex.compile (Text.trim text) = .ok e ∧
      ∀ table, list.matchesName table = true ↔ e.MatchesAll table

/-- A text describes whole names where it is rejected if it closes a group that it does not open,
and where, if it is an expression, it does not hide the parenthesis after it and leaves room. -/
theorem describesWholeNames_iff (text : String) (notBlank : Text.trim text ≠ "") :
    DescribesWholeNames text ↔
      (ClosesUnopened (Text.trim text) → ¬∃ list, ofPatterns [text] = .ok list) ∧
      (IsExpression (Text.trim text) →
        ClosesUnopened (Text.trim text ++ ")") ∧ LeavesRoom (Text.trim text)) := by
  have singleton {list : IgnoreList} : ofPatterns [text] = .ok list ↔
      ∃ pattern, IgnorePattern.compile (Text.trim text) = .ok pattern ∧ list = ⟨[pattern]⟩ := by
    have none : ofPatterns [] = .ok empty := rfl
    rw [ofPatterns_cons_iff notBlank]
    simp [none, empty]
  have accepted_iff : (∃ list, ofPatterns [text] = .ok list) ↔
      ∃ e, Regex.compile (IgnorePattern.anchored (Text.trim text)) = .ok e := by
    simp only [singleton, IgnorePattern.compile_eq_ok_iff]
    constructor
    · rintro ⟨list, pattern, ⟨-, compiled⟩, -⟩
      exact ⟨pattern.expr, compiled⟩
    · rintro ⟨e, compiled⟩
      exact ⟨_, ⟨_, e⟩, ⟨rfl, compiled⟩, rfl⟩
  constructor
  · intro describes
    refine ⟨fun closes accepted => ?_, fun valid => ?_⟩
    · exact closes.not_isExpression (describes.accepted_iff.mp accepted)
    · have accepted := accepted_iff.mp (describes.accepted_iff.mpr valid)
      exact (IgnorePattern.accepted_iff_of_isExpression valid).mp accepted
  · rintro ⟨rejected, fits⟩
    have whole (list : IgnoreList) (accepted : ofPatterns [text] = .ok list) :
        ∃ e, Regex.compile (Text.trim text) = .ok e ∧
          ∀ table, list.matchesName table = true ↔ e.MatchesAll table := by
      obtain ⟨pattern, compiled, rfl⟩ := singleton.mp accepted
      obtain ⟨-, between⟩ := IgnorePattern.compile_eq_ok_iff.mp compiled
      rcases IgnorePattern.anchored_or_closesUnopened between with ⟨e, alone, same⟩ | closes
      · refine ⟨e, alone, fun table => ?_⟩
        simp only [matchesName, List.any_cons, List.any_nil, Bool.or_false,
          IgnorePattern.matchesName, same, Regex.matchesWithin_anchored]
      · exact absurd ⟨_, accepted⟩ (rejected closes)
    refine ⟨⟨?_, fun valid => ?_⟩, whole⟩
    · rintro ⟨list, accepted⟩
      obtain ⟨e, alone, -⟩ := whole list accepted
      exact ⟨e, alone⟩
    · exact accepted_iff.mpr ((IgnorePattern.accepted_iff_of_isExpression valid).mpr (fits valid))

theorem describesWholeNames_iff_alternation :
    Text.trim "a)|(?:b" ≠ "" ∧ (DescribesWholeNames "a)|(?:b" ↔
      (ClosesUnopened (Text.trim "a)|(?:b") → ¬∃ list, ofPatterns ["a)|(?:b"] = .ok list) ∧
      (IsExpression (Text.trim "a)|(?:b") →
        ClosesUnopened (Text.trim "a)|(?:b" ++ ")") ∧ LeavesRoom (Text.trim "a)|(?:b"))) :=
  ⟨by decide, describesWholeNames_iff "a)|(?:b" (by decide)⟩

/-- A pattern that closes the group between the anchors is no expression, and yet matches names of
which it describes only the start. -/
theorem not_describesWholeNames_closing :
    ¬DescribesWholeNames "a)|(?:b" ∧
      (ofPatterns ["a)|(?:b"]).toOption.any (·.matchesName "ax") = true := by
  have accepted : (ofPatterns ["a)|(?:b"]).toOption.any (·.matchesName "ax") = true := by
    decide +kernel
  have failed : (Regex.compile (Text.trim "a)|(?:b")).toOption.isSome = false := by
    decide +kernel
  refine ⟨fun describes => ?_, accepted⟩
  obtain ⟨list, read, -⟩ := Option.any_eq_true .. |>.mp accepted
  obtain ⟨e, compiled⟩ := describes.accepted_iff.mp ⟨list, Regex.toOption_eq_some_iff.mp read⟩
  rw [compiled] at failed
  cases failed

end IgnoreList

end RowStamp
