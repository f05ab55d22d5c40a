import RowStamp.Ignore
import RowStamp.Proofs.Regex.Matching
import RowStamp.Proofs.Regex.Outcomes

/-!
Patterns in the group that is to hold them to whole names.  A whole pattern stands in that group as
it is, two levels deeper, and the anchored pattern matches what the pattern matches from the first
to the last character.
-/

set_option autoImplicit false
set_option relaxedAutoImplicit false

namespace RowStamp.Regex

open Reader

/-! ### Readings of whole texts -/

/-- A pattern, unless it is nested more deeply than allowed. -/
def Node.checked (node : Node) : Except SyntaxFault Node :=
  match node.tooDeep nestLimit with
  | some span => throw ⟨.nesting, span, none⟩
  | none => return node

/-- The first reading of a text, of which the nesting is checked after. -/
def firstReading (chars : List Char) : Except SyntaxFault (Node × ReadState) :=
  insideFrom (chars.length + 1) none 0 [] 0 [] ⟨chars, 0, false, []⟩

private theorem read_eq (text : String) :
    Node.read text = (firstReading text.toList).bind fun pair => pair.1.checked := by
  change (firstReading text.toList).map Prod.fst >>= Node.checked = _
  cases firstReading text.toList <;> rfl

private theorem read_of_ok {text : String} {node : Node} {st : ReadState}
    (read : firstReading text.toList = .ok (node, st)) : Node.read text = node.checked := by
  rw [read_eq, read]
  rfl

theorem checked_eq_ok_iff {node other : Node} :
    node.checked = .ok other ↔ node = other ∧ node.tooDeep nestLimit = none := by
  unfold Node.checked
  cases node.tooDeep nestLimit with
  | some span => simp
  | none => simp [pure, Except.pure]

private theorem failsUnopened_read_iff {text : String} :
    FailsUnopened (Node.read text) ↔ FailsUnopened (firstReading text.toList) := by
  rw [read_eq]
  cases read : firstReading text.toList with
  | error fault => simp only [FailsUnopened, Except.bind, Except.error.injEq]
  | ok pair =>
    -- The check fails for the nesting alone.
    simp only [Except.bind, FailsUnopened, Node.checked]
    cases pair.1.tooDeep nestLimit with
    | none => simp [pure, Except.pure]
    | some span => simp [throw, throwThe, MonadExceptOf.throw]

theorem compile_eq_ok_iff {text : String} {e : Expr} :
    compile text = .ok e ↔ ∃ node flags, Node.read text = .ok node ∧
      node.meaning Flags.start = .ok (e, flags) ∧ node.size ≤ sizeLimit := by
  unfold compile
  cases Node.read text with
  | error fault => simp [bind, Except.bind]
  | ok node =>
    cases meant : node.meaning Flags.start with
    | error fault => simp [bind, Except.bind, meant]
    | ok pair =>
      simp only [bind, Except.bind, meant, pure, Except.pure, Except.ok.injEq]
      constructor
      · intro compiled
        split at compiled
        · contradiction
        · cases compiled
          exact ⟨node, pair.2, rfl, meant, by omega⟩
      · rintro ⟨_, flags, rfl, meant', small⟩
        rw [meant] at meant'
        cases meant'
        rw [if_neg (by omega)]

/-! ### Anchored patterns -/

private theorem insideFrom_part {fuel : Nat} {parenthesis : Option Span} {start : Nat}
    {branches : List Node} {branchStart : Nat} {parts : List Node} {c : Char} {rest : List Char}
    {place : Nat} {names : List (String × Span)} (notClose : c ≠ ')') (notBar : c ≠ '|') :
    insideFrom (fuel + 1) parenthesis start branches branchStart parts
        ⟨c :: rest, place, false, names⟩ =
      (grown fuel parts place c >>= insideFrom fuel parenthesis start branches branchStart)
        ⟨c :: rest, place, false, names⟩ := by
  have spaced : ReadState.spaced ⟨c :: rest, place, false, names⟩ =
    ⟨c :: rest, place, false, names⟩ := rfl
  simp only [insideFrom_succ, space_bind, place_bind, peek_bind, spaced, List.head?_cons, extended,
    if_neg notBar, bind_assoc, pure_bind]

/-- The reading of an anchored pattern after what stands before the pattern. -/
def afterAnchor (fuel : Nat) : Reader Node := do
  let inside ← insideFrom fuel (some ⟨1, 2⟩) 4 [] 4 []
  modify fun st => { st with freeSpacing := false }
  bump
  insideFrom fuel none 0 [] 0 [.assertion ⟨0, 1⟩ .lineStart, .group ⟨1, ← place⟩ [] inside]

private theorem insideFrom_anchored (fuel : Nat) (chars : List Char) :
    insideFrom (fuel + 2) none 0 [] 0 [] ⟨'^' :: '(' :: '?' :: ':' :: chars, 0, false, []⟩ =
      afterAnchor fuel ⟨chars, 4, false, []⟩ := by
  have anchor : grown (fuel + 1) [] 0 '^' ⟨'^' :: '(' :: '?' :: ':' :: chars, 0, false, []⟩ =
    .ok ([.assertion ⟨0, 1⟩ .lineStart], ⟨'(' :: '?' :: ':' :: chars, 1, false, []⟩) := rfl
  have opened : opening ⟨'(' :: '?' :: ':' :: chars, 1, false, []⟩ =
    .ok (.group [], ⟨chars, 4, false, []⟩) := rfl
  rw [insideFrom_part (c := '^') (by decide) (by decide), bind_of_ok anchor,
    insideFrom_part (c := '(') (by decide) (by decide)]
  simp only [grown, bind_assoc, hereChar_bind, List.head?_cons, Option.isSome_some, if_true,
    bind_of_ok opened]
  simp only [grownGroup, bind_assoc, pure_bind]
  rfl

def Node.anchored (inside : Node) (close : Nat) : Node :=
  .concat ⟨0, close + 2⟩ [.assertion ⟨0, 1⟩ .lineStart, .group ⟨1, close + 1⟩ [] inside,
    .assertion ⟨close + 1, close + 2⟩ .lineEnd]

private theorem afterAnchor_of_ok {fuel : Nat} {st : ReadState} {inside : Node} {close : Nat}
    {freeSpacing : Bool} {names : List (String × Span)}
    (read : insideFrom (fuel + 2) (some ⟨1, 2⟩) 4 [] 4 [] st =
      .ok (inside, ⟨[')', '$'], close, freeSpacing, names⟩)) :
    afterAnchor (fuel + 2) st = .ok (inside.anchored close, ⟨[], close + 2, false, names⟩) := by
  simp only [afterAnchor, bind_of_ok read, modify_bind, bump_bind, place_bind]
  rw [List.drop_one, List.tail_cons, insideFrom_part (c := '$') (by decide) (by decide)]
  rfl

def anchors : Enclosure := ⟨4, ['$'], by simp⟩

def unopenedParenthesis : Enclosure := ⟨0, [], by simp⟩

private theorem toList_anchored (source : String) :
    (IgnorePattern.anchored source).toList =
      '^' :: '(' :: '?' :: ':' :: (source.toList ++ [')', '$']) := by
  simp [IgnorePattern.anchored, String.toList_append]

/-- The readings of a pattern, of the anchored pattern, and of the pattern before a parenthesis that
it does not open. -/
theorem readings (source : String) :
    (∃ (node : Node) (close : Nat), Node.read source = node.checked ∧
      Node.read (IgnorePattern.anchored source) = ((node.moved 4).anchored close).checked ∧
      FailsUnopened (Node.read (source ++ ")"))) ∨
    FailsUnopened (Node.read source) ∨
    ¬FailsUnopened (Node.read (source ++ ")")) ∧
      ∀ node, Node.read (IgnorePattern.anchored source) ≠ .ok node := by
  have anchored : firstReading (IgnorePattern.anchored source).toList =
      afterAnchor (source.toList.length + 5)
        (ReadState.within anchors ⟨source.toList, 0, false, []⟩) := by
    rw [toList_anchored]
    simp only [firstReading, List.length_cons, List.length_append, List.length_nil]
    exact insideFrom_anchored _ _
  have closed : firstReading (source ++ ")").toList =
      insideFrom (source.toList.length + 1 + 1) none 0 [] 0 []
        (ReadState.within unopenedParenthesis ⟨source.toList, 0, false, []⟩) := by
    simp [firstReading, String.toList_append, ReadState.within, unopenedParenthesis]
  have outcome := outcome_inside (fun i => max 1 i.behind) (source.toList.length + 1) 0 [] 0 []
    ⟨source.toList, 0, false, []⟩ (Nat.lt_succ_self _)
  cases outcome with
  | whole node st read atEnd grouped ungrouped =>
    obtain ⟨rest, place, freeSpacing, names⟩ := st
    obtain rfl : rest = [] := atEnd
    refine .inl ⟨node, place + 4, read_of_ok read, ?_, ?_⟩
    · have inside := afterAnchor_of_ok (grouped anchors ⟨1, 2⟩)
      exact read_of_ok (anchored.trans inside)
    · rw [failsUnopened_read_iff, closed]
      exact ungrouped unopenedParenthesis
  | unopened fails => exact .inr (.inl (failsUnopened_read_iff.mpr fails))
  | lost ends =>
    refine .inr (.inr ⟨?_, ?_⟩)
    · rw [failsUnopened_read_iff, closed]
      exact (ends unopenedParenthesis none).not_failsUnopened
    · intro node read
      have fails : Ends (fun _ _ => False)
          (firstReading (IgnorePattern.anchored source).toList) := by
        rw [anchored]
        exact (ends anchors (some ⟨1, 2⟩)).bind fun _ _ none => by simp at none
      rw [read_eq] at read
      cases first : firstReading (IgnorePattern.anchored source).toList with
      | error fault => simp [first, Except.bind] at read
      | ok pair => exact fails.not_ok first

/-! ### Depth -/

namespace ClassSet

mutual

theorem tooDeep_succ (depth : Nat) (set : ClassSet) (shallow : set.tooDeep depth = none) :
    set.tooDeep (depth + 1) = none := by
  cases set with
  | union span items =>
    cases depth with
    | zero => cases shallow
    | succ depth => exact anyTooDeep_succ depth items shallow
  | bracket span negated inside =>
    cases depth with
    | zero => cases shallow
    | succ depth => exact tooDeep_succ depth inside shallow
  | combine span operator left right =>
    cases depth with
    | zero => cases shallow
    | succ depth =>
      simp only [tooDeep, Option.orElse_eq_or, Option.or_eq_none_iff] at shallow ⊢
      exact ⟨tooDeep_succ depth left shallow.1, tooDeep_succ depth right shallow.2⟩
  | _ => rfl

theorem anyTooDeep_succ (depth : Nat) (sets : List ClassSet)
    (shallow : anyTooDeep depth sets = none) : anyTooDeep (depth + 1) sets = none := by
  cases sets with
  | nil => rfl
  | cons set rest =>
    simp only [anyTooDeep, Option.orElse_eq_or, Option.or_eq_none_iff] at shallow ⊢
    exact ⟨tooDeep_succ depth set shallow.1, anyTooDeep_succ depth rest shallow.2⟩

end

end ClassSet

namespace Node

mutual

theorem tooDeep_succ (depth : Nat) (node : Node) (shallow : node.tooDeep depth = none) :
    node.tooDeep (depth + 1) = none := by
  cases node with
  | bracketed set =>
    have shallow : set.tooDeep depth = none := by
      cases depth <;> exact shallow
    exact ClassSet.tooDeep_succ depth set shallow
  | repetition span low high operand =>
    cases depth with
    | zero => cases shallow
    | succ depth => exact tooDeep_succ depth operand shallow
  | group span items inside =>
    cases depth with
    | zero => cases shallow
    | succ depth => exact tooDeep_succ depth inside shallow
  | concat span items =>
    cases depth with
    | zero => cases shallow
    | succ depth => exact anyTooDeep_succ depth items shallow
  | alternation span branches =>
    cases depth with
    | zero => cases shallow
    | succ depth => exact anyTooDeep_succ depth branches shallow
  | _ => rfl

theorem anyTooDeep_succ (depth : Nat) (nodes : List Node)
    (shallow : anyTooDeep depth nodes = none) : anyTooDeep (depth + 1) nodes = none := by
  cases nodes with
  | nil => rfl
  | cons node rest =>
    simp only [anyTooDeep, Option.orElse_eq_or, Option.or_eq_none_iff] at shallow ⊢
    exact ⟨tooDeep_succ depth node shallow.1, anyTooDeep_succ depth rest shallow.2⟩

end

end Node

namespace Node

private theorem tooDeep_anchored (distance close : Nat) (node : Node) :
    ((node.moved distance).anchored close).tooDeep nestLimit = none ↔
      node.tooDeep (nestLimit - 2) = none := by
  simp [nestLimit, anchored, tooDeep, anyTooDeep, tooDeep_moved]

private theorem size_anchored (distance close : Nat) (node : Node) :
    ((node.moved distance).anchored close).size = node.size + 4 * stateSize := by
  simp only [anchored, size, totalSize, size_moved]
  omega

end Node

/-! ### Meaning -/

variable {cs : List Char} {i j : Nat}

private theorem matches_empty_iff : Matches cs .empty i j ↔ i = j := by
  constructor
  · rintro ⟨⟩
    rfl
  · rintro rfl
    exact .empty i

private theorem matches_condition_iff {holds : Condition} :
    Matches cs (.condition holds) i j ↔ i = j ∧ holds (before? cs i) cs[i]? = true := by
  constructor
  · rintro ⟨⟩
    exact ⟨rfl, ‹_›⟩
  · rintro ⟨rfl, here⟩
    exact .condition here

private theorem matches_seq_iff {first second : Expr} :
    Matches cs (.seq first second) i j ↔ ∃ k, Matches cs first i k ∧ Matches cs second k j := by
  constructor
  · rintro ⟨⟩
    exact ⟨_, ‹_›, ‹_›⟩
  · rintro ⟨k, head, tail⟩
    exact .seq head tail

def Expr.anchored (e : Expr) : Expr :=
  .seq (.condition fun before _ => before.isNone)
    (.seq e (.seq (.condition fun _ after => after.isNone) .empty))

private theorem matches_anchored_iff {e : Expr} (inside : i ≤ cs.length) :
    Matches cs e.anchored i j ↔ i = 0 ∧ j = cs.length ∧ Matches cs e i j := by
  simp only [Expr.anchored, matches_seq_iff, matches_condition_iff, matches_empty_iff,
    Option.isNone_iff_eq_none, before?_eq_none_iff inside, List.getElem?_eq_none_iff]
  constructor
  · rintro ⟨_, ⟨rfl, start⟩, k, whole, _, ⟨rfl, last⟩, rfl⟩
    have within := (advances cs e i k whole).2
    exact ⟨start, by omega, whole⟩
  · rintro ⟨start, rfl, whole⟩
    exact ⟨i, ⟨rfl, start⟩, _, whole, _, ⟨rfl, Nat.le_refl _⟩, rfl⟩

theorem matchesWithin_anchored (e : Expr) (text : String) :
    e.anchored.matchesWithin text = true ↔ e.MatchesAll text := by
  rw [matchesWithin_iff]
  constructor
  · rintro ⟨i, j, inside, found⟩
    obtain ⟨rfl, rfl, whole⟩ := (matches_anchored_iff inside).mp found
    exact whole
  · intro whole
    exact ⟨0, _, Nat.zero_le _, (matches_anchored_iff (Nat.zero_le _)).mpr ⟨rfl, rfl, whole⟩⟩

private theorem meaning_anchored (distance close : Nat) (node : Node) :
    (((node.moved distance).anchored close).meaning Flags.start).toOption =
      (node.meaning Flags.start).toOption.map fun meant => (meant.1.anchored, Flags.start) := by
  have start : Assertion.lineStart.condition Flags.start = fun before _ => before.isNone := rfl
  have same : Flags.start.updated [] = Flags.start := rfl
  simp only [Node.anchored, Node.meaning, Node.concatMeaning, same, start, toOption_bind,
    toOption_pure, Node.meaning_moved, Option.bind_some]
  cases (node.meaning Flags.start).toOption <;> rfl

/-! ### Compiling -/

/-- A whole pattern compiles between the anchors where it compiles alone and the group is neither
too deep nor too large. -/
theorem compile_anchored_iff {source : String} {node : Node} {close : Nat} {anchored : Expr}
    (alone : Node.read source = node.checked)
    (between : Node.read (IgnorePattern.anchored source) =
      ((node.moved 4).anchored close).checked) :
    compile (IgnorePattern.anchored source) = .ok anchored ↔
      (∃ e, compile source = .ok e ∧ anchored = e.anchored) ∧
        node.tooDeep (nestLimit - 2) = none ∧ node.size + 4 * stateSize ≤ sizeLimit := by
  constructor
  · intro compiled
    obtain ⟨_, flags, read, meant, small⟩ := compile_eq_ok_iff.mp compiled
    rw [between] at read
    obtain ⟨rfl, shallow⟩ := checked_eq_ok_iff.mp read
    rw [Node.tooDeep_anchored] at shallow
    rw [Node.size_anchored] at small
    have meant := congrArg Except.toOption meant
    rw [meaning_anchored] at meant
    obtain ⟨⟨e, after⟩, inner, ⟨⟩⟩ := Option.map_eq_some_iff.mp meant
    have depth := node.tooDeep_succ 249 (node.tooDeep_succ 248 shallow)
    have read := alone.trans (checked_eq_ok_iff.mpr ⟨rfl, depth⟩)
    have compiled := compile_eq_ok_iff.mpr
      ⟨node, after, read, toOption_eq_some_iff.mp inner, by omega⟩
    exact ⟨⟨e, compiled, rfl⟩, shallow, small⟩
  · rintro ⟨⟨e, compiled, rfl⟩, shallow, small⟩
    obtain ⟨_, after, read, meant, -⟩ := compile_eq_ok_iff.mp compiled
    rw [alone] at read
    obtain ⟨rfl, -⟩ := checked_eq_ok_iff.mp read
    have outer := meaning_anchored 4 close node
    rw [meant] at outer
    refine compile_eq_ok_iff.mpr ⟨_, Flags.start, ?_, toOption_eq_some_iff.mp outer, ?_⟩
    · rw [between]
      exact checked_eq_ok_iff.mpr ⟨rfl, (Node.tooDeep_anchored ..).mpr shallow⟩
    · rw [Node.size_anchored]
      exact small

end RowStamp.Regex
