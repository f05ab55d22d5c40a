import RowStamp.Proofs.Regex.ConsumingParts

/-!
The readers of brackets and of groups only consume.  Each is one step and then itself with less
fuel.
-/

set_option autoImplicit false
set_option relaxedAutoImplicit false

namespace RowStamp.Regex.Reader

/-! ### Brackets -/

instance consumes_hyphens (start fuel : Nat) : Consumes (hyphens start fuel) := by
  induction fuel with
  | zero => exact consumes_pure []
  | succ fuel ih =>
    unfold hyphens
    infer_instance

/-- The items at the start of brackets: hyphens, or a bracket that closes nothing. -/
def classItems (start : Nat) (negated : Bool) : Reader ClassStart := do
  let dashes ← hyphens start ((← get).rest.length + 1)
  if dashes.isEmpty && (← peekIs ']') then
    let span ← hereChar
    stepOr .openClass start
    return ⟨⟨start, ← place⟩, negated, [.literal ⟨span, ']', false⟩]⟩
  return ⟨⟨start, ← place⟩, negated, dashes⟩

theorem classStart_eq : classStart = (do
    let start ← place
    stepOr .openClass start
    if ← peekIs '^' then
      stepOr .openClass start
      classItems start true
    else classItems start false) := by
  unfold classStart classItems
  refine bind_congr fun start => bind_congr fun _ => bind_congr fun caret => ?_
  simp only [pure_bind]

instance consumes_classItems (start : Nat) (negated : Bool) :
    Consumes (classItems start negated) := by
  unfold classItems
  infer_instance

instance consumes_classStart : Consumes classStart := by
  rw [classStart_eq]
  infer_instance

instance consumes_setOperator : Consumes setOperator := by
  unfold setOperator
  infer_instance

def nestedItem (fuel : Nat) : Reader ClassSet := do
  match ← asciiClass with
  | some item => return item
  | none =>
    let inner ← classStart
    classFrom fuel inner none inner.items

/-- Brackets from where an operator or a range may start, after the operator if there is one. -/
def classAfter (fuel : Nat) (start : ClassStart) (left : Option (SetOperator × ClassSet))
    (set : ClassSet) (items : List ClassSet) (c : Char) : Option SetOperator → Reader ClassSet
  | some operator => classFrom fuel start (some (operator, set)) []
  | none => do
    let item ← classRange start.span c
    classFrom fuel start left (items ++ [item])

theorem classFrom_succ (fuel : Nat) (start : ClassStart) (left : Option (SetOperator × ClassSet))
    (items : List ClassSet) : classFrom (fuel + 1) start left items = (do
      space
      let set := combined left (unionOf (← place) items)
      match ← peek with
      | none => fault .openClass start.span
      | some ']' =>
        bump
        return .bracket ⟨start.span.start, ← place⟩ start.negated set
      | some '[' =>
        let item ← nestedItem fuel
        classFrom fuel start left (items ++ [item])
      | some c => classAfter fuel start left set items c (← setOperator)) := by
  rw [classFrom]
  refine bind_congr fun _ => bind_congr fun place => bind_congr fun next => ?_
  cases next with
  | none => rfl
  | some c =>
    by_cases close : c = ']'
    · subst close
      rfl
    · by_cases nested : c = '['
      · subst nested
        simp only [nestedItem, bind_assoc]
        refine bind_congr fun item => ?_
        cases item with
        | none => simp only [bind_assoc]
        | some item => simp only [pure_bind]
      · simp only
        refine bind_congr fun operator => ?_
        cases operator <;> rfl

private theorem consumes_nestedItem_of {fuel : Nat}
    (rest : ∀ start left items, Consumes (classFrom fuel start left items)) :
    Consumes (nestedItem fuel) := by
  unfold nestedItem
  refine .bind inferInstance fun item => ?_
  cases item <;> infer_instance

private theorem consumes_classAfter_of {fuel : Nat}
    (rest : ∀ start left items, Consumes (classFrom fuel start left items)) (start : ClassStart)
    (left : Option (SetOperator × ClassSet)) (set : ClassSet) (items : List ClassSet) (c : Char)
    (operator : Option SetOperator) :
    Consumes (classAfter fuel start left set items c operator) := by
  unfold classAfter
  cases operator <;> infer_instance

instance consumes_classFrom (fuel : Nat) (start : ClassStart)
    (left : Option (SetOperator × ClassSet)) (items : List ClassSet) :
    Consumes (classFrom fuel start left items) := by
  induction fuel generalizing start left items with
  | zero => exact consumes_fault .openClass start.span
  | succ fuel ih =>
    have nested : Consumes (nestedItem fuel) := consumes_nestedItem_of ih
    rw [classFrom_succ]
    refine .bind inferInstance fun _ => .bind inferInstance fun place => ?_
    refine .bind inferInstance fun next => ?_
    split
    · infer_instance
    · infer_instance
    · infer_instance
    · exact .bind inferInstance fun operator => consumes_classAfter_of ih ..

instance consumes_nestedItem (fuel : Nat) : Consumes (nestedItem fuel) :=
  consumes_nestedItem_of fun _ _ _ => inferInstance

instance consumes_classAfter (fuel : Nat) (start : ClassStart)
    (left : Option (SetOperator × ClassSet)) (set : ClassSet) (items : List ClassSet) (c : Char)
    (operator : Option SetOperator) :
    Consumes (classAfter fuel start left set items c operator) :=
  consumes_classAfter_of (fun _ _ _ => inferInstance) ..

instance consumes_bracketed : Consumes bracketed := by
  unfold bracketed
  infer_instance

/-! ### Patterns -/

def lastRepeated (parts : List Node) (last : Node) (count : Reader (Nat × Option Nat)) :
    Reader (List Node) := do
  let bounds ← count
  return parts.dropLast ++ [.repetition ⟨last.span.start, ← place⟩ bounds.1 bounds.2 last]

def isOperand : Node → Bool
  | .empty _ => false
  | .flags _ _ => false
  | _ => true

theorem repeatLast_eq (parts : List Node) (count : Reader (Nat × Option Nat)) :
    repeatLast parts count =
      match parts.getLast?.filter isOperand with
      | none => do fault .missingOperand (← here)
      | some last => lastRepeated parts last count := by
  unfold repeatLast
  cases parts.getLast? with
  | none => rfl
  | some last => cases last <;> rfl

instance consumes_lastRepeated (parts : List Node) (last : Node)
    (count : Reader (Nat × Option Nat)) [Consumes count] :
    Consumes (lastRepeated parts last count) := by
  unfold lastRepeated
  infer_instance

instance consumes_repeatLast (parts : List Node) (count : Reader (Nat × Option Nat))
    [Consumes count] : Consumes (repeatLast parts count) := by
  rw [repeatLast_eq]
  split <;> infer_instance

instance consumes_sign (low : Nat) (high : Option Nat) : Consumes (sign low high) := by
  unfold sign
  infer_instance

instance consumes_setSpacing (items : List FlagItem) : Consumes (setSpacing items) :=
  consumes_setFreeSpacing _

/-- The parts of a branch with what a parenthesis opens; the insides of groups are read with
fuel. -/
def grownGroup (fuel : Nat) (parts : List Node) (stop : Nat) (parenthesis : Span) :
    Opening → Reader (List Node)
  | .setting items => do
    setSpacing items
    return parts ++ [.flags ⟨stop, ← place⟩ items]
  | .group items => do
    let spacing := (← get).freeSpacing
    setSpacing items
    let inner ← place
    let inside ← insideFrom fuel (some parenthesis) inner [] inner []
    modify fun s => { s with freeSpacing := spacing }
    bump
    return parts ++ [.group ⟨stop, ← place⟩ items inside]

/-- The parts of a branch with one more, which starts with a character at a place. -/
def grown (fuel : Nat) (parts : List Node) (stop : Nat) : Char → Reader (List Node)
  | '(' => do
    let parenthesis ← hereChar
    grownGroup fuel parts stop parenthesis (← opening)
  | '[' => return parts ++ [← bracketed]
  | '?' => repeatLast parts (sign 0 (some 1))
  | '*' => repeatLast parts (sign 0 none)
  | '+' => repeatLast parts (sign 1 none)
  | '\x7b' => repeatLast parts counts
  | c => return parts ++ [← primitive c]

def finished (start : Nat) (branches : List Node) (branchStart : Nat) (parts : List Node)
    (stop : Nat) : Node :=
  branched ⟨start, stop⟩ (branches ++ [joined ⟨branchStart, stop⟩ parts])

/-- The branches so far, where the current one starts, and its parts, with what starts with a
character at a place: a new branch, or a part of the current one. -/
def extended (fuel : Nat) (branches : List Node) (branchStart : Nat) (parts : List Node)
    (stop : Nat) (c : Char) : Reader (List Node × Nat × List Node) :=
  if c = '|' then do
    bump
    return (branches ++ [joined ⟨branchStart, stop⟩ parts], ← place, [])
  else return (branches, branchStart, ← grown fuel parts stop c)

theorem insideFrom_succ (fuel : Nat) (parenthesis : Option Span) (start : Nat)
    (branches : List Node) (branchStart : Nat) (parts : List Node) :
    insideFrom (fuel + 1) parenthesis start branches branchStart parts = (do
      space
      let stop ← place
      match ← peek with
      | none =>
        match parenthesis with
        | some span => fault .openGroup span
        | none => return finished start branches branchStart parts stop
      | some ')' =>
        match parenthesis with
        | some _ => return finished start branches branchStart parts stop
        | none => do fault .unopenedGroup (← hereChar)
      | some c =>
        let next ← extended fuel branches branchStart parts stop c
        insideFrom fuel parenthesis start next.1 next.2.1 next.2.2) := by
  rw [insideFrom]
  refine bind_congr fun _ => bind_congr fun stop => bind_congr fun next => ?_
  have part (c : Char) (notBar : c ≠ '|') :
      (extended fuel branches branchStart parts stop c >>= fun next =>
        insideFrom fuel parenthesis start next.1 next.2.1 next.2.2) =
      grown fuel parts stop c >>= fun parts =>
        insideFrom fuel parenthesis start branches branchStart parts := by
    simp only [extended, if_neg notBar, bind_assoc, pure_bind]
  split
  · rfl
  · rfl
  · rfl
  · refine .trans ?_ (part '(' (by decide)).symm
    simp only [grown, bind_assoc]
    refine bind_congr fun span => bind_congr fun opened => ?_
    cases opened <;> simp only [grownGroup, bind_assoc, pure_bind]
  · refine .trans ?_ (part '[' (by decide)).symm
    simp only [grown, bind_assoc, pure_bind]
  · exact (part '?' (by decide)).symm
  · exact (part '*' (by decide)).symm
  · exact (part '+' (by decide)).symm
  · exact (part '\x7b' (by decide)).symm
  · rename_i c notClose notBar notOpen notBracket notOption notStar notPlus notBrace
    have last : grown fuel parts stop c = (do return parts ++ [← primitive c]) := by
      unfold grown
      split <;> first | rfl | contradiction
    split
    · contradiction
    · exact absurd (Option.some.inj ‹_›) notClose
    · cases ‹some c = some _›
      rw [part c notBar, last]
      simp only [bind_assoc, pure_bind]

private theorem consumes_grown_of {fuel : Nat}
    (inside : ∀ parenthesis start,
      Consumes (insideFrom fuel (some parenthesis) start [] start []))
    (parts : List Node) (stop : Nat) (c : Char) : Consumes (grown fuel parts stop c) := by
  have group (parenthesis : Span) (opened : Opening) :
      Consumes (grownGroup fuel parts stop parenthesis opened) := by
    cases opened <;> (unfold grownGroup; infer_instance)
  unfold grown
  split <;> infer_instance

instance consumes_insideFrom (fuel : Nat) (parenthesis : Span) (start : Nat) (branches : List Node)
    (branchStart : Nat) (parts : List Node) :
    Consumes (insideFrom fuel (some parenthesis) start branches branchStart parts) := by
  induction fuel generalizing parenthesis start branches branchStart parts with
  | zero => exact consumes_fault .nesting ⟨start, start⟩
  | succ fuel ih =>
    have part (parts : List Node) (stop : Nat) (c : Char) : Consumes (grown fuel parts stop c) :=
      consumes_grown_of (fun span start => ih span start [] start []) parts stop c
    rw [insideFrom_succ]
    refine .bind inferInstance fun _ => .bind inferInstance fun stop => ?_
    refine .bind inferInstance fun next => ?_
    unfold extended
    split <;> infer_instance

instance consumes_grownGroup (fuel : Nat) (parts : List Node) (stop : Nat) (parenthesis : Span)
    (opened : Opening) : Consumes (grownGroup fuel parts stop parenthesis opened) := by
  cases opened <;> (unfold grownGroup; infer_instance)

instance consumes_grown (fuel : Nat) (parts : List Node) (stop : Nat) (c : Char) :
    Consumes (grown fuel parts stop c) :=
  consumes_grown_of (fun _ _ => inferInstance) parts stop c

instance consumes_extended (fuel : Nat) (branches : List Node) (branchStart : Nat)
    (parts : List Node) (stop : Nat) (c : Char) :
    Consumes (extended fuel branches branchStart parts stop c) := by
  unfold extended
  infer_instance

end RowStamp.Regex.Reader
