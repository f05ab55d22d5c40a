import RowStamp.Regex.Reader

/-!
Reading a whole pattern: groups and brackets nest, and how deeply they may is limited.
-/

set_option autoImplicit false
set_option relaxedAutoImplicit false

namespace RowStamp.Regex

namespace Reader

/-! ### Brackets -/

/-- What stands at the start of brackets: where they open, whether they are negated, and the
characters that count as themselves there. -/
structure ClassStart where
  span : Span
  negated : Bool
  items : List ClassSet

/-- The hyphens at the start of brackets that open at `start`. -/
def hyphens (start : Nat) : Nat → Reader (List ClassSet)
  | 0 => return []
  | fuel + 1 => do
    if ← peekIs '-' then
      let span ← hereChar
      step
      if (← peek).isNone then fault .openClass ⟨start, start⟩
      return .literal ⟨span, '-', false⟩ :: (← hyphens start fuel)
    else return []

def classStart : Reader ClassStart := do
  let start ← place
  stepOr .openClass start
  let negated ← if ← peekIs '^' then
      stepOr .openClass start
      pure true
    else pure false
  let dashes ← hyphens start ((← get).rest.length + 1)
  let items ← if dashes.isEmpty && (← peekIs ']') then
      let span ← hereChar
      stepOr .openClass start
      pure [ClassSet.literal ⟨span, ']', false⟩]
    else pure dashes
  return ⟨⟨start, ← place⟩, negated, items⟩

def unionOf (place : Nat) : List ClassSet → ClassSet
  | [] => .union ⟨place, place⟩ []
  | [item] => item
  | first :: rest =>
    .union ⟨first.span.start, (rest.getLast?.getD first).span.stop⟩ (first :: rest)

/-- The set on the left of an operator and the one on its right, as one; the right one alone where
there is no operator. -/
def combined (left : Option (SetOperator × ClassSet)) (right : ClassSet) : ClassSet :=
  match left with
  | none => right
  | some (operator, set) => .combine ⟨set.span.start, right.span.stop⟩ operator set right

def setOperator : Reader (Option SetOperator) := do
  if ← text "&&" then return some .intersection
  if ← text "--" then return some .difference
  if ← text "~~" then return some .symmetricDifference
  return none

/-- Brackets from after their start through the closing one, when the items since the last
operator and what stands before that operator are read. -/
def classFrom : Nat → ClassStart → Option (SetOperator × ClassSet) → List ClassSet →
    Reader ClassSet
  | 0, start, _, _ => fault .openClass start.span
  | fuel + 1, start, left, items => do
    space
    let set := combined left (unionOf (← place) items)
    match ← peek with
    | none => fault .openClass start.span
    | some ']' =>
      bump
      return .bracket ⟨start.span.start, ← place⟩ start.negated set
    | some '[' =>
      let item ← match ← asciiClass with
        | some item => pure item
        | none =>
          let inner ← classStart
          classFrom fuel inner none inner.items
      classFrom fuel start left (items ++ [item])
    | some c =>
      match ← setOperator with
      | some operator => classFrom fuel start (some (operator, set)) []
      | none => classFrom fuel start left (items ++ [← classRange start.span c])

def bracketed : Reader Node := do
  let start ← classStart
  return .bracketed (← classFrom ((← get).rest.length + 1) start none start.items)

/-! ### Groups -/

def joined (span : Span) : List Node → Node
  | [] => .empty span
  | [part] => part
  | parts => .concat span parts

def branched (span : Span) : List Node → Node
  | [] => .empty span
  | [branch] => branch
  | branches => .alternation span branches

def repeatLast (parts : List Node) (count : Reader (Nat × Option Nat)) : Reader (List Node) := do
  match parts.getLast? with
  | none => fault .missingOperand (← here)
  | some (.empty _) => fault .missingOperand (← here)
  | some (.flags _ _) => fault .missingOperand (← here)
  | some last =>
    let (low, high) ← count
    return parts.dropLast ++ [.repetition ⟨last.span.start, ← place⟩ low high last]

def sign (low : Nat) (high : Option Nat) : Reader (Nat × Option Nat) := do
  bump
  if ← peekIs '?' then bump
  return (low, high)

/-- Sets whether white space is passed over, where flags say it. -/
def setSpacing (items : List FlagItem) : Reader Unit :=
  modify fun s => { s with freeSpacing := (flagValue .freeSpacing false items).getD s.freeSpacing }

/-- The inside of a group, up to the parenthesis that closes it: the branches so far, where the
current one starts, and its parts.  A pattern is the inside of no group. -/
def insideFrom : Nat → Option Span → Nat → List Node → Nat → List Node → Reader Node
  | 0, _, start, _, _, _ => fault .nesting ⟨start, start⟩
  | fuel + 1, parenthesis, start, branches, branchStart, parts => do
    space
    let stop ← place
    let branch := joined ⟨branchStart, stop⟩ parts
    let finished := branched ⟨start, stop⟩ (branches ++ [branch])
    let continueWith (parts : List Node) : Reader Node :=
      insideFrom fuel parenthesis start branches branchStart parts
    match ← peek with
    | none =>
      match parenthesis with
      | some span => fault .openGroup span
      | none => return finished
    | some ')' =>
      match parenthesis with
      | some _ => return finished
      | none => fault .unopenedGroup (← hereChar)
    | some '|' =>
      bump
      insideFrom fuel parenthesis start (branches ++ [branch]) (← place) []
    | some '(' =>
      let span ← hereChar
      match ← opening with
      | .setting items =>
        setSpacing items
        continueWith (parts ++ [.flags ⟨stop, ← place⟩ items])
      | .group items =>
        let spacing := (← get).freeSpacing
        setSpacing items
        let inner ← place
        let inside ← insideFrom fuel (some span) inner [] inner []
        modify fun s => { s with freeSpacing := spacing }
        bump
        continueWith (parts ++ [.group ⟨stop, ← place⟩ items inside])
    | some '[' => continueWith (parts ++ [← bracketed])
    | some '?' => continueWith (← repeatLast parts (sign 0 (some 1)))
    | some '*' => continueWith (← repeatLast parts (sign 0 none))
    | some '+' => continueWith (← repeatLast parts (sign 1 none))
    | some '\x7b' => continueWith (← repeatLast parts counts)
    | some c => continueWith (parts ++ [← primitive c])

end Reader

/-! ### Depth -/

namespace ClassSet

mutual

/-- The first part of a set, if any, that is nested more deeply than allowed. -/
def tooDeep : Nat → ClassSet → Option Span
  | 0, union span _ => some span
  | 0, bracket span _ _ => some span
  | 0, combine span _ _ _ => some span
  | depth + 1, union _ items => anyTooDeep depth items
  | depth + 1, bracket _ _ inside => tooDeep depth inside
  | depth + 1, combine _ _ left right => (tooDeep depth left).orElse fun _ => tooDeep depth right
  | _, _ => none

/-- The first part of some sets, if any, that is nested more deeply than allowed. -/
def anyTooDeep : Nat → List ClassSet → Option Span
  | _, [] => none
  | depth, set :: rest => (tooDeep depth set).orElse fun _ => anyTooDeep depth rest

end

end ClassSet

namespace Node

mutual

/-- The first part, if any, that is nested more deeply than allowed. -/
def tooDeep : Nat → Node → Option Span
  | depth, bracketed set => set.tooDeep depth
  | 0, repetition span _ _ _ => some span
  | 0, group span _ _ => some span
  | 0, concat span _ => some span
  | 0, alternation span _ => some span
  | depth + 1, repetition _ _ _ operand => tooDeep depth operand
  | depth + 1, group _ _ inside => tooDeep depth inside
  | depth + 1, concat _ items => anyTooDeep depth items
  | depth + 1, alternation _ branches => anyTooDeep depth branches
  | _, _ => none

/-- The first part of some nodes, if any, that is nested more deeply than allowed. -/
def anyTooDeep : Nat → List Node → Option Span
  | _, [] => none
  | depth, node :: rest => (tooDeep depth node).orElse fun _ => anyTooDeep depth rest

end

end Node

def nestLimit : Nat := 250

def Node.read (text : String) : Except SyntaxFault Node := do
  let start : ReadState := ⟨text.toList, 0, false, []⟩
  let fuel := text.toList.length + 1
  let node ← (Reader.insideFrom fuel none 0 [] 0 []).run' start
  match node.tooDeep nestLimit with
  | some span => throw ⟨.nesting, span, none⟩
  | none => return node

end RowStamp.Regex
