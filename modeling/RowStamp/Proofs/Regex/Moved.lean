import RowStamp.Regex

/-!
Patterns that stand further on in a text: every part of them has another place.  What a pattern
matches, how large it is and how deeply it nests do not depend on where it stands.
-/

set_option autoImplicit false
set_option relaxedAutoImplicit false

namespace RowStamp.Regex

/-! ### Parts further on -/

def Span.moved (distance : Nat) (span : Span) : Span :=
  ⟨span.start + distance, span.stop + distance⟩

def Literal.moved (distance : Nat) (l : Literal) : Literal :=
  { l with span := l.span.moved distance }

namespace ClassSet

mutual

def moved (distance : Nat) : ClassSet → ClassSet
  | literal l => literal (l.moved distance)
  | range span low high => range (span.moved distance) (low.moved distance) (high.moved distance)
  | ascii span negated kind => ascii (span.moved distance) negated kind
  | bare span negated kind => bare (span.moved distance) negated kind
  | union span items => union (span.moved distance) (allMoved distance items)
  | bracket span negated inside => bracket (span.moved distance) negated (moved distance inside)
  | combine span operator left right =>
    combine (span.moved distance) operator (moved distance left) (moved distance right)

def allMoved (distance : Nat) : List ClassSet → List ClassSet
  | [] => []
  | set :: rest => moved distance set :: allMoved distance rest

end

@[simp] theorem allMoved_eq (distance : Nat) (sets : List ClassSet) :
    allMoved distance sets = sets.map (moved distance) := by
  induction sets with
  | nil => rfl
  | cons set sets ih => simp [allMoved, ih]

@[simp] theorem span_moved (distance : Nat) (set : ClassSet) :
    (set.moved distance).span = set.span.moved distance := by
  cases set <;> rfl

end ClassSet

namespace Node

mutual

def moved (distance : Nat) : Node → Node
  | empty span => empty (span.moved distance)
  | flags span items => flags (span.moved distance) items
  | literal l => literal (l.moved distance)
  | dot span => dot (span.moved distance)
  | assertion span kind => assertion (span.moved distance) kind
  | bare span negated kind => bare (span.moved distance) negated kind
  | bracketed set => bracketed (set.moved distance)
  | repetition span low high operand =>
    repetition (span.moved distance) low high (moved distance operand)
  | group span items inside => group (span.moved distance) items (moved distance inside)
  | concat span items => concat (span.moved distance) (allMoved distance items)
  | alternation span branches => alternation (span.moved distance) (allMoved distance branches)

def allMoved (distance : Nat) : List Node → List Node
  | [] => []
  | node :: rest => moved distance node :: allMoved distance rest

end

@[simp] theorem allMoved_eq (distance : Nat) (nodes : List Node) :
    allMoved distance nodes = nodes.map (moved distance) := by
  induction nodes with
  | nil => rfl
  | cons node nodes ih => simp [allMoved, ih]

@[simp] theorem span_moved (distance : Nat) (node : Node) :
    (node.moved distance).span = node.span.moved distance := by
  cases node <;> simp [moved, span, Literal.moved]

end Node

/-! ### Depth -/

namespace ClassSet

mutual

theorem tooDeep_moved (distance depth : Nat) (set : ClassSet) :
    (set.moved distance).tooDeep depth = (set.tooDeep depth).map (Span.moved distance) := by
  cases set with
  | union span items =>
    cases depth with
    | zero => rfl
    | succ depth => exact anyTooDeep_moved distance depth items
  | bracket span negated inside =>
    cases depth with
    | zero => rfl
    | succ depth => exact tooDeep_moved distance depth inside
  | combine span operator left right =>
    cases depth with
    | zero => rfl
    | succ depth =>
      simp only [moved, tooDeep]
      rw [tooDeep_moved distance depth left, tooDeep_moved distance depth right]
      cases left.tooDeep depth <;> rfl
  | _ => cases depth <;> rfl

theorem anyTooDeep_moved (distance depth : Nat) (sets : List ClassSet) :
    anyTooDeep depth (allMoved distance sets) =
      (anyTooDeep depth sets).map (Span.moved distance) := by
  cases sets with
  | nil => cases depth <;> rfl
  | cons set rest =>
    simp only [allMoved, anyTooDeep]
    rw [tooDeep_moved distance depth set, anyTooDeep_moved distance depth rest]
    cases set.tooDeep depth <;> rfl

end

end ClassSet

namespace Node

mutual

theorem tooDeep_moved (distance depth : Nat) (node : Node) :
    (node.moved distance).tooDeep depth = (node.tooDeep depth).map (Span.moved distance) := by
  cases node with
  | bracketed set =>
    cases depth <;> exact ClassSet.tooDeep_moved distance _ set
  | repetition span low high operand =>
    cases depth with
    | zero => rfl
    | succ depth => exact tooDeep_moved distance depth operand
  | group span items inside =>
    cases depth with
    | zero => rfl
    | succ depth => exact tooDeep_moved distance depth inside
  | concat span items =>
    cases depth with
    | zero => rfl
    | succ depth => exact anyTooDeep_moved distance depth items
  | alternation span branches =>
    cases depth with
    | zero => rfl
    | succ depth => exact anyTooDeep_moved distance depth branches
  | _ => cases depth <;> rfl

theorem anyTooDeep_moved (distance depth : Nat) (nodes : List Node) :
    anyTooDeep depth (allMoved distance nodes) =
      (anyTooDeep depth nodes).map (Span.moved distance) := by
  cases nodes with
  | nil => cases depth <;> rfl
  | cons node rest =>
    simp only [allMoved, anyTooDeep]
    rw [tooDeep_moved distance depth node, anyTooDeep_moved distance depth rest]
    cases node.tooDeep depth <;> rfl

end

end Node

/-! ### Size -/

namespace ClassSet

mutual

theorem size_moved (distance : Nat) (set : ClassSet) : (set.moved distance).size = set.size := by
  cases set with
  | union span items => exact totalSize_moved distance items
  | bracket span negated inside => simp only [moved, size, size_moved distance inside]
  | combine span operator left right =>
    simp only [moved, size, size_moved distance left, size_moved distance right]
  | _ => rfl

theorem totalSize_moved (distance : Nat) (sets : List ClassSet) :
    totalSize (allMoved distance sets) = totalSize sets := by
  cases sets with
  | nil => rfl
  | cons set rest =>
    simp only [allMoved, totalSize, size_moved distance set, totalSize_moved distance rest]

end

end ClassSet

namespace Node

mutual

theorem onlyEmpty_moved (distance : Nat) (node : Node) :
    (node.moved distance).onlyEmpty = node.onlyEmpty := by
  cases node with
  | repetition span low high operand =>
    simp only [moved, onlyEmpty, onlyEmpty_moved distance operand]
  | group span items inside => exact onlyEmpty_moved distance inside
  | concat span items => exact allOnlyEmpty_moved distance items
  | alternation span branches => exact allOnlyEmpty_moved distance branches
  | _ => rfl

theorem allOnlyEmpty_moved (distance : Nat) (nodes : List Node) :
    allOnlyEmpty (allMoved distance nodes) = allOnlyEmpty nodes := by
  cases nodes with
  | nil => rfl
  | cons node rest =>
    simp only [allMoved, allOnlyEmpty, onlyEmpty_moved distance node,
      allOnlyEmpty_moved distance rest]

end

mutual

theorem size_moved (distance : Nat) (node : Node) : (node.moved distance).size = node.size := by
  cases node with
  | bracketed set => simp only [moved, size, ClassSet.size_moved]
  | repetition span low high operand =>
    simp only [moved, size, onlyEmpty_moved, size_moved distance operand]
  | group span items inside => simp only [moved, size, size_moved distance inside]
  | concat span items => exact totalSize_moved distance items
  | alternation span branches => simp only [moved, size, totalSize_moved distance branches]
  | _ => rfl

theorem totalSize_moved (distance : Nat) (nodes : List Node) :
    totalSize (allMoved distance nodes) = totalSize nodes := by
  cases nodes with
  | nil => rfl
  | cons node rest =>
    simp only [allMoved, totalSize, size_moved distance node, totalSize_moved distance rest]

end

end Node

/-! ### Meaning -/

section Results

variable {ε α β : Type}

theorem toOption_eq_some_iff {x : Except ε α} {a : α} : x.toOption = some a ↔ x = .ok a := by
  cases x <;> simp [Except.toOption]

theorem toOption_bind (x : Except ε α) (f : α → Except ε β) :
    (x >>= f).toOption = x.toOption.bind fun a => (f a).toOption := by
  cases x <;> rfl

private theorem toOption_ite (c : Prop) [Decidable c] (x y : Except ε α) :
    (if c then x else y).toOption = if c then x.toOption else y.toOption :=
  apply_ite Except.toOption c x y

@[simp] theorem toOption_pure (a : α) : (pure a : Except ε α).toOption = some a := rfl

@[simp] theorem toOption_throw (fault : ε) : (throw fault : Except ε α).toOption = none := rfl

end Results

private theorem foldNegate_moved (distance : Nat) (flags : Flags) (span : Span) (negated : Bool)
    (chars : CharSet) :
    (foldNegate flags (span.moved distance) negated chars).toOption =
      (foldNegate flags span negated chars).toOption := by
  simp only [foldNegate, toOption_ite, toOption_bind, toOption_throw, Option.bind_none]

private theorem BareClass.chars_moved (distance : Nat) (flags : Flags) (span : Span)
    (negated : Bool) (kind : BareClass) :
    (kind.chars flags (span.moved distance) negated).toOption =
      (kind.chars flags span negated).toOption := by
  cases kind with
  | short kind => exact foldNegate_moved distance _ span negated _
  | property query =>
    simp only [BareClass.chars]
    cases flags.unicode with
    | false => rfl
    | true =>
      cases query.chars with
      | error cause => rfl
      | ok chars => exact foldNegate_moved distance flags span negated chars

private theorem Literal.char_moved (distance : Nat) (flags : Flags) (l : Literal) :
    ((l.moved distance).char flags).toOption = (l.char flags).toOption := by
  simp only [Literal.char, toOption_ite]
  rfl

private theorem Literal.classChar_moved (distance : Nat) (flags : Flags) (l : Literal) :
    ((l.moved distance).classChar flags).toOption = (l.classChar flags).toOption := by
  simp only [Literal.classChar, toOption_bind, Literal.char_moved, toOption_ite, toOption_throw,
    Option.bind_none]

namespace ClassSet

mutual

theorem chars_moved (distance : Nat) (flags : Flags) (set : ClassSet) :
    ((set.moved distance).chars flags).toOption = (set.chars flags).toOption := by
  cases set with
  | literal l => simp only [moved, chars, toOption_bind, Literal.classChar_moved]
  | range span low high => simp only [moved, chars, toOption_bind, Literal.classChar_moved]
  | ascii span negated kind => exact foldNegate_moved distance flags span negated kind.chars
  | bare span negated kind => exact kind.chars_moved distance flags span negated
  | union span items => exact unionChars_moved distance flags items
  | bracket span negated inside =>
    simp only [moved, chars, toOption_bind, chars_moved distance flags inside, foldNegate_moved]
  | combine span operator left right =>
    simp only [moved, chars, toOption_bind, chars_moved distance flags left,
      chars_moved distance flags right]

theorem unionChars_moved (distance : Nat) (flags : Flags) (sets : List ClassSet) :
    (unionChars flags (allMoved distance sets)).toOption = (unionChars flags sets).toOption := by
  cases sets with
  | nil => rfl
  | cons set rest =>
    simp only [allMoved, unionChars, toOption_bind, chars_moved distance flags set,
      unionChars_moved distance flags rest]

end

end ClassSet

namespace Node

mutual

/-- What a pattern matches does not depend on where it stands. -/
theorem meaning_moved (distance : Nat) (flags : Flags) (node : Node) :
    ((node.moved distance).meaning flags).toOption = (node.meaning flags).toOption := by
  cases node with
  | literal l => simp only [moved, meaning, toOption_bind, Literal.char_moved]
  | dot span =>
    simp only [moved, meaning, toOption_ite, toOption_throw]
  | bare span negated kind => simp only [moved, meaning, toOption_bind, BareClass.chars_moved]
  | bracketed set => simp only [moved, meaning, toOption_bind, ClassSet.chars_moved]
  | repetition span low high operand =>
    simp only [moved, meaning, toOption_bind, meaning_moved distance flags operand]
  | group span items inside =>
    simp only [moved, meaning, toOption_bind, meaning_moved distance _ inside]
  | concat span items => exact concatMeaning_moved distance flags items
  | alternation span branches => exact branchMeaning_moved distance flags branches
  | _ => rfl

theorem concatMeaning_moved (distance : Nat) (flags : Flags) (nodes : List Node) :
    (concatMeaning flags (allMoved distance nodes)).toOption =
      (concatMeaning flags nodes).toOption := by
  cases nodes with
  | nil => rfl
  | cons node rest =>
    simp only [allMoved, concatMeaning, toOption_bind, meaning_moved distance flags node,
      concatMeaning_moved distance _ rest]

theorem branchMeaning_moved (distance : Nat) (flags : Flags) (nodes : List Node) :
    (branchMeaning flags (allMoved distance nodes)).toOption =
      (branchMeaning flags nodes).toOption := by
  cases nodes with
  | nil => rfl
  | cons node rest =>
    simp only [allMoved, branchMeaning, toOption_bind, meaning_moved distance flags node,
      branchMeaning_moved distance _ rest]

end

end Node

end RowStamp.Regex
