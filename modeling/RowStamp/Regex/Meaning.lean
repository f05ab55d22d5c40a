import RowStamp.Regex.Expr
import RowStamp.Regex.Pattern
import RowStamp.Text.CaseFold

/-!
What a written pattern matches: classes as sets of characters, flags applied from where they are
set to the end of their group.
-/

set_option autoImplicit false
set_option relaxedAutoImplicit false

namespace RowStamp.Regex

structure Flags where
  caseless : Bool
  multiLine : Bool
  dotMatchesBreak : Bool
  unicode : Bool
  returns : Bool
  deriving DecidableEq, Repr

namespace Flags

def start : Flags := ⟨false, false, false, true, false⟩

def updated (flags : Flags) (items : List FlagItem) : Flags :=
  let value (f : Flag) (old : Bool) : Bool := (flagValue f false items).getD old
  { caseless := value .caseless flags.caseless,
    multiLine := value .multiLine flags.multiLine,
    dotMatchesBreak := value .dotMatchesBreak flags.dotMatchesBreak,
    unicode := value .unicode flags.unicode,
    returns := value .returns flags.returns }

end Flags

/-! ### Sets -/

/-- A letter, mark, decimal digit, connector or joiner. -/
def isWordChar (c : Char) : Bool :=
  if c.toNat < 128 then c.isAlphanum || c = '_'
  else
    Text.isLetter c || c.toNat = 0x200C || c.toNat = 0x200D ||
      ([Text.Category.nonspacingMark, .spacingMark, .enclosingMark, .decimalNumber,
        .connectorPunctuation].any (·.has c))

def isAsciiWordChar (c : Char) : Bool := c.isAlphanum || c = '_'

def AsciiClass.chars : AsciiClass → CharSet
  | alnum, c => c.isAlphanum
  | alpha, c => c.isAlpha
  | ascii, c => c.toNat < 128
  | blank, c => c = ' ' || c = '\t'
  | cntrl, c => c.toNat < 32 || c.toNat = 127
  | digit, c => c.isDigit
  | graph, c => 33 ≤ c.toNat && c.toNat ≤ 126
  | lower, c => c.isLower
  | print, c => 32 ≤ c.toNat && c.toNat ≤ 126
  | punct, c => 33 ≤ c.toNat && c.toNat ≤ 126 && !c.isAlphanum
  | space, c => c = ' ' || (9 ≤ c.toNat && c.toNat ≤ 13)
  | upper, c => c.isUpper
  | word, c => isAsciiWordChar c
  | xdigit, c => Property.isAsciiHex c

def ShortClass.chars (unicode : Bool) : ShortClass → CharSet
  | digit => if unicode then Text.Category.decimalNumber.has else Char.isDigit
  | space => if unicode then Text.isBlank else AsciiClass.space.chars
  | word => if unicode then isWordChar else isAsciiWordChar

def foldCase (unicode : Bool) (chars : CharSet) : CharSet := fun c =>
  if unicode then (Text.caseVariants c).any chars
  else chars c || chars c.toLower || chars c.toUpper

/-- The characters outside a set; without Unicode only those below 256 count. -/
def complement (unicode : Bool) (chars : CharSet) : CharSet := fun c =>
  !chars c && (unicode || c.toNat < 256)

def withinAscii (chars : CharSet) : Bool :=
  (List.range 128).all fun n => !chars (Char.ofNat (n + 128))

/-- A set folded and negated as the flags and its sign say.  Without Unicode the result must lie
within ASCII. -/
def foldNegate (flags : Flags) (span : Span) (negated : Bool) (chars : CharSet) :
    Except SyntaxFault CharSet := do
  let folded := if flags.caseless then foldCase flags.unicode chars else chars
  let signed := if negated then complement flags.unicode folded else folded
  if !flags.unicode && !withinAscii signed then throw ⟨.nonUnicodeText, span, none⟩
  return signed

def Query.chars : Query → Except Cause CharSet
  | letter c => Property.named (String.singleton c)
  | named name => Property.named name
  | valued name value => Property.valued name value

def BareClass.chars (flags : Flags) (span : Span) (negated : Bool) :
    BareClass → Except SyntaxFault CharSet
  | short kind => foldNegate { flags with caseless := false } span negated (kind.chars flags.unicode)
  | property query => do
    unless flags.unicode do throw ⟨.unicodeForbidden, span, none⟩
    match query.chars with
    | .ok chars => foldNegate flags span negated chars
    | .error cause => throw ⟨cause, span, none⟩

/-- The character of a literal; without Unicode an escape of two digits stands for a byte. -/
def Literal.char (flags : Flags) (l : Literal) : Except SyntaxFault Char :=
  if !flags.unicode && l.byte && 128 ≤ l.c.toNat then throw ⟨.nonUnicodeText, l.span, none⟩
  else return l.c

def Literal.classChar (flags : Flags) (l : Literal) : Except SyntaxFault Char := do
  let c ← l.char flags
  if !flags.unicode && 128 ≤ c.toNat then throw ⟨.unicodeForbidden, l.span, none⟩
  return c

def SetOperator.apply : SetOperator → CharSet → CharSet → CharSet
  | intersection, left, right, c => left c && right c
  | difference, left, right, c => left c && !right c
  | symmetricDifference, left, right, c => left c != right c

namespace ClassSet

mutual

def chars (flags : Flags) : ClassSet → Except SyntaxFault CharSet
  | literal l => do
    let d ← l.classChar flags
    return fun c => c = d
  | range _ low high => do
    let low ← low.classChar flags
    let high ← high.classChar flags
    return fun c => low ≤ c && c ≤ high
  | ascii span negated kind => foldNegate flags span negated kind.chars
  | bare span negated kind => kind.chars flags span negated
  | union _ items => unionChars flags items
  | bracket span negated inside => do foldNegate flags span negated (← chars flags inside)
  | combine _ operator left right => do
    let left ← chars flags left
    let right ← chars flags right
    let folded := fun set => if flags.caseless then foldCase flags.unicode set else set
    return operator.apply (folded left) (folded right)

def unionChars (flags : Flags) : List ClassSet → Except SyntaxFault CharSet
  | [] => .ok fun _ => false
  | set :: rest => do
    let first ← chars flags set
    let others ← unionChars flags rest
    return fun c => first c || others c

end

end ClassSet

/-! ### Conditions -/

/-- A place between a line break and what follows, or at the start. -/
def startsLine (returns : Bool) : Condition := fun before after =>
  match before with
  | none => true
  | some '\n' => true
  | some '\r' => returns && after ≠ some '\n'
  | some _ => false

def endsLine (returns : Bool) : Condition := fun before after =>
  match after with
  | none => true
  | some '\n' => !returns || before ≠ some '\r'
  | some '\r' => returns
  | some _ => false

def Assertion.condition (flags : Flags) (kind : Assertion) : Condition :=
  let word (c : Option Char) : Bool :=
    c.any (if flags.unicode then isWordChar else isAsciiWordChar)
  match kind with
  | lineStart => if flags.multiLine then startsLine flags.returns else fun before _ => before.isNone
  | lineEnd => if flags.multiLine then endsLine flags.returns else fun _ after => after.isNone
  | textStart => fun before _ => before.isNone
  | textEnd => fun _ after => after.isNone
  | wordBoundary => fun before after => word before != word after
  | notWordBoundary => fun before after => word before == word after
  | wordStart => fun before after => !word before && word after
  | wordEnd => fun before after => word before && !word after
  | wordStartHalf => fun before _ => !word before
  | wordEndHalf => fun _ after => !word after

/-! ### Expressions -/

/-- The set of one character, with those that differ in case only where case does not matter. -/
def literalChars (flags : Flags) (d : Char) : CharSet :=
  let exact : CharSet := fun c => c = d
  if !flags.caseless || (!flags.unicode && 128 ≤ d.toNat) then exact
  else foldCase flags.unicode exact

def dotChars (flags : Flags) (c : Char) : Bool :=
  flags.dotMatchesBreak || (c ≠ '\n' && !(flags.returns && c = '\r'))

def repeated (low : Nat) (high : Option Nat) (operand : Expr) : Expr :=
  match high with
  | none => .atLeast low operand
  | some high => .upTo low (high - low) operand

namespace Node

mutual

/-- What a pattern matches under flags, and the flags after it. -/
def meaning (flags : Flags) : Node → Except SyntaxFault (Expr × Flags)
  | empty _ => return (.empty, flags)
  | Node.flags _ items => return (.empty, flags.updated items)
  | literal l => do return (.set (literalChars flags (← l.char flags)), flags)
  | dot span =>
    if flags.unicode then return (.set (dotChars flags), flags)
    else throw ⟨.nonUnicodeText, span, none⟩
  | assertion _ kind => return (.condition (kind.condition flags), flags)
  | bare span negated kind => do return (.set (← kind.chars flags span negated), flags)
  | bracketed set => do return (.set (← set.chars flags), flags)
  | repetition _ low high operand => do
    let (e, after) ← meaning flags operand
    return (repeated low high e, after)
  | group _ items inside => do
    let (e, _) ← meaning (flags.updated items) inside
    return (e, flags)
  | concat _ items => concatMeaning flags items
  | alternation _ branches => branchMeaning flags branches

def concatMeaning (flags : Flags) : List Node → Except SyntaxFault (Expr × Flags)
  | [] => return (.empty, flags)
  | node :: rest => do
    let (first, between) ← meaning flags node
    let (others, after) ← concatMeaning between rest
    return (.seq first others, after)

def branchMeaning (flags : Flags) : List Node → Except SyntaxFault (Expr × Flags)
  | [] => return (.set fun _ => false, flags)
  | node :: rest => do
    let (first, between) ← meaning flags node
    let (others, after) ← branchMeaning between rest
    return (.alt first others, after)

end

end Node

end RowStamp.Regex
