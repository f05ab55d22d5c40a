import RowStamp.Regex.Syntax
import RowStamp.Text.Blank
import RowStamp.Text.Letter

/-!
A reader over the characters of a pattern, and the parts that need no nesting: escapes, counts,
flags, the names of groups and the single items of a class.
-/

set_option autoImplicit false
set_option relaxedAutoImplicit false

namespace RowStamp.Regex

/-- Where a reader stands: the characters ahead, how many are behind, whether white space and
comments are passed over, and the names of the groups so far. -/
structure ReadState where
  rest : List Char
  place : Nat
  freeSpacing : Bool
  names : List (String × Span)

abbrev Reader := StateT ReadState (Except SyntaxFault)

namespace Reader

def fault {α : Type} (cause : Cause) (span : Span) : Reader α := throw ⟨cause, span, none⟩

def place : Reader Nat := return (← get).place

def peek : Reader (Option Char) := return (← get).rest.head?

def peekIs (c : Char) : Reader Bool := return (← peek) == some c

def bump : Reader Unit := modify fun s => { s with rest := s.rest.drop 1, place := s.place + 1 }

/-- The characters after white space and comments; `inComment` inside of a comment. -/
def skipSpaces : Bool → List Char → List Char
  | _, [] => []
  | true, c :: rest => skipSpaces (c ≠ '\n') rest
  | false, c :: rest =>
    if Text.isBlank c then skipSpaces false rest
    else if c = '#' then skipSpaces true rest
    else c :: rest

/-- Passes over white space and comments, where they are not part of the pattern. -/
def space : Reader Unit := modify fun s =>
  if s.freeSpacing then
    let rest := skipSpaces false s.rest
    { s with rest := rest, place := s.place + (s.rest.length - rest.length) }
  else s

def step : Reader Unit := do
  bump
  space

/-- Consumes one character and the white space after it; the pattern must go on. -/
def stepOr (cause : Cause) (start : Nat) : Reader Unit := do
  step
  if (← peek).isNone then fault cause ⟨start, ← place⟩

/-- Consumes characters, where all of them are next. -/
def text (chars : String) : Reader Bool := do
  let list := chars.toList
  if list.isPrefixOf (← get).rest then
    for _ in list do bump
    return true
  else return false

def here : Reader Span := return ⟨← place, ← place⟩

def hereChar : Reader Span := return ⟨← place, (← place) + if (← peek).isSome then 1 else 0⟩

/-! ### Counts -/

def digits : Nat → Reader (List Char)
  | 0 => return []
  | fuel + 1 => do
    match ← peek with
    | some c =>
      if c.isDigit then
        step
        return c :: (← digits fuel)
      else return []
    | none => return []

def blanks : Nat → Reader Unit
  | 0 => return
  | fuel + 1 => do
    match ← peek with
    | some c =>
      if Text.isBlank c then
        step
        blanks fuel
      else return
    | none => return

def decimal : Reader (Except SyntaxFault Nat) := do
  let fuel := (← get).rest.length + 1
  blanks fuel
  let start ← place
  let list ← digits fuel
  let span : Span := ⟨start, ← place⟩
  blanks fuel
  let n := list.foldl (fun n c => n * 10 + (c.toNat - '0'.toNat)) 0
  if list.isEmpty then return .error ⟨.emptyCount, span, none⟩
  else if n < UInt32.size then return .ok n
  else return .error ⟨.largeCount, span, none⟩

/-- The counts of a repetition, from the opening brace through the closing one. -/
def counts : Reader (Nat × Option Nat) := do
  let start ← place
  stepOr .openCount start
  let low ← decimal
  if (← peek).isNone then fault .openCount ⟨start, ← place⟩
  let range ← if ← peekIs ',' then
      stepOr .openCount start
      if ← peekIs '\x7d' then pure (← ofExcept low, none)
      else
        let low ← ofExcept low
        pure (low, some (← ofExcept (← decimal)))
    else
      let n ← ofExcept low
      pure (n, some n)
  unless ← peekIs '\x7d' do fault .openCount ⟨start, ← place⟩
  step
  if ← peekIs '?' then bump
  match range with
  | (low, some high) =>
    if high < low then fault .countOrder ⟨start, ← place⟩ else return range
  | _ => return range
where
  /-- The value, or its fault. -/
  ofExcept (result : Except SyntaxFault Nat) : Reader Nat :=
    match result with
    | .ok n => return n
    | .error fault => throw fault

/-! ### Escapes -/

def hexValue? (c : Char) : Option Nat :=
  if c.isDigit then some (c.toNat - '0'.toNat)
  else if 'a' ≤ c && c ≤ 'f' then some (c.toNat - 'a'.toNat + 10)
  else if 'A' ≤ c && c ≤ 'F' then some (c.toNat - 'A'.toNat + 10)
  else none

def charOf? (n : Nat) : Option Char := if n.isValidChar then some (Char.ofNat n) else none

/-- A number of hexadecimal digits; each but the first is stepped to. -/
def hexDigits : Nat → Nat → Reader Nat
  | 0, value => return value
  | count + 1, value => do
    match ← peek with
    | none => fault .openEscape (← here)
    | some c =>
      match hexValue? c with
      | none => fault .hexDigit (← hereChar)
      | some d =>
        step
        hexDigits count (value * 16 + d)

/-- Hexadecimal digits up to a closing brace, with how many there are. -/
def bracedDigits (brace : Nat) : Nat → Nat → Nat → Reader (Nat × Nat)
  | 0, value, count => return (value, count)
  | fuel + 1, value, count => do
    step
    match ← peek with
    | none => fault .openEscape ⟨brace, ← place⟩
    | some '\x7d' => return (value, count)
    | some c =>
      match hexValue? c with
      | none => fault .hexDigit (← hereChar)
      | some d => bracedDigits brace fuel (value * 16 + d) (count + 1)

/-- The character of a code point in digits, from the letter on; `start` is the backslash. -/
def hexEscape (start : Nat) (letter : Char) : Reader Literal := do
  step
  if (← peek).isNone then fault .openEscape (← here)
  let first ← place
  if ← peekIs '\x7b' then
    let (value, count) ← bracedDigits first ((← get).rest.length + 1) 0 0
    let last ← place
    step
    if count = 0 then fault .emptyHex ⟨first, ← place⟩
    match charOf? value with
    | some c => return ⟨⟨start, ← place⟩, c, false⟩
    | none => fault .hexValue ⟨first + 1, last⟩
  else
    let count := if letter = 'x' then 2 else if letter = 'u' then 4 else 8
    let value ← hexDigits count 0
    match charOf? value with
    | some c => return ⟨⟨start, ← place⟩, c, letter = 'x'⟩
    | none => fault .hexValue ⟨first, ← place⟩

def bracedName : Nat → Reader (List Char)
  | 0 => return []
  | fuel + 1 => do
    step
    match ← peek with
    | none => fault .openEscape (← here)
    | some '\x7d' => return []
    | some c => return c :: (← bracedName fuel)

def queryOf (name : List Char) : Query :=
  let at? (mark : Char) : Option Query :=
    if name.contains mark then
      some (.valued (String.ofList (name.takeWhile (· ≠ mark)))
        (String.ofList ((name.dropWhile (· ≠ mark)).drop 1)))
    else none
  let unequal (i : Nat) : Bool := ['!', '='].isPrefixOf (name.drop i)
  match (List.range name.length).find? unequal with
  | some i => .valued (String.ofList (name.take i)) (String.ofList (name.drop (i + 2)))
  | none => ((at? ':').orElse fun _ => at? '=').getD (.named (String.ofList name))

def propertyQuery : Reader Query := do
  step
  match ← peek with
  | none => fault .openEscape (← here)
  | some '\x7b' =>
    let name ← bracedName ((← get).rest.length + 1)
    bump
    return queryOf name
  | some c =>
    if c = '\\' then fault .propertyForm (← hereChar)
    step
    return .letter c

def isBoundaryChar (c : Char) : Bool := c.isAlpha || c = '-'

def boundaryName : Nat → Reader (List Char)
  | 0 => return []
  | fuel + 1 => do
    match ← peek with
    | some c =>
      if isBoundaryChar c then
        step
        return c :: (← boundaryName fuel)
      else return []
    | none => return []

/-- A word boundary that may have a name in braces; `start` is its backslash. -/
def wordBoundary (start : Nat) : Reader Assertion := do
  unless ← peekIs '\x7b' do return .wordBoundary
  let before ← get
  step
  let first ← place
  match ← peek with
  | none => fault .openBoundary ⟨start, ← place⟩
  | some c =>
    if isBoundaryChar c then
      let name ← boundaryName (before.rest.length + 1)
      unless ← peekIs '\x7d' do fault .boundaryForm ⟨before.place, ← place⟩
      let last ← place
      bump
      match String.ofList name with
      | "start" => return .wordStart
      | "end" => return .wordEnd
      | "start-half" => return .wordStartHalf
      | "end-half" => return .wordEndHalf
      | _ => fault .unknownBoundary ⟨first, last⟩
    else
      set before
      return .wordBoundary

def metaChars : List Char := "\\.+*?()|[]\x7b\x7d^$#&-~".toList

def escapable (c : Char) : Bool :=
  metaChars.contains c || (c.toNat < 128 && !c.isAlphanum && c ≠ '<' && c ≠ '>')

def controls : List (Char × Char) :=
  [('a', '\x07'), ('f', '\x0c'), ('t', '\t'), ('n', '\n'), ('r', '\r'), ('v', '\x0b')]

def conditions : List (Char × Assertion) :=
  [('A', .textStart), ('z', .textEnd), ('B', .notWordBoundary), ('<', .wordStart),
    ('>', .wordEnd)]

def shortClasses : List (Char × ShortClass) :=
  [('d', .digit), ('s', .space), ('w', .word)]

def simpleEscape (start : Nat) (c : Char) : Reader Node := do
  let span : Span := ⟨start, ← place⟩
  if escapable c then return .literal ⟨span, c, false⟩
  match controls.lookup c, conditions.lookup c with
  | some control, _ => return .literal ⟨span, control, false⟩
  | none, some kind => return .assertion span kind
  | none, none =>
    if c = 'b' then
      let kind ← wordBoundary start
      return .assertion ⟨start, ← place⟩ kind
    else fault .unknownEscape span

def escape : Reader Node := do
  let start ← place
  bump
  match ← peek with
  | none => fault .openEscape ⟨start, ← place⟩
  | some c =>
    if c.isDigit then fault .backreference ⟨start, (← place) + 1⟩
    else if ['x', 'u', 'U'].contains c then return .literal (← hexEscape start c)
    else if c = 'p' || c = 'P' then
      let query ← propertyQuery
      return .bare ⟨start, ← place⟩ (c = 'P') (.property query)
    else
      match shortClasses.lookup c.toLower with
      | some kind =>
        bump
        return .bare ⟨start, ← place⟩ c.isUpper (.short kind)
      | none =>
        bump
        simpleEscape start c

def primitive (c : Char) : Reader Node := do
  if c = '\\' then escape
  else
    let span ← hereChar
    bump
    match c with
    | '.' => return .dot span
    | '^' => return .assertion span .lineStart
    | '$' => return .assertion span .lineEnd
    | _ => return .literal ⟨span, c, false⟩

/-! ### Items of a class -/

def classPrimitive (c : Char) : Reader Node := do
  if c = '\\' then escape
  else
    let span ← hereChar
    bump
    return .literal ⟨span, c, false⟩

def classItem : Node → Reader ClassSet
  | .literal l => return .literal l
  | .bare span negated kind => return .bare span negated kind
  | other => fault .escapeInClass other.span

def rangeEnd : Node → Reader Literal
  | .literal l => return l
  | other => fault .classRangeEnd other.span

/-- The character after the next one, white space aside. -/
def peekSecond : Reader (Option Char) := do
  let s ← get
  let after := s.rest.drop 1
  return (if s.freeSpacing then skipSpaces false after else after).head?

/-- A character, a class or a range inside of brackets that open with `brackets`. -/
def classRange (brackets : Span) (c : Char) : Reader ClassSet := do
  let first ← classPrimitive c
  space
  if (← peek).isNone then fault .openClass brackets
  let second ← peekSecond
  if (← peek) ≠ some '-' || second = some ']' || second = some '-' then classItem first
  else
    step
    match ← peek with
    | none => fault .openClass brackets
    | some d =>
      let last ← classPrimitive d
      let span : Span := ⟨first.span.start, last.span.stop⟩
      let low ← rangeEnd first
      let high ← rangeEnd last
      if high.c < low.c then fault .classRangeOrder span
      return .range span low high

/-- A class of ASCII characters by name, from its opening bracket; nothing is consumed where there
is none. -/
def asciiClass : Reader (Option ClassSet) := do
  let before ← get
  match before.rest with
  | '[' :: ':' :: rest =>
    let negated := rest.head? == some '^'
    let name := (if negated then rest.drop 1 else rest).takeWhile (· ≠ ':')
    let length := 2 + (if negated then 1 else 0) + name.length
    match AsciiClass.parse? (String.ofList name), before.rest.drop length with
    | some kind, ':' :: ']' :: after =>
      let stop := before.place + length + 2
      set { before with rest := after, place := stop }
      return some (.ascii ⟨before.place, stop⟩ negated kind)
    | _, _ => return none
  | _ => return none

/-! ### Groups -/

def isNameChar (first : Bool) (c : Char) : Bool :=
  if first then c = '_' || Text.isLetter c
  else ['_', '.', '[', ']'].contains c || Text.isLetter c || Text.isNumeral c

def nameChars : Nat → Bool → Reader (List Char)
  | 0, _ => return []
  | fuel + 1, first => do
    match ← peek with
    | none => fault .openName (← here)
    | some '>' => return []
    | some c =>
      if isNameChar first c then
        bump
        return c :: (← nameChars fuel false)
      else fault .nameCharacter (← hereChar)

def groupName : Reader Unit := do
  let start ← place
  let name := String.ofList (← nameChars ((← get).rest.length + 1) true)
  let span : Span := ⟨start, ← place⟩
  bump
  if name.isEmpty then fault .emptyName ⟨start, start⟩
  match (← get).names.lookup name with
  | some earlier => throw ⟨.repeatedName, span, some earlier⟩
  | none => modify fun s => { s with names := (name, span) :: s.names }

def flagItem (c : Char) : Reader FlagItem := do
  if c = '-' then return .negation
  match Flag.parse? c with
  | some f => return .flag f
  | none => fault .unknownFlag (← hereChar)

/-- The rest of a list of flags, after the items read so far with their spans. -/
def flagItems : Nat → List (FlagItem × Span) → Reader (List (FlagItem × Span))
  | 0, items => return items
  | fuel + 1, items => do
    match ← peek with
    | none => fault .openFlags (← here)
    | some c =>
      if c = ':' || c = ')' then return items
      let span ← hereChar
      let item ← flagItem c
      match items.lookup item with
      | some earlier =>
        throw ⟨if item = .negation then .repeatedNegation else .repeatedFlag, span, some earlier⟩
      | none =>
        bump
        flagItems fuel (items ++ [(item, span)])

def flagList : Reader (List FlagItem) := do
  let items ← flagItems ((← get).rest.length + 1) []
  match items.getLast? with
  | some (.negation, span) => fault .danglingNegation span
  | _ => return items.map Prod.fst

/-- What an opening parenthesis starts: flags for the rest of the group, or a group with flags of
its own. -/
inductive Opening where
  | setting (items : List FlagItem)
  | group (items : List FlagItem)

def opening : Reader Opening := do
  let parenthesis ← hereChar
  step
  for form in ["?=", "?!", "?<=", "?<!"] do
    if ← text form then fault .lookAround ⟨parenthesis.start, ← place⟩
  let inside ← here
  if ← text "?P<" then
    groupName
    return .group []
  if ← text "?<" then
    groupName
    return .group []
  if ← text "?" then
    if (← peek).isNone then fault .openGroup parenthesis
    let items ← flagList
    let close ← peek
    bump
    if close = some ':' then return .group items
    if items.isEmpty then fault .missingOperand inside
    return .setting items
  return .group []

end Reader

end RowStamp.Regex
