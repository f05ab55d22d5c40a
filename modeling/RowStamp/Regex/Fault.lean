/-!
Why a text is not a regular expression, where, and how it is said.  Places count characters.
-/

set_option autoImplicit false
set_option relaxedAutoImplicit false

namespace RowStamp.Regex

/-- A part of a pattern: from one character up to before another. -/
structure Span where
  start : Nat
  stop : Nat
  deriving DecidableEq, Repr

/-- What is wrong with a pattern. -/
inductive Cause where
  | escapeInClass
  | classRangeOrder
  | classRangeEnd
  | openClass
  | openGroup
  | unopenedGroup
  | emptyCount
  | largeCount
  | countOrder
  | openCount
  | missingOperand
  | emptyHex
  | hexValue
  | hexDigit
  | openEscape
  | unknownEscape
  | danglingNegation
  | repeatedNegation
  | repeatedFlag
  | openFlags
  | unknownFlag
  | repeatedName
  | emptyName
  | nameCharacter
  | openName
  | nesting
  | boundaryForm
  | unknownBoundary
  | openBoundary
  | propertyForm
  | backreference
  | lookAround
  | unicodeForbidden
  | nonUnicodeText
  | unknownProperty
  | unknownPropertyValue
  deriving DecidableEq, Repr

def Cause.message : Cause → String
  | escapeInClass => "invalid escape sequence found in character class"
  | classRangeOrder => "invalid character class range, the start must be <= the end"
  | classRangeEnd => "invalid range boundary, must be a literal"
  | openClass => "unclosed character class"
  | openGroup => "unclosed group"
  | unopenedGroup => "unopened group"
  | emptyCount => "repetition quantifier expects a valid decimal"
  | largeCount => "decimal literal invalid"
  | countOrder => "invalid repetition count range, the start must be <= the end"
  | openCount => "unclosed counted repetition"
  | missingOperand => "repetition operator missing expression"
  | emptyHex => "hexadecimal literal empty"
  | hexValue => "hexadecimal literal is not a Unicode scalar value"
  | hexDigit => "invalid hexadecimal digit"
  | openEscape => "incomplete escape sequence, reached end of pattern prematurely"
  | unknownEscape => "unrecognized escape sequence"
  | danglingNegation => "dangling flag negation operator"
  | repeatedNegation => "flag negation operator repeated"
  | repeatedFlag => "duplicate flag"
  | openFlags => "expected flag but got end of regex"
  | unknownFlag => "unrecognized flag"
  | repeatedName => "duplicate capture group name"
  | emptyName => "empty capture group name"
  | nameCharacter => "invalid capture group character"
  | openName => "unclosed capture group name"
  | nesting => "exceed the maximum number of nested parentheses/brackets (250)"
  | boundaryForm =>
    "special word boundary assertion is either unclosed or contains an invalid character"
  | unknownBoundary => "unrecognized special word boundary assertion, " ++
      "valid choices are: start, end, start-half or end-half"
  | openBoundary => "found either the beginning of a special word boundary or a bounded " ++
      "repetition on a \\b with an opening brace, but no closing brace"
  | propertyForm => "invalid Unicode character class"
  | backreference => "backreferences are not supported"
  | lookAround => "look-around, including look-ahead and look-behind, is not supported"
  | unicodeForbidden => "Unicode not allowed here"
  | nonUnicodeText => "pattern can match invalid UTF-8"
  | unknownProperty => "Unicode property not found"
  | unknownPropertyValue => "Unicode property value not found"

/-- What is wrong with a pattern and where; some faults have a second place. -/
structure SyntaxFault where
  cause : Cause
  span : Span
  other : Option Span
  deriving DecidableEq, Repr

/-- Why a pattern cannot be used: its text is wrong, or it is too large. -/
inductive Fault where
  | syntactic (pattern : String) (fault : SyntaxFault)
  | tooLarge (limit : Nat)
  deriving DecidableEq, Repr

namespace Fault

/-- A line and a column, both counted from zero. -/
structure Place where
  line : Nat
  column : Nat
  deriving DecidableEq, Repr

def placeOf (pattern : List Char) (offset : Nat) : Place :=
  (pattern.take offset).foldl
    (fun p c => if c = '\n' then ⟨p.line + 1, 0⟩ else ⟨p.line, p.column + 1⟩) ⟨0, 0⟩

def withoutReturn (line : List Char) : List Char :=
  if line.getLast? = some '\r' then line.dropLast else line

def lines (text : List Char) : List (List Char) :=
  let all := text.splitOn '\n'
  (if all.getLast? = some [] then all.dropLast else all).map withoutReturn

def copies (n : Nat) (c : Char) : String := String.ofList (List.replicate n c)

/-- Marks under the columns of spans, in order, when `column` columns are written already. -/
def marks (column : Nat) : List (Nat × Nat) → String
  | [] => ""
  | (start, stop) :: rest =>
    let width := max 1 (stop - start)
    copies (start - column) ' ' ++ copies width '^' ++ marks (max column start + width) rest

def spans (fault : SyntaxFault) : List Span :=
  match fault.other with
  | none => [fault.span]
  | some other =>
    if other.start < fault.span.start then [other, fault.span] else [fault.span, other]

def notedLine (pattern : List Char) (fault : SyntaxFault) (width n : Nat)
    (line : List Char) : String :=
  let number := toString (n + 1)
  let lead := if width = 0 then "    " else copies (width - number.length) ' ' ++ number ++ ": "
  let onLine := (spans fault).filterMap fun span =>
    let start := placeOf pattern span.start
    let stop := placeOf pattern span.stop
    if start.line = n && stop.line = n then some (start.column, stop.column) else none
  lead ++ String.ofList line ++ "\n" ++
    if onLine.isEmpty then ""
    else copies (if width = 0 then 4 else width + 2) ' ' ++ marks 0 onLine ++ "\n"

def notedFrom (pattern : List Char) (fault : SyntaxFault) (width : Nat) :
    Nat → List (List Char) → String
  | _, [] => ""
  | n, line :: rest =>
    notedLine pattern fault width n line ++ notedFrom pattern fault width (n + 1) rest

def longSpanNote (pattern : List Char) (span : Span) : Option String :=
  let start := placeOf pattern span.start
  let stop := placeOf pattern span.stop
  if start.line = stop.line then none
  else some ("on line " ++ toString (start.line + 1) ++ " (column " ++ toString (start.column + 1) ++
    ") through line " ++ toString (stop.line + 1) ++ " (column " ++ toString stop.column ++ ")")

/-- The pattern with the places of a fault marked, and what is wrong there. -/
def syntacticMessage (pattern : String) (fault : SyntaxFault) : String :=
  let cs := pattern.toList
  let count := (lines cs).length + if cs.getLast? = some '\n' then 1 else 0
  let width := if count ≤ 1 then 0 else (toString count).length
  let noted := notedFrom cs fault width 0 (lines cs)
  let divider := copies 79 '~' ++ "\n"
  let notes := (spans fault).filterMap (longSpanNote cs)
  let body := if cs.contains '\n' then
      divider ++ noted ++ divider ++
        if notes.isEmpty then "" else "\n".intercalate notes ++ "\n"
    else noted
  "regex parse error:\n" ++ body ++ "error: " ++ fault.cause.message

def message : Fault → String
  | syntactic pattern fault => syntacticMessage pattern fault
  | tooLarge limit => "Compiled regex exceeds size limit of " ++ toString limit ++ " bytes."

end Fault

end RowStamp.Regex
