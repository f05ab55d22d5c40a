import RowStamp.Dialect
import RowStamp.Sql.Token

/-!
String literals and quoted identifiers: reading one from just after its opening, up to and
including its closing.  Each reader gives the value and the rest of the text.
-/

set_option autoImplicit false
set_option relaxedAutoImplicit false

namespace RowStamp.Sql

/-- Why text has no tokens. -/
inductive LexicalFault where
  | openString
  | openEscapeString
  | openUnicodeString
  | openIdentifier (close : Char)
  | openComment
  | openDollarString
  | openTaggedString
  | hexEnd
  | hexDigit (c : Char)
  | codePoint (n : Nat)
  | underscore
  | operator (text : String)
  deriving DecidableEq, Repr

abbrev ScanFault := LexicalFault × List Char

/-- The character that a backslash and `c` stand for. -/
def backslashed (c : Char) : Char :=
  match c with
  | '0' => '\x00'
  | 'a' => '\x07'
  | 'b' => '\x08'
  | 'f' => '\x0c'
  | 'n' => '\n'
  | 'r' => '\r'
  | 't' => '\t'
  | 'Z' => '\x1a'
  | other => other

/-- How a string literal is closed and escaped. -/
structure StringRule where
  quote : Char
  backslash : Bool
  keepWildcards : Bool

/-- The value of a string up to its closing quote: a doubled quote stands for one, and where
backslashes escape, the escaped character is taken. -/
def stringValue (rule : StringRule) : List Char → Option (List Char × List Char)
  | [] => none
  | c :: cs =>
    if c = rule.quote then
      match cs with
      | d :: ds =>
        if d = rule.quote then (stringValue rule ds).map fun (v, r) => (d :: v, r)
        else some ([], cs)
      | [] => some ([], [])
    else if c = '\\' && rule.backslash then
      match cs with
      | d :: ds =>
        if rule.keepWildcards && (d = '%' || d = '_') then
          (stringValue rule ds).map fun (v, r) => (c :: d :: v, r)
        else (stringValue rule ds).map fun (v, r) => (backslashed d :: v, r)
      | [] => none
    else (stringValue rule cs).map fun (v, r) => (c :: v, r)

/-- The value of a quoted identifier up to its closing quote, which is doubled inside. -/
def quotedValue (close : Char) : List Char → Option (List Char × List Char)
  | [] => none
  | c :: cs =>
    if c = close then
      match cs with
      | d :: ds =>
        if d = close then (quotedValue close ds).map fun (v, r) => (d :: v, r)
        else some ([], cs)
      | [] => some ([], [])
    else (quotedValue close cs).map fun (v, r) => (c :: v, r)

def hexValue? (c : Char) : Option Nat :=
  if c.isDigit then some (c.toNat - '0'.toNat)
  else if 'a' ≤ c && c ≤ 'f' then some (c.toNat - 'a'.toNat + 10)
  else if 'A' ≤ c && c ≤ 'F' then some (c.toNat - 'A'.toNat + 10)
  else none

def charOf? (n : Nat) : Option Char :=
  if n.isValidChar then some (Char.ofNat n) else none

/-- The number written in a base by digits, with an optional plus sign. -/
def numeral? (base : Nat) (cs : List Char) : Option Nat :=
  let digits := match cs with
    | '+' :: rest => rest
    | _ => cs
  if digits.isEmpty then none
  else digits.foldl (fun total c => do
    let n ← total
    let d ← hexValue? c
    if d < base then some (n * base + d) else none) (some 0)

def byteChar? (base : Nat) (digits : List Char) : Option Char := do
  let n ← numeral? base digits
  let byte := n % 256
  if byte ≤ 127 then charOf? byte else none

/-- Up to `n` leading characters that satisfy `p`, and the rest. -/
def takeUpTo (p : Char → Bool) : Nat → List Char → List Char × List Char
  | 0, cs => ([], cs)
  | _, [] => ([], [])
  | n + 1, c :: cs =>
    if p c then
      let (taken, rest) := takeUpTo p n cs
      (c :: taken, rest)
    else ([], c :: cs)

/-- The character of a Unicode escape of `n` digits, and the rest. -/
def unicodeEscape? (n : Nat) (cs : List Char) : Option (Char × List Char) := do
  if cs.length < n then none
  let point ← numeral? 16 (cs.take n)
  let c ← charOf? point
  some (c, cs.drop n)

/-- The character of the escape that follows a backslash in an `E'...'` string, and the rest. -/
def escapeChar? : List Char → Option (Char × List Char)
  | [] => none
  | 'b' :: cs => some ('\x08', cs)
  | 'f' :: cs => some ('\x0c', cs)
  | 'n' :: cs => some ('\n', cs)
  | 'r' :: cs => some ('\r', cs)
  | 't' :: cs => some ('\t', cs)
  | 'u' :: cs => unicodeEscape? 4 cs
  | 'U' :: cs => unicodeEscape? 8 cs
  | 'x' :: cs =>
    match takeUpTo (fun c => (hexValue? c).isSome) 2 cs with
    | ([], _) => some ('x', cs)
    | (digits, rest) => (byteChar? 16 digits).map fun c => (c, rest)
  | c :: cs =>
    let octal : Char → Bool := fun d => '0' ≤ d && d ≤ '7'
    if octal c then
      let (digits, rest) := takeUpTo octal 2 cs
      (byteChar? 8 (c :: digits)).map fun c => (c, rest)
    else some (c, cs)

/-- The value of an `E'...'` string up to its closing quote. -/
def escapeStringValue : Nat → List Char → Option (List Char × List Char)
  | 0, _ => none
  | _, [] => none
  | fuel + 1, '\'' :: '\'' :: cs =>
    (escapeStringValue fuel cs).map fun (v, r) => ('\'' :: v, r)
  | _ + 1, '\'' :: cs => some ([], cs)
  | fuel + 1, '\\' :: cs => do
    let (c, rest) ← escapeChar? cs
    if c = '\x00' then none
    let (v, r) ← escapeStringValue fuel rest
    some (c :: v, r)
  | fuel + 1, c :: cs => (escapeStringValue fuel cs).map fun (v, r) => (c :: v, r)

/-- The code point of exactly `n` hexadecimal digits. -/
def hexPoint : Nat → Nat → List Char → Except ScanFault (Nat × List Char)
  | 0, total, cs => .ok (total, cs)
  | _ + 1, _, [] => .error (.hexEnd, [])
  | n + 1, total, c :: cs =>
    match hexValue? c with
    | none => .error (.hexDigit c, cs)
    | some d => hexPoint n (total * 16 + d) cs

/-- The character of exactly `n` hexadecimal digits. -/
def hexChar (n : Nat) (cs : List Char) : Except ScanFault (Char × List Char) := do
  let (point, rest) ← hexPoint n 0 cs
  match charOf? point with
  | some c => pure (c, rest)
  | none => .error (.codePoint point, rest)

def unicodeStringValue : Nat → List Char → Except ScanFault (List Char × List Char)
  | 0, cs => .error (.openUnicodeString, cs)
  | _, [] => .error (.openUnicodeString, [])
  | fuel + 1, '\'' :: '\'' :: cs => do
    let (v, r) ← unicodeStringValue fuel cs
    pure ('\'' :: v, r)
  | _ + 1, '\'' :: cs => .ok ([], cs)
  | fuel + 1, '\\' :: '\\' :: cs => do
    let (v, r) ← unicodeStringValue fuel cs
    pure ('\\' :: v, r)
  | fuel + 1, '\\' :: '+' :: cs => do
    let (c, rest) ← hexChar 6 cs
    let (v, r) ← unicodeStringValue fuel rest
    pure (c :: v, r)
  | fuel + 1, '\\' :: cs => do
    let (c, rest) ← hexChar 4 cs
    let (v, r) ← unicodeStringValue fuel rest
    pure (c :: v, r)
  | fuel + 1, c :: cs => do
    let (v, r) ← unicodeStringValue fuel cs
    pure (c :: v, r)

/-- The value between two double dollars, from just after the first pair; `afterDollar` holds when
the last character was a dollar. -/
def bareDollarValue (afterDollar : Bool) : List Char → Option (List Char × List Char)
  | [] => none
  | c :: cs =>
    if afterDollar then
      if c = '$' then some ([], cs)
      else (bareDollarValue false cs).map fun (v, r) => ('$' :: c :: v, r)
    else if c = '$' then bareDollarValue true cs
    else (bareDollarValue false cs).map fun (v, r) => (c :: v, r)

/-- The value up to the first occurrence of a mark, and what follows the mark. -/
def upToMark (mark : List Char) : List Char → Option (List Char × List Char)
  | [] => if mark.isEmpty then some ([], []) else none
  | c :: cs =>
    if mark.isPrefixOf (c :: cs) then some ([], (c :: cs).drop mark.length)
    else (upToMark mark cs).map fun (v, r) => (c :: v, r)

end RowStamp.Sql
