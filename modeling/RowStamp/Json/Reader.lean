import RowStamp.Json
import RowStamp.Decimal.Shortest

/-!
Reading JSON.  A number without fraction and exponent is an integer where 64 bits hold it; every
other number stands for the nearest binary value and is kept as the shortest decimal number for it.
-/

set_option autoImplicit false
set_option relaxedAutoImplicit false

namespace RowStamp.Json.Reader

def skipBlanks (cs : List Char) : List Char :=
  cs.dropWhile fun c => c = ' ' || c = '\t' || c = '\n' || c = '\r'

def hexDigit? (c : Char) : Option Nat :=
  if c.isDigit then some (c.toNat - '0'.toNat)
  else if 'a' ≤ c && c ≤ 'f' then some (c.toNat - 'a'.toNat + 10)
  else if 'A' ≤ c && c ≤ 'F' then some (c.toNat - 'A'.toNat + 10)
  else none

def hexUnit? (a b c d : Char) : Option Nat := do
  return ((← hexDigit? a) * 16 + (← hexDigit? b)) * 256 + ((← hexDigit? c) * 16 + (← hexDigit? d))

def charOfUnit? (unit : Nat) : Option Char :=
  if 0xD800 ≤ unit && unit ≤ 0xDFFF then none else some (Char.ofNat unit)

def charOfPair? (high low : Nat) : Option Char :=
  if 0xD800 ≤ high && high ≤ 0xDBFF && 0xDC00 ≤ low && low ≤ 0xDFFF then
    some (Char.ofNat (0x10000 + (high - 0xD800) * 0x400 + (low - 0xDC00)))
  else none

def escaped? : Char → Option Char
  | '"' => some '"'
  | '\\' => some '\\'
  | '/' => some '/'
  | 'b' => some '\x08'
  | 'f' => some '\x0c'
  | 'n' => some '\n'
  | 'r' => some '\r'
  | 't' => some '\t'
  | _ => none

/-- The rest of a string after its opening quote, in front of which `done` is read, in reverse; and
what follows the closing quote. -/
def stringRest (done : List Char) : List Char → Option (String × List Char)
  | '"' :: rest => some (String.ofList done.reverse, rest)
  | '\\' :: 'u' :: a :: b :: c :: d :: '\\' :: 'u' :: e :: f :: g :: h :: rest =>
    match hexUnit? a b c d, hexUnit? e f g h with
    | some first, some second =>
      match charOfUnit? first, charOfPair? first second with
      | some one, _ => stringRest (one :: done) ('\\' :: 'u' :: e :: f :: g :: h :: rest)
      | none, some pair => stringRest (pair :: done) rest
      | none, none => none
    | _, _ => none
  | '\\' :: 'u' :: a :: b :: c :: d :: rest =>
    match (hexUnit? a b c d).bind charOfUnit? with
    | some one => stringRest (one :: done) rest
    | none => none
  | '\\' :: c :: rest =>
    match escaped? c with
    | some one => stringRest (one :: done) rest
    | none => none
  | c :: rest => if c.toNat < 32 then none else stringRest (c :: done) rest
  | [] => none
termination_by cs => cs.length

def numberOf (digits : List Char) : Nat :=
  digits.foldl (fun n c => n * 10 + (c.toNat - '0'.toNat)) 0

def digitRun (cs : List Char) : List Char × List Char :=
  (cs.takeWhile Char.isDigit, cs.dropWhile Char.isDigit)

/-- The digits behind a point, and the rest. -/
def fraction (cs : List Char) : Option (List Char × List Char) :=
  match cs with
  | '.' :: rest =>
    let (digits, rest) := digitRun rest
    if digits.isEmpty then none else some (digits, rest)
  | other => some ([], other)

/-- The exponent, if one is written, and the rest. -/
def exponent (cs : List Char) : Option (Option Int × List Char) :=
  match cs with
  | c :: rest =>
    if c = 'e' || c = 'E' then
      let (negative, rest) := match rest with
        | '-' :: rest => (true, rest)
        | '+' :: rest => (false, rest)
        | rest => (false, rest)
      let (digits, rest) := digitRun rest
      if digits.isEmpty then none
      else
        let size : Int := numberOf digits
        some (some (if negative then -size else size), rest)
    else some (none, cs)
  | [] => some (none, [])

/-- 64 bits hold the integer, with a sign only where it is negative. -/
def fits64 (i : Int) : Bool := Int64.minValue.toInt ≤ i && i < UInt64.size

def unsigned (negative : Bool) (cs : List Char) : Option (Json × List Char) := do
  let (whole, rest) := digitRun cs
  if whole.isEmpty || (whole.length ≠ 1 && whole.head? = some '0') then none
  else
    let (fraction, rest) ← fraction rest
    let (power?, rest) ← exponent rest
    let size := numberOf whole
    let value : Int := if negative then -size else size
    if fraction.isEmpty && power?.isNone && fits64 value && !(negative && size = 0) then
      return (.integer value, rest)
    else
      let power := power?.getD 0 - fraction.length
      let d ← Decimal.shortest? ⟨negative, numberOf (whole ++ fraction), power⟩
      return (.decimal d, rest)

def number : List Char → Option (Json × List Char)
  | '-' :: rest => unsigned true rest
  | cs => unsigned false cs

mutual

/-- A value and what follows it; `fuel` bounds the values and the separators read. -/
def value : Nat → List Char → Option (Json × List Char)
  | 0, _ => none
  | fuel + 1, cs =>
    match skipBlanks cs with
    | 'n' :: 'u' :: 'l' :: 'l' :: rest => some (.null, rest)
    | 't' :: 'r' :: 'u' :: 'e' :: rest => some (.bool true, rest)
    | 'f' :: 'a' :: 'l' :: 's' :: 'e' :: rest => some (.bool false, rest)
    | '"' :: rest => (stringRest [] rest).map fun (s, rest) => (.string s, rest)
    | '[' :: rest =>
      match skipBlanks rest with
      | ']' :: rest => some (.array [], rest)
      | rest => (items fuel rest).map fun (found, rest) => (.array found, rest)
    | '\x7b' :: rest =>
      match skipBlanks rest with
      | '\x7d' :: rest => some (.object [], rest)
      | rest => (members fuel rest).map fun (found, rest) => (ofMembers found, rest)
    | rest => number rest

def items : Nat → List Char → Option (List Json × List Char)
  | 0, _ => none
  | fuel + 1, cs => do
    let (first, rest) ← value fuel cs
    match skipBlanks rest with
    | ',' :: rest =>
      let (more, rest) ← items fuel rest
      return (first :: more, rest)
    | ']' :: rest => return ([first], rest)
    | _ => none

def members : Nat → List Char → Option (List (String × Json) × List Char)
  | 0, _ => none
  | fuel + 1, cs => do
    match skipBlanks cs with
    | '"' :: rest =>
      let (name, rest) ← stringRest [] rest
      match skipBlanks rest with
      | ':' :: rest =>
        let (first, rest) ← value fuel rest
        match skipBlanks rest with
        | ',' :: rest =>
          let (more, rest) ← members fuel rest
          return ((name, first) :: more, rest)
        | '\x7d' :: rest => return ([(name, first)], rest)
        | _ => none
      | _ => none
    | _ => none

end

end RowStamp.Json.Reader

namespace RowStamp.Json

def read? (text : String) : Option Json :=
  let cs := text.toList
  match Reader.value (cs.length + 1) cs with
  | some (json, rest) => if (Reader.skipBlanks rest).isEmpty then some json else none
  | none => none

end RowStamp.Json
