import RowStamp.Json

/-!
The text of a JSON value, on one line or with every item and member on a line of its own.
-/

set_option autoImplicit false
set_option relaxedAutoImplicit false

namespace RowStamp.Json

def controlCode (c : Char) : List Char :=
  let digits := Nat.toDigits 16 c.toNat
  '\\' :: 'u' :: (List.replicate (4 - digits.length) '0' ++ digits)

def encodeChar (c : Char) : List Char :=
  match c with
  | '"' => ['\\', '"']
  | '\\' => ['\\', '\\']
  | '\x08' => ['\\', 'b']
  | '\x0c' => ['\\', 'f']
  | '\n' => ['\\', 'n']
  | '\r' => ['\\', 'r']
  | '\t' => ['\\', 't']
  | other => if other.toNat < 32 then controlCode other else [other]

def quoted (s : String) : String :=
  String.ofList ('"' :: s.toList.flatMap encodeChar ++ ['"'])

/-- Where a value is written: on one line, or at a depth of a layout of lines. -/
inductive Layout where
  | line
  | lines (depth : Nat)

namespace Layout

def newLine (depth : Nat) : String :=
  String.ofList ('\n' :: List.replicate (2 * depth) ' ')

def inner : Layout → Layout
  | line => line
  | lines depth => lines (depth + 1)

/-- What stands before the first part of a value. -/
def before : Layout → String
  | line => ""
  | lines depth => newLine (depth + 1)

/-- What stands after the last part of a value. -/
def after : Layout → String
  | line => ""
  | lines depth => newLine depth

def colon : Layout → String
  | line => ":"
  | lines _ => ": "

/-- Parts in brackets; without a part the brackets touch. -/
def bracketed (layout : Layout) (opening closing : String) (parts : List String) : String :=
  if parts.isEmpty then opening ++ closing
  else
    opening ++ layout.before ++ (("," ++ layout.before).intercalate parts) ++ layout.after ++ closing

end Layout

mutual

def textIn (layout : Layout) : Json → String
  | .null => "null"
  | .bool b => if b then "true" else "false"
  | .integer i => toString i
  | .decimal d => d.text
  | .string s => quoted s
  | .array items => layout.bracketed "[" "]" (itemTexts layout.inner items)
  | .object members => layout.bracketed "\x7b" "\x7d" (memberTexts layout.inner members)

def itemTexts (layout : Layout) : List Json → List String
  | [] => []
  | item :: rest => textIn layout item :: itemTexts layout rest

def memberTexts (layout : Layout) : List (String × Json) → List String
  | [] => []
  | (name, value) :: rest =>
    (quoted name ++ layout.colon ++ textIn layout value) :: memberTexts layout rest

end

def text (json : Json) : String := textIn .line json

def linedText (json : Json) : String := textIn (.lines 0) json

end RowStamp.Json
