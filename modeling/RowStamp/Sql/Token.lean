import RowStamp.Text.UpperCase

/-!
Tokens of SQL text and the text that each of them shows.
-/

set_option autoImplicit false
set_option relaxedAutoImplicit false

namespace RowStamp.Sql

/-- The written forms of a string literal. -/
inductive StringForm where
  | plain
  | doubleQuoted
  | national
  | escape
  | unicode
  | hex
  | bits
  | doubleBits
  | raw
  | doubleRaw
  deriving DecidableEq, Repr

namespace StringForm

def lead : StringForm → String
  | plain => ""
  | doubleQuoted => ""
  | national => "N"
  | escape => "E"
  | unicode => "U&"
  | hex => "X"
  | bits => "B"
  | doubleBits => "B"
  | raw => "R"
  | doubleRaw => "R"

def quote : StringForm → Char
  | doubleQuoted => '"'
  | doubleBits => '"'
  | doubleRaw => '"'
  | _ => '\''

end StringForm

inductive Token where
  | word (value : String) (quote : Option Char)
  | number (digits : String) (long : Bool)
  | string (form : StringForm) (value : String)
  | dollarString (tag : Option String) (value : String)
  | placeholder (text : String)
  | symbol (text : String)
  | customOperator (text : String)
  | other (c : Char)
  | blank (text : String)
  deriving DecidableEq, Repr

def closingQuote (c : Char) : Char := if c = '[' then ']' else c

def dollarText (tag : Option String) (value : String) : String :=
  let mark := "$" ++ tag.getD "" ++ "$"
  mark ++ value ++ mark

namespace Token

def text : Token → String
  | word value none => value
  | word value (some q) => q.toString ++ value ++ (closingQuote q).toString
  | number digits long => digits ++ if long then "L" else ""
  | string form value => form.lead ++ form.quote.toString ++ value ++ form.quote.toString
  | dollarString tag value => dollarText tag value
  | placeholder text => text
  | symbol text => text
  | customOperator text => text
  | other c => c.toString
  | blank text => text

def isBlank : Token → Bool
  | blank _ => true
  | _ => false

def isWord : Token → Bool
  | word _ _ => true
  | _ => false

def key : Token → String
  | word value none => Text.upperCased value
  | _ => ""

end Token

/-- A place in the text, both counted from one. -/
structure Position where
  line : Nat
  column : Nat
  deriving DecidableEq, Repr

namespace Position

def start : Position := ⟨1, 1⟩

def step (p : Position) (c : Char) : Position :=
  if c = '\n' then ⟨p.line + 1, 1⟩ else ⟨p.line, p.column + 1⟩

/-- The place where `rest`, an end of `cs`, starts when `cs` starts at `p`. -/
def reach (p : Position) (cs rest : List Char) : Position :=
  (cs.take (cs.length - rest.length)).foldl step p

def suffix (p : Position) : String :=
  " at Line: " ++ toString p.line ++ ", Column: " ++ toString p.column

end Position

/-- A token and where it starts. -/
structure Lexeme where
  token : Token
  position : Position
  deriving DecidableEq, Repr

end RowStamp.Sql
