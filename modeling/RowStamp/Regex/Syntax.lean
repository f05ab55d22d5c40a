import RowStamp.Regex.Fault

/-!
Regular expressions as they are written.  Every part knows its place, which faults name.
-/

set_option autoImplicit false
set_option relaxedAutoImplicit false

namespace RowStamp.Regex

/-- A character, written as itself or as an escape; `byte` for an escape of two hexadecimal
digits. -/
structure Literal where
  span : Span
  c : Char
  byte : Bool
  deriving DecidableEq, Repr

/-- Classes written as a backslash and a letter. -/
inductive ShortClass where
  | digit
  | space
  | word
  deriving DecidableEq, Repr

/-- Classes of ASCII characters, written by name in brackets and colons. -/
inductive AsciiClass where
  | alnum
  | alpha
  | ascii
  | blank
  | cntrl
  | digit
  | graph
  | lower
  | print
  | punct
  | space
  | upper
  | word
  | xdigit
  deriving DecidableEq, Repr

def AsciiClass.parse? : String → Option AsciiClass
  | "alnum" => some alnum
  | "alpha" => some alpha
  | "ascii" => some ascii
  | "blank" => some blank
  | "cntrl" => some cntrl
  | "digit" => some digit
  | "graph" => some graph
  | "lower" => some lower
  | "print" => some print
  | "punct" => some punct
  | "space" => some space
  | "upper" => some upper
  | "word" => some word
  | "xdigit" => some xdigit
  | _ => none

/-- A Unicode property, by one letter, by name, or by name and value. -/
inductive Query where
  | letter (c : Char)
  | named (name : String)
  | valued (name value : String)
  deriving DecidableEq, Repr

inductive BareClass where
  | short (kind : ShortClass)
  | property (query : Query)
  deriving DecidableEq, Repr

/-- How two sets of characters are combined. -/
inductive SetOperator where
  | intersection
  | difference
  | symmetricDifference
  deriving DecidableEq, Repr

/-- The inside of brackets. -/
inductive ClassSet where
  | literal (l : Literal)
  | range (span : Span) (low high : Literal)
  | ascii (span : Span) (negated : Bool) (kind : AsciiClass)
  | bare (span : Span) (negated : Bool) (kind : BareClass)
  | union (span : Span) (items : List ClassSet)
  | bracket (span : Span) (negated : Bool) (inside : ClassSet)
  | combine (span : Span) (operator : SetOperator) (left right : ClassSet)
  deriving Repr

def ClassSet.span : ClassSet → Span
  | literal l => l.span
  | range span _ _ => span
  | ascii span _ _ => span
  | bare span _ _ => span
  | union span _ => span
  | bracket span _ _ => span
  | combine span _ _ _ => span

/-- Conditions on a place in the text. -/
inductive Assertion where
  | lineStart
  | lineEnd
  | textStart
  | textEnd
  | wordBoundary
  | notWordBoundary
  | wordStart
  | wordEnd
  | wordStartHalf
  | wordEndHalf
  deriving DecidableEq, Repr

/-- Flags of a group or of the rest of a group. -/
inductive Flag where
  | caseless
  | multiLine
  | dotMatchesBreak
  | swapGreed
  | unicode
  | returns
  | freeSpacing
  deriving DecidableEq, Repr

def Flag.parse? : Char → Option Flag
  | 'i' => some caseless
  | 'm' => some multiLine
  | 's' => some dotMatchesBreak
  | 'U' => some swapGreed
  | 'u' => some unicode
  | 'R' => some returns
  | 'x' => some freeSpacing
  | _ => none

/-- What is written in a list of flags: flags, and the sign before the flags that are cleared. -/
inductive FlagItem where
  | negation
  | flag (f : Flag)
  deriving DecidableEq, Repr

def flagValue (f : Flag) (cleared : Bool) : List FlagItem → Option Bool
  | [] => none
  | .negation :: rest => flagValue f true rest
  | .flag g :: rest => if g = f then some (!cleared) else flagValue f cleared rest

/-- A regular expression as it is written. -/
inductive Node where
  | empty (span : Span)
  | flags (span : Span) (items : List FlagItem)
  | literal (l : Literal)
  | dot (span : Span)
  | assertion (span : Span) (kind : Assertion)
  | bare (span : Span) (negated : Bool) (kind : BareClass)
  | bracketed (set : ClassSet)
  | repetition (span : Span) (low : Nat) (high : Option Nat) (operand : Node)
  | group (span : Span) (flags : List FlagItem) (inside : Node)
  | concat (span : Span) (items : List Node)
  | alternation (span : Span) (branches : List Node)
  deriving Repr

def Node.span : Node → Span
  | empty span => span
  | flags span _ => span
  | literal l => l.span
  | dot span => span
  | assertion span _ => span
  | bare span _ _ => span
  | bracketed set => set.span
  | repetition span _ _ _ => span
  | group span _ _ => span
  | concat span _ => span
  | alternation span _ => span

end RowStamp.Regex
