import RowStamp.Regex.Property
import RowStamp.Regex.Syntax

/-!
Regular expressions as they match.  `Matches` says what an expression matches between two places
of a text; `ends` computes the places that a match can end at, from a list of places to start
from.  The places of a text of `n` characters are 0 to `n`.
-/

set_option autoImplicit false
set_option relaxedAutoImplicit false

namespace RowStamp.Regex

abbrev Condition := Option Char → Option Char → Bool

/-- An expression: one character of a set, a condition on a place, one expression after another,
one of two, or a number of repetitions. -/
inductive Expr where
  | empty
  | set (chars : CharSet)
  | condition (holds : Condition)
  | seq (first second : Expr)
  | alt (left right : Expr)
  | atLeast (low : Nat) (operand : Expr)
  | upTo (low extra : Nat) (operand : Expr)

def before? (cs : List Char) : Nat → Option Char
  | 0 => none
  | i + 1 => cs[i]?

mutual

/-- An expression matches between two places of a text. -/
inductive Matches (cs : List Char) : Expr → Nat → Nat → Prop where
  | empty (i : Nat) : Matches cs .empty i i
  | set {chars : CharSet} {i : Nat} {c : Char} (here : cs[i]? = some c) (mem : chars c = true) :
      Matches cs (.set chars) i (i + 1)
  | condition {holds : Condition} {i : Nat} (here : holds (before? cs i) cs[i]? = true) :
      Matches cs (.condition holds) i i
  | seq {first second : Expr} {i j k : Nat} (head : Matches cs first i j)
      (tail : Matches cs second j k) : Matches cs (.seq first second) i k
  | left {left right : Expr} {i j : Nat} (side : Matches cs left i j) :
      Matches cs (.alt left right) i j
  | right {left right : Expr} {i j : Nat} (side : Matches cs right i j) :
      Matches cs (.alt left right) i j
  | atLeast {low n : Nat} {operand : Expr} {i j : Nat} (enough : low ≤ n)
      (times : Times cs operand n i j) : Matches cs (.atLeast low operand) i j
  | upTo {low extra n : Nat} {operand : Expr} {i j : Nat} (enough : low ≤ n)
      (atMost : n ≤ low + extra) (times : Times cs operand n i j) :
      Matches cs (.upTo low extra operand) i j

/-- An expression matches a number of times, one match after the other. -/
inductive Times (cs : List Char) : Expr → Nat → Nat → Nat → Prop where
  | zero {operand : Expr} (i : Nat) : Times cs operand 0 i i
  | succ {operand : Expr} {n i j k : Nat} (head : Matches cs operand i j)
      (tail : Times cs operand n j k) : Times cs operand (n + 1) i k

end

/-- Places of either list, those of the first one first. -/
def mergePlaces (places more : List Nat) : List Nat :=
  places ++ more.filter (!places.contains ·)

/-- The places after a number of steps; once a step changes nothing, no further one does. -/
def stepTimes (step : List Nat → List Nat) : Nat → List Nat → List Nat
  | 0, places => places
  | n + 1, places =>
    let after := step places
    if after = places then places else stepTimes step n after

/-- The places after up to a number of steps; `frontier` holds those that the last step added. -/
def stepUpTo (step : List Nat → List Nat) : Nat → List Nat → List Nat → List Nat
  | 0, places, _ => places
  | n + 1, places, frontier =>
    let added := (step frontier).filter (!places.contains ·)
    if added.isEmpty then places else stepUpTo step n (places ++ added) added

namespace Expr

def ends (cs : List Char) : Expr → List Nat → List Nat
  | empty, places => places
  | set chars, places => (places.filter fun i => cs[i]?.any chars).map (· + 1)
  | condition holds, places => places.filter fun i => holds (before? cs i) cs[i]?
  | seq first second, places => second.ends cs (first.ends cs places)
  | alt left right, places => mergePlaces (left.ends cs places) (right.ends cs places)
  | atLeast low operand, places =>
    let start := stepTimes (operand.ends cs) low places
    stepUpTo (operand.ends cs) (cs.length + 1) start start
  | upTo low extra operand, places =>
    let start := stepTimes (operand.ends cs) low places
    stepUpTo (operand.ends cs) extra start start

def matchesWithin (e : Expr) (text : String) : Bool :=
  !(e.ends text.toList (List.range (text.toList.length + 1))).isEmpty

end Expr

end RowStamp.Regex
