import RowStamp.Regex.Syntax

/-!
The size of the automaton of a pattern, in bytes.  Counted repetitions copy their operand, so a
short pattern can be too large to use.

The size is an estimate, not the count of an engine.  An engine counts the states that it makes for
the ranges of a class, of which several may end in common states.  Here a class of many ranges has
a fixed size (49000 for words, 40000 for a category of letters, 8000 for another property, 4500 for
digits), and a group has that of two states more than what it holds.  A pattern whose size is near
`sizeLimit` may therefore be accepted here and be too large for an engine, or the other way round.
What is proved uses of the numbers only that anchors and a group around a pattern add four states.
-/

set_option autoImplicit false
set_option relaxedAutoImplicit false

namespace RowStamp.Regex

def stateSize : Nat := 32

def anySize : Nat := 800

def charSize (c : Char) : Nat := stateSize * c.utf8Size

namespace BareClass

def size : BareClass → Nat
  | short .word => 49000
  | short .digit => 4500
  | short .space => 700
  | property (.letter _) => 40000
  | property _ => 8000

end BareClass

namespace ClassSet

mutual

def size : ClassSet → Nat
  | literal l => if l.c.toNat < 128 then 8 else charSize l.c
  | range _ low high =>
    if high.c.toNat < 128 then 8 else charSize low.c + charSize high.c
  | ascii _ _ _ => 32
  | bare _ _ kind => kind.size
  | union _ items => totalSize items
  | bracket _ negated inside => inside.size + if negated then anySize else 0
  | combine _ _ left right => left.size + right.size

def totalSize : List ClassSet → Nat
  | [] => 0
  | set :: rest => set.size + totalSize rest

end

end ClassSet

namespace Node

mutual

def onlyEmpty : Node → Bool
  | empty _ => true
  | flags _ _ => true
  | assertion _ _ => true
  | repetition _ _ high operand => high == some 0 || operand.onlyEmpty
  | group _ _ inside => inside.onlyEmpty
  | concat _ items => allOnlyEmpty items
  | alternation _ branches => allOnlyEmpty branches
  | _ => false

def allOnlyEmpty : List Node → Bool
  | [] => true
  | node :: rest => node.onlyEmpty && allOnlyEmpty rest

end

def repeatedSize (single : Bool) (operand low : Nat) (high : Option Nat) : Nat :=
  let cap (n : Nat) : Nat := if single then min n 1 else n
  match high with
  | none => max 1 (cap low) * operand + stateSize
  | some high => cap high * operand + (cap high - cap low) * stateSize

mutual

def size : Node → Nat
  | literal l => charSize l.c
  | dot _ => anySize
  | bare _ _ kind => kind.size
  | bracketed set => stateSize + set.size
  | repetition _ low high operand => repeatedSize operand.onlyEmpty operand.size low high
  | group _ _ inside => inside.size + 2 * stateSize
  | concat _ items => totalSize items
  | alternation _ branches => stateSize + totalSize branches
  | _ => stateSize

def totalSize : List Node → Nat
  | [] => 0
  | node :: rest => node.size + totalSize rest

end

end Node

def sizeLimit : Nat := 10485760

end RowStamp.Regex
