import RowStamp.Decimal

/-!
The binary value with 53 bits that is nearest to a decimal number, and the shortest decimal number
that is read back as that value.
-/

set_option autoImplicit false
set_option relaxedAutoImplicit false

namespace RowStamp

/-- A fraction of natural numbers; the denominator is not zero. -/
structure Fraction where
  num : Nat
  den : Nat
  deriving DecidableEq, Repr

namespace Fraction

def scale (base : Nat) (power : Int) (x : Fraction) : Fraction :=
  if 0 ≤ power then ⟨x.num * base.pow power.toNat, x.den⟩
  else ⟨x.num, x.den * base.pow (-power).toNat⟩

/-- The nearest whole number; a half goes to the even neighbour. -/
def round (x : Fraction) : Nat :=
  let whole := x.num / x.den
  let twice := 2 * (x.num % x.den)
  if twice < x.den ∨ twice = x.den ∧ whole % 2 = 0 then whole else whole + 1

def le (x y : Fraction) : Bool := x.num * y.den ≤ y.num * x.den

def lt (x y : Fraction) : Bool := x.num * y.den < y.num * x.den

end Fraction

/-- A positive value in 53 bits: a mantissa times a power of two. -/
structure Binary where
  mantissa : Nat
  power : Int
  deriving DecidableEq, Repr

namespace Binary

def leastPower : Int := -1074

def greatestPower : Int := 971

/-- The power of two that leaves 53 bits before the point, or the least power. -/
def powerOf (x : Fraction) : Int :=
  let guess : Int := (x.num.log2 : Int) - x.den.log2 - 52
  let power := if (x.scale 2 (-guess)).lt ⟨Nat.pow 2 52, 1⟩ then guess - 1 else guess
  max leastPower power

/-- The nearest value, unless it is too large. -/
def nearest? (x : Fraction) : Option Binary :=
  let power := powerOf x
  let mantissa := (x.scale 2 (-power)).round
  let (mantissa, power) :=
    if mantissa = Nat.pow 2 53 then (Nat.pow 2 52, power + 1) else (mantissa, power)
  if greatestPower < power then none else some ⟨mantissa, power⟩

def quarters (b : Binary) (n : Nat) : Fraction := Fraction.scale 2 (b.power - 2) ⟨n, 1⟩

def value (b : Binary) : Fraction := b.quarters (4 * b.mantissa)

def attracts (b : Binary) (x : Fraction) : Bool :=
  let gap := if b.mantissa = Nat.pow 2 52 ∧ leastPower < b.power then 1 else 2
  let low := b.quarters (4 * b.mantissa - gap)
  let high := b.quarters (4 * b.mantissa + 2)
  if b.mantissa % 2 = 0 then low.le x && x.le high else low.lt x && x.lt high

/-- The number of digits of a positive value before the point, negative where zeros follow the
point. -/
def wholeDigits (x : Fraction) : Int :=
  let guess : Int := (Nat.toDigits 10 x.num).length - (Nat.toDigits 10 x.den).length
  if (x.scale 10 (-guess)).lt ⟨1, 1⟩ then guess else guess + 1

/-- The coefficient for an exponent that is read back as the value, the nearer one of two. -/
def onGrid? (b : Binary) (exponent : Int) : Option Nat :=
  let x := b.value.scale 10 (-exponent)
  let below := x.num / x.den
  let fits (n : Nat) : Bool := b.attracts (Fraction.scale 10 exponent ⟨n, 1⟩)
  match fits below, fits (below + 1) with
  | true, true => some x.round
  | true, false => some below
  | false, true => some (below + 1)
  | false, false => none

def shortest (b : Binary) : Nat × Int :=
  let whole := wholeDigits b.value
  let grid (count : Nat) : Option (Nat × Int) :=
    let exponent := whole - count
    (b.onGrid? exponent).map (·, exponent)
  ((List.range' 1 17).findSome? grid).getD (b.value.round, 0)

end Binary

namespace Decimal

/-- A coefficient without its last zeros, which the exponent counts instead; `fuel` bounds their
number. -/
def dropZeros : Nat → Nat × Int → Nat × Int
  | 0, pair => pair
  | fuel + 1, (n, e) => if n % 10 = 0 ∧ n ≠ 0 then dropZeros fuel (n / 10, e + 1) else (n, e)

/-- The shortest decimal number that has the same nearest binary value, unless that is too
large. -/
def shortest? (d : Decimal) : Option Decimal :=
  if d.coefficient = 0 then some { d with exponent := 0 }
  else
    (Binary.nearest? (Fraction.scale 10 d.exponent ⟨d.coefficient, 1⟩)).map fun b =>
      if b.mantissa = 0 then ⟨d.negative, 0, 0⟩
      else
        let (n, e) := dropZeros 400 b.shortest
        ⟨d.negative, n, e⟩

end Decimal

end RowStamp
