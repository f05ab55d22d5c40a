/-!
Decimal numbers: a sign, a coefficient and a power of ten; and their written form.
-/

set_option autoImplicit false
set_option relaxedAutoImplicit false

namespace RowStamp

/-- The coefficient times the power of ten, with a sign that zero has too. -/
structure Decimal where
  negative : Bool
  coefficient : Nat
  exponent : Int
  deriving DecidableEq, Repr

namespace Decimal

def digits (d : Decimal) : List Char := Nat.toDigits 10 d.coefficient

def sign (d : Decimal) : List Char := if d.negative then ['-'] else []

def zeros (n : Nat) : List Char := List.replicate n '0'

def scientific (digits : List Char) (power : Int) : List Char :=
  let fraction := digits.drop 1
  digits.take 1 ++ (if fraction.isEmpty then [] else '.' :: fraction) ++ 'e' ::
    (toString power).toList

/-- The digits with the point after so many of them: positional from five zeros behind the point
up to sixteen digits before it, else scientific. -/
def pointed (digits : List Char) (exponent : Int) : List Char :=
  let point := digits.length + exponent
  if 0 ≤ exponent ∧ point ≤ 16 then digits ++ zeros exponent.toNat ++ ".0".toList
  else if 0 < point ∧ point ≤ 16 then
    digits.take point.toNat ++ '.' :: digits.drop point.toNat
  else if -5 < point ∧ point ≤ 0 then "0.".toList ++ zeros (-point).toNat ++ digits
  else scientific digits (point - 1)

def text (d : Decimal) : String :=
  String.ofList (d.sign ++
    (if d.coefficient = 0 then "0.0".toList else pointed d.digits d.exponent))

end Decimal

end RowStamp
