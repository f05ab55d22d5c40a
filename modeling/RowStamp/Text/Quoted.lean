/-!
Quoted text.  A quote inside is written twice, unless the text already holds two in a row or has
a backslash before it: such quotes are written as they stand.
-/

set_option autoImplicit false
set_option relaxedAutoImplicit false

namespace RowStamp.Text.Quoted

/-- The written inside of a quoted text; `escaped` holds after a backslash and the quotes that
follow it. -/
def encode (quote : Char) : Bool → List Char → List Char
  | _, [] => []
  | escaped, [c] => if c = quote && !escaped then [c, c] else [c]
  | escaped, c :: d :: cs =>
    if c = quote then
      if escaped then c :: encode quote true (d :: cs)
      else if d = quote then c :: d :: encode quote false cs
      else c :: c :: encode quote false (d :: cs)
    else c :: encode quote (c = '\\') (d :: cs)

def wrap (quote : Char) (text : String) : String :=
  String.ofList (quote :: encode quote false text.toList ++ [quote])

def escapeChar (c : Char) : List Char :=
  match c with
  | '\'' => ['\\', '\'']
  | '\\' => ['\\', '\\']
  | '\n' => ['\\', 'n']
  | '\t' => ['\\', 't']
  | '\r' => ['\\', 'r']
  | other => [other]

/-- `n` as at least `width` upper-case hexadecimal digits. -/
def hexDigits (width n : Nat) : List Char :=
  let digits := (Nat.toDigits 16 n).map Char.toUpper
  List.replicate (width - digits.length) '0' ++ digits

def unicodeChar (c : Char) : List Char :=
  if c = '\'' then ['\'', '\'']
  else if c = '\\' then ['\\', '\\']
  else if c.toNat < 128 then [c]
  else if c.toNat ≤ 0xFFFF then '\\' :: hexDigits 4 c.toNat
  else '\\' :: '+' :: hexDigits 6 c.toNat

@[simp] theorem encode_nil (quote : Char) (escaped : Bool) : encode quote escaped [] = [] := by
  simp [encode]

theorem encode_of_notMem (quote : Char) (escaped : Bool) {cs : List Char} (h : quote ∉ cs) :
    encode quote escaped cs = cs := by
  fun_induction encode quote escaped cs <;> simp_all

end RowStamp.Text.Quoted
