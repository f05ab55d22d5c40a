import RowStamp.Text.UpperCase

/-!
Property names.  A host derives the property of a column from the column's name: underscores are
dropped and the character after each of them is upper-cased, except before the first character
that is written.
-/

set_option autoImplicit false
set_option relaxedAutoImplicit false

namespace RowStamp.Naming

/-- Camel case of the characters, given whether something was written and whether an underscore
came just before. -/
def camelFrom (written raise : Bool) : List Char → List Char
  | [] => []
  | c :: rest =>
    if c = '_' then camelFrom written written rest
    else (if raise then Text.upperCase c else [c]) ++ camelFrom true false rest

/-- The property name of an identifier: `gmt_create` gives `gmtCreate`. -/
def camelCase (identifier : String) : String :=
  String.ofList (camelFrom false false identifier.toList)

@[simp] theorem camelFrom_nil (written raise : Bool) : camelFrom written raise [] = [] := rfl

theorem camelFrom_underscore (written raise : Bool) (rest : List Char) :
    camelFrom written raise ('_' :: rest) = camelFrom written written rest := by
  simp [camelFrom]

end RowStamp.Naming
