import RowStamp.Text.Category

/-!
Text between double quotes as it is shown to people: quotes, backslashes and characters that cannot
be seen are written as backslash escapes, so that the text takes one line.
-/

set_option autoImplicit false
set_option relaxedAutoImplicit false

namespace RowStamp.Text.Escaped

def hiddenCategories : List Category :=
  [.control, .format, .surrogate, .privateUse, .unassigned, .lineSeparator, .paragraphSeparator,
    .spaceSeparator]

/-- A character that shows by itself: the plain space, and what is neither hidden nor drawn onto
the character before it. -/
def showsItself (c : Char) : Bool :=
  if c.toNat < 128 then 32 ≤ c.toNat && c.toNat < 127
  else !extendsGrapheme c && !hiddenCategories.any (·.has c)

def byNumber (c : Char) : List Char :=
  '\\' :: 'u' :: '\x7b' :: (Nat.toDigits 16 c.toNat ++ ['\x7d'])

def encodeChar (c : Char) : List Char :=
  match c with
  | '\x00' => ['\\', '0']
  | '\t' => ['\\', 't']
  | '\r' => ['\\', 'r']
  | '\n' => ['\\', 'n']
  | '\\' => ['\\', '\\']
  | '"' => ['\\', '"']
  | other => if showsItself other then [other] else byNumber other

def wrap (text : String) : String :=
  String.ofList ('"' :: text.toList.flatMap encodeChar ++ ['"'])

end RowStamp.Text.Escaped
