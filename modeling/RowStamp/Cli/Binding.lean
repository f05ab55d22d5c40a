import RowStamp.Binding
import RowStamp.Text.Blank

/-!
Bindings as they are written on the command line: a property, perhaps with its type behind a
colon.  Blanks around both are dropped, and an empty type is none.
-/

set_option autoImplicit false
set_option relaxedAutoImplicit false

namespace RowStamp.Cli

/-- The parts of an entry before and after its first colon. -/
def bindingParts (entry : String) : List Char × Option (List Char) :=
  let cs := entry.toList
  match cs.dropWhile (· ≠ ':') with
  | [] => (cs, none)
  | _ :: rest => (cs.takeWhile (· ≠ ':'), some rest)

def bindingType? (part : Option (List Char)) : Option String :=
  match part.map Text.trimChars with
  | some (c :: cs) => some (String.ofList (c :: cs))
  | _ => none

/-- The binding of an entry, unless its property is blank. -/
def binding? (entry : String) : Option ParameterMapping :=
  let (property, type) := bindingParts entry
  let name := Text.trimChars property
  if name.isEmpty then none else some ⟨String.ofList name, bindingType? type⟩

/-- The bindings of entries, unless some property is blank. -/
def bindings? (entries : List String) : Option (List ParameterMapping) := entries.mapM binding?

end RowStamp.Cli
