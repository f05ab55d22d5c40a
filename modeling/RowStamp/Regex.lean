import RowStamp.Regex.Meaning
import RowStamp.Regex.Size

/-!
Regular expressions that match whole names.
-/

set_option autoImplicit false
set_option relaxedAutoImplicit false

namespace RowStamp

open Regex (Expr Fault Flags Node)

namespace Regex

def compile (text : String) : Except Fault Expr :=
  let read : Except SyntaxFault (Node × Expr) := do
    let node ← Node.read text
    let (e, _) ← node.meaning Flags.start
    return (node, e)
  match read with
  | .error fault => .error (.syntactic text fault)
  | .ok (node, e) => if sizeLimit < node.size then .error (.tooLarge sizeLimit) else .ok e

end Regex

end RowStamp
