import RowStamp.Regex
import RowStamp.Text.Blank

/-!
The list of tables that are left alone: patterns of table names, in order.
-/

set_option autoImplicit false
set_option relaxedAutoImplicit false

namespace RowStamp

/-- A pattern of table names: its text and the expression that it compiles to. -/
structure IgnorePattern where
  source : String
  expr : Regex.Expr

namespace IgnorePattern

def anchored (source : String) : String := "^(?:" ++ source ++ ")$"

def compile (source : String) : Except Regex.Fault IgnorePattern := do
  return ⟨source, ← Regex.compile (anchored source)⟩

def matchesName (pattern : IgnorePattern) (table : String) : Bool :=
  pattern.expr.matchesWithin table

end IgnorePattern

/-- A pattern that does not compile. -/
structure IgnoreFault where
  source : String
  fault : Regex.Fault
  deriving DecidableEq, Repr

/-- Patterns of table names, in order. -/
structure IgnoreList where
  patterns : List IgnorePattern

namespace IgnoreList

def empty : IgnoreList := ⟨[]⟩

/-- The patterns of texts without their outer blanks; blank texts are skipped. -/
def ofPatterns : List String → Except IgnoreFault IgnoreList
  | [] => .ok empty
  | text :: rest => do
    let source := Text.trim text
    if source.isEmpty then ofPatterns rest
    else
      match IgnorePattern.compile source with
      | .error fault => throw ⟨source, fault⟩
      | .ok pattern => return ⟨pattern :: (← ofPatterns rest).patterns⟩

def parse (text : String) : Except IgnoreFault IgnoreList :=
  ofPatterns ((text.toList.splitOn ',').map String.ofList)

def matchesName (list : IgnoreList) (table : String) : Bool :=
  list.patterns.any (·.matchesName table)

def firstMatch? (list : IgnoreList) (table : String) : Option String :=
  (list.patterns.find? (·.matchesName table)).map IgnorePattern.source

def sources (list : IgnoreList) : List String := list.patterns.map IgnorePattern.source

theorem firstMatch?_eq_none_iff (list : IgnoreList) (table : String) :
    list.firstMatch? table = none ↔ list.matchesName table = false := by
  simp [firstMatch?, matchesName, List.find?_eq_none]

end IgnoreList

end RowStamp
