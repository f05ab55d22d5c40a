import RowStamp.Host.Json
import RowStamp.Json.Printer
import RowStamp.Text.Width

/-!
The report about a statement, as a JSON document or as text with a table of the bindings.
-/

set_option autoImplicit false
set_option relaxedAutoImplicit false

namespace RowStamp.Cli

/-- A table: the same number of cells in every row. -/
structure Grid where
  header : List String
  rows : List (List String)
  deriving DecidableEq, Repr

namespace Grid

def cellLines (cell : String) : List String := (cell.toList.splitOn '\n').map String.ofList

def cellWidth (cell : String) : Nat := ((cellLines cell).map Text.width).foldl max 0

def widths (rows : List (List String)) : List Nat :=
  rows.foldr (fun row found => row.zipWithAll widest found) []
where
  /-- The greater width of a cell and of what is below it. -/
  widest (cell : Option String) (found : Option Nat) : Nat :=
    max ((cell.map cellWidth).getD 0) (found.getD 0)

/-- A line of a cell in its column: a blank on both sides, and more of them after it. -/
def padded (width : Nat) (line : String) : String :=
  " " ++ line ++ String.ofList (List.replicate (width - Text.width line + 1) ' ')

/-- The lines of a row; cells with fewer lines are filled up at the bottom. -/
def rowLines (widths : List Nat) (row : List String) : List String :=
  let cells := row.map cellLines
  let height := (cells.map List.length).foldl max 0
  (List.range height).map fun i =>
    let line := (cells.zip widths).map fun cell => padded cell.2 (cell.1[i]?.getD "")
    "│" ++ " ".intercalate line ++ "│"

def rule (widths : List Nat) (left across right : Char) : String :=
  let total := (widths.map (· + 2)).foldl (· + ·) 0 + (widths.length - 1)
  String.ofList (left :: List.replicate total across ++ [right])

def lines (grid : Grid) : List String :=
  let widths := widths (grid.header :: grid.rows)
  rule widths '┌' '─' '┐' :: rowLines widths grid.header ++
    rule widths '╞' '═' '╡' :: grid.rows.flatMap (rowLines widths) ++
    [rule widths '└' '─' '┘']

end Grid

structure Report where
  given : String
  bound : BoundSql
  removed : Nat
  deriving DecidableEq, Repr

namespace Report

def changed (report : Report) : Bool := report.bound.sql ≠ report.given

def toJson (report : Report) : Json :=
  .ofMembers [
    ("originalSql", .string report.given),
    ("sql", .string report.bound.sql),
    ("changed", .bool report.changed),
    ("parameterMappings", .ofList ParameterMapping.toJson report.bound.mappings),
    ("removedBindings", .ofNat report.removed)]

def bindingRow (mapping : ParameterMapping) (index : Nat) : List String :=
  [toString (index + 1), mapping.property, mapping.jdbcType.getD ""]

def grid (report : Report) : Grid :=
  ⟨["#", "property", "jdbc type"],
    report.bound.mappings.zipIdx.map fun entry => bindingRow entry.1 entry.2⟩

/-- The report as lines of text; without bindings there is no table. -/
def lines (report : Report) : List String :=
  let count := report.bound.mappings.length
  report.bound.sql :: (if report.changed then [] else ["(unchanged)"]) ++
    (if count = 0 then [] else report.grid.lines) ++
    ["(" ++ toString count ++ " bindings, " ++ toString report.removed ++ " removed)"]

inductive Format where
  | table
  | json
  deriving DecidableEq, Repr

def text (report : Report) : Format → String
  | .table => String.join (report.lines.map (· ++ "\n"))
  | .json => report.toJson.linedText ++ "\n"

end Report

end RowStamp.Cli
