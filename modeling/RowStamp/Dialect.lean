import RowStamp.Text.Blank
import RowStamp.Text.Letter

/-!
SQL dialects: their names, the characters of their identifiers, and the features in which their
grammars differ.
-/

set_option autoImplicit false
set_option relaxedAutoImplicit false

namespace RowStamp

/-- The grammar that a statement is read with. -/
inductive Dialect where
  | generic
  | mySql
  | postgres
  | sqlite
  | msSql
  deriving DecidableEq, Repr

namespace Dialect

def lowerName (name : String) : String :=
  String.ofList ((Text.trimChars name.toList).map Char.toLower)

/-- The dialect of a name, blanks around it and ASCII case aside. -/
def parse? (name : String) : Option Dialect :=
  match lowerName name with
  | "generic" => some generic
  | "mysql" => some mySql
  | "mariadb" => some mySql
  | "postgres" => some postgres
  | "postgresql" => some postgres
  | "sqlite" => some sqlite
  | "mssql" => some msSql
  | "sqlserver" => some msSql
  | _ => none

def label : Dialect → String
  | generic => "Generic"
  | mySql => "MySql"
  | postgres => "Postgres"
  | sqlite => "Sqlite"
  | msSql => "MsSql"

/-! ### Characters of identifiers -/

def opensQuoted : Dialect → Char → Bool
  | generic, c => c = '"' || c = '\x60'
  | mySql, c => c = '\x60'
  | postgres, c => c = '"'
  | sqlite, c => c = '\x60' || c = '"' || c = '['
  | msSql, c => c = '"' || c = '['

def startsIdentifier : Dialect → Char → Bool
  | generic, c => Text.isLetter c || c = '_' || c = '#' || c = '@'
  | mySql, c => Text.isLetter c || c = '_' || c = '$' || c = '@' ||
      (0x80 ≤ c.toNat && c.toNat ≤ 0xFFFF)
  | postgres, c => Text.isLetter c || c = '_' || 0x80 ≤ c.toNat
  | sqlite, c => c.isAlpha || c = '_' || (0x7F ≤ c.toNat && c.toNat ≤ 0xFFFF)
  | msSql, c => Text.isLetter c || c = '_' || c = '#' || c = '@'

def continuesIdentifier : Dialect → Char → Bool
  | generic, c => Text.isLetter c || c.isDigit || c = '@' || c = '$' || c = '#' || c = '_'
  | mySql, c => startsIdentifier mySql c || c.isDigit
  | postgres, c => startsIdentifier postgres c || c.isDigit || c = '$'
  | sqlite, c => startsIdentifier sqlite c || c.isDigit
  | msSql, c => Text.isLetter c || c.isDigit || c = '@' || c = '$' || c = '#' || c = '_'

def extendsOperator : Dialect → Char → Bool
  | postgres, c => "+-*/<>=~!@#%^&|\x60?".toList.contains c
  | _, _ => false

/-! ### Features -/

def oneOf (dialect : Dialect) (dialects : List Dialect) : Bool := dialects.contains dialect

def backslashEscapes (dialect : Dialect) : Bool := dialect = mySql

def joinsStrings (dialect : Dialect) : Bool := dialect = mySql

def escapeStrings (dialect : Dialect) : Bool := dialect.oneOf [generic, postgres]

def unicodeStrings (dialect : Dialect) : Bool := dialect.oneOf [generic, postgres]

def bitStrings (dialect : Dialect) : Bool := dialect.oneOf [generic, mySql, postgres]

def rawStrings (dialect : Dialect) : Bool := dialect = generic

def numericWords (dialect : Dialect) : Bool := dialect = mySql

def digitSeparators (dialect : Dialect) : Bool := dialect = postgres

def nestedComments (dialect : Dialect) : Bool := dialect.oneOf [generic, postgres, msSql]

/-- `--` opens a comment only before a blank. -/
def spacedComments (dialect : Dialect) : Bool := dialect = mySql

def hashComments (dialect : Dialect) : Bool := dialect = mySql

def executableComments (dialect : Dialect) : Bool := dialect = mySql

/-- `$` belongs to the names of placeholders, and there are no dollar strings. -/
def dollarPlaceholders (dialect : Dialect) : Bool := dialect = sqlite

/-- Operators on shapes, and `?` as an operator. -/
def geometry (dialect : Dialect) : Bool := dialect = postgres

def integerDivision (dialect : Dialect) : Bool := dialect = generic

def booleanLiterals (dialect : Dialect) : Bool := dialect ≠ msSql

def emptyNameParts (dialect : Dialect) : Bool := dialect = msSql

/-- `CONVERT` takes the type before the value. -/
def convertTypeFirst (dialect : Dialect) : Bool := dialect = msSql

def outerJoinMarks (dialect : Dialect) : Bool := dialect = msSql

def intervalUnits (dialect : Dialect) : Bool := dialect = mySql

end Dialect

end RowStamp
