import RowStamp.Sql.Grammar.Context

/-!
Data types and their canonical text.
-/

set_option autoImplicit false
set_option relaxedAutoImplicit false

namespace RowStamp.Sql

/-- What a data type is to a string that follows it. -/
inductive TypeKind where
  | named
  | custom
  | interval
  | binary
  deriving DecidableEq, Repr

/-- A data type: its kind and its canonical text. -/
structure TypeName where
  kind : TypeKind
  text : String
  deriving DecidableEq, Repr

namespace Grammar

open RowStamp.Sql.Parser

/-- A number between parentheses, where there is one, as text. -/
def optionalPrecision : Parser String := do
  if ← symbol "(" then
    let n ← unsigned
    expectSymbol ")"
    return "(" ++ toString n ++ ")"
  else return ""

/-- A precision and perhaps a scale between parentheses, where there are any, as text. -/
def optionalScale : Parser String := do
  if ← symbol "(" then
    let precision ← unsigned
    if ← symbol "," then
      let sign ← if ← symbol "-" then pure "-" else do
        let _ ← symbol "+"
        pure ""
      let scale ← unsigned
      expectSymbol ")"
      return "(" ++ toString precision ++ "," ++ sign ++ toString scale ++ ")"
    else
      expectSymbol ")"
      return "(" ++ toString precision ++ ")"
  else return ""

/-- A length in characters between parentheses, where there is one, as text. -/
def optionalLength : Parser String := do
  if ← symbol "(" then
    let length ← if ← keyword "MAX" then pure "MAX" else do
      let n ← unsigned
      match ← oneOfKeywords ["CHARACTERS", "OCTETS"] with
      | some unit => pure (toString n ++ " " ++ unit)
      | none => pure (toString n)
    expectSymbol ")"
    return "(" ++ length ++ ")"
  else return ""

/-- `UNSIGNED`, where it is next, as text. -/
def optionalUnsigned : Parser String := do
  if ← keyword "UNSIGNED" then return " UNSIGNED" else return ""

def optionalZone : Parser String := do
  if ← keyword "WITH" then
    expectKeywords ["TIME", "ZONE"]
    return " WITH TIME ZONE"
  else if ← keyword "WITHOUT" then
    expectKeywords ["TIME", "ZONE"]
    return " WITHOUT TIME ZONE"
  else return ""

def stringList : Parser String := do
  let values ← parenthesized <| commaList do
    let lexeme ← next
    match lexeme with
    | some ⟨.string .plain value, _⟩ => return Literal.text (.quoted value)
    | _ => expectedAt "a string" lexeme
  return "(" ++ ", ".intercalate values ++ ")"

def typeModifiers : Nat → Parser (List String)
  | 0 => return []
  | fuel + 1 => do
    let lexeme ← next
    match lexeme.map Lexeme.token with
    | some (.word value quote) => return (Token.word value quote).text :: (← typeModifiers fuel)
    | some (.number digits _) => return digits :: (← typeModifiers fuel)
    | some (.string .plain value) => return value :: (← typeModifiers fuel)
    | some (.symbol ",") => typeModifiers fuel
    | some (.symbol ")") => return []
    | _ => expectedAt "type modifiers" lexeme

def customType (dialect : Dialect) : Parser TypeName := do
  let name ← objectName dialect
  if ← symbol "(" then
    let modifiers ← typeModifiers ((← get).length + 1)
    if modifiers.isEmpty then return ⟨.custom, nameText name⟩
    return ⟨.custom, nameText name ++ "(" ++ ", ".intercalate modifiers ++ ")"⟩
  return ⟨.custom, nameText name⟩

def intervalRanges : List (String × List String) :=
  [("YEAR", ["MONTH"]), ("MONTH", []), ("DAY", ["HOUR", "MINUTE", "SECOND"]),
    ("HOUR", ["MINUTE", "SECOND"]), ("MINUTE", ["SECOND"]), ("SECOND", [])]

/-- The fields of an interval, where there are any, as text. -/
def intervalFields : Parser String := do
  match ← oneOfKeywords (intervalRanges.map Prod.fst) with
  | none => return ""
  | some first =>
    let last := (intervalRanges.lookup first).getD []
    if !last.isEmpty && (← peekKeyword "TO") then
      skip
      return " " ++ first ++ " TO " ++ (← expectOneOf last)
    else return " " ++ first

def plainTypes : List (String × String) :=
  ["BOOLEAN", "BOOL", "UUID", "DATE", "JSON", "JSONB", "REGCLASS", "BYTEA", "TINYBLOB",
    "MEDIUMBLOB", "LONGBLOB", "TINYTEXT", "MEDIUMTEXT", "LONGTEXT", "TEXT", "TRIGGER", "TABLE",
    "FLOAT4", "FLOAT64", "FLOAT8", "INT64", "HUGEINT", "UHUGEINT", "UBIGINT", "USMALLINT",
    "UTINYINT"].map (fun key => (key, key)) ++
  [("FLOAT32", "Float32"), ("INT16", "Int16"), ("INT32", "Int32"), ("INT128", "Int128"),
    ("INT256", "Int256"), ("UINT8", "UInt8"), ("UINT16", "UInt16"), ("UINT32", "UInt32"),
    ("UINT64", "UInt64"), ("UINT128", "UInt128"), ("UINT256", "UInt256"), ("DATE32", "Date32")]

def integerTypes : List String :=
  ["TINYINT", "INT2", "SMALLINT", "MEDIUMINT", "INT", "INT4", "INT8", "INTEGER", "BIGINT"]

def precisionTypes : List String :=
  ["CLOB", "BLOB", "BYTES", "VARBIT", "STRING", "DATETIME", "TIMESTAMP_NTZ"]

def shapeTypes : List String := ["POINT", "LINE", "LSEG", "BOX", "PATH", "POLYGON", "CIRCLE"]

/-- A named type, whose first word `key` is consumed already; nothing where no type has this
name. -/
def namedType? (dialect : Dialect) (element : Parser TypeName) (key : String) :
    Option (Parser TypeName) :=
  let named (text : Parser String) : Option (Parser TypeName) :=
    some (do return ⟨.named, ← text⟩)
  match plainTypes.lookup key with
  | some text => named (pure text)
  | none =>
    if integerTypes.contains key then
      named do
        let precision ← optionalPrecision
        let unsigned ← optionalUnsigned
        if unsigned.isEmpty && dialect.oneOf [.generic, .mySql] then
          let _ ← keyword "SIGNED"
        return key ++ precision ++ unsigned
    else if precisionTypes.contains key then named (return key ++ (← optionalPrecision))
    else if shapeTypes.contains key then if dialect.geometry then named (pure key) else none
    else
      match key with
      | "REAL" => named (return key ++ (← optionalUnsigned))
      | "FLOAT" => named (return key ++ (← optionalScale) ++ (← optionalUnsigned))
      | "DECIMAL" => named (return key ++ (← optionalScale) ++ (← optionalUnsigned))
      | "DEC" => named (return key ++ (← optionalScale) ++ (← optionalUnsigned))
      | "NUMERIC" => named (return key ++ (← optionalScale))
      | "BIGNUMERIC" => named (return key ++ (← optionalScale))
      | "BIGDECIMAL" => named (return key ++ (← optionalScale))
      | "DOUBLE" =>
        named do
          if ← keyword "PRECISION" then return "DOUBLE PRECISION" ++ (← optionalUnsigned)
          return key ++ (← optionalScale) ++ (← optionalUnsigned)
      | "VARCHAR" => named (return key ++ (← optionalLength))
      | "NVARCHAR" => named (return key ++ (← optionalLength))
      | "VARBINARY" => named (return key ++ (← optionalLength))
      | "CHARACTER" => named (character key)
      | "CHAR" => named (character key)
      | "BINARY" =>
        some do
          if ← keywords ["LARGE", "OBJECT"] then
            return ⟨.named, "BINARY LARGE OBJECT" ++ (← optionalPrecision)⟩
          return ⟨.binary, key ++ (← optionalPrecision)⟩
      | "BIT" =>
        named do
          if ← keyword "VARYING" then return "BIT VARYING" ++ (← optionalPrecision)
          return key ++ (← optionalPrecision)
      | "TIMESTAMP" => named (return key ++ (← optionalPrecision) ++ (← optionalZone))
      | "TIME" => named (return key ++ (← optionalPrecision) ++ (← optionalZone))
      | "TIMESTAMPTZ" => named (return key ++ (← optionalPrecision))
      | "TIMETZ" => named (return key ++ (← optionalPrecision))
      | "INTERVAL" =>
        some do
          if dialect.oneOf [.generic, .postgres] then
            return ⟨.interval, key ++ (← intervalFields) ++ (← optionalPrecision)⟩
          else return ⟨.interval, key⟩
      | "ENUM" => named (return key ++ (← stringList))
      | "SET" => named (return key ++ (← stringList))
      | "SIGNED" => named integerSuffix
      | "UNSIGNED" => named integerSuffix
      | "TSVECTOR" =>
        if dialect.oneOf [.generic, .postgres] then named (pure key) else none
      | "TSQUERY" =>
        if dialect.oneOf [.generic, .postgres] then named (pure key) else none
      | "ARRAY" =>
        named do
          expectSymbol "<"
          let inner ← element
          expectSymbol ">"
          return "ARRAY<" ++ inner.text ++ ">"
      | _ => none
where
  /-- A character type. -/
  character (key : String) : Parser String := do
    if ← keyword "VARYING" then return key ++ " VARYING" ++ (← optionalLength)
    if ← keywords ["LARGE", "OBJECT"] then return key ++ " LARGE OBJECT" ++ (← optionalPrecision)
    return key ++ (← optionalLength)
  /-- `INTEGER` after a sign. -/
  integerSuffix : Parser String := do
    if ← keyword "INTEGER" then return key ++ " INTEGER" else return key

def arrayBrackets : Nat → TypeName → Parser TypeName
  | 0, element => return element
  | fuel + 1, element => do
    if ← symbol "[" then
      let size ← attempt unsigned
      expectSymbol "]"
      let text := match size with
        | some n => toString n
        | none => ""
      arrayBrackets fuel ⟨.named, element.text ++ "[" ++ text ++ "]"⟩
    else return element

/-- A data type; the fuel bounds how deeply types nest. -/
def dataTypeFrom (dialect : Dialect) : Nat → Parser TypeName
  | 0 => throw .depth
  | fuel + 1 => do
    let lexeme ← peekLexeme
    match lexeme with
    | some ⟨.word value quote, _⟩ =>
      let key := (Token.word value quote).key
      let base ← match namedType? dialect (dataTypeFrom dialect fuel) key with
        | some parser => do
          skip
          parser
        | none => customType dialect
      if dialect.oneOf [.generic, .postgres] then arrayBrackets ((← get).length + 1) base
      else return base
    | _ => expectedAt "a data type name" lexeme

def dataType (dialect : Dialect) : Parser TypeName := dataTypeFrom dialect 50

end Grammar

end RowStamp.Sql
