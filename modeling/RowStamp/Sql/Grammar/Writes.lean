import RowStamp.Sql.Grammar.Tables

/-!
Statements that write: INSERT, UPDATE, DELETE and MERGE.  Each parser starts after the word that
names the statement.
-/

set_option autoImplicit false
set_option relaxedAutoImplicit false

namespace RowStamp.Sql

namespace Grammar

open RowStamp.Sql.Parser

/-! ### Selected items -/

/-- What is left out of a wildcard, where it is said. -/
def wildcardExceptions (cx : Context) : Parser Fragments := do
  unless cx.dialect = .generic do return []
  let excluded ← if ← keyword "EXCLUDE" then
      if ← peekSymbol "(" then
        pure [word (" EXCLUDE (" ++ identList (← identifierList false) ++ ")")]
      else pure [word (" EXCLUDE " ++ (← identifier).text)]
    else pure []
  unless excluded.isEmpty do return excluded
  if ← keyword "EXCEPT" then
    let names ← if ← peekSymbol "(" then identifierList false else pure [← identifier]
    return [word (" EXCEPT (" ++ identList names ++ ")")]
  return []

/-- A selected expression with its alias, where it has one. -/
def labelled (cx : Context) (e : Expr) : Parser Expr := do
  match ← aliasWhere (aliasesColumn cx.dialect) with
  | some (name, _) => return phrase [e, word (" AS " ++ name.text)]
  | none => return e

def selectedExpr (cx : Context) (e : Expr) : Parser Expr := do
  match e with
  | .name [⟨value, none⟩] =>
    if value.toLower == "from" then throw (.fromAsValue value (← place)) else labelled cx e
  | .binary (.name [name]) "=" value =>
    if cx.dialect = .msSql then return phrase [value, word (" AS " ++ name.text)]
    else labelled cx e
  | _ =>
    if cx.dialect = .generic && (← peekTokens 2) == [.symbol ".", .symbol "*"] then
      skip
      skip
      return phrase ([e, word ".*"] ++ (← wildcardExceptions cx))
    else labelled cx e

def selectItem (cx : Context) : Parser Expr := do
  match ← item cx with
  | .expr e => selectedExpr cx e
  | wildcard => return phrase (wildcard.fragment :: (← wildcardExceptions cx))

def returningClause (cx : Context) : Parser (List Expr) := do
  if ← keyword "RETURNING" then commaList (selectItem cx) else return []

/-! ### Assignments -/

def target (dialect : Dialect) : Parser Target := do
  if ← symbol "(" then
    let names ← commaList (objectName dialect)
    expectSymbol ")"
    return .tuple names
  else return .column (← objectName dialect)

def assignment (cx : Context) : Parser Assignment := do
  let target ← target cx.dialect
  expectSymbol "="
  return ⟨target, ← cx.expr⟩

def assignments (cx : Context) : Parser (List Assignment) := commaList (assignment cx)

/-! ### INSERT -/

/-- What is done with a row that is in the way, where it is said before the table. -/
def conflictWords : Parser (Option String) := do
  for word in ["REPLACE", "ROLLBACK", "ABORT", "FAIL", "IGNORE"] do
    if ← keywords ["OR", word] then return some ("OR " ++ word)
  if ← keyword "REPLACE" then return some "OR REPLACE"
  return none

def subqueryAhead : Parser Bool := do
  match ← peekTokens 2 with
  | [.symbol "(", second] => return second.key == "SELECT"
  | _ => return false

def insertPartition (cx : Context) : Parser (List Expr) := do
  if ← keyword "PARTITION" then parenthesized cx.exprs else return []

def insertSource (cx : Context) : Parser InsertSource := do
  if (← peekKeyword "FORMAT") || (← peekKeyword "SETTINGS") then return .defaults
  if cx.dialect = .mySql && (← peekKeyword "SET") then
    skip
    return .assignments (← assignments cx)
  return .query (← cx.inner.query)

def insertBody (cx : Context) : Parser (List Ident × List Expr × InsertSource) := do
  if ← keywords ["DEFAULT", "VALUES"] then return ([], [], .defaults)
  if ← subqueryAhead then return ([], [], ← insertSource cx)
  let columns ← optionalIdentifierList (cx.dialect = .mySql)
  let partition ← insertPartition cx
  return (columns, partition, ← insertSource cx)

def rowAlias (cx : Context) : Parser (Option RowAlias) := do
  if cx.dialect.oneOf [.generic, .mySql] && (← peekKeyword "AS") then
    skip
    let name ← objectName cx.dialect
    return some ⟨name, ← optionalIdentifierList false⟩
  else return none

def conflictAction (cx : Context) : Parser Fragments := do
  let target ← if ← keywords ["ON", "CONSTRAINT"] then
      pure (" ON CONSTRAINT " ++ nameText (← objectName cx.dialect))
    else if ← peekSymbol "(" then pure ("(" ++ identList (← identifierList false) ++ ")")
    else pure ""
  expectKeyword "DO"
  let lead := " ON CONFLICT" ++ target ++ " "
  if ← keyword "NOTHING" then return [word (lead ++ "DO NOTHING")]
  expectKeywords ["UPDATE", "SET"]
  let list := word (lead ++ "DO UPDATE SET ") :: assignmentList (← assignments cx)
  if ← keyword "WHERE" then return list ++ [word " WHERE ", ← cx.expr] else return list

/-- What is done with rows that are there already, where it is said after the source. -/
def insertConflict (cx : Context) : Parser Fragments := do
  if ← keyword "ON" then
    if ← keyword "CONFLICT" then conflictAction cx
    else
      expectKeywords ["DUPLICATE", "KEY", "UPDATE"]
      return word " ON DUPLICATE KEY UPDATE " :: assignmentList (← assignments cx)
  else return []

/-- An INSERT into a table, after the words before the table; the rest is given. -/
def insertInto (cx : Context) (start : Insert) : Parser Insert := do
  let tableWord ← keyword "TABLE"
  let table ← objectName cx.dialect
  let tableAlias ← if cx.dialect = .postgres && (← peekKeyword "AS") then
      skip
      pure (some (← identifier))
    else pure none
  let (columns, partition, source) ← insertBody cx
  let rowAlias ← rowAlias cx
  let onConflict ← insertConflict cx
  let returning ← returningClause cx
  return { start with
    tableWord := tableWord, table := table, tableAlias := tableAlias, columns := columns,
    partition := partition, source := source, rowAlias := rowAlias, onConflict := onConflict,
    returning := returning }

/-- Rows written to a directory, from after DIRECTORY. -/
def insertDirectory (cx : Context) (overwrites isLocal : Bool) : Parser Statement := do
  let path ← stringText
  let format ← if ← keywords ["STORED", "AS"] then pure (" STORED AS " ++ (← fileFormat))
    else pure ""
  let query ← cx.inner.query
  let head := "INSERT" ++ (if overwrites then " OVERWRITE" else "") ++
    (if isLocal then " LOCAL" else "") ++ " DIRECTORY " ++ Literal.text (.quoted path) ++ format
  return .other (word (head ++ " ") :: query.fragments)
where
  /-- A string. -/
  stringText : Parser String := do
    let lexeme ← next
    match lexeme.map Lexeme.token with
    | some (.word value none) => return value
    | some (.string .plain value) => return value
    | some (.string .doubleQuoted value) => return value
    | some (.string .escape value) =>
      if cx.dialect.escapeStrings then return value else expectedAt "literal string" lexeme
    | _ => expectedAt "literal string" lexeme
  /-- The name of a file format. -/
  fileFormat : Parser String := do
    match ← oneOfKeywords ["AVRO", "JSONFILE", "ORC", "PARQUET", "RCFILE", "SEQUENCEFILE",
      "TEXTFILE"] with
    | some name => return name
    | none => expected "fileformat"

def insert (cx : Context) (replaces : Bool) : Parser Statement := do
  let conflict ← conflictWords
  let hints := cx.dialect.oneOf [.generic, .mySql]
  let priority ← if hints then oneOfKeywords ["LOW_PRIORITY", "DELAYED", "HIGH_PRIORITY"]
    else pure none
  let ignores ← if hints then keyword "IGNORE" else pure false
  let overwrites ← keyword "OVERWRITE"
  let intoWord ← keyword "INTO"
  let isLocal ← keyword "LOCAL"
  if ← keyword "DIRECTORY" then insertDirectory cx overwrites isLocal
  else
    let start : Insert :=
      { conflict := conflict, replaces := replaces, priority := priority, ignores := ignores,
        overwrites := overwrites, intoWord := intoWord, tableWord := false, table := [],
        tableAlias := none, columns := [], partition := [], source := .defaults,
        rowAlias := none, onConflict := [], returning := [] }
    return .insert (← insertInto cx start)

def replace (cx : Context) : Parser Statement := do
  if cx.dialect.oneOf [.generic, .mySql] then insert cx true
  else throw (.unsupportedReplace (← place))

/-! ### UPDATE, DELETE and MERGE -/

/-- The condition after WHERE, where there is one. -/
def whereClause (cx : Context) : Parser (Option Expr) := do
  if ← keyword "WHERE" then return some (← cx.expr) else return none

def update (cx : Context) : Parser Statement := do
  let conflict ← conflictWords
  let table ← joinedTables cx
  let fromBefore ← if ← keyword "FROM" then tableList cx else pure []
  expectKeyword "SET"
  let assignments ← assignments cx
  let fromAfter ← if fromBefore.isEmpty && (← peekKeyword "FROM") then
      skip
      tableList cx
    else pure []
  let selection ← whereClause cx
  let returning ← returningClause cx
  let limit ← if ← keyword "LIMIT" then pure (some (← cx.expr)) else pure none
  return .update
    { conflict := conflict, table := table, fromBefore := fromBefore, assignments := assignments,
      fromAfter := fromAfter, selection := selection, returning := returning, limit := limit }

def whereFragments : Option Expr → Fragments
  | some e => [word " WHERE ", e]
  | none => []

def delete (cx : Context) : Parser Statement := do
  let fromWord ← keyword "FROM"
  let lead ← if fromWord then pure "FROM "
    else if cx.dialect = .generic then pure ""
    else do
      let names ← commaList (objectName cx.dialect)
      expectKeyword "FROM"
      pure (", ".intercalate (names.map nameText) ++ " FROM ")
  let tables ← tableList cx
  let other ← if ← keyword "USING" then
      pure (word " USING " :: JoinedTables.listFragments (← tableList cx))
    else pure []
  let selection ← whereClause cx
  let returning ← returningClause cx
  let order ← if ← keywords ["ORDER", "BY"] then pure (word " ORDER BY " :: (← orderKeys cx))
    else pure []
  let limit ← if ← keyword "LIMIT" then pure [word " LIMIT ", ← cx.expr] else pure []
  return .delete (word ("DELETE " ++ lead) :: JoinedTables.listFragments tables ++ other ++
    whereFragments selection ++ clause " RETURNING " (Expr.commaSeparated returning) ++ order ++
    limit)

def mergeInsert (cx : Context) : Parser Fragments := do
  let columns ← if ← peekSymbol "(" then
      pure (" (" ++ identList (← identifierList false) ++ ")")
    else pure ""
  if cx.dialect = .generic && (← peekKeyword "ROW") then
    skip
    return [word ("INSERT" ++ columns ++ " ROW")]
  expectKeyword "VALUES"
  let values ← valuesRows cx false "VALUES"
  return word ("INSERT" ++ columns ++ " ") :: values.fragments

/-- One clause of a MERGE, from after WHEN. -/
def mergeClause (cx : Context) : Parser Fragments := do
  let matched ← if ← keyword "MATCHED" then pure "MATCHED"
    else do
      expectKeywords ["NOT", "MATCHED"]
      if ← keywords ["BY", "SOURCE"] then pure "NOT MATCHED BY SOURCE"
      else if ← keywords ["BY", "TARGET"] then pure "NOT MATCHED BY TARGET"
      else pure "NOT MATCHED"
  let condition ← if ← keyword "AND" then pure [word " AND ", ← cx.expr] else pure []
  expectKeyword "THEN"
  let action ← match ← expectOneOf ["UPDATE", "INSERT", "DELETE"] with
    | "UPDATE" =>
      expectKeyword "SET"
      pure (word "UPDATE SET " :: assignmentList (← assignments cx))
    | "INSERT" => mergeInsert cx
    | other => pure [word other]
  return word (" WHEN " ++ matched) :: condition ++ word " THEN " :: action

def mergeClauses (cx : Context) : Nat → Parser Fragments
  | 0 => return []
  | fuel + 1 => do
    if ← keyword "WHEN" then
      let first ← mergeClause cx
      return first ++ (← mergeClauses cx fuel)
    else return []

def merge (cx : Context) : Parser Statement := do
  let into ← keyword "INTO"
  let table ← cx.inner.tableRef
  expectKeyword "USING"
  let source ← cx.inner.tableRef
  expectKeyword "ON"
  let condition ← cx.expr
  let clauses ← mergeClauses cx ((← get).length + 1)
  return .other (word (if into then "MERGE INTO " else "MERGE ") :: table.fragments ++
    word " USING " :: source.fragments ++ word " ON " :: condition :: clauses)

end Grammar

end RowStamp.Sql
