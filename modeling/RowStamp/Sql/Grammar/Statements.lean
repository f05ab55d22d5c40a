import RowStamp.Sql.Grammar.Queries
import RowStamp.Sql.Grammar.Sessions

/-!
Statements by their first word, and the grammar as a whole.
-/

set_option autoImplicit false
set_option relaxedAutoImplicit false

namespace RowStamp.Sql

namespace Grammar

open RowStamp.Sql.Parser

/-! ### Definitions of tables -/

/-- One property of a column; nothing where none is next. -/
def columnProperty (cx : Context) : Parser (Option Fragments) := do
  if ← keywords ["NOT", "NULL"] then return some [word " NOT NULL"]
  if ← keyword "NULL" then return some [word " NULL"]
  if ← keyword "DEFAULT" then
    return some [word " DEFAULT ", ← ({ cx with inColumn := true } : Context).expr]
  if ← keywords ["PRIMARY", "KEY"] then return some [word " PRIMARY KEY"]
  if ← keyword "UNIQUE" then return some [word " UNIQUE"]
  if ← keyword "CHECK" then
    return some (between " CHECK (" [← parenthesized cx.expr] ")")
  if cx.dialect.oneOf [.generic, .mySql] && (← peekKeyword "AUTO_INCREMENT") then
    skip
    return some [word " AUTO_INCREMENT"]
  if cx.dialect.oneOf [.generic, .sqlite] && (← peekKeyword "AUTOINCREMENT") then
    skip
    return some [word " AUTOINCREMENT"]
  return none

def columnProperties (cx : Context) : Nat → Parser Fragments
  | 0 => return []
  | fuel + 1 => do
    match ← columnProperty cx with
    | some parts => return parts ++ (← columnProperties cx fuel)
    | none => return []

def columnDefinition (cx : Context) : Parser Expr := do
  let name ← identifier
  let type ← dataType cx.dialect
  let properties ← columnProperties cx ((← get).length + 1)
  return phrase (word (name.text ++ " " ++ type.text) :: properties)

def tableElement (cx : Context) : Parser Expr := do
  if ← keywords ["PRIMARY", "KEY"] then
    return word ("PRIMARY KEY (" ++ identList (← identifierList false) ++ ")")
  else columnDefinition cx

def createTable (cx : Context) (lead : String) : Parser Statement := do
  let absent := if ← keywords ["IF", "NOT", "EXISTS"] then "IF NOT EXISTS " else ""
  let name ← objectName cx.dialect
  let elements ← if ← symbol "(" then
      let elements ← commaListUntil ")" (tableElement cx)
      expectSymbol ")"
      pure (between " (" (Expr.commaSeparated elements) ")")
    else pure []
  let source ← if ← keyword "AS" then pure (word " AS " :: (← cx.inner.query).fragments)
    else pure []
  return .other (word (lead ++ "TABLE " ++ absent ++ nameText name) :: elements ++ source)

def create (cx : Context) : Parser Statement := do
  let replaces := if ← keywords ["OR", "REPLACE"] then "OR REPLACE " else ""
  let temporary := if (← oneOfKeywords ["TEMP", "TEMPORARY"]).isSome then "TEMPORARY " else ""
  let lead := "CREATE " ++ replaces ++ temporary
  if ← keyword "TABLE" then createTable cx lead
  else if ← keyword "VIEW" then
    let name ← objectName cx.dialect
    let columns ← if ← peekSymbol "(" then
        pure (" (" ++ identList (← identifierList false) ++ ")")
      else pure ""
    expectKeyword "AS"
    let query ← cx.inner.query
    return .other (word (lead ++ "VIEW " ++ nameText name ++ columns ++ " AS ") :: query.fragments)
  else
    let unique := if ← keyword "UNIQUE" then "UNIQUE " else ""
    if ← keyword "INDEX" then
      let name ← objectName cx.dialect
      expectKeyword "ON"
      let table ← objectName cx.dialect
      let keys ← parenthesized (orderKeys cx)
      let words := "CREATE " ++ unique ++ "INDEX " ++ nameText name ++ " ON " ++ nameText table
      return .other (between (words ++ "(") keys ")")
    else expected "an object type after CREATE"

def alter (cx : Context) : Parser Statement := do
  expectKeyword "TABLE"
  let name ← objectName cx.dialect
  let lead := "ALTER TABLE " ++ nameText name ++ " "
  if ← keyword "ADD" then
    let column := if ← keyword "COLUMN" then "COLUMN " else ""
    return .other [word (lead ++ "ADD " ++ column), ← columnDefinition cx]
  else if ← keyword "DROP" then
    let column := if ← keyword "COLUMN" then "COLUMN " else ""
    return .other [word (lead ++ "DROP " ++ column ++ (← identifier).text)]
  else
    expectKeywords ["RENAME", "TO"]
    return .other [word (lead ++ "RENAME TO " ++ nameText (← objectName cx.dialect))]

def nameList (dialect : Dialect) : Parser String := do
  return ", ".intercalate ((← commaList (objectName dialect)).map nameText)

def dropBehaviour : Parser String := do
  match ← oneOfKeywords ["CASCADE", "RESTRICT"] with
  | some name => return " " ++ name
  | none => return ""

def drop (cx : Context) : Parser Statement := do
  match ← oneOfKeywords ["TABLE", "VIEW", "INDEX", "SCHEMA", "DATABASE", "SEQUENCE"] with
  | none => expected "an object type after DROP"
  | some kind =>
    let present := if ← keywords ["IF", "EXISTS"] then "IF EXISTS " else ""
    let names ← nameList cx.dialect
    return .other [word ("DROP " ++ kind ++ " " ++ present ++ names ++ (← dropBehaviour))]

def truncate (cx : Context) : Parser Statement := do
  let table := if ← keyword "TABLE" then "TABLE " else ""
  let names ← nameList cx.dialect
  let behaviour ← if cx.dialect.oneOf [.generic, .postgres] then dropBehaviour else pure ""
  return .other [word ("TRUNCATE " ++ table ++ names ++ behaviour)]

/-! ### Statements -/

def explain (cx : Context) (name : String) : Parser Statement := do
  let plan := if ← keywords ["QUERY", "PLAN"] then "QUERY PLAN " else ""
  let analyze := if ← keyword "ANALYZE" then "ANALYZE " else ""
  let verbose := if ← keyword "VERBOSE" then "VERBOSE " else ""
  let inner := match ← peekLexeme with
    | some lexeme => ["EXPLAIN", "DESC", "DESCRIBE"].contains lexeme.token.key
    | none => false
  let lead := name ++ " " ++ plan ++ analyze ++ verbose
  match ← attempt cx.inner.statement with
  | some statement =>
    if inner then throw .nestedExplain
    else return .other (word lead :: statement.fragments)
  | none =>
    let table := if ← keyword "TABLE" then "TABLE " else ""
    return .other [word (lead ++ table ++ nameText (← objectName cx.dialect))]

/-- The statement that a word starts, from after the word; nothing where it starts none. -/
def wordStatement? (cx : Context) (key : String) : Option (Parser Statement) :=
  let named (text : String) : Parser Statement := return .other [word text]
  match key with
  | "INSERT" => some (insert cx false)
  | "REPLACE" => some (if cx.dialect = .sqlite then insertReplacing else replace cx)
  | "UPDATE" => some (update cx)
  | "DELETE" => some (delete cx)
  | "MERGE" => some (merge cx)
  | "CREATE" => some (create cx)
  | "ALTER" => some (alter cx)
  | "DROP" => some (drop cx)
  | "TRUNCATE" => some (truncate cx)
  | "COMMIT" => some (do return .other [word ("COMMIT" ++ (← chainClause))])
  | "ROLLBACK" => some rollback
  | "BEGIN" => some begin
  | "START" => some (do
      expectKeyword "TRANSACTION"
      named "START TRANSACTION")
  | "END" => some (do return .other [word ("END" ++ (← chainClause))])
  | "SAVEPOINT" => some (do return .other [word ("SAVEPOINT " ++ (← identifier).text)])
  | "RELEASE" => some (do
      let _ ← keyword "SAVEPOINT"
      named ("RELEASE SAVEPOINT " ++ (← identifier).text))
  | "SHOW" => some (display cx)
  | "GRANT" => some (grant cx "GRANT" "TO")
  | "REVOKE" => some (grant cx "REVOKE" "FROM")
  | "EXPLAIN" => some (explain cx "EXPLAIN")
  | "DESC" => some (explain cx "DESC")
  | "DESCRIBE" => some (explain cx "DESCRIBE")
  | "SET" => some (setVariable cx)
  | "CALL" => some (do
      let name ← objectName cx.dialect
      if ← peekSymbol "(" then return .other [word "CALL ", ← Grammar.call cx (nameText name)]
      else named ("CALL " ++ nameText name))
  | "USE" => some (do named ("USE " ++ nameText (← objectName cx.dialect)))
  | _ => none
where
  /-- An INSERT that replaces rows in the way. -/
  insertReplacing : Parser Statement := do
    match ← insert cx false with
    | .insert stmt => return .insert { stmt with conflict := some "OR REPLACE" }
    | other => return other

def anyStatement (cx : Context) : Parser Statement := do
  match ← peekLexeme with
  | some lexeme =>
    let key := lexeme.token.key
    if lexeme.token == .symbol "(" || ["SELECT", "WITH", "VALUES", "FROM"].contains key then
      return .query (← cx.inner.query)
    else
      match wordStatement? cx key with
      | some parser =>
        skip
        parser
      | none => expectedAt "an SQL statement" (some lexeme)
  | none => expectedAt "an SQL statement" none

def level (dialect : Dialect) (inner : Grammar) : Grammar where
  subexpr inColumn rank := expression ⟨dialect, inner, inColumn⟩ rank
  simple inColumn := operand ⟨dialect, inner, inColumn⟩
  query := wholeQuery ⟨dialect, inner, false⟩
  tableRef := relation ⟨dialect, inner, false⟩
  statement := anyStatement ⟨dialect, inner, false⟩

def atDepth (dialect : Dialect) : Nat → Grammar
  | 0 => exhausted
  | depth + 1 => level dialect (atDepth dialect depth)

/-- How deeply expressions, queries, relations and statements may nest. -/
def depthLimit : Nat := 50

/-- The statements of a text, one after the other, with semicolons between them. -/
def statements (dialect : Dialect) : Nat → Bool → Parser (List Statement)
  | 0, _ => return []
  | fuel + 1, delimited => do
    if ← symbol ";" then statements dialect fuel true
    else
      match ← peekLexeme with
      | none => return []
      | some lexeme =>
        if delimited then
          let first ← (atDepth dialect depthLimit).statement
          return first :: (← statements dialect fuel false)
        else if lexeme.token.key == "END" then return []
        else expectedAt "end of statement" (some lexeme)

end Grammar

def statementsOf (dialect : Dialect) (text : String) : Except SyntaxFault (List Statement) := do
  match lexemes dialect text with
  | .error error => throw (.lexical error)
  | .ok tokens => (Grammar.statements dialect (2 * tokens.length + 1) true).run' tokens

def Statement.parse (dialect : Dialect) (text : String) : Except ParseFault Statement :=
  match statementsOf dialect text with
  | .error fault => .error (.syntactic fault)
  | .ok [statement] => .ok statement
  | .ok list => .error (.statementCount list.length)

end RowStamp.Sql
