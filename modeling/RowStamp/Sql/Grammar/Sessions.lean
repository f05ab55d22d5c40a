import RowStamp.Sql.Grammar.Values

/-!
Transactions, the variables of a session, what a session shows, and rights.
-/

set_option autoImplicit false
set_option relaxedAutoImplicit false

namespace RowStamp.Sql

namespace Grammar

open RowStamp.Sql.Parser

/-! ### Transactions -/

/-- Whether a transaction follows at once, as text. -/
def chainClause : Parser String := do
  let _ ← oneOfKeywords ["TRANSACTION", "WORK"]
  if ← keyword "AND" then
    let chains := !(← keyword "NO")
    expectKeyword "CHAIN"
    return if chains then " AND CHAIN" else ""
  else return ""

def rollback : Parser Statement := do
  let chain ← chainClause
  if ← keyword "TO" then
    let _ ← keyword "SAVEPOINT"
    return .other [word ("ROLLBACK" ++ chain ++ " TO SAVEPOINT " ++ (← identifier).text)]
  else return .other [word ("ROLLBACK" ++ chain)]

def begin : Parser Statement := do
  match ← oneOfKeywords ["TRANSACTION", "WORK"] with
  | some name => return .other [word ("BEGIN " ++ name)]
  | none => return .other [word "BEGIN"]

/-! ### Variables -/

def setVariable (cx : Context) : Parser Statement := do
  let name ← objectName cx.dialect
  unless ← symbol "=" do
    unless ← keyword "TO" do expected "equals sign or TO"
  let values ← cx.exprs
  return .other (word ("SET " ++ nameText name ++ " = ") :: Expr.commaSeparated values)

/-! ### What is shown -/

/-- The rows that SHOW keeps, where they are restricted. -/
def shownRows (cx : Context) : Parser Fragments := do
  if ← keyword "LIKE" then return [word " LIKE ", ← value cx.dialect]
  if ← keyword "WHERE" then return [word " WHERE ", ← cx.expr]
  return []

/-- Where the shown objects lie, where it is said. -/
def shownFrom (cx : Context) : Parser Fragments := do
  match ← oneOfKeywords ["FROM", "IN"] with
  | none => return []
  | some place =>
    let kind := match ← oneOfKeywords ["DATABASE", "SCHEMA", "TABLE", "VIEW"] with
      | some kind => kind ++ " "
      | none => ""
    return [word (" " ++ place ++ " " ++ kind ++ nameText (← objectName cx.dialect))]

def remainingWords : Nat → Parser (List Ident)
  | 0 => return []
  | fuel + 1 => do
    match (← peekLexeme).map Lexeme.token with
    | none => return []
    | some (.symbol ";") => return []
    | some (.symbol "=") => return []
    | some (.word value quote) =>
      skip
      return ⟨value, quote⟩ :: (← remainingWords fuel)
    | some _ =>
      skip
      remainingWords fuel

def display (cx : Context) : Parser Statement := do
  let extended := if ← keyword "EXTENDED" then "EXTENDED " else ""
  let lead := "SHOW " ++ extended ++ (if ← keyword "FULL" then "FULL " else "")
  match ← oneOfKeywords ["COLUMNS", "FIELDS", "TABLES", "VIEWS"] with
  | some kind =>
    let kind := if kind = "FIELDS" then "COLUMNS" else kind
    let lead := word (lead ++ kind)
    return .other (lead :: (← shownFrom cx) ++ (← shownRows cx))
  | none =>
    if ← keyword "CREATE" then
      let kind ← expectOneOf ["TABLE", "TRIGGER", "FUNCTION", "PROCEDURE", "EVENT", "VIEW"]
      return .other [word ("SHOW CREATE " ++ kind ++ " " ++ nameText (← objectName cx.dialect))]
    match ← oneOfKeywords ["DATABASES", "SCHEMAS"] with
    | some kind => return .other (word (lead ++ kind) :: (← shownFrom cx) ++ (← shownRows cx))
    | none =>
      if cx.dialect.oneOf [.generic, .mySql] then
        match ← oneOfKeywords ["VARIABLES", "STATUS"] with
        | some kind => return .other (word (lead ++ kind) :: (← shownRows cx))
        | none => pure ()
      let names ← remainingWords ((← get).length + 1)
      return .other [word ("SHOW " ++ " ".intercalate (names.map Ident.text))]

/-! ### Rights -/

def rights : List String :=
  ["CONNECT", "CREATE", "DELETE", "EXECUTE", "INSERT", "REFERENCES", "SELECT", "TEMPORARY",
    "TRIGGER", "TRUNCATE", "UPDATE", "USAGE"]

def right : Parser String := do
  let name ← expectOneOf rights
  if ← peekSymbol "(" then return name ++ " (" ++ identList (← identifierList false) ++ ")"
  else return name

def grant (cx : Context) (name direction : String) : Parser Statement := do
  let list ← if ← keyword "ALL" then
      pure (if ← keyword "PRIVILEGES" then "ALL PRIVILEGES" else "ALL")
    else pure (", ".intercalate (← commaList right))
  let objects ← if ← keyword "ON" then
      let kind := match ← oneOfKeywords ["TABLE", "SCHEMA", "DATABASE", "SEQUENCE"] with
        | some "TABLE" => ""
        | some kind => kind ++ " "
        | none => ""
      pure (" ON " ++ kind ++ (← names))
    else pure ""
  expectKeyword direction
  let receivers ← names
  let passes := if ← keywords ["WITH", "GRANT", "OPTION"] then " WITH GRANT OPTION" else ""
  let behaviour := match ← oneOfKeywords ["CASCADE", "RESTRICT"] with
    | some behaviour => " " ++ behaviour
    | none => ""
  return .other [word (name ++ " " ++ list ++ objects ++ " " ++ direction ++ " " ++ receivers ++
    passes ++ behaviour)]
where
  /-- Names with commas between them, as text. -/
  names : Parser String := do
    return ", ".intercalate ((← commaList (objectName cx.dialect)).map nameText)

end Grammar

end RowStamp.Sql
