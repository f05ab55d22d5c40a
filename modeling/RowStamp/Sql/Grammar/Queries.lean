import RowStamp.Sql.Grammar.Writes

/-!
Queries: common table expressions, SELECT, rows of values, set operators, and the clauses after
the body.
-/

set_option autoImplicit false
set_option relaxedAutoImplicit false

namespace RowStamp.Sql

namespace Grammar

open RowStamp.Sql.Parser

/-! ### SELECT -/

def distinctClause (cx : Context) : Parser Fragments := do
  let start ← place
  let all ← keyword "ALL"
  unless ← keyword "DISTINCT" do return []
  if all then throw (.allAndDistinct start)
  unless ← keyword "ON" do return [word " DISTINCT"]
  expectSymbol "("
  let list ← commaListUntil ")" cx.expr
  expectSymbol ")"
  return between " DISTINCT ON (" (Expr.commaSeparated list) ")"

def topClause (cx : Context) : Parser Fragments := do
  unless ← keyword "TOP" do return []
  let amount ← if ← peekSymbol "(" then pure (between " TOP (" [← parenthesized cx.expr] ")")
    else pure [word (" TOP " ++ toString (← unsigned))]
  let percent := if ← keyword "PERCENT" then " PERCENT" else ""
  let ties := if ← keywords ["WITH", "TIES"] then " WITH TIES" else ""
  return amount ++ [word (percent ++ ties)]

/-- A token that may follow the last comma of a list of selected items. -/
def endsItems : Token → Bool
  | .symbol s => [")", ";", "]", "\x7d"].contains s
  | token => columnStops.contains token.key

def selectItems (cx : Context) : Parser (List Expr) := do
  let optional := cx.dialect.oneOf [.generic, .postgres]
  if optional && (← peekKeyword "FROM") then return []
  let trailing := fun token => cx.dialect = .generic && endsItems token
  commaListFrom trailing (selectItem cx) ((← get).length + 1)

/-- The table that the rows are written to, where it is said. -/
def intoClause (cx : Context) : Parser Fragments := do
  unless ← keyword "INTO" do return []
  let temporary := if (← oneOfKeywords ["TEMP", "TEMPORARY"]).isSome then " TEMPORARY" else ""
  let unlogged := if ← keyword "UNLOGGED" then " UNLOGGED" else ""
  let table := if ← keyword "TABLE" then " TABLE" else ""
  let name ← objectName cx.dialect
  return [word (" INTO" ++ temporary ++ unlogged ++ table ++ " " ++ nameText name)]

def groupModifiers : Nat → Parser String
  | 0 => return ""
  | fuel + 1 => do
    if ← keyword "WITH" then
      let name ← expectOneOf ["ROLLUP", "CUBE", "TOTALS"]
      return " WITH " ++ name ++ (← groupModifiers fuel)
    else return ""

/-- The keys that rows are grouped by together: one, or a list in parentheses. -/
def groupSet (cx : Context) : Parser (List Expr) := do
  if ← peekSymbol "(" then parenthesized (commaListUntil ")" cx.expr) else return [← cx.expr]

/-- Several ways to group at once, with one key in parentheses where `always` holds. -/
def groupSets (cx : Context) (name : String) (always : Bool) : Parser Expr := do
  let sets ← parenthesized (commaList (groupSet cx))
  let texts := sets.map fun
    | [key] => if always then phrase (between "(" [key] ")") else key
    | keys => phrase (between "(" (Expr.commaSeparated keys) ")")
  return phrase (between (name ++ " (") (Expr.commaSeparated texts) ")")

def groupKey (cx : Context) : Parser Expr := do
  if !(cx.dialect.oneOf [.generic, .postgres]) then cx.expr
  else if ← keywords ["GROUPING", "SETS"] then groupSets cx "GROUPING SETS" true
  else if ← keyword "CUBE" then groupSets cx "CUBE" false
  else if ← keyword "ROLLUP" then groupSets cx "ROLLUP" false
  else if (← peekTokens 2) == [.symbol "(", .symbol ")"] then
    skip
    skip
    return word "()"
  else cx.expr

def groupClause (cx : Context) : Parser Fragments := do
  unless ← keywords ["GROUP", "BY"] do return []
  let keys ← if ← keyword "ALL" then pure [word "ALL"]
    else pure (Expr.commaSeparated (← commaList (groupKey cx)))
  let modifiers ← if cx.dialect.oneOf [.generic, .mySql] then groupModifiers ((← get).length + 1)
    else pure ""
  return word " GROUP BY " :: keys ++ [word modifiers]

def windowClause (cx : Context) : Parser Fragments := do
  unless ← keyword "WINDOW" do return []
  let windows ← commaList do
    let name ← identifier
    expectKeyword "AS"
    if ← symbol "(" then return phrase (word (name.text ++ " AS ") :: (← windowBody cx))
    else return word (name.text ++ " AS " ++ (← identifier).text)
  return word " WINDOW " :: Expr.commaSeparated windows

/-- A word and a condition after it, where it is next. -/
def conditionClause (cx : Context) (name : String) : Parser Fragments := do
  if ← keyword name then return [word (" " ++ name ++ " "), ← cx.expr] else return []

def selectTail (cx : Context) : Parser Fragments := do
  let prewhere ← if cx.dialect = .generic then conditionClause cx "PREWHERE" else pure []
  let selection ← conditionClause cx "WHERE"
  let groups ← groupClause cx
  let having ← conditionClause cx "HAVING"
  let windows ← windowClause cx
  let qualify ← conditionClause cx "QUALIFY"
  return prewhere ++ selection ++ groups ++ having ++ windows ++ qualify

def select (cx : Context) : Parser Fragments := do
  let tablesFirst ← if cx.dialect = .generic && (← peekKeyword "FROM") then
      skip
      pure (word "FROM " :: JoinedTables.listFragments (← tableList cx))
    else pure []
  if !tablesFirst.isEmpty && !(← peekKeyword "SELECT") then return tablesFirst
  expectKeyword "SELECT"
  let distinct ← distinctClause cx
  let top ← topClause cx
  let items ← selectItems cx
  let into ← intoClause cx
  let tables ← if tablesFirst.isEmpty && (← peekKeyword "FROM") then
      skip
      pure (word " FROM " :: JoinedTables.listFragments (← tableList cx))
    else pure []
  let tail ← selectTail cx
  let lead := if tablesFirst.isEmpty then [] else tablesFirst ++ [word " "]
  return lead ++ word "SELECT" :: distinct ++ top ++ spaced (Expr.commaSeparated items) ++ into ++
    tables ++ tail

/-! ### Bodies -/

/-- A whole table as a query, from after TABLE.  Three tokens are consumed. -/
def tableBody : Parser Fragments := do
  let first ← next
  let second ← next
  let third ← next
  let nameOf (lexeme : Option Lexeme) (what : String) : Parser String :=
    match lexeme.map Lexeme.token with
    | some (.word value _) => return value
    | _ => expectedAt what lexeme
  if second.map Lexeme.token == some (.symbol ".") then
    let schema ← nameOf first "Schema name"
    let name ← nameOf third "Table name"
    return [word ("TABLE " ++ schema ++ "." ++ name)]
  else return [word ("TABLE " ++ (← nameOf first "Table name"))]

def simpleBody (cx : Context) : Parser QueryBody := do
  let rows := valuesRows cx (cx.dialect = .mySql)
  if (← peekKeyword "SELECT") || (cx.dialect = .generic && (← peekKeyword "FROM")) then
    return .other (← select cx)
  else if ← peekSymbol "(" then return .other (← cx.subquery)
  else if ← keyword "VALUES" then return .values (← rows "VALUES")
  else if ← keyword "VALUE" then return .values (← rows "VALUE")
  else if ← keyword "TABLE" then return .other (← tableBody)
  else expected "SELECT, VALUES, or a subquery in the query body"

def setOperators : List (String × Nat) :=
  [("UNION", 10), ("EXCEPT", 10), ("MINUS", 10), ("INTERSECT", 20)]

/-- What a set operator does with equal rows, with a blank before it. -/
def setQuantifier : Parser String := do
  for words in [["DISTINCT", "BY", "NAME"], ["BY", "NAME"], ["ALL", "BY", "NAME"], ["ALL"],
      ["DISTINCT"]] do
    if ← keywords words then return " " ++ " ".intercalate words
  return ""

/-- The set operators after a body, given how to read the body after an operator of a rank. -/
def setOperations (operand : Nat → Parser QueryBody) (rank : Nat) :
    Nat → QueryBody → Parser QueryBody
  | 0, left => return left
  | fuel + 1, left => do
    let key := match ← peekLexeme with
      | some lexeme => lexeme.token.key
      | none => ""
    match setOperators.lookup key with
    | none => return left
    | some ahead =>
      if ahead ≤ rank then return left
      skip
      let quantifier ← setQuantifier
      let right ← operand ahead
      setOperations operand rank fuel
        (.other (left.fragments ++ word (" " ++ key ++ quantifier ++ " ") :: right.fragments))

/-- A body whose set operators bind more strongly than a rank; the fuel bounds how deeply they
nest to the right. -/
def bodyFrom (cx : Context) : Nat → Nat → Parser QueryBody
  | 0, _ => throw .depth
  | fuel + 1, rank => do
    let first ← simpleBody cx
    setOperations (bodyFrom cx fuel) rank ((← get).length + 1) first

/-! ### Clauses after the body -/

def offsetClause (cx : Context) : Parser Fragments := do
  let amount ← cx.expr
  let unit := match ← oneOfKeywords ["ROW", "ROWS"] with
    | some unit => " " ++ unit
    | none => ""
  return [word " OFFSET ", amount, word unit]

/-- The limit on the rows, from after LIMIT; nothing for all rows. -/
def limitAmount (cx : Context) : Parser (Option Expr) := do
  if ← keyword "ALL" then return none else return some (← cx.expr)

def limitClause (cx : Context) : Parser Fragments := do
  let before ← if ← keyword "OFFSET" then offsetClause cx else pure []
  unless ← keyword "LIMIT" do return before
  match ← limitAmount cx with
  | some amount =>
    let commas := before.isEmpty && cx.dialect.oneOf [.generic, .mySql, .sqlite]
    if commas && (← peekSymbol ",") then
      skip
      return [word " LIMIT ", amount, word ", ", ← cx.expr]
    let kept := [word " LIMIT ", amount]
    let keys ← if cx.dialect = .generic && (← peekKeyword "BY") then
        skip
        pure (word " BY " :: Expr.commaSeparated (← cx.exprs))
      else pure []
    return kept ++ (← skipped before) ++ keys
  | none => skipped before
where
  /-- The rows that are skipped, said before the limit or after it. -/
  skipped (before : Fragments) : Parser Fragments := do
    if before.isEmpty && (← peekKeyword "OFFSET") then
      skip
      offsetClause cx
    else return before

def fetchClause (cx : Context) : Parser Fragments := do
  unless ← keyword "FETCH" do return []
  let _ ← oneOfKeywords ["FIRST", "NEXT"]
  let amount ← if (← oneOfKeywords ["ROW", "ROWS"]).isSome then pure [] else do
    let amount ← value cx.dialect
    let percent := if ← keyword "PERCENT" then " PERCENT" else ""
    let _ ← oneOfKeywords ["ROW", "ROWS"]
    pure [word " ", amount, word percent]
  let ties ← if ← keyword "ONLY" then pure false else keywords ["WITH", "TIES"]
  return word " FETCH FIRST" :: amount ++ [word (if ties then " ROWS WITH TIES" else " ROWS ONLY")]

def lockClauses (cx : Context) : Nat → Parser Fragments
  | 0 => return []
  | fuel + 1 => do
    unless ← keyword "FOR" do return []
    let kind ← expectOneOf ["UPDATE", "SHARE"]
    let tables ← if ← keyword "OF" then pure (" OF " ++ nameText (← objectName cx.dialect))
      else pure ""
    let wait ← if ← keyword "NOWAIT" then pure " NOWAIT"
      else if ← keywords ["SKIP", "LOCKED"] then pure " SKIP LOCKED"
      else pure ""
    return word (" FOR " ++ kind ++ tables ++ wait) :: (← lockClauses cx fuel)

def queryTail (cx : Context) : Parser Fragments := do
  let order ← if ← keywords ["ORDER", "BY"] then pure (word " ORDER BY " :: (← orderKeys cx))
    else pure []
  let limit ← limitClause cx
  let fetch ← fetchClause cx
  let locks ← lockClauses cx ((← get).length + 1)
  return order ++ limit ++ fetch ++ locks

/-! ### Queries -/

def commonTable (cx : Context) : Parser Expr := do
  let name ← identifier
  let columns ← if ← peekKeyword "AS" then pure "" else aliasColumns cx.dialect
  expectKeyword "AS"
  let materialized ← if cx.dialect = .postgres then
      if ← keyword "MATERIALIZED" then pure "MATERIALIZED "
      else if ← keywords ["NOT", "MATERIALIZED"] then pure "NOT MATERIALIZED "
      else pure ""
    else pure ""
  let query ← cx.subquery
  let source ← if ← keyword "FROM" then pure [word (" FROM " ++ (← identifier).text)] else pure []
  return phrase (word (name.text ++ columns ++ " AS " ++ materialized) :: query ++ source)

def withClause (cx : Context) : Parser Fragments := do
  unless ← keyword "WITH" do return []
  let recursive := if ← keyword "RECURSIVE" then "RECURSIVE " else ""
  let tables ← commaList (commonTable cx)
  return word ("WITH " ++ recursive) :: Expr.commaSeparated tables ++ [word " "]

/-- A query; statements that write may stand as its body. -/
def wholeQuery (cx : Context) : Parser Query := do
  let front ← withClause cx
  match ← oneOfKeywords ["INSERT", "UPDATE", "DELETE", "MERGE"] with
  | some "INSERT" => written front (insert cx false)
  | some "UPDATE" => written front (update cx)
  | some "DELETE" => written front (delete cx)
  | some _ => written front (merge cx)
  | none =>
    let body ← bodyFrom cx ((← get).length + 1) 0
    return ⟨front, body, ← queryTail cx⟩
where
  /-- A query whose body is a statement. -/
  written (front : Fragments) (statement : Parser Statement) : Parser Query := do
    return ⟨front, .other (← statement).fragments, []⟩

end Grammar

end RowStamp.Sql
