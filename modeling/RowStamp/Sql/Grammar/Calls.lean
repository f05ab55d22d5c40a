import RowStamp.Sql.Grammar.Types
import RowStamp.Sql.Grammar.Values

/-!
Function calls: arguments, ordering, filters and windows.
-/

set_option autoImplicit false
set_option relaxedAutoImplicit false

namespace RowStamp.Sql

namespace Grammar

open RowStamp.Sql.Parser

def phrase (parts : Fragments) : Expr := .phrase parts

def led (lead : String) (e : Expr) : Expr := .phrase [word lead, e]

/-- A wildcard or an expression: a star, a name that ends in a star, or any expression. -/
inductive Item where
  | star
  | namedStar (name : List Ident)
  | expr (e : Expr)

def Item.fragment : Item → Expr
  | star => word "*"
  | namedStar name => word (nameText name ++ ".*")
  | expr e => e

/-- The parts of a name that may end in a star, from after its first part. -/
def starredName : Nat → List Ident → Parser (Option (List Ident))
  | 0, _ => return none
  | fuel + 1, parts => do
    if ← symbol "." then
      let lexeme ← next
      match lexeme.map Lexeme.token with
      | some (.word value quote) => starredName fuel (parts ++ [⟨value, quote⟩])
      | some (.string .plain value) => starredName fuel (parts ++ [⟨value, some '\''⟩])
      | some (.placeholder text) => starredName fuel (parts ++ [Ident.plain text])
      | some (.symbol "*") => return some parts
      | _ => expectedAt "an identifier or a '*' after '.'" lexeme
    else return none

def item (cx : Context) : Parser Item := do
  let start ← get
  match ← peekTokens 2 with
  | .symbol "*" :: _ =>
    skip
    return .star
  | [.word value quote, .symbol "."] =>
    skip
    orExpr start (← starredName start.length [⟨value, quote⟩])
  | [.string .plain value, .symbol "."] =>
    skip
    orExpr start (← starredName start.length [⟨value, some '\''⟩])
  | _ => return .expr (← cx.expr)
where
  /-- The starred name, or the expression that starts where the name does. -/
  orExpr (start : List Lexeme) : Option (List Ident) → Parser Item
    | some name => return .namedStar name
    | none => do
      set start
      return .expr (← cx.expr)

def argumentOperator (dialect : Dialect) : Parser String := do
  if ← keyword "VALUE" then return "VALUE"
  let lexeme ← next
  match lexeme.map Lexeme.token with
  | some (.symbol "=>") => return "=>"
  | some (.symbol ":=") =>
    if dialect.oneOf [.generic, .postgres] then return ":="
    else expectedAt "argument operator" lexeme
  | some (.symbol ":") =>
    if dialect.oneOf [.postgres, .msSql] then return ":"
    else expectedAt "argument operator" lexeme
  | _ => expectedAt "argument operator" lexeme

def argument (cx : Context) : Parser Expr := do
  let named ← attempt do
    let name ← if cx.dialect.oneOf [.postgres, .msSql] then cx.expr
      else pure (word (← identifier).text)
    let operator ← argumentOperator cx.dialect
    let value ← item cx
    return phrase [name, word (" " ++ operator ++ " "), value.fragment]
  match named with
  | some argument => return argument
  | none => return (← item cx).fragment

def orderKey (cx : Context) : Parser Expr := do
  let key ← cx.expr
  let direction ← if ← keyword "ASC" then pure " ASC"
    else if ← keyword "DESC" then pure " DESC"
    else pure ""
  let nulls ← if ← keywords ["NULLS", "FIRST"] then pure " NULLS FIRST"
    else if ← keywords ["NULLS", "LAST"] then pure " NULLS LAST"
    else pure ""
  if (direction ++ nulls).isEmpty then return key
  return phrase [key, word (direction ++ nulls)]

def orderKeys (cx : Context) : Parser Fragments := do
  return Expr.commaSeparated (← commaList (orderKey cx))

/-- How null values are treated, where it is said. -/
def nullTreatment : Parser Fragments := do
  match ← oneOfKeywords ["RESPECT", "IGNORE"] with
  | some name =>
    expectKeyword "NULLS"
    return [word (name ++ " NULLS")]
  | none => return []

/-- What JSON does with null values, where it is said. -/
def jsonNulls : Parser Fragments := do
  if ← keywords ["ABSENT", "ON", "NULL"] then return [word "ABSENT ON NULL"]
  if ← keywords ["NULL", "ON", "NULL"] then return [word "NULL ON NULL"]
  return []

def jsonReturning (dialect : Dialect) : Parser Fragments := do
  if ← keyword "RETURNING" then return [word ("RETURNING " ++ (← dataType dialect).text)]
  return []

def blankSeparated : List Fragments → Fragments
  | [] => []
  | [first] => first
  | first :: rest => first ++ word " " :: blankSeparated rest

/-- Fragments, each list as one clause where it is not empty. -/
def clausesOf (lists : List Fragments) : Fragments :=
  blankSeparated (lists.filter (!·.isEmpty))

/-- A truncation of aggregated text, where it is said. -/
def overflowClause (cx : Context) : Parser Fragments := do
  if ← keywords ["ON", "OVERFLOW"] then
    if ← keyword "ERROR" then return [word "ON OVERFLOW ERROR"]
    expectKeyword "TRUNCATE"
    let filler ← match (← peekLexeme).map Lexeme.token with
      | some token =>
        if token.key == "WITH" || token.key == "WITHOUT" then pure []
        else pure [led " " (← cx.expr)]
      | none => pure []
    let withCount ← keyword "WITH"
    unless withCount do expectKeyword "WITHOUT"
    expectKeyword "COUNT"
    return word "ON OVERFLOW TRUNCATE" :: filler ++
      [word (if withCount then " WITH COUNT" else " WITHOUT COUNT")]
  return []

/-- The arguments of a call, from after the opening parenthesis, with what is said about them;
also whether null treatment is said among them. -/
def arguments (cx : Context) : Parser (Fragments × Bool) := do
  let nulls ← jsonNulls
  let returning ← jsonReturning cx.dialect
  if ← symbol ")" then
    return (word "(" :: clausesOf [nulls, returning] ++ [word ")"], false)
  let start ← place
  let all ← keyword "ALL"
  let distinct ← keyword "DISTINCT"
  if all && distinct then throw (.allAndDistinct start)
  let quantifier := if all then "ALL " else if distinct then "DISTINCT " else ""
  let list ← commaList (argument cx)
  let treatment ← if cx.dialect = .generic then nullTreatment else pure []
  let order ← if ← keywords ["ORDER", "BY"] then pure (word "ORDER BY " :: (← orderKeys cx))
    else pure []
  let limit ← if ← keyword "LIMIT" then pure [word "LIMIT ", ← cx.expr] else pure []
  let having ← if cx.dialect = .generic && (← peekKeyword "HAVING") then
      skip
      let bound ← expectOneOf ["MIN", "MAX"]
      pure [word ("HAVING " ++ bound ++ " "), ← cx.expr]
    else pure []
  let separator ← if cx.dialect.oneOf [.generic, .mySql] && (← peekKeyword "SEPARATOR") then
      skip
      pure [word "SEPARATOR ", ← value cx.dialect]
    else pure []
  let overflow ← overflowClause cx
  let lateNulls ← jsonNulls
  let lateReturning ← jsonReturning cx.dialect
  expectSymbol ")"
  let clauses := clausesOf
    [nulls, returning, treatment, order, limit, having, separator, overflow, lateNulls,
      lateReturning]
  return (word ("(" ++ quantifier) :: Expr.commaSeparated list ++ spaced clauses ++ [word ")"],
    !treatment.isEmpty)

def frameBound (cx : Context) : Parser Expr := do
  if ← keywords ["CURRENT", "ROW"] then return word "CURRENT ROW"
  let extent ← if ← keyword "UNBOUNDED" then pure (word "UNBOUNDED")
    else match (← peekLexeme).map Lexeme.token with
      | some (.string .plain _) => pure (led "INTERVAL " (← cx.inner.simple cx.inColumn))
      | _ => cx.expr
  if ← keyword "PRECEDING" then return phrase [extent, word " PRECEDING"]
  if ← keyword "FOLLOWING" then return phrase [extent, word " FOLLOWING"]
  expected "PRECEDING or FOLLOWING"

def frame (cx : Context) : Parser Fragments := do
  let lexeme ← next
  let units := match lexeme with
    | some l => l.token.key
    | none => ""
  unless ["ROWS", "RANGE", "GROUPS"].contains units do expectedAt "ROWS, RANGE, GROUPS" lexeme
  if ← keyword "BETWEEN" then
    let first ← frameBound cx
    expectKeyword "AND"
    let last ← frameBound cx
    return [word (units ++ " BETWEEN "), first, word " AND ", last]
  return [word (units ++ " "), ← frameBound cx]

def windowWords : List String := ["PARTITION", "ORDER", "ROWS", "RANGE", "GROUPS"]

/-- A window's definition, from after the opening parenthesis through the closing one. -/
def windowBody (cx : Context) : Parser Fragments := do
  let base ← match (← peekLexeme).map Lexeme.token with
    | some (.word value quote) =>
      if windowWords.contains (Token.word value quote).key then pure []
      else do
        skip
        pure [word (Ident.text ⟨value, quote⟩)]
    | _ => pure []
  let partition ← if ← keywords ["PARTITION", "BY"] then
      pure (word "PARTITION BY " :: Expr.commaSeparated (← cx.exprs))
    else pure []
  let order ← if ← keywords ["ORDER", "BY"] then pure (word "ORDER BY " :: (← orderKeys cx))
    else pure []
  let bounds ← if ← symbol ")" then pure [] else do
    let bounds ← frame cx
    expectSymbol ")"
    pure bounds
  return word "(" :: clausesOf [base, partition, order, bounds] ++ [word ")"]

/-- A call of a named function, from its opening parenthesis. -/
def call (cx : Context) (name : String) : Parser Expr := do
  expectSymbol "("
  let first ← arguments cx
  let (list, treated) ← if cx.dialect = .generic && (← peekSymbol "(") then
      skip
      let (second, treated) ← arguments cx
      pure (first.1 ++ second, treated)
    else pure first
  let within ← if ← keywords ["WITHIN", "GROUP"] then
      expectSymbol "("
      expectKeywords ["ORDER", "BY"]
      let order ← orderKeys cx
      expectSymbol ")"
      pure (between " WITHIN GROUP (ORDER BY " order ")")
    else pure []
  let filter ← if cx.dialect.oneOf [.generic, .postgres, .sqlite] then filterClause else pure []
  let treatment ← if treated then pure [] else nullTreatment
  let window ← if ← keyword "OVER" then
      if ← symbol "(" then pure (word " OVER " :: (← windowBody cx))
      else pure [word (" OVER " ++ (← identifier).text)]
    else pure []
  return phrase (word name :: list ++ within ++ filter ++ spaced treatment ++ window)
where
  /-- The filter of an aggregate. -/
  filterClause : Parser Fragments := do
    if ← keyword "FILTER" then
      if ← symbol "(" then
        if ← keyword "WHERE" then
          let condition ← cx.expr
          expectSymbol ")"
          return between " FILTER (WHERE " [condition] ")"
    return []

end Grammar

end RowStamp.Sql
