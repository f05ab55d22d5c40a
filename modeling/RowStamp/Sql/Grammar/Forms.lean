import RowStamp.Sql.Grammar.Calls

/-!
Expressions with a syntax of their own: CASE, CAST, EXTRACT, INTERVAL and the like.  Each parser
starts after the word that names the form.
-/

set_option autoImplicit false
set_option relaxedAutoImplicit false

namespace RowStamp.Sql

namespace Grammar

open RowStamp.Sql.Parser

def caseBranches (cx : Context) : Nat → Parser Fragments
  | 0 => return []
  | fuel + 1 => do
    let condition ← cx.expr
    expectKeyword "THEN"
    let result ← cx.expr
    let branch := [word " WHEN ", condition, word " THEN ", result]
    if ← keyword "WHEN" then return branch ++ (← caseBranches cx fuel)
    return branch

def caseForm (cx : Context) : Parser Expr := do
  let operand ← if ← keyword "WHEN" then pure [] else do
    let operand ← cx.expr
    expectKeyword "WHEN"
    pure [word " ", operand]
  let branches ← caseBranches cx ((← get).length + 1)
  let otherwise ← if ← keyword "ELSE" then pure [word " ELSE ", ← cx.expr] else pure []
  expectKeyword "END"
  return phrase (word "CASE" :: operand ++ branches ++ otherwise ++ [word " END"])

def castForm (cx : Context) (name : String) : Parser Expr := do
  expectSymbol "("
  let operand ← cx.expr
  expectKeyword "AS"
  let type ← dataType cx.dialect
  let format ← if ← keyword "FORMAT" then do
      let pattern ← value cx.dialect
      let zone ← if ← keywords ["AT", "TIME", "ZONE"] then
          pure [word " AT TIME ZONE ", ← value cx.dialect]
        else pure []
      pure (word " FORMAT " :: pattern :: zone)
    else pure []
  expectSymbol ")"
  return phrase ([word (name ++ "("), operand, word (" AS " ++ type.text)] ++ format ++ [word ")"])

def convertForm (cx : Context) (name : String) : Parser Expr := do
  expectSymbol "("
  if cx.dialect.convertTypeFirst then
    let type ← dataType cx.dialect
    expectSymbol ","
    let operand ← cx.expr
    let styles ← if ← symbol "," then pure (word ", " :: Expr.commaSeparated (← cx.exprs))
      else pure []
    expectSymbol ")"
    return phrase ([word (name ++ "(" ++ type.text ++ ", "), operand] ++ styles ++ [word ")"])
  let operand ← cx.expr
  if ← keyword "USING" then
    let charset ← objectName cx.dialect
    expectSymbol ")"
    return phrase [word (name ++ "("), operand, word (" USING " ++ nameText charset ++ ")")]
  expectSymbol ","
  let type ← dataType cx.dialect
  let charset ← if ← keywords ["CHARACTER", "SET"] then
      pure (" CHARACTER SET " ++ nameText (← objectName cx.dialect))
    else pure ""
  expectSymbol ")"
  return phrase [word (name ++ "("), operand, word (", " ++ type.text ++ charset ++ ")")]

def existsForm (cx : Context) (negated : Bool) : Parser Expr := do
  let query ← cx.subquery
  return phrase (word (if negated then "NOT EXISTS " else "EXISTS ") :: query)

def notForm (cx : Context) : Parser Expr := do
  if ← keyword "EXISTS" then existsForm cx true
  else return led "NOT " (← cx.subexpr .not)

def dateFields : List String :=
  ["YEAR", "YEARS", "MONTH", "MONTHS", "WEEKS", "DAY", "DAYOFWEEK", "DAYOFYEAR", "DAYS", "DATE",
    "DATETIME", "HOUR", "HOURS", "MINUTE", "MINUTES", "SECOND", "SECONDS", "CENTURY", "DECADE",
    "DOY", "DOW", "EPOCH", "ISODOW", "ISOYEAR", "ISOWEEK", "JULIAN", "MICROSECOND",
    "MICROSECONDS", "MILLENIUM", "MILLENNIUM", "MILLISECOND", "MILLISECONDS", "NANOSECOND",
    "NANOSECONDS", "QUARTER", "TIME", "TIMEZONE", "TIMEZONE_ABBR", "TIMEZONE_HOUR",
    "TIMEZONE_MINUTE", "TIMEZONE_REGION"]

def intervalUnits : List String :=
  ["YEAR", "YEARS", "MONTH", "MONTHS", "WEEK", "WEEKS", "DAY", "DAYS", "HOUR", "HOURS", "MINUTE",
    "MINUTES", "SECOND", "SECONDS", "CENTURY", "DECADE", "DOW", "DOY", "EPOCH", "ISODOW",
    "ISOYEAR", "JULIAN", "MICROSECOND", "MICROSECONDS", "MILLENIUM", "MILLENNIUM", "MILLISECOND",
    "MILLISECONDS", "NANOSECOND", "NANOSECONDS", "QUARTER", "TIMEZONE", "TIMEZONE_HOUR",
    "TIMEZONE_MINUTE"]

def dateField (dialect : Dialect) : Parser String := do
  let custom := dialect.oneOf [.generic, .postgres]
  let lexeme ← next
  match lexeme.map Lexeme.token with
  | some (.word value quote) =>
    let key := (Token.word value quote).key
    if key == "WEEK" then
      if dialect = .generic && (← peekSymbol "(") then
        skip
        let day ← identifier
        expectSymbol ")"
        return "WEEK(" ++ day.text ++ ")"
      return key
    else if dateFields.contains key then return key
    else if custom then return Ident.text ⟨value, quote⟩
    else expectedAt "date/time field" lexeme
  | some (.string .plain value) =>
    if custom then return Ident.text ⟨value, some '\''⟩ else expectedAt "date/time field" lexeme
  | _ => expectedAt "date/time field" lexeme

def extractForm (cx : Context) : Parser Expr := do
  expectSymbol "("
  let field ← dateField cx.dialect
  let separator ← if ← keyword "FROM" then pure " FROM "
    else if cx.dialect = .generic && (← peekSymbol ",") then
      skip
      pure ", "
    else throw .extractSeparator
  let operand ← cx.expr
  expectSymbol ")"
  return phrase [word ("EXTRACT(" ++ field ++ separator), operand, word ")"]

def roundForm (cx : Context) (name : String) : Parser Expr := do
  expectSymbol "("
  let operand ← cx.expr
  let unit ← if ← keyword "TO" then pure [word (" TO " ++ (← dateField cx.dialect))]
    else if ← symbol "," then
      match ← value cx.dialect with
      | .literal (.number digits long) => pure [word ", ", .literal (.number digits long)]
      | _ => throw .scaleKind
    else pure []
  expectSymbol ")"
  return phrase ([word (name ++ "("), operand] ++ unit ++ [word ")"])

def positionForm (cx : Context) : Parser Expr := do
  expectSymbol "("
  let part ← cx.subexpr .between
  expectKeyword "IN"
  let whole ← cx.expr
  expectSymbol ")"
  return phrase [word "POSITION(", part, word " IN ", whole, word ")"]

def substringForm (cx : Context) (name : String) : Parser Expr := do
  expectSymbol "("
  let whole ← cx.expr
  let commas ← symbol ","
  let fromWord ← if commas then pure false else keyword "FROM"
  let start ← if commas || fromWord then
      pure [word (if commas then ", " else " FROM "), ← cx.expr]
    else pure []
  let forWord ← keyword "FOR"
  let bounded ← if forWord then pure true else symbol ","
  let length ← if bounded then pure [word (if commas then ", " else " FOR "), ← cx.expr]
    else pure []
  expectSymbol ")"
  return phrase ([word (name ++ "("), whole] ++ start ++ length ++ [word ")"])

def overlayForm (cx : Context) : Parser Expr := do
  expectSymbol "("
  let whole ← cx.expr
  expectKeyword "PLACING"
  let part ← cx.expr
  expectKeyword "FROM"
  let start ← cx.expr
  let length ← if ← keyword "FOR" then pure [word " FOR ", ← cx.expr] else pure []
  expectSymbol ")"
  return phrase
    ([word "OVERLAY(", whole, word " PLACING ", part, word " FROM ", start] ++ length ++ [word ")"])

def trimForm (cx : Context) : Parser Expr := do
  expectSymbol "("
  let side ← match ← oneOfKeywords ["BOTH", "LEADING", "TRAILING"] with
    | some side => pure (side ++ " ")
    | none => pure ""
  let first ← cx.expr
  if ← keyword "FROM" then
    let whole ← cx.expr
    expectSymbol ")"
    return phrase [word ("TRIM(" ++ side), first, word " FROM ", whole, word ")"]
  let comma ← symbol ","
  if comma && cx.dialect = .generic then
    let characters ← cx.exprs
    expectSymbol ")"
    return phrase
      (word "TRIM(" :: first :: word ", " :: Expr.commaSeparated characters ++ [word ")"])
  expectSymbol ")"
  return phrase [word ("TRIM(" ++ side), first, word ")"]

/-- A precision between parentheses after a unit, after a blank. -/
def unitPrecision : Parser String := do
  let precision ← optionalPrecision
  return if precision.isEmpty then "" else " " ++ precision

def intervalForm (cx : Context) : Parser Expr := do
  let amount ← if cx.dialect.intervalUnits then cx.expr else cx.inner.simple cx.inColumn
  let hasUnit := match ← peekLexeme with
    | some lexeme => intervalUnits.contains lexeme.token.key
    | none => false
  if !hasUnit && cx.dialect.intervalUnits then throw (.intervalUnit (← place))
  let unit ← if hasUnit then dateField cx.dialect else pure ""
  let lead := if hasUnit then " " ++ unit else ""
  let rest ← if unit == "SECOND" then seconds else do
    let precision ← unitPrecision
    if ← keyword "TO" then
      let last ← dateField cx.dialect
      let fraction ← if last == "SECOND" then unitPrecision else pure ""
      pure (precision ++ " TO " ++ last ++ fraction)
    else pure precision
  return phrase [word "INTERVAL ", amount, word (lead ++ rest)]
where
  /-- The precisions of a unit of seconds. -/
  seconds : Parser String := do
    if ← symbol "(" then
      let leading ← unsigned
      let fraction ← if ← symbol "," then pure (", " ++ toString (← unsigned)) else pure ""
      expectSymbol ")"
      return " (" ++ toString leading ++ fraction ++ ")"
    return ""

def matchForm (cx : Context) : Parser Expr := do
  unless ← symbol "(" do expected "a list of columns in parentheses"
  let columns ← commaList (objectName cx.dialect)
  expectSymbol ")"
  expectKeyword "AGAINST"
  expectSymbol "("
  let pattern ← value cx.dialect
  let mode ← if ← keywords ["IN", "NATURAL", "LANGUAGE", "MODE"] then
      if ← keywords ["WITH", "QUERY", "EXPANSION"] then
        pure " IN NATURAL LANGUAGE MODE WITH QUERY EXPANSION"
      else pure " IN NATURAL LANGUAGE MODE"
    else if ← keywords ["IN", "BOOLEAN", "MODE"] then pure " IN BOOLEAN MODE"
    else if ← keywords ["WITH", "QUERY", "EXPANSION"] then pure " WITH QUERY EXPANSION"
    else pure ""
  expectSymbol ")"
  return phrase
    [word ("MATCH (" ++ ", ".intercalate (columns.map nameText) ++ ") AGAINST ("), pattern,
      word (mode ++ ")")]

/-- A list of elements in brackets, from after the opening bracket. -/
def arrayForm (cx : Context) (lead : String) : Parser Expr := do
  let items ← commaListUntil "]" cx.expr
  expectSymbol "]"
  return phrase (between (lead ++ "[") (Expr.commaSeparated items) "]")

def structForm (cx : Context) : Parser Expr := do
  expectSymbol "("
  let values ← commaList do
    let field ← cx.expr
    if ← keyword "AS" then return phrase [field, word (" AS " ++ (← identifier).text)]
    return field
  expectSymbol ")"
  return phrase (between "STRUCT(" (Expr.commaSeparated values) ")")

/-- A map between braces, from its opening brace. -/
def mapForm (cx : Context) : Parser Expr := do
  expectSymbol "\x7b"
  let entries ← commaListUntil "\x7d" do
    let key ← cx.expr
    expectSymbol ":"
    return phrase [key, word ": ", ← cx.expr]
  expectSymbol "\x7d"
  return phrase (between "MAP \x7b" (Expr.commaSeparated entries) "\x7d")

/-- A constant or a call in braces, from after the opening brace. -/
def bracedBody (cx : Context) : Parser Expr := do
  let constant ← attempt do
    let lexeme ← next
    match lexeme with
    | some ⟨token, _⟩ =>
      if ["t", "d", "ts"].contains token.text then
        return phrase [word ("\x7b" ++ token.text ++ " "), ← value cx.dialect]
      else expectedAt "ODBC datetime keyword (t, d, or ts)" lexeme
    | none => expectedAt "ODBC datetime keyword (t, d, or ts)" lexeme
  match constant with
  | some e => return e
  | none =>
    expectKeyword "FN"
    let name ← objectName cx.dialect
    return led "\x7bfn " (← call cx (nameText name))

/-- An expression in braces, from after the opening brace `opening`. -/
def bracedForm (cx : Context) (opening : Option Lexeme) : Parser Expr := do
  match ← attempt (bracedBody cx) with
  | some body =>
    expectSymbol "\x7d"
    return phrase [body, word "\x7d"]
  | none =>
    if cx.dialect = .generic then
      let entries ← commaListUntil "\x7d" do
        let key ← identifier
        expectSymbol ":"
        return led (key.text ++ ": ") (← cx.expr)
      expectSymbol "\x7d"
      return phrase (between "\x7b" (Expr.commaSeparated entries) "\x7d")
    else expectedAt "an expression" opening

end Grammar

end RowStamp.Sql
