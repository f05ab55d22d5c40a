import RowStamp.Sql.Grammar.Operands

/-!
Operators between operands: how strongly each binds, and what it makes of the expression before
it.
-/

set_option autoImplicit false
set_option relaxedAutoImplicit false

namespace RowStamp.Sql

namespace Grammar

open RowStamp.Sql.Parser

/-! ### Symbols -/

def comparisons : List String :=
  ["=", "<>", ">", ">=", "<", "<=", "~", "~*", "!~", "!~*", "~~", "~~*", "!~~", "!~~*"]

def documentOperators : List String :=
  ["->", "->>", "#>", "#>>", "@>", "<@", "#-", "@?", "@@", "?", "?&", "?|"]

def shapeOperators : List String :=
  ["##", "&<", "&>", "&<|", "|&>", "<->", "<^", ">^", "?#", "?-", "?-|", "?||", "~=", "<<|",
    "|>>", "@"]

def unrankedOperators : List String := ["!", "&&", "^@", "||", "#", ">>", "<<"]

def symbolStrength (dialect : Dialect) (s : String) : Strength :=
  if documentOperators.contains s then .other
  else if dialect = .postgres && unrankedOperators.contains s then .other
  else if dialect = .postgres && s = "[" then .bracket
  else if comparisons.contains s || [":=", "==", "<=>"].contains s then .equality
  else if ["|", "&&"].contains s || shapeOperators.contains s then .pipe
  else if ["^", "#", ">>", "<<"].contains s then .caret
  else if s = "&" then .ampersand
  else if ["+", "-"].contains s then .plusMinus
  else if ["*", "/", "//", "%", "||"].contains s then .timesDivide
  else if ["::", "!", "[", "^@"].contains s then .cast
  else if s = "." then .period
  else .none

def symbolOperator? (dialect : Dialect) (s : String) : Option String :=
  if s = "==" then some "="
  else if comparisons.contains s || documentOperators.contains s then some s
  else if ["<=>", ":=", "+", "-", "*", "%", "/", "||", "|", "^", "&"].contains s then some s
  else if s = "//" then if dialect.integerDivision then some s else none
  else if s = "<<" || s = ">>" then
    if dialect.oneOf [.generic, .mySql, .postgres] then some s else none
  else if s = "#" then if dialect = .postgres then some s else none
  else if s = "^@" then if dialect.oneOf [.generic, .postgres] then some s else none
  else if s = "&&" then
    if dialect.oneOf [.generic, .postgres] then some s
    else if dialect = .mySql then some "AND"
    else none
  else if dialect.geometry && shapeOperators.contains s then some s
  else none

/-! ### Strengths -/

/-- How strongly `NOT` binds as an operator, by the keyword after it. -/
def negatedStrength (inColumn : Bool) (key : String) : Strength :=
  if ["IN", "BETWEEN"].contains key then .between
  else if ["LIKE", "ILIKE", "RLIKE", "REGEXP", "MATCH", "SIMILAR", "MEMBER"].contains key then
    .like
  else if key = "NULL" && !inColumn then .is
  else .none

/-- How strongly a word binds as an operator, given the keys of the words after it. -/
def wordStrength (cx : Context) (key : String) (after : List String) : Strength :=
  match key with
  | "OR" => .or
  | "AND" => .and
  | "XOR" => .xor
  | "AT" => if after == ["TIME", "ZONE"] then .timeZone else .none
  | "NOT" => negatedStrength cx.inColumn (after.head?.getD "")
  | "NOTNULL" => if cx.dialect.oneOf [.postgres, .sqlite] then .is else .none
  | "IS" => .is
  | "COLLATE" => if cx.dialect = .postgres && !cx.inColumn then .collate else .none
  | "DIV" => .timesDivide
  | _ =>
    if ["IN", "BETWEEN", "OVERLAPS", "OPERATOR"].contains key then .between
    else if ["LIKE", "ILIKE", "RLIKE", "REGEXP", "MATCH", "SIMILAR", "MEMBER"].contains key then
      .like
    else .none

def nextStrength (cx : Context) : Parser Strength := do
  match ← peekTokens 3 with
  | .symbol s :: _ => return symbolStrength cx.dialect s
  | .customOperator _ :: _ => return .other
  | .word value quote :: after =>
    return wordStrength cx (Token.word value quote).key (after.map Token.key)
  | _ => return .none

/-! ### Operations -/

/-- The names between the parentheses after `OPERATOR`. -/
def operatorNames : Nat → Parser (List String)
  | 0 => return []
  | fuel + 1 => do
    let first := match ← next with
      | some lexeme => lexeme.token.text
      | none => "EOF"
    if ← symbol "." then return first :: (← operatorNames fuel) else return [first]

/-- The binary operator of a token, which is consumed already; nothing where it has another
syntax. -/
def binaryOperator (cx : Context) (token : Token) : Parser (Option String) := do
  match token with
  | .symbol s => return symbolOperator? cx.dialect s
  | .customOperator s => return some s
  | .word value quote =>
    let key := (Token.word value quote).key
    if ["AND", "OR", "XOR", "OVERLAPS"].contains key then return some key
    if key == "OPERATOR" && cx.dialect.oneOf [.generic, .postgres] then
      expectSymbol "("
      let names ← operatorNames ((← get).length + 1)
      expectSymbol ")"
      return some ("OPERATOR(" ++ ".".intercalate names ++ ")")
    return none
  | _ => return none

/-- What a binary operator compares or joins `left` with. -/
def binaryOperation (cx : Context) (rank : Nat) (left : Expr) (operator : String)
    (place : Option Position) : Parser Expr := do
  match ← oneOfKeywords ["ANY", "ALL", "SOME"] with
  | none => return .binary left operator (← cx.inner.subexpr cx.inColumn rank)
  | some quantifier =>
    unless ← peekSymbol "(" do expected "("
    let isQuery := match ← peekTokens 2 with
      | [_, token] => token.key == "SELECT" || token.key == "WITH"
      | _ => false
    let right ← if isQuery then pure [← cx.inner.subexpr cx.inColumn rank] else do
      skip
      let inner ← cx.inner.subexpr cx.inColumn rank
      expectSymbol ")"
      pure (between "(" [inner] ")")
    unless comparisons.contains operator do throw (.comparison operator place)
    return phrase (left :: word (" " ++ operator ++ " " ++ quantifier) :: right)

/-- What `IS` says of an expression. -/
def isOperation (cx : Context) (e : Expr) : Parser Expr := do
  for words in [["NULL"], ["NOT", "NULL"], ["TRUE"], ["NOT", "TRUE"], ["FALSE"], ["NOT", "FALSE"],
      ["UNKNOWN"], ["NOT", "UNKNOWN"]] do
    if ← keywords words then return phrase [e, word (" IS " ++ " ".intercalate words)]
  for words in [["DISTINCT", "FROM"], ["NOT", "DISTINCT", "FROM"]] do
    if ← keywords words then
      return phrase [e, word (" IS " ++ " ".intercalate words ++ " "), ← cx.expr]
  let negation := if ← keyword "NOT" then "NOT " else ""
  let form := match ← oneOfKeywords ["NFC", "NFD", "NFKC", "NFKD"] with
    | some form => form ++ " "
    | none => ""
  if ← keyword "NORMALIZED" then
    return phrase [e, word (" IS " ++ negation ++ form ++ "NORMALIZED")]
  expected "[NOT] NULL | TRUE | FALSE | DISTINCT | [form] NORMALIZED FROM after IS"

def memberOperation (cx : Context) (e : Expr) (negation : String) : Parser Expr := do
  if ← keyword "UNNEST" then
    let array ← parenthesized cx.expr
    return phrase [e, word (" " ++ negation ++ "IN UNNEST("), array, word ")"]
  expectSymbol "("
  let inside ← match ← attempt cx.inner.query with
    | some query => pure query.fragments
    | none =>
      let list ← if cx.dialect = .sqlite then commaListUntil ")" cx.expr else cx.exprs
      pure (Expr.commaSeparated list)
  expectSymbol ")"
  return phrase (e :: between (" " ++ negation ++ "IN (") inside ")")

def patternOperation (cx : Context) (e : Expr) (lead : String) : Parser Expr := do
  let pattern ← cx.subexpr .like
  let escape ← if ← keyword "ESCAPE" then pure [word " ESCAPE ", ← value cx.dialect] else pure []
  return phrase ([e, word lead, pattern] ++ escape)

/-- An operation that `NOT` may negate. -/
def negatableOperation (cx : Context) (e : Expr) : Parser Expr := do
  let negated ← keyword "NOT"
  let negation := if negated then "NOT " else ""
  match ← oneOfKeywords ["REGEXP", "RLIKE"] with
  | some name =>
    return phrase [e, word (" " ++ negation ++ name ++ " "), ← cx.subexpr .like]
  | none =>
    let null ← if cx.inColumn then pure false else keyword "NULL"
    if negated && null then return phrase [e, word " IS NOT NULL"]
    else if ← keyword "IN" then memberOperation cx e negation
    else if ← keyword "BETWEEN" then
      let low ← cx.subexpr .between
      expectKeyword "AND"
      let high ← cx.subexpr .between
      return phrase [e, word (" " ++ negation ++ "BETWEEN "), low, word " AND ", high]
    else if ← keyword "LIKE" then
      let any := if ← keyword "ANY" then "ANY " else ""
      patternOperation cx e (" " ++ negation ++ "LIKE " ++ any)
    else if ← keyword "ILIKE" then
      let any := if ← keyword "ANY" then "ANY " else ""
      patternOperation cx e (" " ++ negation ++ "ILIKE " ++ any)
    else if ← keywords ["SIMILAR", "TO"] then
      patternOperation cx e (" " ++ negation ++ "SIMILAR TO ")
    else expected "IN or BETWEEN after NOT"

/-- An operation with a syntax of its own, from after its first word. -/
def wordOperation (cx : Context) (rank : Nat) (e : Expr) (lexeme : Lexeme) : Parser Expr := do
  match lexeme.token.key with
  | "IS" => isOperation cx e
  | "AT" =>
    expectKeywords ["TIME", "ZONE"]
    return phrase [e, word " AT TIME ZONE ", ← cx.inner.subexpr cx.inColumn rank]
  | "NOTNULL" => return phrase [e, word " IS NOT NULL"]
  | "MEMBER" =>
    unless ← keyword "OF" do expected "OF after MEMBER"
    let array ← parenthesized cx.expr
    return phrase [e, word " MEMBER OF(", array, word ")"]
  | _ => expectedAt "an operator" (some lexeme)

def negatableWords : List String :=
  ["NOT", "IN", "BETWEEN", "LIKE", "ILIKE", "SIMILAR", "REGEXP", "RLIKE"]

/-- The operation of the next operator, whose rank is given, on the expression before it. -/
def operation (cx : Context) (rank : Nat) (e : Expr) : Parser Expr := do
  match ← peekLexeme with
  | none => expectedAt "an operator" none
  | some lexeme =>
    let key := lexeme.token.key
    let whole := (cx.dialect = .sqlite && ["REGEXP", "MATCH"].contains key) ||
      (cx.dialect = .mySql && key == "DIV")
    if whole then
      skip
      return .binary e key (← cx.expr)
    if negatableWords.contains key then negatableOperation cx e
    else
      skip
      match ← binaryOperator cx lexeme.token with
      | some operator => binaryOperation cx rank e operator (some lexeme.position)
      | none =>
        match lexeme.token with
        | .symbol "::" => return phrase [e, word ("::" ++ (← dataType cx.dialect).text)]
        | .symbol "!" =>
          if cx.dialect = .postgres then return phrase [e, word "!"]
          else expectedAt "an operator" (some lexeme)
        | _ => wordOperation cx rank e lexeme

/-- The operations after an expression whose operators bind more strongly than a rank. -/
def operations (cx : Context) (rank : Nat) : Nat → Expr → Parser Expr
  | 0, e => return e
  | fuel + 1, e => do
    let ahead := (← nextStrength cx).rank cx.dialect
    if ahead ≤ rank || (← peekSymbol ".") then return e
    operations cx rank fuel (← operation cx ahead e)

/-- An expression whose operators bind more strongly than a rank. -/
def expression (cx : Context) (rank : Nat) : Parser Expr := do
  let e ← compound cx
  let first ← if !cx.inColumn && (← peekKeyword "COLLATE") then
      skip
      pure (phrase [e, word (" COLLATE " ++ nameText (← objectName cx.dialect))])
    else pure e
  operations cx rank ((← get).length + 1) first

end Grammar

end RowStamp.Sql
