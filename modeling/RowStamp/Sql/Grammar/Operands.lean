import RowStamp.Sql.Grammar.Forms

/-!
Operands: what an expression starts with before any operator, and the parts and subscripts that
may follow at once.
-/

set_option autoImplicit false
set_option relaxedAutoImplicit false

namespace RowStamp.Sql

namespace Grammar

open RowStamp.Sql.Parser

/-- A type and a constant of it; nothing is consumed where there is none. -/
def typedConstant (cx : Context) : Parser (Option Expr) :=
  attempt do
    let start ← peekLexeme
    let type ← dataType cx.dialect
    match type.kind with
    | .interval => intervalForm cx
    | .custom => expectedAt "a constant" start
    | .binary =>
      if cx.dialect = .mySql then return phrase [word "CAST(", ← cx.expr, word " AS BINARY)"]
      else return led (type.text ++ " ") (← value cx.dialect)
    | .named => return led (type.text ++ " ") (← value cx.dialect)

/-- Functions that are called without parentheses, by their key. -/
def sessionWords : List String := ["CURRENT_CATALOG", "CURRENT_USER", "SESSION_USER", "USER"]

/-- Functions of the time that may be called without parentheses, by their key. -/
def timeWords : List String :=
  ["CURRENT_TIMESTAMP", "CURRENT_TIME", "CURRENT_DATE", "LOCALTIME", "LOCALTIMESTAMP"]

/-- An array: a list of elements in brackets, the rows of a query, or neither. -/
def namedArray (cx : Context) : Parser (Option Expr) := do
  if ← symbol "[" then return some (← arrayForm cx "ARRAY")
  if ← peekSymbol "(" then return some (phrase (word "ARRAY" :: (← cx.subquery)))
  return none

/-- The expression that a reserved word opens, from after the word; nothing where the word opens
none. -/
def reservedForm (cx : Context) (name : Ident) (lexeme : Lexeme) : Parser (Option Expr) := do
  let dialect := cx.dialect
  match lexeme.token.key with
  | "NULL" => some <$> wordValue dialect name.value name.quote (some lexeme)
  | "TRUE" => truth
  | "FALSE" => truth
  | "CASE" => some <$> caseForm cx
  | "CONVERT" => some <$> convertForm cx "CONVERT"
  | "TRY_CONVERT" =>
    if dialect = .generic then some <$> convertForm cx "TRY_CONVERT" else return none
  | "CAST" => some <$> castForm cx "CAST"
  | "TRY_CAST" => some <$> castForm cx "TRY_CAST"
  | "SAFE_CAST" => some <$> castForm cx "SAFE_CAST"
  | "EXISTS" => some <$> existsForm cx false
  | "EXTRACT" => some <$> extractForm cx
  | "CEIL" => some <$> roundForm cx "CEIL"
  | "FLOOR" => some <$> roundForm cx "FLOOR"
  | "POSITION" =>
    if ← peekSymbol "(" then
      match ← attempt (positionForm cx) with
      | some e => return some e
      | none => some <$> call cx name.text
    else return none
  | "SUBSTR" => some <$> substringForm cx "SUBSTR"
  | "SUBSTRING" => some <$> substringForm cx "SUBSTRING"
  | "OVERLAY" => some <$> overlayForm cx
  | "TRIM" => some <$> trimForm cx
  | "INTERVAL" => some <$> intervalForm cx
  | "ARRAY" => namedArray cx
  | "NOT" => some <$> notForm cx
  | "MATCH" =>
    if dialect.oneOf [.generic, .mySql] then some <$> matchForm cx else return none
  | "STRUCT" => if dialect = .generic then some <$> structForm cx else return none
  | "MAP" =>
    if dialect = .generic && (← peekSymbol "\x7b") then some <$> mapForm cx else return none
  | key =>
    if sessionWords.contains key && dialect.oneOf [.generic, .postgres] then
      return some (word name.text)
    else if timeWords.contains key then
      if ← symbol "(" then return some (phrase (word name.text :: (← arguments cx).1))
      else return some (word name.text)
    else if shapeTypes.contains key && dialect.geometry then
      return some (led (key ++ " ") (← value dialect))
    else return none
where
  /-- A truth value, where the dialect has them. -/
  truth : Parser (Option Expr) :=
    if cx.dialect.booleanLiterals then
      some <$> wordValue cx.dialect name.value name.quote (some lexeme)
    else return none

def outerJoinMarkAhead (dialect : Dialect) : Parser Bool := do
  if dialect.outerJoinMarks then
    return (← peekTokens 3) == [.symbol "(", .symbol "+", .symbol ")"]
  else return false

/-- What a word that is not reserved starts, from after the word: a call, a string of a character
set, or a name. -/
def plainForm (cx : Context) (name : Ident) : Parser Expr := do
  let marked ← outerJoinMarkAhead cx.dialect
  match (← peekLexeme).map Lexeme.token with
  | some (.symbol "(") => if marked then return .name [name] else call cx name.text
  | some (.string form value) =>
    let introduced := form == .plain || form == .doubleQuoted || form == .hex
    if introduced && name.value.startsWith "_" then
      skip
      return phrase [word (name.text ++ " "), .literal (.string form value)]
    else return .name [name]
  | _ => return .name [name]

/-- Words that are never names where an expression that they open fails. -/
def strictWords : List String := ["EXISTS", "INTERVAL", "STRUCT", "TRIM"]

/-- What a word starts, from after the word.  Where the word is reserved and what follows does not
fit it, the word is a name if it may be. -/
def wordForm (cx : Context) (name : Ident) (lexeme : Lexeme) : Parser Expr := do
  match ← tried (reservedForm cx name lexeme) with
  | .ok (some e) => return e
  | .ok none => plainForm cx name
  | .error fault =>
    if strictWords.contains lexeme.token.key then throw fault
    match ← tried (plainForm cx name) with
    | .ok e => return e
    | .error _ => throw fault

def signed (cx : Context) (sign : String) (strength : Strength) : Parser Expr := do
  return led sign (← cx.subexpr strength)

/-- What an opening parenthesis starts, from after it: a query, an expression in parentheses or a
tuple. -/
def parenthesesForm (cx : Context) : Parser Expr := do
  let e ← match (← peekLexeme).map (fun lexeme => lexeme.token.key) with
    | some "SELECT" => subquery
    | some "WITH" => subquery
    | _ =>
      match ← cx.normal.exprs with
      | [e] => pure (Expr.nested e)
      | items => pure (Expr.tuple items)
  expectSymbol ")"
  return e
where
  /-- A query, up to the closing parenthesis. -/
  subquery : Parser Expr := do
    let query ← cx.inner.query
    return phrase (between "(" query.fragments ")")

def shapeSigns : List String := ["#", "@-@", "@@", "?-", "?|"]

/-- What a symbol starts, from after it; nothing where it starts no expression. -/
def symbolForm? (cx : Context) (s : String) (lexeme : Lexeme) : Option (Parser Expr) :=
  if s = "[" then some (arrayForm cx "")
  else if s = "+" || s = "-" then some (signed cx s .timesDivide)
  else if s = "~" then some (signed cx s .plusMinus)
  else if s = "(" then some (parenthesesForm cx)
  else if s = "\x7b" then some (bracedForm cx (some lexeme))
  else if cx.dialect = .postgres && ["!!", "|/", "||/", "@"].contains s then
    some (signed cx s .plusMinus)
  else if cx.dialect.geometry && shapeSigns.contains s then
    some (signed cx (s ++ " ") .plusMinus)
  else none

def operand (cx : Context) : Parser Expr := do
  match ← typedConstant cx with
  | some e => return e
  | none =>
    match ← peekLexeme with
    | none => expectedAt "an expression" none
    | some lexeme =>
      match lexeme.token with
      | .word value quote =>
        skip
        wordForm cx ⟨value, quote⟩ lexeme
      | .symbol s =>
        match symbolForm? cx s lexeme with
        | some parser =>
          skip
          parser
        | none => valueOrFault lexeme
      | _ => valueOrFault lexeme
where
  /-- A constant or a placeholder. -/
  valueOrFault (lexeme : Lexeme) : Parser Expr :=
    if startsValue cx.dialect lexeme.token then value cx.dialect
    else expectedAt "an expression" (some lexeme)

/-! ### Parts and subscripts -/

/-- A subscript: an index or a slice, from after the opening bracket through the closing one. -/
def subscript (cx : Context) : Parser Fragments := do
  let lower ← if ← peekSymbol ":" then pure [] else pure [← cx.expr]
  if !lower.isEmpty && (← peekSymbol "]") then
    skip
    return between "[" lower "]"
  expectSymbol ":"
  if ← symbol "]" then return between "[" (lower ++ [word ":"]) "]"
  let upper ← cx.expr
  if ← symbol "]" then return between "[" (lower ++ [word ":", upper]) "]"
  expectSymbol ":"
  if ← symbol "]" then return between "[" (lower ++ [word ":", upper]) "]"
  let stride ← cx.expr
  expectSymbol "]"
  return between "[" (lower ++ [word ":", upper, word ":", stride]) "]"

/-- An expression and a part of it: a longer name where both are names. -/
def joinPart (root part : Expr) : Expr :=
  match root, part with
  | .name parts, .name more => .name (parts ++ more)
  | _, _ => phrase [root, word ".", part]

def isName : Expr → Bool
  | .name _ => true
  | _ => false

def parts (cx : Context) : Nat → Expr → Parser Expr
  | 0, root => return root
  | fuel + 1, root => do
    match ← peekTokens 2 with
    | [.symbol ".", .symbol "*"] =>
      if cx.dialect = .postgres then
        skip
        skip
        if isName root then return phrase [root, word ".*"]
        else expected "an identifier or a '*' after '.'"
      else return root
    | [.symbol ".", .string .plain value] =>
      skip
      skip
      parts cx fuel (joinPart root (.name [⟨value, some '\''⟩]))
    | [.symbol ".", .placeholder text] =>
      skip
      skip
      parts cx fuel (joinPart root (.name [Ident.plain text]))
    | .symbol "." :: _ =>
      skip
      parts cx fuel (joinPart root (← cx.subexpr .period))
    | .symbol "[" :: _ =>
      skip
      parts cx fuel (phrase (root :: (← subscript cx)))
    | _ =>
      if ← outerJoinMarkAhead cx.dialect then
        for _ in [1, 2, 3] do skip
        return phrase [root, word " (+)"]
      else return root

def compound (cx : Context) : Parser Expr := do
  let root ← operand cx
  parts cx ((← get).length + 1) root

end Grammar

end RowStamp.Sql
