import RowStamp.Sql.Grammar.Context

/-!
Constants and placeholders.
-/

set_option autoImplicit false
set_option relaxedAutoImplicit false

namespace RowStamp.Sql

namespace Grammar

open RowStamp.Sql.Parser

def joinedStrings : Nat → Parser String
  | 0 => return ""
  | fuel + 1 => do
    match (← peekLexeme).map Lexeme.token with
    | some (.string .plain value) =>
      skip
      return value ++ (← joinedStrings fuel)
    | some (.string .doubleQuoted value) =>
      skip
      return value ++ (← joinedStrings fuel)
    | _ => return ""

/-- A string literal of a form, joined with the strings after it where the dialect joins them. -/
def stringLiteral (dialect : Dialect) (form : StringForm) (value : String) : Parser Expr := do
  let joins := dialect.joinsStrings && (form == .plain || form == .doubleQuoted)
  let more ← if joins then joinedStrings ((← get).length + 1) else pure ""
  return .literal (.string form (value ++ more))

def markedPlaceholder (mark : String) : Parser Expr := do
  let lexeme ← nextTouching
  match lexeme.map Lexeme.token with
  | some (.word value _) => return .placeholder (mark ++ value)
  | some (.number digits false) => return .placeholder (mark ++ digits)
  | _ => expectedAt "placeholder" lexeme

def wordValue (dialect : Dialect) (value : String) (quote : Option Char) (lexeme : Option Lexeme) :
    Parser Expr :=
  match (Token.word value quote).key, quote with
  | _, some '"' => return .literal (.string .doubleQuoted value)
  | _, some '\'' => return .literal (.string .plain value)
  | _, some _ => expectedAt "A value?" lexeme
  | key, none =>
    if key = "NULL" then return .literal .null
    else if key = "TRUE" && dialect.booleanLiterals then return .literal (.truth true)
    else if key = "FALSE" && dialect.booleanLiterals then return .literal (.truth false)
    else expectedAt "a concrete value" lexeme

def value (dialect : Dialect) : Parser Expr := do
  let lexeme ← next
  match lexeme.map Lexeme.token with
  | some (.word value quote) => wordValue dialect value quote lexeme
  | some (.number digits long) => return .literal (.number digits long)
  | some (.string .escape value) =>
    if dialect.escapeStrings then return .literal (.string .escape value)
    else expectedAt "a value" lexeme
  | some (.string form value) => stringLiteral dialect form value
  | some (.dollarString tag value) => return .literal (.dollarString tag value)
  | some (.placeholder text) => return .placeholder text
  | some (.symbol ":") => markedPlaceholder ":"
  | some (.symbol "@") => markedPlaceholder "@"
  | _ => expectedAt "a value" lexeme

/-- A token that can only be read as a constant or a placeholder. -/
def startsValue (dialect : Dialect) : Token → Bool
  | .number _ _ => true
  | .string .escape _ => dialect.escapeStrings
  | .string _ _ => true
  | .dollarString _ _ => true
  | .placeholder _ => true
  | .symbol ":" => true
  | .symbol "@" => true
  | _ => false

end Grammar

end RowStamp.Sql
