import RowStamp.Sql.Lexer.Strings

/-!
Punctuation and operators.  The longest of the known operators is taken; where the dialect has
operators of the user's own, further operator characters extend it.
-/

set_option autoImplicit false
set_option relaxedAutoImplicit false

namespace RowStamp.Sql

abbrev TokenScan := Except ScanFault (Token × List Char)

def symbolToken (text : String) (rest : List Char) : TokenScan := .ok (.symbol text, rest)

/-- The operator that starts with `text`: `whole` where nothing extends it. -/
def extendOperator (dialect : Dialect) (text : String) (whole : Option String)
    (cs : List Char) : TokenScan :=
  let more := cs.takeWhile dialect.extendsOperator
  if more.isEmpty then
    match whole with
    | some s => symbolToken s cs
    | none => .error (.operator text, cs)
  else .ok (.customOperator (text ++ String.ofList more), cs.drop more.length)

/-- The operator `text`, unless it is extended. -/
def operatorToken (dialect : Dialect) (text : String) (cs : List Char) : TokenScan :=
  extendOperator dialect text (some text) cs

/-- The token after `|`. -/
def afterBar (dialect : Dialect) : List Char → TokenScan
  | '/' :: cs => operatorToken dialect "|/" cs
  | '|' :: '/' :: cs => operatorToken dialect "||/" cs
  | '|' :: cs => operatorToken dialect "||" cs
  | '&' :: cs =>
    if dialect.geometry then
      match cs with
      | '>' :: ds => operatorToken dialect "|&>" ds
      | _ => extendOperator dialect "|&" none cs
    else symbolToken "|" ('&' :: cs)
  | '>' :: cs =>
    if dialect.geometry then
      match cs with
      | '>' :: ds => operatorToken dialect "|>>" ds
      | _ => extendOperator dialect "|>" none cs
    else if dialect = .generic then operatorToken dialect "|>" cs
    else symbolToken "|" ('>' :: cs)
  | cs => operatorToken dialect "|" cs

/-- The token after `<`. -/
def afterLess (dialect : Dialect) : List Char → TokenScan
  | '=' :: '>' :: cs => operatorToken dialect "<=>" cs
  | '=' :: cs => operatorToken dialect "<=" cs
  | '>' :: cs => operatorToken dialect "<>" cs
  | '<' :: '|' :: cs =>
    if dialect.geometry then operatorToken dialect "<<|" cs
    else operatorToken dialect "<<" ('|' :: cs)
  | '<' :: cs => operatorToken dialect "<<" cs
  | '@' :: cs => operatorToken dialect "<@" cs
  | cs =>
    if dialect.geometry then
      match cs with
      | '|' :: ds => extendOperator dialect "<<|" (some "<<|") ds
      | '-' :: '>' :: ds => operatorToken dialect "<->" ds
      | '-' :: ds => extendOperator dialect "<-" none ds
      | '^' :: ds => operatorToken dialect "<^" ds
      | _ => operatorToken dialect "<" cs
    else operatorToken dialect "<" cs

def afterGreater (dialect : Dialect) : List Char → TokenScan
  | '=' :: cs => operatorToken dialect ">=" cs
  | '>' :: cs => operatorToken dialect ">>" cs
  | '^' :: cs =>
    if dialect.geometry then operatorToken dialect ">^" cs
    else operatorToken dialect ">" ('^' :: cs)
  | cs => operatorToken dialect ">" cs

/-- The token after `!`. -/
def afterBang : List Char → TokenScan
  | '=' :: cs => symbolToken "<>" cs
  | '!' :: cs => symbolToken "!!" cs
  | '~' :: '*' :: cs => symbolToken "!~*" cs
  | '~' :: '~' :: '*' :: cs => symbolToken "!~~*" cs
  | '~' :: '~' :: cs => symbolToken "!~~" cs
  | '~' :: cs => symbolToken "!~" cs
  | cs => symbolToken "!" cs

/-- The token after `~`. -/
def afterTilde (dialect : Dialect) : List Char → TokenScan
  | '*' :: cs => operatorToken dialect "~*" cs
  | '=' :: cs =>
    if dialect.geometry then operatorToken dialect "~=" cs
    else operatorToken dialect "~" ('=' :: cs)
  | '~' :: '*' :: cs => operatorToken dialect "~~*" cs
  | '~' :: cs => operatorToken dialect "~~" cs
  | cs => operatorToken dialect "~" cs

def afterAmpersand (dialect : Dialect) : List Char → TokenScan
  | '&' :: cs => operatorToken dialect "&&" cs
  | '>' :: cs =>
    if dialect.geometry then symbolToken "&>" (cs.drop 1)
    else operatorToken dialect "&" ('>' :: cs)
  | '<' :: cs =>
    if dialect.geometry then
      match cs with
      | '|' :: ds => symbolToken "&<|" ds
      | _ => operatorToken dialect "&<" cs
    else operatorToken dialect "&" ('<' :: cs)
  | cs => operatorToken dialect "&" cs

/-- The operator token after `?`, where `?` is an operator. -/
def afterQuestion : List Char → TokenScan
  | '|' :: '|' :: cs => symbolToken "?||" cs
  | '|' :: cs => symbolToken "?|" cs
  | '&' :: cs => symbolToken "?&" cs
  | '-' :: '|' :: cs => symbolToken "?-|" cs
  | '-' :: cs => symbolToken "?-" cs
  | '#' :: cs => symbolToken "?#" cs
  | cs => symbolToken "?" cs

def afterColon : List Char → TokenScan
  | ':' :: cs => symbolToken "::" cs
  | '=' :: cs => symbolToken ":=" cs
  | cs => symbolToken ":" cs

def afterEquals : List Char → TokenScan
  | '>' :: cs => symbolToken "=>" cs
  | '=' :: cs => symbolToken "==" cs
  | cs => symbolToken "=" cs

def afterCaret : List Char → TokenScan
  | '@' :: cs => symbolToken "^@" cs
  | cs => symbolToken "^" cs

end RowStamp.Sql
