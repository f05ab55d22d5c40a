import RowStamp.Sql.Grammar.Fault
import RowStamp.Sql.Statement

/-!
Parsers over tokens, and the parsers that all clauses share: keywords, symbols, lists, names.
-/

set_option autoImplicit false
set_option relaxedAutoImplicit false

namespace RowStamp.Sql

/-- A parser: from the tokens ahead to a result and the tokens after it, or a fault. -/
abbrev Parser := StateT (List Lexeme) (Except SyntaxFault)

namespace Parser

def ahead (lexemes : List Lexeme) : List Lexeme := lexemes.dropWhile (·.token.isBlank)

def peekLexeme : Parser (Option Lexeme) := fun lexemes => .ok ((ahead lexemes).head?, lexemes)

def place : Parser (Option Position) := return (← peekLexeme).map Lexeme.position

def peekTokens (n : Nat) : Parser (List Token) := fun lexemes =>
  .ok (((lexemes.filter (!·.token.isBlank)).take n).map Lexeme.token, lexemes)

def next : Parser (Option Lexeme) := fun lexemes =>
  .ok ((ahead lexemes).head?, (ahead lexemes).tail)

def nextTouching : Parser (Option Lexeme) := fun lexemes => .ok (lexemes.head?, lexemes.tail)

def skip : Parser Unit := fun lexemes => .ok ((), (ahead lexemes).tail)

def expectedAt {α : Type} (what : String) (found : Option Lexeme) : Parser α :=
  throw (.expected what found)

def expected {α : Type} (what : String) : Parser α := do expectedAt what (← peekLexeme)

/-- The result of a parser, or nothing, with nothing consumed, where it fails other than by
depth. -/
def attempt {α : Type} (p : Parser α) : Parser (Option α) := fun lexemes =>
  match p lexemes with
  | .ok (a, rest) => .ok (some a, rest)
  | .error .depth => .error .depth
  | .error _ => .ok (none, lexemes)

/-- A parser whose fault, if any, becomes a value; nothing is consumed then. -/
def tried {α : Type} (p : Parser α) : Parser (Except SyntaxFault α) := fun lexemes =>
  match p lexemes with
  | .ok (a, rest) => .ok (.ok a, rest)
  | .error fault => .ok (.error fault, lexemes)

def peekKeyword (keyword : String) : Parser Bool := do
  match ← peekLexeme with
  | some lexeme => return lexeme.token.key == keyword
  | none => return false

def peekSymbol (symbol : String) : Parser Bool := do
  match ← peekLexeme with
  | some lexeme => return lexeme.token == .symbol symbol
  | none => return false

def keyword (keyword : String) : Parser Bool := do
  if ← peekKeyword keyword then skip; return true else return false

/-- Consumes keywords, where all of them are next, in order. -/
def keywords (list : List String) : Parser Bool := do
  let tokens ← peekTokens list.length
  if tokens.map Token.key == list then
    for _ in list do skip
    return true
  else return false

def oneOfKeywords (list : List String) : Parser (Option String) := do
  match ← peekLexeme with
  | some lexeme =>
    if list.contains lexeme.token.key then skip; return some lexeme.token.key else return none
  | none => return none

def symbol (symbol : String) : Parser Bool := do
  if ← peekSymbol symbol then skip; return true else return false

def expectKeyword (name : String) : Parser Unit := do
  unless ← keyword name do expected name

def expectKeywords (list : List String) : Parser Unit := do
  for name in list do expectKeyword name

def expectOneOf (list : List String) : Parser String := do
  match ← oneOfKeywords list with
  | some name => return name
  | none => expected ("one of " ++ " or ".intercalate list)

def expectSymbol (name : String) : Parser Unit := do
  unless ← symbol name do expected name

/-- Elements with commas between them.  Each one but the last consumes a comma, so the number of
tokens ahead bounds the list; where `trailing` holds after a comma, the list ends there. -/
def commaListFrom {α : Type} (trailing : Token → Bool) (element : Parser α) :
    Nat → Parser (List α)
  | 0 => return []
  | fuel + 1 => do
    let first ← element
    if ← symbol "," then
      let stops := match ← peekLexeme with
        | some lexeme => trailing lexeme.token
        | none => trailing (.symbol ";")
      if stops then return [first]
      let more ← commaListFrom trailing element fuel
      return first :: more
    else return [first]

/-- Elements with commas between them, at least one. -/
def commaList {α : Type} (element : Parser α) : Parser (List α) := do
  commaListFrom (fun _ => false) element ((← get).length + 1)

/-- Elements with commas between them, none where `close` is next. -/
def commaListUntil {α : Type} (close : String) (element : Parser α) : Parser (List α) := do
  if ← peekSymbol close then return [] else commaList element

def parenthesized {α : Type} (inner : Parser α) : Parser α := do
  expectSymbol "("
  let a ← inner
  expectSymbol ")"
  return a

def ident? : Token → Option Ident
  | .word value quote => some ⟨value, quote⟩
  | .string .plain value => some ⟨value, some '\''⟩
  | .string .doubleQuoted value => some ⟨value, some '"'⟩
  | _ => none

def identifier : Parser Ident := do
  let lexeme ← next
  match lexeme.bind (fun l => ident? l.token) with
  | some ident => return ident
  | none => expectedAt "identifier" lexeme

/-- The parts of a name, given how many were read. -/
def nameFrom (dialect : Dialect) : Nat → Nat → Parser (List Ident)
  | 0, _ => return []
  | fuel + 1, count => do
    let first ← identifier
    if count == 0 && dialect.emptyNameParts && (← peekTokens 2) == [.symbol ".", .symbol "."] then
      skip
      skip
      let more ← nameFrom dialect fuel 2
      return first :: Ident.plain "" :: more
    else if ← symbol "." then
      let more ← nameFrom dialect fuel (count + 1)
      return first :: more
    else return [first]

def objectName (dialect : Dialect) : Parser (List Ident) := do
  nameFrom dialect ((← get).length + 1) 0

/-- Identifiers between parentheses; where `allowEmpty` holds there may be none. -/
def identifierList (allowEmpty : Bool) : Parser (List Ident) := do
  unless ← symbol "(" do expected "a list of columns in parentheses"
  if allowEmpty && (← peekSymbol ")") then
    skip
    return []
  let idents ← commaList identifier
  expectSymbol ")"
  return idents

/-- The identifiers between parentheses, where there are parentheses. -/
def optionalIdentifierList (allowEmpty : Bool) : Parser (List Ident) := do
  if ← peekSymbol "(" then identifierList allowEmpty else return []

def unsigned : Parser Nat := do
  let lexeme ← next
  match lexeme with
  | some ⟨.number digits _, position⟩ =>
    if digits.toList.all Char.isDigit then
      let n := digits.toList.foldl (fun n c => n * 10 + (c.toNat - '0'.toNat)) 0
      if n < UInt64.size then return n else throw (.notUnsigned digits true (some position))
    else throw (.notUnsigned digits false (some position))
  | _ => expectedAt "literal int" lexeme

def word (text : String) : Expr := .word text

def between (opening : String) (parts : Fragments) (closing : String) : Fragments :=
  word opening :: parts ++ [word closing]

end Parser

end RowStamp.Sql
