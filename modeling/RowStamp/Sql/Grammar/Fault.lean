import RowStamp.Sql.Lexer

/-!
Why a text is not a statement, and the wording of each cause.
-/

set_option autoImplicit false
set_option relaxedAutoImplicit false

namespace RowStamp.Sql

def LexicalFault.message : LexicalFault → String
  | openString => "Unterminated string literal"
  | openEscapeString => "Unterminated encoded string literal"
  | openUnicodeString => "Unterminated unicode encoded string literal"
  | openIdentifier close => "Expected close delimiter '" ++ close.toString ++ "' before EOF."
  | openComment => "Unexpected EOF while in a multi-line comment"
  | openDollarString => "Unterminated dollar-quoted string"
  | openTaggedString => "Unterminated dollar-quoted, expected $"
  | hexEnd => "Unexpected EOF while parsing hex digit in escaped unicode string."
  | hexDigit c => "Invalid hex digit in escaped unicode string: " ++ c.toString
  | codePoint n => "Invalid unicode character: " ++ String.ofList (Nat.toDigits 16 n)
  | underscore => "Unexpected character '_'"
  | operator text => "Expected a valid binary operator after '" ++ text ++ "'"

/-- Why tokens are not a statement. -/
inductive SyntaxFault where
  | lexical (error : LexicalError)
  | expected (what : String) (found : Option Lexeme)
  | unsupportedReplace (place : Option Position)
  | intervalUnit (place : Option Position)
  | joinKind (side : String)
  | allAndDistinct (place : Option Position)
  | fromAsValue (name : String) (place : Option Position)
  | comparison (operator : String) (place : Option Position)
  | duplicateAlias (name : String)
  | nestedExplain
  | notUnsigned (digits : String) (tooLarge : Bool) (place : Option Position)
  | scaleKind
  | extractSeparator
  | sampleSize (place : Option Position)
  | depth
  deriving DecidableEq, Repr

namespace SyntaxFault

/-- A wording and its place, where there is one. -/
def placed (wording : String) (place : Option Position) : String :=
  match place with
  | some position => wording ++ position.suffix
  | none => wording

/-- The text shown for what was found: past the last token, the end of the text. -/
def foundText (found : Option Lexeme) : String :=
  match found with
  | some lexeme => lexeme.token.text
  | none => "EOF"

def message : SyntaxFault → String
  | lexical error => placed error.fault.message (some error.position)
  | expected what found =>
    placed ("Expected: " ++ what ++ ", found: " ++ foundText found) (found.map Lexeme.position)
  | unsupportedReplace place => placed "Unsupported statement REPLACE" place
  | intervalUnit place => placed "INTERVAL requires a unit after the literal value" place
  | joinKind side => "expected OUTER, SEMI, ANTI or JOIN after " ++ side
  | allAndDistinct place => placed "Cannot specify both ALL and DISTINCT" place
  | fromAsValue name place => placed ("Expected an expression, found: " ++ name) place
  | comparison operator place =>
    placed ("Expected one of [=, >, <, =>, =<, !=, ~, ~*, !~, !~*, ~~, ~~*, !~~, !~~*] " ++
      "as comparison operator, found: " ++ operator) place
  | duplicateAlias name => "duplicate alias " ++ name
  | nestedExplain => "Explain must be root of the plan"
  | notUnsigned digits tooLarge place =>
    placed ("Could not parse '" ++ digits ++ "' as u64: " ++
      if tooLarge then "number too large to fit in target type"
      else "invalid digit found in string") place
  | scaleKind => "Scale field can only be of number type"
  | extractSeparator => "Expected 'FROM' or ','"
  | sampleSize place => placed "Expecting number or byte length e.g. 100M" place
  | depth => "recursion limit exceeded"

end SyntaxFault

/-- Why a text is not exactly one statement. -/
inductive ParseFault where
  | syntactic (fault : SyntaxFault)
  | statementCount (n : Nat)
  deriving DecidableEq, Repr

def ParseFault.message : ParseFault → String
  | syntactic fault => "sql parser error: " ++ fault.message
  | statementCount n => "expected a single statement, found " ++ toString n

end RowStamp.Sql
