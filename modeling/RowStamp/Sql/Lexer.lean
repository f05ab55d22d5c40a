import RowStamp.Sql.Lexer.Words

/-!
The tokens of a text, in order, each with its place.  White space and comments are tokens too: the
reader passes over them, except where a mark and its name must touch.
-/

set_option autoImplicit false
set_option relaxedAutoImplicit false

namespace RowStamp.Sql

/-- A string literal whose opening quote is the first character. -/
def stringToken (dialect : Dialect) (form : StringForm) (backslash : Bool)
    (cs : List Char) : TokenScan :=
  match stringValue ⟨form.quote, backslash, dialect.backslashEscapes⟩ (cs.drop 1) with
  | some (value, rest) => .ok (.string form (String.ofList value), rest)
  | none => .error (.openString, cs)

/-- A quoted identifier whose opening quote is `c`. -/
def quotedWord (c : Char) (cs : List Char) : TokenScan :=
  match quotedValue (closingQuote c) cs with
  | some (value, rest) => .ok (.word (String.ofList value) (some c), rest)
  | none => .error (.openIdentifier (closingQuote c), c :: cs)

def letteredString? (dialect : Dialect) (c : Char) (cs : List Char) : Option TokenScan :=
  match c.toUpper, cs with
  | 'B', '\'' :: _ =>
    if dialect.bitStrings then some (stringToken dialect .bits false cs) else none
  | 'B', '"' :: _ =>
    if dialect.bitStrings then some (stringToken dialect .doubleBits false cs) else none
  | 'R', '\'' :: _ =>
    if dialect.rawStrings then some (stringToken dialect .raw false cs) else none
  | 'R', '"' :: _ =>
    if dialect.rawStrings then some (stringToken dialect .doubleRaw false cs) else none
  | 'N', '\'' :: _ => some (stringToken dialect .national dialect.backslashEscapes cs)
  | 'E', '\'' :: body =>
    if dialect.escapeStrings then
      some <| match escapeStringValue (body.length + 1) body with
        | some (value, rest) => .ok (.string .escape (String.ofList value), rest)
        | none => .error (.openEscapeString, c :: cs)
    else none
  | 'U', '&' :: '\'' :: body =>
    if dialect.unicodeStrings then
      some <| match unicodeStringValue (body.length + 1) body with
        | .ok (value, rest) => .ok (.string .unicode (String.ofList value), rest)
        | .error fault => .error fault
    else none
  | 'X', '\'' :: _ => some (stringToken dialect .hex true cs)
  | _, _ => none

/-- The token after `-`. -/
def afterMinus (dialect : Dialect) : List Char → TokenScan
  | '-' :: cs =>
    let spaced := match cs with
      | c :: _ => Text.isBlank c
      | [] => false
    if !dialect.spacedComments || spaced then .ok (lineComment dialect ['-', '-'] cs)
    else operatorToken dialect "-" ('-' :: cs)
  | '>' :: '>' :: cs => operatorToken dialect "->>" cs
  | '>' :: cs => operatorToken dialect "->" cs
  | cs => operatorToken dialect "-" cs

/-- The token after `/`. -/
def afterSlash (dialect : Dialect) : List Char → TokenScan
  | '*' :: cs =>
    match blockComment dialect.nestedComments 0 cs with
    | some (text, rest) => .ok (.blank (String.ofList ('/' :: '*' :: text ++ ['*', '/'])), rest)
    | none => .error (.openComment, [])
  | '/' :: cs =>
    if dialect.integerDivision then symbolToken "//" cs else symbolToken "/" ('/' :: cs)
  | cs => symbolToken "/" cs

def afterPercent (dialect : Dialect) : List Char → TokenScan
  | c :: cs =>
    if Text.isBlank c then symbolToken "%" (c :: cs) else operatorToken dialect "%" (c :: cs)
  | [] => symbolToken "%" []

/-- The token after `#`, where it opens no comment. -/
def afterHash (dialect : Dialect) : List Char → TokenScan
  | '-' :: cs => operatorToken dialect "#-" cs
  | '>' :: '>' :: cs => operatorToken dialect "#>>" cs
  | '>' :: cs => operatorToken dialect "#>" cs
  | ' ' :: cs => symbolToken "#" (' ' :: cs)
  | c :: cs =>
    if c = '#' && dialect.geometry then operatorToken dialect "##" cs
    else if dialect.startsIdentifier '#' then .ok (wordToken dialect ['#', c] cs)
    else operatorToken dialect "#" (c :: cs)
  | [] => operatorToken dialect "#" []

/-- The token after `@`. -/
def afterAt (dialect : Dialect) : List Char → TokenScan
  | [] => symbolToken "@" []
  | c :: cs =>
    if c = '@' && dialect.geometry then symbolToken "@@" cs
    else if c = '-' && dialect.geometry then
      match cs with
      | '@' :: ds => symbolToken "@-@" ds
      | _ => extendOperator dialect "@-" none cs
    else if c = '>' then symbolToken "@>" cs
    else if c = '?' then symbolToken "@?" cs
    else if c = '@' then
      match cs with
      | ' ' :: _ => symbolToken "@@" cs
      | d :: ds =>
        if dialect.startsIdentifier '@' then .ok (wordToken dialect ['@', '@', d] ds)
        else symbolToken "@@" cs
      | [] => symbolToken "@@" []
    else if c = ' ' || c = '\'' || c = '"' || c = '\x60' then symbolToken "@" (c :: cs)
    else if dialect.startsIdentifier '@' then .ok (wordToken dialect ['@', c] cs)
    else symbolToken "@" (c :: cs)

/-- The first token of a text that starts with `c`. -/
def tokenFrom (dialect : Dialect) (previous : Option Token) (c : Char)
    (cs : List Char) : TokenScan :=
  match letteredString? dialect c cs with
  | some scan => scan
  | none =>
    if c = ' ' || c = '\t' || c = '\n' then .ok (.blank c.toString, cs)
    else if c = '\r' then
      match cs with
      | '\n' :: rest => .ok (.blank "\n", rest)
      | _ => .ok (.blank "\n", cs)
    else if c = '\'' then stringToken dialect .plain dialect.backslashEscapes (c :: cs)
    else if dialect.opensQuoted c then quotedWord c cs
    else if c = '"' then stringToken dialect .doubleQuoted dialect.backslashEscapes (c :: cs)
    else if c.isDigit || c = '.' then numberToken dialect previous (c :: cs)
    else if c = '#' && dialect.hashComments then .ok (lineComment dialect ['#'] cs)
    else if c = '?' && !dialect.geometry then
      let digits := cs.takeWhile Text.isNumeral
      .ok (.placeholder (String.ofList ('?' :: digits)), cs.drop digits.length)
    else
      match c with
      | '(' => symbolToken "(" cs
      | ')' => symbolToken ")" cs
      | ',' => symbolToken "," cs
      | ';' => symbolToken ";" cs
      | '\\' => symbolToken "\\" cs
      | '[' => symbolToken "[" cs
      | ']' => symbolToken "]" cs
      | '\x7b' => symbolToken "\x7b" cs
      | '\x7d' => symbolToken "\x7d" cs
      | '+' => symbolToken "+" cs
      | '*' => symbolToken "*" cs
      | '-' => afterMinus dialect cs
      | '/' => afterSlash dialect cs
      | '%' => afterPercent dialect cs
      | '|' => afterBar dialect cs
      | '=' => afterEquals cs
      | '!' => afterBang cs
      | '<' => afterLess dialect cs
      | '>' => afterGreater dialect cs
      | ':' => afterColon cs
      | '&' => afterAmpersand dialect cs
      | '^' => afterCaret cs
      | '~' => afterTilde dialect cs
      | '#' => afterHash dialect cs
      | '@' => afterAt dialect cs
      | '?' => afterQuestion cs
      | _ =>
        if dialect.startsIdentifier c then .ok (wordToken dialect [c] cs)
        else if c = '$' then afterDollar dialect cs
        else if Text.isBlank c then .ok (.blank " ", cs)
        else .ok (.other c, cs)

/-- Why a text has no tokens, and the place. -/
structure LexicalError where
  fault : LexicalFault
  position : Position
  deriving DecidableEq, Repr

/-- The tokens from a place on, after `previous`.  The fuel bounds the number of tokens. -/
def lexemesFrom (dialect : Dialect) : Nat → Option Token → Position → List Char →
    Except LexicalError (List Lexeme)
  | 0, _, _, _ => .ok []
  | _, _, _, [] => .ok []
  | fuel + 1, previous, position, c :: cs =>
    match tokenFrom dialect previous c cs with
    | .error (fault, rest) => .error ⟨fault, position.reach (c :: cs) rest⟩
    | .ok (token, rest) => do
      let more ← lexemesFrom dialect fuel (some token) (position.reach (c :: cs) rest) rest
      pure (⟨token, position⟩ :: more)

/-- The SQL in an executable comment: what follows the mark and the digits of a version. -/
def executableText? (dialect : Dialect) : Token → Option (List Char)
  | .blank text =>
    match dialect.executableComments, text.toList with
    | true, '/' :: '*' :: '!' :: body =>
      some ((body.take (body.length - 2)).dropWhile Char.isDigit)
    | _, _ => none
  | _ => none

/-- Executable comments replaced by the tokens of their text, which count their places from the
start of the comment. -/
def expandComments (dialect : Dialect) : List Lexeme → Except LexicalError (List Lexeme)
  | [] => .ok []
  | lexeme :: rest => do
    let inner ← match executableText? dialect lexeme.token with
      | some body => lexemesFrom dialect (body.length + 1) none lexeme.position body
      | none => pure [lexeme]
    let more ← expandComments dialect rest
    pure (inner ++ more)

def lexemes (dialect : Dialect) (text : String) : Except LexicalError (List Lexeme) := do
  let cs := text.toList
  let plain ← lexemesFrom dialect (cs.length + 1) none Position.start cs
  expandComments dialect plain

end RowStamp.Sql
