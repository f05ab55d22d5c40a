import RowStamp.Sql.Lexer.Operators

/-!
Words, numbers, placeholders and comments.
-/

set_option autoImplicit false
set_option relaxedAutoImplicit false

namespace RowStamp.Sql

def wordToken (dialect : Dialect) (lead : List Char) (cs : List Char) : Token × List Char :=
  let more := cs.takeWhile dialect.continuesIdentifier
  (.word (String.ofList (lead ++ more)) none, cs.drop more.length)

/-- A digit, or a separator before a hexadecimal digit where the dialect has separators; the
characters that `p` accepts count as digits. -/
def digitRun (dialect : Dialect) (p : Char → Bool) : List Char → List Char × List Char
  | [] => ([], [])
  | c :: cs =>
    let separates := dialect.digitSeparators && c = '_' &&
      match cs with
      | d :: _ => (hexValue? d).isSome
      | [] => false
    if p c || separates then
      let (run, rest) := digitRun dialect p cs
      (c :: run, rest)
    else ([], c :: cs)

/-- The letter and sign that may open an exponent, the digits after them, and the rest. -/
def exponentRun : List Char → List Char × List Char × List Char
  | e :: cs =>
    if e = 'e' || e = 'E' then
      match cs with
      | s :: ds =>
        if s = '+' || s = '-' then
          ([e, s], ds.takeWhile Char.isDigit, ds.dropWhile Char.isDigit)
        else ([e], cs.takeWhile Char.isDigit, cs.dropWhile Char.isDigit)
      | [] => ([e], [], [])
    else ([], [], e :: cs)
  | [] => ([], [], [])

/-- What a number's digits become once all of them are read: a word where words may start with
digits, else a number with an optional mark of length. -/
def finishNumber (dialect : Dialect) (afterPeriod : Bool) (digits opening exponent : List Char)
    (cs : List Char) : Token × List Char :=
  let text := digits ++ exponent
  let plain :=
    match cs with
    | 'L' :: rest => (Token.number (String.ofList text) true, rest)
    | _ => (Token.number (String.ofList text) false, cs)
  if dialect.numericWords then
    if opening.isEmpty then
      let more := cs.takeWhile dialect.continuesIdentifier
      if more.isEmpty then plain
      else (.word (String.ofList (text ++ more)) none, cs.drop more.length)
    else if afterPeriod then (.word (String.ofList text) none, cs)
    else plain
  else plain

/-- The fraction, exponent and ending of a number whose first digits are read. -/
def afterWhole (dialect : Dialect) (previous : Option Token) (whole : List Char)
    (cs : List Char) : Token × List Char :=
  let afterWord := match previous with
    | some token => token.isWord
    | none => false
  let (point, cs) := match cs with
    | '.' :: rest => (['.'], rest)
    | _ => ([], cs)
  if whole.isEmpty && dialect.numericWords && afterWord then (.symbol ".", cs)
  else
    let (fraction, cs) := digitRun dialect Char.isDigit cs
    if whole.isEmpty && fraction.isEmpty then (.symbol ".", cs)
    else
      let digits := whole ++ point ++ fraction
      let (opening, exponent, rest) := exponentRun cs
      let afterPeriod := previous == some (.symbol ".")
      if exponent.isEmpty then finishNumber dialect afterPeriod digits opening [] cs
      else finishNumber dialect afterPeriod digits opening (opening ++ exponent) rest

def numberToken (dialect : Dialect) (previous : Option Token) (cs : List Char) : TokenScan :=
  let afterWord := match previous with
    | some token => token.isWord
    | none => false
  match cs with
  | '.' :: '_' :: rest =>
    if afterWord then symbolToken "." ('_' :: rest) else .error (.underscore, cs)
  | _ =>
    let (whole, rest) := digitRun dialect Char.isDigit cs
    match whole, rest with
    | ['0'], 'x' :: rest =>
      let (digits, rest) := digitRun dialect (fun c => (hexValue? c).isSome) rest
      .ok (.string .hex (String.ofList digits), rest)
    | _, _ => .ok (afterWhole dialect previous whole rest)

def namesPlaceholder (dialect : Dialect) (c : Char) : Bool :=
  Text.isLetter c || Text.isNumeral c || c = '_' || (c = '$' && dialect.dollarPlaceholders)

/-- The token after `$`. -/
def afterDollar (dialect : Dialect) (cs : List Char) : TokenScan :=
  match dialect.dollarPlaceholders, cs with
  | false, '$' :: rest =>
    match bareDollarValue false rest with
    | some (value, rest) => .ok (.dollarString none (String.ofList value), rest)
    | none => .error (.openDollarString, [])
  | _, _ =>
    let name := cs.takeWhile (namesPlaceholder dialect)
    let rest := cs.drop name.length
    match dialect.dollarPlaceholders, rest with
    | false, '$' :: body =>
      match upToMark ('$' :: name ++ ['$']) body with
      | some (value, rest) =>
        .ok (.dollarString (some (String.ofList name)) (String.ofList value), rest)
      | none => .error (.openTaggedString, [])
    | _, _ => .ok (.placeholder (String.ofList ('$' :: name)), rest)

def lineComment (dialect : Dialect) (lead : List Char) (cs : List Char) : Token × List Char :=
  let stops : Char → Bool := fun c => c = '\n' || (c = '\r' && decide (dialect = .postgres))
  let text := cs.takeWhile fun c => !stops c
  match cs.drop text.length with
  | c :: rest => (.blank (String.ofList (lead ++ text ++ [c])), rest)
  | [] => (.blank (String.ofList (lead ++ text)), [])

/-- The text of a comment from just after its opening, and the rest; `depth` comments are open
around it. -/
def blockComment (nested : Bool) : Nat → List Char → Option (List Char × List Char)
  | _, [] => none
  | depth, '/' :: '*' :: cs =>
    if nested then
      (blockComment nested (depth + 1) cs).map fun (v, r) => ('/' :: '*' :: v, r)
    else (blockComment nested depth ('*' :: cs)).map fun (v, r) => ('/' :: v, r)
  | 0, '*' :: '/' :: cs => some ([], cs)
  | depth + 1, '*' :: '/' :: cs =>
    (blockComment nested depth cs).map fun (v, r) => ('*' :: '/' :: v, r)
  | depth, c :: cs => (blockComment nested depth cs).map fun (v, r) => (c :: v, r)

end RowStamp.Sql
