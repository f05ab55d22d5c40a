import RowStamp.Sql.Grammar.Basic

/-!
The parsers that clauses nest: an expression inside an expression, a query inside a table, and so
on.  A grammar holds them for one remaining depth; at depth zero all of them fail.
-/

set_option autoImplicit false
set_option relaxedAutoImplicit false

namespace RowStamp.Sql

/-- How strongly an operator binds. -/
inductive Strength where
  | none
  | or
  | and
  | not
  | other
  | is
  | like
  | between
  | equality
  | pipe
  | colon
  | caret
  | ampersand
  | xor
  | plusMinus
  | timesDivide
  | timeZone
  | collate
  | bracket
  | cast
  | period
  deriving DecidableEq, Repr

def Strength.commonRank : Strength → Nat
  | none => 0
  | or => 5
  | and => 10
  | not => 15
  | other => 16
  | is => 17
  | like => 19
  | between => 20
  | equality => 20
  | pipe => 21
  | colon => 21
  | caret => 22
  | ampersand => 23
  | xor => 24
  | plusMinus => 30
  | timesDivide => 40
  | timeZone => 41
  | collate => 42
  | bracket => 50
  | cast => 50
  | period => 100

def Strength.postgresRank : Strength → Nat
  | none => 0
  | or => 10
  | and => 20
  | not => 30
  | other => 70
  | is => 40
  | like => 60
  | between => 60
  | equality => 50
  | pipe => 70
  | colon => 70
  | caret => 100
  | ampersand => 70
  | xor => 75
  | plusMinus => 80
  | timesDivide => 90
  | timeZone => 110
  | collate => 120
  | bracket => 130
  | cast => 140
  | period => 200

def Strength.rank (dialect : Dialect) (strength : Strength) : Nat :=
  if dialect = .postgres then strength.postgresRank else strength.commonRank

/-- The parsers at one remaining depth.  An expression is read at a rank, and inside a column
definition or not. -/
structure Grammar where
  subexpr : Bool → Nat → Parser Expr
  simple : Bool → Parser Expr
  query : Parser Query
  tableRef : Parser TableRef
  statement : Parser Statement

def Grammar.exhausted : Grammar where
  subexpr _ _ := throw .depth
  simple _ := throw .depth
  query := throw .depth
  tableRef := throw .depth
  statement := throw .depth

/-- What a clause's parser reads with: the dialect, the nested parsers, and whether the clause is
part of a column definition. -/
structure Context where
  dialect : Dialect
  inner : Grammar
  inColumn : Bool

namespace Context

/-- An expression whose operators bind more strongly than the given strength. -/
def subexpr (cx : Context) (strength : Strength) : Parser Expr :=
  cx.inner.subexpr cx.inColumn (strength.rank cx.dialect)

def expr (cx : Context) : Parser Expr := cx.subexpr .none

def exprs (cx : Context) : Parser (List Expr) := Parser.commaList cx.expr

def normal (cx : Context) : Context := { cx with inColumn := false }

/-- A query between parentheses, as fragments. -/
def subquery (cx : Context) : Parser Fragments := do
  Parser.expectSymbol "("
  let query ← cx.inner.query
  Parser.expectSymbol ")"
  return Parser.between "(" query.fragments ")"

end Context

end RowStamp.Sql
