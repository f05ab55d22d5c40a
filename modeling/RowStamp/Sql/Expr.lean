import RowStamp.Sql.Token
import RowStamp.Text.Quoted

/-!
Identifiers, literals and expressions, and the text of an expression.  An expression is structured
where stamping and binding look inside; every other form is the sequence of its words and
operands.  The text of an expression is that of its leaves in order, and its placeholders are
those of its leaves.
-/

set_option autoImplicit false
set_option relaxedAutoImplicit false

namespace RowStamp.Sql

/-- An identifier, quoted or not. -/
structure Ident where
  value : String
  quote : Option Char
  deriving DecidableEq, Repr

namespace Ident

def plain (value : String) : Ident := ⟨value, none⟩

def text (ident : Ident) : String :=
  match ident.quote with
  | none => ident.value
  | some '[' => "[" ++ ident.value ++ "]"
  | some q => Text.Quoted.wrap q ident.value

end Ident

def nameText (parts : List Ident) : String := ".".intercalate (parts.map Ident.text)

inductive Literal where
  | number (digits : String) (long : Bool)
  | string (form : StringForm) (value : String)
  | dollarString (tag : Option String) (value : String)
  | truth (value : Bool)
  | null
  deriving DecidableEq, Repr

namespace Literal

def quoted (value : String) : Literal := .string .plain value

/-- The written form of a string literal: forms without escapes of their own are written as they
stand. -/
def stringText (form : StringForm) (value : String) : String :=
  let between (inside : List Char) : String :=
    form.lead ++ form.quote.toString ++ String.ofList inside ++ form.quote.toString
  match form with
  | .plain => Text.Quoted.wrap '\'' value
  | .doubleQuoted => Text.Quoted.wrap '"' value
  | .escape => between (value.toList.flatMap Text.Quoted.escapeChar)
  | .unicode => between (value.toList.flatMap Text.Quoted.unicodeChar)
  | _ => between value.toList

def text : Literal → String
  | number digits long => digits ++ if long then "L" else ""
  | string form value => stringText form value
  | dollarString tag value => dollarText tag value
  | truth true => "true"
  | truth false => "false"
  | null => "NULL"

end Literal

/-- A piece of written SQL: plain text or a placeholder. -/
inductive Leaf where
  | text (s : String)
  | placeholder (s : String)
  deriving DecidableEq, Repr

namespace Leaf

def written : Leaf → String
  | text s => s
  | placeholder s => s

def placeholder? : Leaf → Option String
  | text _ => none
  | placeholder s => some s

end Leaf

def renderLeaves (leaves : List Leaf) : String := String.join (leaves.map Leaf.written)

def placeholdersOf (leaves : List Leaf) : List String := leaves.filterMap Leaf.placeholder?

/-- A fragment of SQL. -/
inductive Expr where
  | name (parts : List Ident)
  | literal (value : Literal)
  | placeholder (text : String)
  | nested (inner : Expr)
  | tuple (items : List Expr)
  | binary (left : Expr) (operator : String) (right : Expr)
  | word (text : String)
  | phrase (parts : List Expr)

namespace Expr

mutual

def leaves : Expr → List Leaf
  | name parts => [.text (nameText parts)]
  | literal value => [.text value.text]
  | placeholder text => [.placeholder text]
  | nested inner => .text "(" :: inner.leaves ++ [.text ")"]
  | tuple items => .text "(" :: separatedLeaves items ++ [.text ")"]
  | binary left operator right =>
    left.leaves ++ .text (" " ++ operator ++ " ") :: right.leaves
  | word text => [.text text]
  | phrase parts => joinedLeaves parts

def joinedLeaves : List Expr → List Leaf
  | [] => []
  | e :: es => e.leaves ++ joinedLeaves es

def separatedLeaves : List Expr → List Leaf
  | [] => []
  | [e] => e.leaves
  | e :: es => e.leaves ++ .text ", " :: separatedLeaves es

end

def text (e : Expr) : String := renderLeaves e.leaves

def placeholders (e : Expr) : List String := placeholdersOf e.leaves

def commaSeparated : List Expr → List Expr
  | [] => []
  | [e] => [e]
  | e :: es => e :: word ", " :: commaSeparated es

theorem leaves_name (parts : List Ident) : (name parts).leaves = [.text (nameText parts)] := rfl

theorem leaves_literal (value : Literal) : (literal value).leaves = [.text value.text] := rfl

theorem leaves_placeholder (text : String) :
    (placeholder text).leaves = [.placeholder text] := rfl

theorem leaves_nested (inner : Expr) :
    (nested inner).leaves = .text "(" :: inner.leaves ++ [.text ")"] := rfl

theorem leaves_tuple (items : List Expr) :
    (tuple items).leaves = .text "(" :: separatedLeaves items ++ [.text ")"] := rfl

theorem leaves_binary (left right : Expr) (operator : String) :
    (binary left operator right).leaves =
      left.leaves ++ .text (" " ++ operator ++ " ") :: right.leaves := rfl

theorem leaves_word (text : String) : (word text).leaves = [.text text] := rfl

theorem leaves_phrase (parts : List Expr) : (phrase parts).leaves = joinedLeaves parts := rfl

@[simp] theorem joinedLeaves_nil : joinedLeaves [] = [] := rfl

@[simp] theorem joinedLeaves_cons (e : Expr) (es : List Expr) :
    joinedLeaves (e :: es) = e.leaves ++ joinedLeaves es := rfl

@[simp] theorem separatedLeaves_nil : separatedLeaves [] = [] := rfl

@[simp] theorem separatedLeaves_single (e : Expr) : separatedLeaves [e] = e.leaves := rfl

theorem separatedLeaves_cons_cons (e f : Expr) (es : List Expr) :
    separatedLeaves (e :: f :: es) = e.leaves ++ .text ", " :: separatedLeaves (f :: es) := rfl

end Expr

abbrev Fragments := List Expr

end RowStamp.Sql
