import RowStamp.Sql.Statement

/-!
The characters of written SQL: those of a statement are the characters of its fragments, one after
the other.
-/

set_option autoImplicit false
set_option relaxedAutoImplicit false

namespace RowStamp.Sql

def characters (parts : Fragments) : List Char := parts.flatMap fun e => e.text.toList

@[simp] theorem characters_nil : characters [] = [] := rfl

@[simp] theorem characters_cons (e : Expr) (parts : Fragments) :
    characters (e :: parts) = e.text.toList ++ characters parts := rfl

@[simp] theorem characters_append (parts others : Fragments) :
    characters (parts ++ others) = characters parts ++ characters others := by
  simp [characters]

def separated (texts : List (List Char)) : List Char := [',', ' '].intercalate texts

theorem separated_cons_cons (a b : List Char) (texts : List (List Char)) :
    separated (a :: b :: texts) = a ++ ([',', ' '] ++ separated (b :: texts)) := by
  rw [separated, List.intercalate_cons_cons, List.append_assoc]
  rfl

theorem toList_identList (idents : List Ident) :
    (identList idents).toList = separated (idents.map fun ident => ident.text.toList) := by
  rw [identList, String.toList_intercalate, List.map_map]
  rfl

namespace Expr

private theorem toList_renderLeaves (leaves : List Leaf) :
    (renderLeaves leaves).toList = leaves.flatMap fun leaf => leaf.written.toList := by
  rw [renderLeaves, String.toList_join, List.flatMap_map]

private theorem toList_joinedLeaves (parts : List Expr) :
    (renderLeaves (joinedLeaves parts)).toList = characters parts := by
  induction parts with
  | nil => rfl
  | cons e parts ih =>
    rw [toList_renderLeaves] at ih
    rw [joinedLeaves_cons, toList_renderLeaves, List.flatMap_append, ih, characters_cons, text,
      toList_renderLeaves]

private theorem toList_separatedLeaves (items : List Expr) :
    (renderLeaves (separatedLeaves items)).toList =
      separated (items.map fun e => e.text.toList) := by
  induction items with
  | nil => rfl
  | cons e items ih =>
    cases items with
    | nil => simp [separated, text]
    | cons f items =>
      have start : e.leaves.flatMap (fun leaf => leaf.written.toList) = e.text.toList :=
        (toList_renderLeaves _).symm
      rw [toList_renderLeaves] at ih
      rw [separatedLeaves_cons_cons, toList_renderLeaves, List.flatMap_append, List.flatMap_cons,
        ih, start, List.map_cons, List.map_cons, List.map_cons, separated_cons_cons]
      rfl

@[simp] theorem toList_text_word (s : String) : (word s).text.toList = s.toList := by
  simp [text, leaves_word, toList_renderLeaves, Leaf.written]

@[simp] theorem toList_text_phrase (parts : List Expr) :
    (phrase parts).text.toList = characters parts := by
  rw [text, leaves_phrase, toList_joinedLeaves]

@[simp] theorem toList_text_name (parts : List Ident) :
    (name parts).text.toList = (nameText parts).toList := by
  simp [text, leaves_name, toList_renderLeaves, Leaf.written]

@[simp] theorem toList_text_binary (left right : Expr) (operator : String) :
    (binary left operator right).text.toList =
      left.text.toList ++ (' ' :: (operator.toList ++ ' ' :: right.text.toList)) := by
  simp [text, leaves_binary, toList_renderLeaves, Leaf.written]

@[simp] theorem toList_text_tuple (items : List Expr) :
    (tuple items).text.toList =
      '(' :: (separated (items.map fun e => e.text.toList) ++ [')']) := by
  rw [← toList_separatedLeaves]
  simp [text, leaves_tuple, toList_renderLeaves, Leaf.written]

@[simp] theorem characters_commaSeparated (parts : List Expr) :
    characters (commaSeparated parts) = separated (parts.map fun e => e.text.toList) := by
  induction parts with
  | nil => rfl
  | cons e parts ih =>
    cases parts with
    | nil => simp [commaSeparated, separated]
    | cons f parts =>
      have more : commaSeparated (e :: f :: parts) =
          e :: word ", " :: commaSeparated (f :: parts) := rfl
      rw [more, characters_cons, characters_cons, ih, toList_text_word, List.map_cons,
        List.map_cons, List.map_cons, separated_cons_cons]
      rfl

end Expr

theorem Statement.toList_text (statement : Statement) :
    statement.text.toList = characters statement.fragments := Expr.toList_joinedLeaves _

end RowStamp.Sql
