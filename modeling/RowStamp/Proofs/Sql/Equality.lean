import RowStamp.Sql.Statement

/-!
Equality of expressions and statements can be decided, so that statements about a text and the
statement that it is read as can be checked by evaluation.
-/

set_option autoImplicit false
set_option relaxedAutoImplicit false

namespace RowStamp.Sql

instance decidableEqExcept {ε α : Type} [DecidableEq ε] [DecidableEq α] : DecidableEq (Except ε α)
  | .ok a, .ok b => decidable_of_iff (a = b) (by simp)
  | .error a, .error b => decidable_of_iff (a = b) (by simp)
  | .ok _, .error _ | .error _, .ok _ => isFalse (by simp)

/-! ### Expressions -/

namespace Expr

mutual

def same : Expr → Expr → Bool
  | name parts, name others => parts == others
  | literal value, literal other => value == other
  | placeholder text, placeholder other => text == other
  | nested inner, nested other => same inner other
  | tuple items, tuple others => sameList items others
  | binary left operator right, binary first symbol second =>
    same left first && operator == symbol && same right second
  | word text, word other => text == other
  | phrase parts, phrase others => sameList parts others
  | _, _ => false

def sameList : List Expr → List Expr → Bool
  | [], [] => true
  | e :: es, f :: fs => same e f && sameList es fs
  | _, _ => false

end

mutual

theorem same_self (e : Expr) : same e e = true := by
  cases e with
  | nested inner => simpa [same] using same_self inner
  | tuple items => simpa [same] using sameList_self items
  | binary left operator right => simp [same, same_self left, same_self right]
  | phrase parts => simpa [same] using sameList_self parts
  | _ => simp [same]

theorem sameList_self (es : List Expr) : sameList es es = true := by
  cases es with
  | nil => rfl
  | cons e es => simp [sameList, same_self e, sameList_self es]

end

mutual

theorem eq_of_same (e f : Expr) (equal : same e f = true) : e = f := by
  cases e with
  | nested inner =>
    cases f with
    | nested other => rw [eq_of_same inner other (by simpa [same] using equal)]
    | _ => simp [same] at equal
  | tuple items =>
    cases f with
    | tuple others => rw [eq_of_sameList items others (by simpa [same] using equal)]
    | _ => simp [same] at equal
  | binary left operator right =>
    cases f with
    | binary first symbol second =>
      obtain ⟨⟨lefts, rfl⟩, rights⟩ : (same left first = true ∧ operator = symbol) ∧
          same right second = true := by
        simpa [same] using equal
      rw [eq_of_same left first lefts, eq_of_same right second rights]
    | _ => simp [same] at equal
  | phrase parts =>
    cases f with
    | phrase others => rw [eq_of_sameList parts others (by simpa [same] using equal)]
    | _ => simp [same] at equal
  | _ => cases f <;> simp_all [same]

theorem eq_of_sameList (es fs : List Expr) (equal : sameList es fs = true) : es = fs := by
  cases es with
  | nil =>
    cases fs with
    | nil => rfl
    | cons f fs => simp [sameList] at equal
  | cons e es =>
    cases fs with
    | nil => simp [sameList] at equal
    | cons f fs =>
      obtain ⟨heads, tails⟩ : same e f = true ∧ sameList es fs = true := by
        simpa [sameList] using equal
      rw [eq_of_same e f heads, eq_of_sameList es fs tails]

end

instance : DecidableEq Expr := fun e f =>
  decidable_of_iff (same e f = true) ⟨eq_of_same e f, fun equal => equal ▸ same_self e⟩

end Expr

/-! ### Relations -/

namespace TableRef

mutual

def same : TableRef → TableRef → Bool
  | table name details label hints, table target more tag further =>
    name == target && details == more && label == tag && hints == further
  | joined first joins label, joined target more tag =>
    same first target && sameJoins joins more && label == tag
  | other parts label, other pieces tag => parts == pieces && label == tag
  | _, _ => false

def sameJoins : List (Join TableRef) → List (Join TableRef) → Bool
  | [], [] => true
  | ⟨lead, relation, restriction⟩ :: joins, ⟨word, target, limit⟩ :: more =>
    lead == word && same relation target && restriction == limit && sameJoins joins more
  | _, _ => false

end

mutual

theorem same_self (relation : TableRef) : same relation relation = true := by
  cases relation with
  | joined first joins label => simp [same, same_self first, sameJoins_self joins]
  | _ => simp [same]

theorem sameJoins_self (joins : List (Join TableRef)) : sameJoins joins joins = true := by
  cases joins with
  | nil => simp [sameJoins]
  | cons join joins =>
    obtain ⟨lead, relation, restriction⟩ := join
    simp [sameJoins, same_self relation, sameJoins_self joins]

end

mutual

theorem eq_of_same (first second : TableRef) (equal : same first second = true) :
    first = second := by
  cases first with
  | joined inner joins label =>
    cases second with
    | joined target more tag =>
      obtain ⟨⟨inners, lists⟩, rfl⟩ : (same inner target = true ∧ sameJoins joins more = true) ∧
          label = tag := by
        simpa [same] using equal
      rw [eq_of_same inner target inners, eq_of_sameJoins joins more lists]
    | _ => simp [same] at equal
  | _ => cases second <;> simp_all [same]

theorem eq_of_sameJoins (joins more : List (Join TableRef))
    (equal : sameJoins joins more = true) : joins = more := by
  cases joins with
  | nil =>
    cases more with
    | nil => rfl
    | cons join more => simp [sameJoins] at equal
  | cons join joins =>
    cases more with
    | nil => simp [sameJoins] at equal
    | cons next more =>
      obtain ⟨lead, relation, restriction⟩ := join
      obtain ⟨word, target, limit⟩ := next
      obtain ⟨⟨⟨rfl, relations⟩, rfl⟩, tails⟩ : ((lead = word ∧ same relation target = true) ∧
          restriction = limit) ∧ sameJoins joins more = true := by
        simpa [sameJoins] using equal
      rw [eq_of_same relation target relations, eq_of_sameJoins joins more tails]

end

instance : DecidableEq TableRef := fun first second =>
  decidable_of_iff (same first second = true)
    ⟨eq_of_same first second, fun equal => equal ▸ same_self first⟩

end TableRef

/-! ### Statements -/

deriving instance DecidableEq for Join
deriving instance DecidableEq for JoinedTables
deriving instance DecidableEq for Values
deriving instance DecidableEq for QueryBody
deriving instance DecidableEq for Query
deriving instance DecidableEq for Assignment
deriving instance DecidableEq for InsertSource
deriving instance DecidableEq for RowAlias
deriving instance DecidableEq for Insert
deriving instance DecidableEq for Update
deriving instance DecidableEq for Statement

end RowStamp.Sql
