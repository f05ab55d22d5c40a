import Mathlib.Data.List.Induction
import RowStamp.Proofs.Sql.Operations

/-!
Comparisons of a column with a value and their conjunctions: how they are read, and that what has
grown from one of them is no other.
-/

set_option autoImplicit false
set_option relaxedAutoImplicit false

namespace RowStamp.Sql.Parser

open Grammar (operand)
open Relation (TransGen)

variable {cx : Context} {rank fuel : Nat} {tokens rest middle : List Token} {token : Token}
  {e result : Expr} {operator : String} {strength : Strength}

/-! ### Operators -/

inductive IsOperator : Token → String → Strength → Prop
  | equality : IsOperator (.symbol "=") "=" .equality
  | and : IsOperator (.word "AND" none) "AND" .and

private theorem IsOperator.noSuffix (isOperator : IsOperator token operator strength) :
    NoSuffix (token :: tokens) := by
  cases isOperator <;> simp [NoSuffix]

private theorem IsOperator.key (isOperator : IsOperator token operator strength) :
    token.key = "" ∨ token.key = "AND" := by
  cases isOperator
  · exact .inl rfl
  · exact .inr rfl

private theorem Runs.nextStrength_operator (isOperator : IsOperator token operator strength)
    (rest : List Token) :
    Runs (Grammar.nextStrength cx) (token :: rest) strength (token :: rest) := by
  cases isOperator with
  | equality =>
    have same : Grammar.symbolStrength cx.dialect "=" = .equality := by cases cx.dialect <;> rfl
    refine .bind (.peekTokens 3) ?_
    rw [← same]
    exact .pure _
  | and => exact .bind (.peekTokens 3) (.pure _)

private theorem Runs.binaryOperator (isOperator : IsOperator token operator strength) :
    Runs (Grammar.binaryOperator cx token) tokens (some operator) tokens := by
  cases isOperator with
  | equality =>
    have same : Grammar.symbolOperator? cx.dialect "=" = some "=" := by cases cx.dialect <;> rfl
    have read : Runs (Pure.pure (Grammar.symbolOperator? cx.dialect "=")) tokens
        (Grammar.symbolOperator? cx.dialect "=") tokens := .pure _
    rw [same] at read
    exact read
  | and => exact .pure _

private theorem Runs.operation {right : Expr} (isOperator : IsOperator token operator strength)
    (single : ∀ token ∈ tokens.head?, token.key ∉ ["ANY", "ALL", "SOME"])
    (read : Runs (cx.inner.subexpr cx.inColumn rank) tokens right rest) :
    Runs (Grammar.operation cx rank e) (token :: tokens) (.binary e operator right) rest := by
  refine .peekLexeme_some fun lexeme same => ?_
  have key : lexeme.token.key = "" ∨ lexeme.token.key = "AND" := same ▸ isOperator.key
  dsimp only
  rw [if_neg (by rcases key with key | key <;> simp [key]),
    if_neg (by rcases key with key | key <;> rw [key] <;> decide), same]
  refine .bind .skip (.bind (.binaryOperator isOperator) ?_)
  exact .bind (.oneOfKeywords_absent single) (.bind read (.pure _))

private theorem Gives.operation {motive : Expr → List Token → Prop}
    (isOperator : IsOperator token operator strength)
    (read : Gives (cx.inner.subexpr cx.inColumn rank) tokens motive) :
    Gives (Grammar.operation cx rank e) (token :: tokens) fun result rest =>
      (∃ right, result = .binary e operator right ∧ motive right rest) ∨
        ∃ parts, result = .phrase parts := by
  refine .peekLexeme_some fun lexeme same => ?_
  have key : lexeme.token.key = "" ∨ lexeme.token.key = "AND" := same ▸ isOperator.key
  dsimp only
  rw [if_neg (by rcases key with key | key <;> simp [key]),
    if_neg (by rcases key with key | key <;> rw [key] <;> decide), same]
  exact .bind_runs .skip (.bind_runs (.binaryOperator isOperator) (.binaryOperation e operator _ read))

private theorem IsOperator.stops (isOperator : IsOperator token operator strength)
    (stronger : rank < strength.rank cx.dialect) :
    ¬(decide (strength.rank cx.dialect ≤ rank) ||
      (token :: tokens).head?.any (· == .symbol ".")) = true := by
  cases isOperator <;> simp [Nat.not_le.mpr stronger]

theorem Runs.operations_cons (isOperator : IsOperator token operator strength)
    (stronger : rank < strength.rank cx.dialect) {right : Expr}
    (single : ∀ token ∈ tokens.head?, token.key ∉ ["ANY", "ALL", "SOME"])
    (read : Runs (cx.inner.subexpr cx.inColumn (strength.rank cx.dialect)) tokens right middle)
    (more : Runs (Grammar.operations cx rank fuel (.binary e operator right)) middle result rest) :
    Runs (Grammar.operations cx rank (fuel + 1) e) (token :: tokens) result rest := by
  refine .bind (.nextStrength_operator isOperator _) (.bind (.peekSymbol ".") ?_)
  rw [if_neg (isOperator.stops stronger)]
  exact .bind (.operation isOperator single read) more

/-- What is left of an expression that one more operation is made of: nothing where the fuel is
out, or the operation and what follows it. -/
theorem Gives.operations_cons (isOperator : IsOperator token operator strength)
    (stronger : rank < strength.rank cx.dialect) {motive target : Expr → List Token → Prop}
    (read : Gives (cx.inner.subexpr cx.inColumn (strength.rank cx.dialect)) tokens motive)
    (more : ∀ right rest, motive right rest →
      Gives (Grammar.operations cx rank fuel (.binary e operator right)) rest target)
    (text : ∀ parts rest, Gives (Grammar.operations cx rank fuel (.phrase parts)) rest target) :
    Gives (Grammar.operations cx rank (fuel + 1) e) (token :: tokens) target := by
  refine .bind_runs (.nextStrength_operator isOperator _) (.bind_runs (.peekSymbol ".") ?_)
  rw [if_neg (isOperator.stops stronger)]
  refine .bind (.operation isOperator read) fun result rest found => ?_
  rcases found with ⟨right, rfl, holds⟩ | ⟨parts, rfl⟩
  · exact more right rest holds
  · exact text parts rest

/-! ### Names -/

def formWords : List String :=
  ["NULL", "TRUE", "FALSE", "CASE", "CONVERT", "TRY_CONVERT", "CAST", "TRY_CAST", "SAFE_CAST",
    "EXISTS", "EXTRACT", "CEIL", "FLOOR", "POSITION", "SUBSTR", "SUBSTRING", "OVERLAY", "TRIM",
    "INTERVAL", "ARRAY", "NOT", "MATCH", "STRUCT", "MAP"] ++ Grammar.sessionWords ++
    Grammar.timeWords ++ Grammar.shapeTypes

private theorem Runs.reservedForm {ident : Ident} {lexeme : Lexeme}
    (plain : lexeme.token.key ∉ formWords) :
    Runs (Grammar.reservedForm cx ident lexeme) tokens none tokens := by
  simp only [formWords, List.mem_append, not_or] at plain
  obtain ⟨⟨⟨forms, session⟩, time⟩, shapes⟩ := plain
  unfold Grammar.reservedForm
  dsimp only
  -- every case but the last is one of the words
  split <;> try exact absurd ‹lexeme.token.key = _› fun same => forms (by simp [same])
  rw [if_neg (by simp [session]), if_neg (by simp [time]), if_neg (by simp [shapes])]
  exact .pure _

/-- A word that opens no other expression, names no type and is no quantifier. -/
structure IsName (d : Dialect) (ident : Ident) : Prop where
  single : (Token.word ident.value ident.quote).key ∉ ["ANY", "ALL", "SOME"]
  plain : (Token.word ident.value ident.quote).key ∉ formWords
  untyped : ∀ element,
    Grammar.namedType? d element (Token.word ident.value ident.quote).key = none

private theorem Runs.name {ident : Ident} (isName : IsName cx.dialect ident)
    (isOperator : IsOperator token operator strength) :
    Runs (operand cx) (.word ident.value ident.quote :: token :: tokens) (.name [ident])
      (token :: tokens) := by
  have apart : NoSuffix (token :: tokens) := isOperator.noSuffix
  refine .bind (.typedConstant_of_word isName.untyped apart) (.peekLexeme_some fun lexeme same => ?_)
  dsimp only
  rw [same]
  refine .bind .skip (.bind (.tried (.reservedForm (by rw [same]; exact isName.plain))) ?_)
  refine .bind (.outerJoinMarkAhead fun token member => (apart token member).2.1) ?_
  refine .peekLexeme_some fun lexeme same => ?_
  rw [Option.map_some, same]
  cases isOperator <;> exact .pure _

theorem Runs.expression_name {ident : Ident} (isName : IsName cx.dialect ident)
    (isOperator : IsOperator token operator strength)
    (more : ∀ fuel, (token :: tokens).length ≤ fuel →
      Runs (Grammar.operations cx rank (fuel + 1) (.name [ident])) (token :: tokens) result rest) :
    Runs (Grammar.expression cx rank) (.word ident.value ident.quote :: token :: tokens) result
      rest := by
  refine .bind (.compound (.name isName isOperator) isOperator.noSuffix) ?_
  refine .bind (.peekKeyword _) ?_
  rw [if_neg (by rcases isOperator.key with key | key <;> simp [key])]
  exact .bind (.pure _) (.getLength fun lexemes enough => more _ enough)

theorem Gives.expression_name {ident : Ident} (isName : IsName cx.dialect ident)
    (isOperator : IsOperator token operator strength) {target : Expr → List Token → Prop}
    (more : ∀ fuel,
      Gives (Grammar.operations cx rank (fuel + 1) (.name [ident])) (token :: tokens) target) :
    Gives (Grammar.expression cx rank) (.word ident.value ident.quote :: token :: tokens)
      target := by
  refine .bind_runs (.compound (.name isName isOperator) isOperator.noSuffix) ?_
  refine .bind_runs (.peekKeyword _) ?_
  rw [if_neg (by rcases isOperator.key with key | key <;> simp [key])]
  exact .bind_runs (.pure _) (.get fun lexemes => more _)

/-! ### Conjunctions -/

def conjunction (first : Expr) (more : List Expr) : Expr :=
  more.foldl (fun e condition => .binary e "AND" condition) first

/-- A name with binary operations on it. -/
inductive Spined : Expr → Prop
  | name (parts : List Ident) : Spined (.name parts)
  | binary {left : Expr} (spined : Spined left) (operator : String) (right : Expr) :
      Spined (.binary left operator right)

theorem Spined.of_grown {root e : Expr} (spined : Spined e) (grown : TransGen Extends root e) :
    Spined root ∧ sizeOf root < sizeOf e := by
  induction grown with
  | single last =>
    cases spined with
    | name => exact last.elim
    | binary spined operator right =>
      obtain rfl : _ = root := last
      exact ⟨spined, by simp; omega⟩
  | tail _ last ih =>
    cases spined with
    | name => exact last.elim
    | binary spined operator right =>
      obtain rfl := last
      obtain ⟨spined, smaller⟩ := ih spined
      exact ⟨spined, by simp; omega⟩

theorem Spined.conjunction {first : Expr} (spined : Spined first) (more : List Expr) :
    Spined (conjunction first more) := by
  induction more generalizing first with
  | nil => exact spined
  | cons condition more ih => exact ih (.binary spined _ _)

theorem sizeOf_le_conjunction (first : Expr) (more : List Expr) :
    sizeOf first ≤ sizeOf (conjunction first more) := by
  induction more generalizing first with
  | nil => exact Nat.le_refl _
  | cons condition more ih =>
    have grown := ih (.binary first "AND" condition)
    simp only [Expr.binary.sizeOf_spec] at grown
    change sizeOf first ≤ sizeOf (conjunction (.binary first "AND" condition) more)
    omega

theorem right_eq_of_conjunction {left right other : Expr} {more : List Expr}
    (spined : Spined left)
    (reached : conjunction (.binary left operator right) more = .binary left operator other ∨
      TransGen Extends (.binary left operator other)
        (conjunction (.binary left operator right) more)) : other = right := by
  induction more using List.reverseRecOn with
  | nil =>
    rcases reached with same | grown
    · exact (Expr.binary.inj same).2.2.symm
    · obtain ⟨b, before, last⟩ := TransGen.tail'_iff.mp grown
      obtain rfl : left = b := last
      rcases Relation.reflTransGen_iff_eq_or_transGen.mp before with same | grown
      · have size := congrArg sizeOf same
        simp at size
        omega
      · have size := (spined.of_grown grown).2
        simp at size
        omega
  | append_singleton more condition ih =>
    rw [conjunction, List.foldl_append, List.foldl_cons, List.foldl_nil] at reached
    rcases reached with same | grown
    · have size := sizeOf_le_conjunction (.binary left operator right) more
      rw [conjunction, (Expr.binary.inj same).1] at size
      simp at size
      omega
    · obtain ⟨b, before, last⟩ := TransGen.tail'_iff.mp grown
      obtain rfl := last
      exact ih (Relation.reflTransGen_iff_eq_or_transGen.mp before)

end RowStamp.Sql.Parser
