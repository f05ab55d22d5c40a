import Mathlib.Logic.Relation
import RowStamp.Proofs.Sql.Constants

/-!
What operations make of an expression: the expression alone, or one that has grown from it.
-/

set_option autoImplicit false
set_option relaxedAutoImplicit false

namespace RowStamp.Sql.Parser

open Relation (TransGen)

variable {α β : Type} {cx : Context} {rank : Nat} {tokens rest : List Token}

def Yields (p : Parser α) (motive : α → Prop) : Prop :=
  ∀ lexemes a left, p lexemes = .ok (a, left) → motive a

namespace Yields

variable {motive : α → Prop}

private theorem gives {p : Parser α} (yields : Yields p motive) :
    Gives p tokens fun a _ => motive a := fun lexemes a left _ read => yields lexemes a left read

theorem pure {a : α} (holds : motive a) : Yields (pure a) motive := by
  intro lexemes b left read
  obtain ⟨rfl, -⟩ := Prod.mk.inj (Except.ok.inj read)
  exact holds

private theorem throw (fault : SyntaxFault) : Yields (throw fault : Parser α) motive :=
  fun _ _ _ read => nomatch read

private theorem bind_of {p : Parser α} {f : α → Parser β} {target : β → Prop}
    (first : Yields p motive)
    (second : ∀ a, motive a → Yields (f a) target) : Yields (p >>= f) target := by
  intro lexemes b left read
  obtain ⟨a, rest, found, read⟩ := exists_of_bind_ok read
  exact second _ (first _ _ _ found) _ _ _ read

theorem bind {p : Parser α} {f : α → Parser β} {target : β → Prop}
    (second : ∀ a, Yields (f a) target) : Yields (p >>= f) target :=
  .bind_of (motive := fun _ => True) (fun _ _ _ _ => trivial) fun a _ => second a

private theorem expectedAt (what : String) (found : Option Lexeme) :
    Yields (Parser.expectedAt what found) motive := .throw _

private theorem expected (what : String) : Yields (Parser.expected what) motive :=
  .bind fun _ => .expectedAt _ _

private theorem ite {p q : Parser α} (condition : Prop) [Decidable condition]
    (yes : Yields p motive)
    (no : Yields q motive) : Yields (if condition then p else q) motive := by
  split <;> assumption

private theorem checked {p : Parser Unit} {f : Unit → Parser α} (holds : Prop) [Decidable holds]
    (second : Yields (f ()) motive) : Yields (if holds then f () else p >>= f) motive := by
  split
  · exact second
  · exact .bind fun _ => second

private theorem forIn {list : List β}
    {f : β → Option α × Unit → Parser (ForInStep (Option α × Unit))}
    (each : ∀ b, Yields (f b (none, ())) fun step =>
      step = .yield (none, ()) ∨ ∃ a, step = .done (some a, ()) ∧ motive a) :
    Yields (forIn list (none, ()) f) fun state => ∀ a ∈ state.1, motive a := by
  induction list with
  | nil => exact .pure (by simp)
  | cons b list ih =>
    rw [List.forIn_cons]
    refine .bind_of (each b) fun step holds => ?_
    rcases holds with rfl | ⟨a, rfl, holds⟩
    · exact ih
    · exact .pure (by simpa using holds)

end Yields

/-- What one operation makes of an expression: a binary operation on it, or text. -/
def Extends (e : Expr) : Expr → Prop
  | .binary left _ _ => left = e
  | .phrase _ => True
  | _ => False

private theorem Yields.isOperation (e : Expr) : Yields (Grammar.isOperation cx e) (Extends e) := by
  unfold Grammar.isOperation
  refine .bind_of (motive := fun state => ∀ a ∈ state.1, Extends e a) (.forIn fun words => ?_) ?_
  · refine .bind fun found => ?_
    cases found with
    | true => exact .pure (.inr ⟨_, rfl, trivial⟩)
    | false => exact .pure (.inl rfl)
  rintro ⟨_ | a, _⟩ holds
  swap
  · exact .pure (holds a rfl)
  refine .bind_of (motive := fun state => ∀ a ∈ state.1, Extends e a) (.forIn fun words => ?_) ?_
  · refine .bind fun found => ?_
    cases found with
    | true => exact .bind fun _ => .pure (.inr ⟨_, rfl, trivial⟩)
    | false => exact .pure (.inl rfl)
  rintro ⟨_ | a, _⟩ holds
  swap
  · exact .pure (holds a rfl)
  refine .bind fun _ => .bind fun _ => .bind fun found => ?_
  cases found with
  | true => exact .pure trivial
  | false => exact .expected _

private theorem Yields.memberOperation (e : Expr) (negation : String) :
    Yields (Grammar.memberOperation cx e negation) (Extends e) := by
  refine .bind fun unnests => ?_
  cases unnests with
  | true => exact .bind fun _ => .pure trivial
  | false =>
    refine .bind fun _ => .bind fun found => ?_
    cases found with
    | some query => exact .bind fun _ => .bind fun _ => .pure trivial
    | none =>
      dsimp only
      split <;> exact .bind fun _ => .bind fun _ => .bind fun _ => .pure trivial

private theorem Yields.patternOperation (e : Expr) (lead : String) :
    Yields (Grammar.patternOperation cx e lead) (Extends e) := by
  refine .bind fun _ => .bind fun escapes => ?_
  cases escapes with
  | true => exact .bind fun _ => .pure trivial
  | false => exact .pure trivial

private theorem Yields.negatableOperation (e : Expr) :
    Yields (Grammar.negatableOperation cx e) (Extends e) := by
  refine .bind fun negated => .bind fun name => ?_
  cases name with
  | some name => exact .bind fun _ => .pure trivial
  | none =>
    dsimp only
    split
    all_goals
      refine .bind fun null => ?_
      split
      · exact .pure trivial
      refine .bind fun isMember => ?_
      cases isMember with
      | true => exact .memberOperation e _
      | false =>
        refine .bind fun isRange => ?_
        cases isRange with
        | true => exact .bind fun _ => .bind fun _ => .bind fun _ => .pure trivial
        | false =>
          refine .bind fun isLike => ?_
          cases isLike with
          | true => exact .bind fun _ => .patternOperation e _
          | false =>
            refine .bind fun isILike => ?_
            cases isILike with
            | true => exact .bind fun _ => .patternOperation e _
            | false =>
              refine .bind fun isSimilar => ?_
              cases isSimilar with
              | true => exact .patternOperation e _
              | false => exact .expected _

private theorem Gives.oneOfKeywords (list : List String) :
    Gives (Parser.oneOfKeywords list) tokens fun found rest => found = none → rest = tokens := by
  cases tokens with
  | nil => exact .of_runs (.oneOfKeywords_absent (by simp)) fun _ => rfl
  | cons token tokens =>
    refine .peekLexeme_some fun lexeme same => ?_
    dsimp only
    split
    · exact .bind_any fun _ _ => .pure fun none' => nomatch none'
    · exact .pure fun _ => rfl

/-- A binary operation has what is read after its operator on the right; otherwise it is text. -/
theorem Gives.binaryOperation {motive : Expr → List Token → Prop} (left : Expr)
    (operator : String) (place : Option Position)
    (read : Gives (cx.inner.subexpr cx.inColumn rank) tokens motive) :
    Gives (Grammar.binaryOperation cx rank left operator place) tokens fun result rest =>
      (∃ right, result = .binary left operator right ∧ motive right rest) ∨
        ∃ parts, result = .phrase parts := by
  refine .bind (.oneOfKeywords _) fun quantifier rest same => ?_
  cases quantifier with
  | none =>
    rw [same rfl]
    exact .bind read fun right rest holds => .pure (.inl ⟨right, rfl, holds⟩)
  | some quantifier =>
    have compared (right : Fragments) : Yields (if Grammar.comparisons.contains operator = true
        then Pure.pure (Grammar.phrase right) else do
          MonadExcept.throw (SyntaxFault.comparison operator place)
          Pure.pure (Grammar.phrase right) : Parser Expr) fun result =>
            ∃ parts, result = .phrase parts :=
      .ite _ (.pure ⟨_, rfl⟩) (.bind fun _ => .pure ⟨_, rfl⟩)
    refine (Yields.gives (motive := fun result => ∃ parts, result = Expr.phrase parts) ?_).mono
      fun _ _ text => .inr text
    refine .bind fun opens => .checked _ (.bind fun ahead => .ite _ ?_ ?_)
    · exact .bind fun _ => .bind fun _ => compared _
    · exact .bind fun _ => .bind fun _ => .bind fun _ => .bind fun _ => compared _

private theorem Yields.binaryOperation (left : Expr) (operator : String) (place : Option Position) :
    Yields (Grammar.binaryOperation cx rank left operator place) (Extends left) := by
  intro lexemes a rest read
  rcases Gives.binaryOperation left operator place (.any _) lexemes a rest rfl read with
    ⟨right, rfl, -⟩ | ⟨parts, rfl⟩
  · rfl
  · trivial

private theorem Yields.wordOperation (e : Expr) (lexeme : Lexeme) :
    Yields (Grammar.wordOperation cx rank e lexeme) (Extends e) := by
  unfold Grammar.wordOperation
  split
  · exact .isOperation e
  · exact .bind fun _ => .bind fun _ => .pure trivial
  · exact .pure trivial
  · exact .bind fun _ => .checked _ (.bind fun _ => .pure trivial)
  · exact .expectedAt _ _

private theorem Yields.operation (e : Expr) : Yields (Grammar.operation cx rank e) (Extends e) := by
  refine .bind fun found => ?_
  cases found with
  | none => exact .expectedAt _ _
  | some lexeme =>
    dsimp only
    split
    · exact .bind fun _ => .bind fun _ => .pure rfl
    split
    · exact .negatableOperation e
    refine .bind fun _ => .bind fun operator => ?_
    cases operator with
    | some operator => exact .binaryOperation e _ _
    | none =>
      dsimp only
      split
      · exact .bind fun _ => .pure trivial
      · split
        · exact .pure trivial
        · exact .expectedAt _ _
      · exact .wordOperation e lexeme

private theorem Gives.nextStrength :
    Gives (Grammar.nextStrength cx) tokens fun _ rest => rest = tokens := by
  refine .bind_runs (.peekTokens 3) ?_
  split <;> exact .pure rfl

private theorem Gives.outerJoinMarkAhead {d : Dialect} :
    Gives (Grammar.outerJoinMarkAhead d) tokens fun _ rest => rest = tokens := by
  unfold Grammar.outerJoinMarkAhead
  split
  · exact .bind_runs (.peekTokens 3) (.pure rfl)
  · exact .pure rfl

/-- Operations leave an expression as it is, with the tokens after it, or it grows. -/
theorem Gives.operations (root : Expr) (fuel : Nat) :
    Gives (Grammar.operations cx rank fuel root) tokens fun e rest =>
      (e = root ∧ rest = tokens) ∨ TransGen Extends root e := by
  induction fuel generalizing root tokens with
  | zero => exact .pure (.inl ⟨rfl, rfl⟩)
  | succ fuel ih =>
    refine .bind .nextStrength ?_
    rintro strength rest rfl
    refine .bind_runs (.peekSymbol ".") ?_
    split
    · exact .pure (.inl ⟨rfl, rfl⟩)
    · refine .bind (Yields.operation root).gives fun e rest extends' => ?_
      refine (ih e).mono fun a left grown => .inr ?_
      rcases grown with ⟨rfl, -⟩ | more
      · exact .single extends'
      · exact .head extends' more

/-! ### Constants and placeholders -/

def Composed : Expr → Prop
  | .literal _ => False
  | .placeholder _ => False
  | _ => True

private theorem composed_of_grown {root e : Expr} (grown : TransGen Extends root e) :
    Composed e := by
  obtain ⟨b, -, last⟩ := TransGen.tail'_iff.mp grown
  cases e with
  | literal => exact last.elim
  | placeholder => exact last.elim
  | _ => trivial

/-- An expression alone, with what was left after it, or one with more in it. -/
def AloneOr (root : Expr) (tokens : List Token) (e : Expr) (rest : List Token) : Prop :=
  (e = root ∧ rest = tokens) ∨ Composed e

private theorem composed_joinPart (root part : Expr) : Composed (Grammar.joinPart root part) := by
  unfold Grammar.joinPart
  split <;> trivial

private theorem Gives.parts (root : Expr) (fuel : Nat) :
    Gives (Grammar.parts cx fuel root) tokens (AloneOr root tokens) := by
  induction fuel generalizing root tokens with
  | zero => exact .pure (.inl ⟨rfl, rfl⟩)
  | succ fuel ih =>
    have extended {e : Expr} {rest : List Token} (composed : Composed e) :
        Gives (Grammar.parts cx fuel e) rest (AloneOr root tokens) := by
      refine (ih e).mono fun a left alone => .inr ?_
      rcases alone with ⟨rfl, -⟩ | more
      · exact composed
      · exact more
    refine .bind_runs (.peekTokens 2) ?_
    split
    · split
      · refine .bind_any fun _ _ => .bind_any fun _ _ => ?_
        split
        · exact .pure (.inr trivial)
        · exact (Yields.expected (motive := fun _ => False) _).gives.mono fun _ _ => False.elim
      · exact .pure (.inl ⟨rfl, rfl⟩)
    · exact .bind_any fun _ _ => .bind_any fun _ _ => extended (composed_joinPart _ _)
    · exact .bind_any fun _ _ => .bind_any fun _ _ => extended (composed_joinPart _ _)
    · exact .bind_any fun _ _ => .bind_any fun _ _ => extended (composed_joinPart _ _)
    · exact .bind_any fun _ _ => .bind_any fun _ _ => extended trivial
    · refine .bind .outerJoinMarkAhead ?_
      rintro found rest rfl
      cases found with
      | true => exact .bind_any fun _ _ => .pure (.inr trivial)
      | false => exact .pure (.inl ⟨rfl, rfl⟩)

theorem Gives.expression {root : Expr} (first : Runs (Grammar.operand cx) tokens root rest) :
    Gives (Grammar.expression cx rank) tokens (AloneOr root rest) := by
  have compound : Gives (Grammar.compound cx) tokens (AloneOr root rest) :=
    .bind_runs first (.get fun _ => .parts root _)
  have more {e : Expr} {left : List Token} (composed : Composed e) (fuel : Nat) :
      Gives (Grammar.operations cx rank fuel e) left (AloneOr root rest) := by
    refine (Gives.operations e fuel).mono fun a left alone => .inr ?_
    rcases alone with ⟨rfl, -⟩ | grown
    · exact composed
    · exact composed_of_grown grown
  refine .bind compound fun e left alone => .bind_runs (.peekKeyword _) ?_
  dsimp only
  split
  · have composed (parts : Fragments) : Composed (Grammar.phrase parts) := trivial
    exact .bind_any fun _ _ => .bind_any fun _ _ =>
      .bind_runs (.pure _) (.get fun _ => more (composed _) _)
  · refine .bind_runs (.pure _) (.get fun _ => ?_)
    rcases alone with ⟨rfl, rfl⟩ | composed
    · exact (Gives.operations _ _).mono fun a left alone => alone.imp_right composed_of_grown
    · exact more composed _

end RowStamp.Sql.Parser
