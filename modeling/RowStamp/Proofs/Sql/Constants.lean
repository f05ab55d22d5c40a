import RowStamp.Proofs.Sql.Reading
import RowStamp.Sql.Grammar.Operations

/-!
Constants, placeholders and names where an expression is read.
-/

set_option autoImplicit false
set_option relaxedAutoImplicit false

namespace RowStamp.Sql.Parser

open Grammar (operand symbolStrength)

variable {d : Dialect} {cx : Context} {rank : Nat} {tokens rest : List Token} {token : Token}

/-- Nothing that continues a name or opens arguments or a subscript is next. -/
def NoSuffix (tokens : List Token) : Prop :=
  ∀ token ∈ tokens.head?, token ≠ .symbol "." ∧ token ≠ .symbol "(" ∧ token ≠ .symbol "["

/-- Tokens that end an expression whose operators bind more strongly than a rank. -/
def Ends (d : Dialect) (rank : Nat) (tokens : List Token) : Prop :=
  ∀ token ∈ tokens.head?, token = .symbol "," ∨ token = .symbol ")" ∨
    token = .word "WHERE" none ∨ token = .word "AND" none ∧ Strength.and.rank d ≤ rank

namespace Ends

theorem comma (rest : List Token) : Ends d rank (.symbol "," :: rest) := by simp [Ends]

theorem close (rest : List Token) : Ends d rank (.symbol ")" :: rest) := by simp [Ends]

private theorem head_cases {motive : Token → Prop} (ends : Ends d rank tokens)
    (comma : motive (.symbol ",")) (close : motive (.symbol ")"))
    (condition : motive (.word "WHERE" none)) (and : motive (.word "AND" none)) :
    ∀ token ∈ tokens.head?, motive token := by
  intro token member
  rcases ends token member with rfl | rfl | rfl | ⟨rfl, -⟩ <;> assumption

private theorem noSuffix (ends : Ends d rank tokens) : NoSuffix tokens :=
  ends.head_cases (by simp) (by simp) (by simp) (by simp)

end Ends

private theorem Runs.nextStrength (ends : Ends cx.dialect rank rest) :
    ∃ strength : Strength, strength.rank cx.dialect ≤ rank ∧
      Runs (Grammar.nextStrength cx) rest strength rest := by
  have none' : Strength.none.rank cx.dialect ≤ rank := by
    simp [Strength.rank, Strength.commonRank, Strength.postgresRank]
  have comma : symbolStrength cx.dialect "," = .none := by cases cx.dialect <;> rfl
  have close : symbolStrength cx.dialect ")" = .none := by cases cx.dialect <;> rfl
  cases rest with
  | nil => exact ⟨.none, none', .bind (.peekTokens 3) (.pure _)⟩
  | cons token rest =>
    rcases ends token rfl with rfl | rfl | rfl | ⟨rfl, weak⟩
    · exact ⟨_, comma ▸ none', .bind (.peekTokens 3) (.pure _)⟩
    · exact ⟨_, close ▸ none', .bind (.peekTokens 3) (.pure _)⟩
    · exact ⟨.none, none', .bind (.peekTokens 3) (.pure _)⟩
    · exact ⟨.and, weak, .bind (.peekTokens 3) (.pure _)⟩

theorem Runs.outerJoinMarkAhead (absent : ∀ token ∈ tokens.head?, token ≠ .symbol "(") :
    Runs (Grammar.outerJoinMarkAhead d) tokens false tokens := by
  unfold Grammar.outerJoinMarkAhead
  split
  · refine .bind (.peekTokens 3) ?_
    have other : (tokens.take 3 == [.symbol "(", .symbol "+", .symbol ")"]) = false := by
      rw [beq_eq_false_iff_ne]
      rintro same
      cases tokens with
      | nil => simp at same
      | cons token tokens =>
        rw [List.take_succ_cons] at same
        exact absent token rfl (List.cons.inj same).1
    rw [other]
    exact .pure _
  · exact .pure _

private theorem Runs.parts (apart : NoSuffix rest) (root : Expr) (fuel : Nat) :
    Runs (Grammar.parts cx (fuel + 1) root) rest root rest := by
  have mark : Runs (Grammar.outerJoinMarkAhead cx.dialect) rest false rest :=
    .outerJoinMarkAhead fun token member => (apart token member).2.1
  refine .bind (.peekTokens 2) ?_
  cases rest with
  | nil => exact .bind mark (.pure _)
  | cons token rest =>
    obtain ⟨period, -, bracket⟩ := apart token rfl
    rw [List.take_succ_cons]
    split
    case h_6 => exact .bind mark (.pure _)
    all_goals
      rename_i same
      have first := (List.cons.inj same).1
      contradiction

/-- Tokens that neither continue an operand nor start an operation on it. -/
structure Stops (cx : Context) (rank : Nat) (tokens : List Token) : Prop where
  apart : NoSuffix tokens
  ordered : ∀ token ∈ tokens.head?, token.key ≠ "COLLATE"
  weak : ∃ strength : Strength, strength.rank cx.dialect ≤ rank ∧
    Runs (Grammar.nextStrength cx) tokens strength tokens

private theorem Ends.stops (ends : Ends cx.dialect rank tokens) : Stops cx rank tokens where
  apart := ends.noSuffix
  ordered := ends.head_cases (by decide) (by decide) (by decide) (by decide)
  weak := Runs.nextStrength ends

private theorem Stops.operations (stops : Stops cx rank rest) (e : Expr) (fuel : Nat) :
    Runs (Grammar.operations cx rank (fuel + 1) e) rest e rest := by
  obtain ⟨strength, weak, next⟩ := stops.weak
  refine .bind next (.bind (.peekSymbol ".") ?_)
  rw [if_pos (by simp [weak])]
  exact .pure _

theorem Runs.operations (ends : Ends cx.dialect rank rest) (e : Expr) (fuel : Nat) :
    Runs (Grammar.operations cx rank (fuel + 1) e) rest e rest := ends.stops.operations e fuel

theorem Runs.compound {root : Expr} (first : Runs (operand cx) tokens root rest)
    (apart : NoSuffix rest) : Runs (Grammar.compound cx) tokens root rest :=
  .bind first (.getLength fun _ _ => .parts apart root _)

/-- What an operand grows to: the rest of an expression, after its operand. -/
def afterOperand (cx : Context) (rank : Nat) (root : Expr) : Parser Expr := do
  let e ← Grammar.parts cx ((← get).length + 1) root
  let first ← if !cx.inColumn && (← peekKeyword "COLLATE") then
      skip
      pure (Grammar.phrase [e, word (" COLLATE " ++ nameText (← Parser.objectName cx.dialect))])
    else pure e
  Grammar.operations cx rank ((← get).length + 1) first

theorem expression_eq :
    Grammar.expression cx rank = operand cx >>= afterOperand cx rank := by
  simp only [Grammar.expression, Grammar.compound, bind_assoc]
  rfl

theorem Stops.afterOperand (stops : Stops cx rank rest) (root : Expr) :
    Runs (afterOperand cx rank root) rest root rest := by
  have collate : rest.head?.any (·.key == "COLLATE") = false := by
    rw [Option.any_eq_false]
    simpa using stops.ordered
  refine .getLength fun _ _ => .bind (.parts stops.apart root _) (.bind (.peekKeyword _) ?_)
  rw [collate, Bool.and_false]
  exact .bind (.pure _) (.getLength fun _ _ => stops.operations root _)

private theorem Runs.expression {root : Expr} (first : Runs (operand cx) tokens root rest)
    (ends : Ends cx.dialect rank rest) : Runs (Grammar.expression cx rank) tokens root rest := by
  rw [expression_eq]
  exact .bind first (ends.stops.afterOperand root)

/-! ### Operands -/

theorem Fails.dataType (other : token.isWord = false) :
    Fails (Grammar.dataType d) (token :: rest) := by
  refine .peekLexeme_some fun lexeme same => ?_
  obtain ⟨found, position⟩ := lexeme
  subst same
  cases found with
  | word => simp [Token.isWord] at other
  | _ => exact .expectedAt _ _

private theorem Runs.typedConstant_of_not_word (other : token.isWord = false) :
    Runs (Grammar.typedConstant cx) (token :: rest) none (token :: rest) :=
  .attempt_of_fails (.peekLexeme_some fun _ _ => .bind_first (.dataType other))

inductive IsConstant (d : Dialect) : Token → Expr → Prop
  | number (digits : String) : IsConstant d (.number digits false) (.literal (.number digits false))
  | string (value : String) :
      IsConstant d (.string .plain value) (.literal (.string .plain value))
  | placeholder (text : String) : IsConstant d (.placeholder text) (.placeholder text)

private theorem Runs.joinedStrings (ends : Ends d rank rest) (fuel : Nat) :
    Runs (Grammar.joinedStrings (fuel + 1)) rest "" rest := by
  refine .peekLexeme fun found head => ?_
  rw [head]
  cases rest with
  | nil => exact .pure _
  | cons token rest => rcases ends token rfl with rfl | rfl | rfl | ⟨rfl, -⟩ <;> exact .pure _

private theorem Runs.stringLiteral (ends : Ends d rank rest) (value : String) :
    Runs (Grammar.stringLiteral d .plain value) rest (.literal (.string .plain value)) rest := by
  have read : Runs (Grammar.stringLiteral d .plain value) rest
      (.literal (.string .plain (value ++ ""))) rest := by
    unfold Grammar.stringLiteral
    dsimp only
    split
    · exact .getLength fun _ _ => .bind (.joinedStrings ends _) (.pure _)
    · exact .bind (.pure _) (.pure _)
  rwa [String.append_empty] at read

private theorem Runs.value {e : Expr} (constant : IsConstant d token e) (ends : Ends d rank rest) :
    Runs (Grammar.value d) (token :: rest) e rest := by
  refine .next_some fun lexeme same => ?_
  rw [Option.map_some, same]
  cases constant with
  | number => exact .pure _
  | string => exact .stringLiteral ends _
  | placeholder => exact .pure _

theorem Runs.constant {e : Expr} (constant : IsConstant cx.dialect token e)
    (ends : Ends cx.dialect rank rest) :
    Runs (Grammar.expression cx rank) (token :: rest) e rest := by
  have noWord : token.isWord = false := by cases constant <;> rfl
  refine .expression (.bind (.typedConstant_of_not_word noWord) ?_) ends
  refine .peekLexeme_some fun lexeme same => ?_
  have read := Runs.value constant ends
  cases constant <;> simpa [same, Grammar.operand.valueOrFault, Grammar.startsValue] using read

theorem Runs.stringOperand (apart : cx.dialect.joinsStrings = false) (value : String)
    (rest : List Token) :
    Runs (operand cx) (.string .plain value :: rest) (.literal (.string .plain value)) rest := by
  refine .bind (.typedConstant_of_not_word rfl) (.peekLexeme_some fun lexeme same => ?_)
  have read : Runs (Grammar.value cx.dialect) (.string .plain value :: rest)
      (.literal (.string .plain (value ++ ""))) rest := by
    refine .next_some fun lexeme same => ?_
    rw [Option.map_some, same]
    dsimp only [Grammar.stringLiteral]
    rw [apart]
    exact .bind (.pure _) (.pure _)
  rw [String.append_empty] at read
  simpa [same, Grammar.operand.valueOrFault, Grammar.startsValue] using read

/-! ### Words -/

theorem Runs.identifier {ident : Ident} (same : ident? token = some ident) (rest : List Token) :
    Runs identifier (token :: rest) ident rest := by
  refine .next_some fun lexeme found => ?_
  rw [Option.bind_some, found, same]
  exact .pure _

theorem Gives.identifier : Gives identifier tokens fun ident rest =>
    ∃ token, tokens = token :: rest ∧ ident? token = some ident := by
  refine .next (.expectedAt _ _) fun lexeme rest same => ?_
  rw [Option.bind_some]
  split
  next ident is => exact .pure ⟨lexeme.token, same, is⟩
  next => exact .expectedAt _ _

theorem Runs.objectName {ident : Ident} (same : ident? token = some ident)
    (apart : ∀ token ∈ rest.head?, token ≠ .symbol ".") :
    Runs (objectName d) (token :: rest) [ident] rest := by
  refine .getLength fun lexemes _ => ?_
  have other : (rest.take 2 == [.symbol ".", .symbol "."]) = false := by
    rw [beq_eq_false_iff_ne]
    intro two
    cases rest with
    | nil => simp at two
    | cons token rest =>
      rw [List.take_succ_cons] at two
      exact apart token rfl (List.cons.inj two).1
  refine .bind (.identifier same _) (.bind (.peekTokens 2) ?_)
  rw [other, Bool.and_false]
  exact .bind (.symbol_absent apart) (.pure _)

private theorem Runs.dataType_of_untyped {value : String} {quote : Option Char}
    (untyped : ∀ element, Grammar.namedType? d element (Token.word value quote).key = none)
    (apart : NoSuffix rest) :
    Runs (Grammar.dataType d) (.word value quote :: rest)
      ⟨.custom, nameText [⟨value, quote⟩]⟩ rest := by
  refine .peekLexeme_some fun lexeme same => ?_
  obtain ⟨found, position⟩ := lexeme
  subst same
  have base : Runs (Grammar.customType d) (.word value quote :: rest)
      ⟨.custom, nameText [⟨value, quote⟩]⟩ rest :=
    .bind (.objectName rfl fun token member => (apart token member).1)
      (.bind (.symbol_absent fun token member => (apart token member).2.1) (.pure _))
  dsimp only
  rw [untyped]
  refine .bind base ?_
  split
  · exact .getLength fun _ _ =>
      .bind (.symbol_absent fun token member => (apart token member).2.2) (.pure _)
  · exact .pure _

theorem Runs.typedConstant_of_word {value : String} {quote : Option Char}
    (untyped : ∀ element,
      Grammar.namedType? cx.dialect element (Token.word value quote).key = none)
    (apart : NoSuffix rest) :
    Runs (Grammar.typedConstant cx) (.word value quote :: rest) none (.word value quote :: rest) :=
  .attempt_of_fails <| .peekLexeme_some fun _ _ =>
    .bind (Runs.dataType_of_untyped untyped apart) (.expectedAt _ _)

theorem Runs.null (ends : Ends cx.dialect rank rest) :
    Runs (Grammar.expression cx rank) (.word "NULL" none :: rest) (.literal .null) rest := by
  have untyped (element : Parser TypeName) :
      Grammar.namedType? cx.dialect element (Token.word "NULL" none).key = none := by
    rfl
  refine .expression (.bind (.typedConstant_of_word untyped ends.noSuffix) ?_) ends
  refine .peekLexeme_some fun lexeme same => ?_
  dsimp only
  rw [same]
  refine .bind .skip (.bind (.tried (a := some (.literal .null)) ?_) (.pure _))
  unfold Grammar.reservedForm
  rw [same]
  exact .pure _

end RowStamp.Sql.Parser
