import RowStamp.Proofs.Sql.Simple
import RowStamp.Proofs.Sql.Written
import RowStamp.Sql.Grammar.Statements

/-!
Statements and their texts.  Where the tokens of a text are read as the statement that it was
written for, the statement is read back from the text; and what must hold of a text where a parser
gives for it what it was written for: as long as the results are the written parts, the tokens
ahead are those of the text that is left.
-/

set_option autoImplicit false
set_option relaxedAutoImplicit false

namespace RowStamp.Sql

open RowStamp.Sql.Parser (Ends Gives Runs)

variable {d : Dialect} {post : List Char} {tokens : List Token}

/-- A parser gives back what a text was written for only where something holds, and leaves the
tokens of what follows the text. -/
def Recovers {α : Type} (d : Dialect) (p : Parser α) (tokens : List Token) (a : α) (fine : Prop)
    (post : List Char) : Prop :=
  Gives p tokens fun b rest => b = a → fine ∧ Ahead d post rest

/-- What follows an element of a list: a comma, or the end of the list. -/
def Follows (post others : List Char) : Prop :=
  others = post ∨ ∃ more, others = [',', ' '] ++ more

theorem Follows.delimited {others : List Char} (follows : Follows post others)
    (delimited : Delimited post) : Delimited others := by
  rcases follows with rfl | ⟨more, rfl⟩
  · exact delimited
  · simp [Delimited]

theorem Ahead.opening (ahead : Ahead d ('(' :: post) tokens) :
    ∃ more, tokens = .symbol "(" :: more ∧ Ahead d post more :=
  ahead.punctuation ['('] (by decide)

theorem Ahead.closing (ahead : Ahead d (')' :: post) tokens) :
    ∃ more, tokens = .symbol ")" :: more ∧ Ahead d post more :=
  ahead.punctuation [')'] (by decide)

theorem Ahead.blank (ahead : Ahead d (' ' :: post) tokens) : Ahead d post tokens := by
  obtain ⟨more, rfl, ahead⟩ := ahead.punctuation [' '] (by decide)
  exact ahead

theorem Ahead.comma (ahead : Ahead d ([',', ' '] ++ post) tokens) :
    ∃ more, tokens = .symbol "," :: more ∧ Ahead d post more :=
  ahead.punctuation [',', ' '] (by decide)

variable {α β : Type} {element : Parser α} {value : β → α} {textOf : β → List Char}
  {fine : β → Prop} {list : List β}

private theorem Recovers.commaListFrom
    (stop : ∀ tokens, Ahead d post tokens → ∀ token ∈ tokens.head?, token ≠ .symbol ",")
    (each : ∀ b ∈ list, ∀ others, Follows post others → ∀ tokens,
      Ahead d (textOf b ++ others) tokens →
      Recovers d element tokens (value b) (fine b) others)
    (some' : list ≠ []) (fuel : Nat)
    (ahead : Ahead d (separated (list.map textOf) ++ post) tokens) :
    Recovers d (Parser.commaListFrom (fun _ => false) element fuel) tokens (list.map value)
      (∀ b ∈ list, fine b) post := by
  induction list generalizing fuel tokens with
  | nil => exact absurd rfl some'
  | cons b list ih =>
    rw [List.forall_mem_cons] at each
    obtain ⟨first, later⟩ := each
    cases fuel with
    | zero => exact .pure fun same => by simp at same
    | succ fuel =>
      obtain ⟨others, follows, split, shape⟩ : ∃ others, Follows post others ∧
          separated ((b :: list).map textOf) ++ post = textOf b ++ others ∧
          (list = [] ∧ others = post ∨
            list ≠ [] ∧ others = [',', ' '] ++ (separated (list.map textOf) ++ post)) := by
        cases list with
        | nil => exact ⟨post, .inl rfl, by simp [separated], .inl ⟨rfl, rfl⟩⟩
        | cons c list =>
          exact ⟨_, .inr ⟨_, rfl⟩, by simp [separated_cons_cons], .inr ⟨by simp, rfl⟩⟩
      rw [split] at ahead
      refine .bind (first others follows tokens ahead) fun a rest known => ?_
      by_cases same : a = value b
      · obtain ⟨holds, onward⟩ := known same
        rcases shape with ⟨rfl, rfl⟩ | ⟨more', rfl⟩
        · exact .bind_runs (.symbol_absent (stop rest onward))
            (.pure fun _ => ⟨by simpa using holds, onward⟩)
        · obtain ⟨more, rfl, next⟩ := onward.comma
          refine .bind_runs (.symbol_present "," _) (.peekLexeme fun found => ?_)
          have others := ih later more' fuel next
          cases found <;> exact .bind others fun as rest known => .pure fun same =>
            ⟨List.forall_mem_cons.mpr ⟨holds, (known (List.cons.inj same).2).1⟩,
              (known (List.cons.inj same).2).2⟩
      · refine .bind_any fun found rest => ?_
        cases found with
        | true =>
          refine .peekLexeme fun found => ?_
          cases found <;>
            exact .bind_any fun more rest => .pure fun whole => absurd (List.cons.inj whole).1 same
        | false => exact .pure fun whole => absurd (List.cons.inj whole).1 same

theorem Recovers.commaList
    (stop : ∀ tokens, Ahead d post tokens → ∀ token ∈ tokens.head?, token ≠ .symbol ",")
    (each : ∀ b ∈ list, ∀ others, Follows post others → ∀ tokens,
      Ahead d (textOf b ++ others) tokens →
      Recovers d element tokens (value b) (fine b) others)
    (some' : list ≠ []) (ahead : Ahead d (separated (list.map textOf) ++ post) tokens) :
    Recovers d (Parser.commaList element) tokens (list.map value) (∀ b ∈ list, fine b) post :=
  Gives.get fun _ => Recovers.commaListFrom stop each some' _ ahead

/-! ### Values and words at a level -/

/-- What clauses are read with where so many levels remain below them. -/
def atLevel (d : Dialect) (depth : Nat) : Context := ⟨d, Grammar.atDepth d depth, false⟩

variable {rest : List Token} {depth : Nat}

@[simp] theorem key_symbol (text : String) : (Token.symbol text).key = "" := rfl

theorem token_ne_symbol (e : Expr) (text : String) : e.token ≠ .symbol text := by
  unfold Expr.token
  split <;> simp

theorem runs_expr {e : Expr} (simple : e.Simple d) (ends : Ends d 0 rest) :
    Runs (atLevel d (depth + 1)).expr (e.token :: rest) e rest := by
  have rank : Strength.none.rank d = 0 := by cases d <;> rfl
  have read := simple.runs (atLevel d depth) ends
  rw [← rank] at read
  exact read

/-- A text is a string literal with some value: it is read as one expression, which is that
literal. -/
def Denotes (d : Dialect) (written value : String) : Prop :=
  ∃ lexemes left, Sql.lexemes d written = .ok lexemes ∧
    (atLevel d 49).expr lexemes = .ok (.literal (.quoted value), left) ∧ significant left = []

theorem denotes_string {value : String}
    (fine : (Expr.literal (.quoted value)).survives d = true) :
    Denotes d (Expr.literal (.quoted value)).text value := by
  have simple : (Expr.literal (.quoted value)).Simple d := .string value
  obtain ⟨lexemes, read, same⟩ := (simple.spells fine).lexemes_eq
  have ends : Ends d 0 [] := by simp [Ends]
  obtain ⟨left, parsed, rest⟩ := runs_expr simple ends lexemes same
  exact ⟨lexemes, left, read, parsed, rest⟩

theorem gives_objectName : Gives (Parser.objectName d) tokens fun names _ =>
    ∃ token more ident others, tokens = token :: more ∧ Parser.ident? token = some ident ∧
      names = ident :: others := by
  refine .get fun lexemes => .bind .identifier ?_
  rintro ident rest ⟨token, rfl, same⟩
  refine .bind_runs (.peekTokens 2) ?_
  split
  · exact .bind_any fun _ _ => .bind_any fun _ _ => .bind_any fun _ _ =>
      .pure ⟨token, rest, ident, _, rfl, same, rfl⟩
  · refine .bind_any fun period _ => ?_
    cases period with
    | true => exact .bind_any fun _ _ => .pure ⟨token, rest, ident, _, rfl, same, rfl⟩
    | false => exact .pure ⟨token, rest, ident, [], rfl, same, rfl⟩

/-- An identifier is read of its text only where it survives and is a name if it has no quotes. -/
theorem recovers_identifier (other : d ≠ .mySql) {ident : Ident} (shaped : ident.Shaped d)
    (delimited : Delimited post) (ahead : Ahead d (ident.text.toList ++ post) tokens) :
    Recovers d Parser.identifier tokens ident (ident.survives = true ∧ ident.legible d = true)
      post := by
  refine Gives.identifier.mono ?_
  rintro found rest ⟨token, rfl, is⟩ rfl
  obtain rfl := shaped.eq_token delimited ahead is
  exact shaped.ahead other delimited ahead

/-! ### Statements -/

variable {statement : Statement}

theorem parse_of_runs {text : String} (spells : Spells d text.toList tokens)
    (start : ∃ token more, tokens = token :: more ∧ token ≠ .symbol ";")
    (runs : Runs (Grammar.anyStatement (atLevel d 49)) tokens statement []) :
    Statement.parse d text = .ok statement := by
  obtain ⟨found, read, same⟩ := spells.lexemes_eq
  obtain ⟨token, more, rfl, other⟩ := start
  obtain ⟨fuel, enough⟩ : ∃ n, 2 * found.length + 1 = n + 2 := by
    have some' := length_significant_le found
    rw [same, List.length_cons] at some'
    exact ⟨2 * found.length - 1, by omega⟩
  have all : Runs (Grammar.statements d (fuel + 2) true) (token :: more) [statement] [] := by
    refine .bind (.symbol_absent (by simpa using other)) (.peekLexeme_some fun lexeme _ => ?_)
    refine .bind runs (.bind ?_ (.pure _))
    exact .bind (.symbol_absent (by simp)) (.peekLexeme_none (.pure _))
  obtain ⟨left, result, -⟩ := all found same
  have statements : statementsOf d text = .ok [statement] := by
    simp only [statementsOf, read, enough, StateT.run', result]
    rfl
  rw [Statement.parse, statements]

/-- What holds wherever the tokens of a text are read as the statement that it was written for
holds where the statement is read back from the text. -/
theorem of_parse {fine : Prop} (other : d ≠ .mySql)
    (start : ∀ tokens, Ahead d statement.text.toList tokens →
      ∃ token more, tokens = token :: more ∧ token ≠ .symbol ";")
    (recovers : ∀ tokens, Ahead d statement.text.toList tokens →
      Gives (Grammar.anyStatement (atLevel d 49)) tokens fun written _ =>
        written = statement → fine)
    (back : Statement.parse d statement.text = .ok statement) : fine := by
  have plain : d.executableComments = false := decide_eq_false other
  cases read : lexemes d statement.text with
  | error fault =>
    have statements : statementsOf d statement.text = .error (.lexical fault) := by
      simp only [statementsOf, read]
      rfl
    simp [Statement.parse, statements] at back
  | ok found =>
    have ahead : Ahead d statement.text.toList (significant found) :=
      ⟨none, by simp, lexes_of_lexemes plain read⟩
    have statements : statementsOf d statement.text =
        (Grammar.statements d (2 * found.length + 1) true).run' found := by
      simp only [statementsOf, read]
    obtain ⟨token, more, same, apart⟩ := start _ ahead
    have all : Gives (Grammar.statements d (2 * found.length + 1) true) (token :: more)
        fun written _ => written = [statement] → fine := by
      refine .bind_runs (.symbol_absent (by simpa using apart))
        (.peekLexeme_some fun lexeme _ => ?_)
      rw [← same]
      exact .bind (recovers _ ahead) fun written rest known => .bind_any fun _ _ =>
        .pure fun whole => known (List.cons.inj whole).1
    rw [Statement.parse, statements] at back
    cases result : Grammar.statements d (2 * found.length + 1) true found with
    | error fault => simp [StateT.run', result] at back
    | ok pair =>
      obtain ⟨list, left⟩ := pair
      have whole : list = [statement] := by
        simp only [StateT.run', result] at back
        match list with
        | [statement] => simpa using back
        | [] => simp at back
        | _ :: _ :: _ => simp at back
      exact all found list left same result whole

end RowStamp.Sql
