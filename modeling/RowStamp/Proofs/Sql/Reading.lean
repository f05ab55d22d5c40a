import RowStamp.Proofs.Sql.Scanning
import RowStamp.Sql.Grammar.Context

/-!
What parsers do with tokens, blanks aside.  A parser runs from some tokens to others with a result;
it fails on some tokens; or, where it is not said that it succeeds, all of its results on some
tokens have a property.  There is one rule for each way to put parsers together.
-/

set_option autoImplicit false
set_option relaxedAutoImplicit false

namespace RowStamp.Sql

namespace Parser

variable {α β : Type} {tokens rest : List Token} {token : Token}

theorem significant_ahead (lexemes : List Lexeme) :
    significant (ahead lexemes) = significant lexemes := by
  induction lexemes with
  | nil => rfl
  | cons lexeme lexemes ih =>
    cases blank : lexeme.token.isBlank with
    | true =>
      rw [ahead, List.dropWhile_cons_of_pos (by simpa using blank)]
      simpa [significant, blank, ahead] using ih
    | false => rw [ahead, List.dropWhile_cons_of_neg (by simp [blank])]

theorem not_isBlank_of_ahead {lexemes more : List Lexeme} {lexeme : Lexeme}
    (found : ahead lexemes = lexeme :: more) : lexeme.token.isBlank = false := by
  have kept := List.head?_dropWhile_not (·.token.isBlank) lexemes
  rw [← ahead, found] at kept
  simpa using kept

private theorem ahead_of_nil {lexemes : List Lexeme} (none' : significant lexemes = []) :
    ahead lexemes = [] := by
  cases found : ahead lexemes with
  | nil => rfl
  | cons lexeme more =>
    have kept := not_isBlank_of_ahead found
    have same := significant_ahead lexemes
    rw [found, none', significant] at same
    simp [kept] at same

private theorem ahead_of_cons {lexemes : List Lexeme}
    (some' : significant lexemes = token :: rest) :
    ∃ lexeme more, ahead lexemes = lexeme :: more ∧ lexeme.token = token ∧
      significant more = rest := by
  have same := significant_ahead lexemes
  rw [some'] at same
  cases found : ahead lexemes with
  | nil => simp [found, significant] at same
  | cons lexeme more =>
    have kept := not_isBlank_of_ahead found
    rw [found, significant] at same
    simp only [List.filter_cons, kept, Bool.not_false, if_true, List.map_cons,
      List.cons.injEq] at same
    exact ⟨lexeme, more, rfl, same.1, same.2⟩

/-! ### Runs -/

/-- A parser reads some of the tokens, gives a result and leaves the others. -/
def Runs (p : Parser α) (tokens : List Token) (a : α) (rest : List Token) : Prop :=
  ∀ lexemes, significant lexemes = tokens →
    ∃ left, p lexemes = .ok (a, left) ∧ significant left = rest

/-- A parser fails on some tokens, and not for depth. -/
def Fails (p : Parser α) (tokens : List Token) : Prop :=
  ∀ lexemes, significant lexemes = tokens → ∃ fault, p lexemes = .error fault ∧ fault ≠ .depth

/-- What a parser gives and leaves, where it gives anything. -/
def Gives (p : Parser α) (tokens : List Token) (motive : α → List Token → Prop) : Prop :=
  ∀ lexemes a left, significant lexemes = tokens → p lexemes = .ok (a, left) →
    motive a (significant left)

theorem bind_apply (p : Parser α) (f : α → Parser β) (lexemes : List Lexeme) :
    (p >>= f) lexemes = (p lexemes >>= fun (a, left) => f a left) := rfl

theorem bind_ok {p : Parser α} {f : α → Parser β} {lexemes left : List Lexeme} {a : α}
    (first : p lexemes = .ok (a, left)) : (p >>= f) lexemes = f a left := by
  rw [bind_apply, first]
  rfl

theorem exists_of_bind_ok {p : Parser α} {f : α → Parser β} {lexemes left : List Lexeme} {b : β}
    (read : (p >>= f) lexemes = .ok (b, left)) :
    ∃ a middle, p lexemes = .ok (a, middle) ∧ f a middle = .ok (b, left) := by
  rw [bind_apply] at read
  cases first : p lexemes with
  | error fault =>
    rw [first] at read
    cases read
  | ok result =>
    rw [first] at read
    exact ⟨result.1, result.2, rfl, read⟩

namespace Runs

theorem pure (a : α) : Runs (pure a) tokens a tokens := fun lexemes same => ⟨lexemes, rfl, same⟩

theorem bind {p : Parser α} {f : α → Parser β} {a : α} {b : β} {middle : List Token}
    (first : Runs p tokens a middle) (second : Runs (f a) middle b rest) :
    Runs (p >>= f) tokens b rest := by
  intro lexemes same
  obtain ⟨left, read, next⟩ := first lexemes same
  obtain ⟨last, finish, done⟩ := second left next
  exact ⟨last, (bind_ok read).trans finish, done⟩

theorem getLength {f : List Lexeme → Parser β} {b : β}
    (second : ∀ lexemes, tokens.length ≤ lexemes.length → Runs (f lexemes) tokens b rest) :
    Runs (get >>= f) tokens b rest := by
  intro lexemes same
  refine second lexemes ?_ lexemes same
  rw [← same]
  exact length_significant_le lexemes

theorem peekLexeme {f : Option Lexeme → Parser β} {b : β}
    (second : ∀ found : Option Lexeme, found.map Lexeme.token = tokens.head? →
      Runs (f found) tokens b rest) : Runs (peekLexeme >>= f) tokens b rest := by
  intro lexemes same
  have head : (ahead lexemes).head?.map Lexeme.token = tokens.head? := by
    cases tokens with
    | nil => rw [ahead_of_nil same]; rfl
    | cons token tokens =>
      obtain ⟨lexeme, others, found, rfl, -⟩ := ahead_of_cons same
      rw [found]
      rfl
  exact second _ head lexemes same

theorem peekLexeme_none {f : Option Lexeme → Parser β} {b : β}
    (second : Runs (f none) [] b rest) : Runs (Parser.peekLexeme >>= f) [] b rest := by
  refine .peekLexeme fun found head => ?_
  obtain rfl : found = none := by simpa using head
  exact second

theorem peekLexeme_some {f : Option Lexeme → Parser β} {b : β} {more : List Token}
    (second : ∀ lexeme : Lexeme, lexeme.token = token →
      Runs (f (some lexeme)) (token :: more) b rest) :
    Runs (Parser.peekLexeme >>= f) (token :: more) b rest := by
  refine .peekLexeme fun found head => ?_
  obtain ⟨lexeme, rfl, same⟩ := Option.map_eq_some_iff.mp head
  exact second lexeme same

theorem next_some {f : Option Lexeme → Parser β} {b : β} {more : List Token}
    (second : ∀ lexeme : Lexeme, lexeme.token = token → Runs (f (some lexeme)) more b rest) :
    Runs (next >>= f) (token :: more) b rest := by
  intro lexemes same
  obtain ⟨lexeme, others, found, this, next⟩ := ahead_of_cons same
  obtain ⟨left, read, done⟩ := second lexeme this others next
  refine ⟨left, ?_, done⟩
  simp only [bind_apply, Parser.next, found]
  exact read

theorem skip : Runs skip (token :: rest) () rest := by
  intro lexemes same
  obtain ⟨lexeme, others, found, -, next⟩ := ahead_of_cons same
  exact ⟨others, by simp [Parser.skip, found], next⟩

theorem peekTokens (n : Nat) : Runs (peekTokens n) tokens (tokens.take n) tokens := by
  intro lexemes same
  refine ⟨lexemes, ?_, same⟩
  rw [Parser.peekTokens, List.map_take]
  exact congrArg (fun list => Except.ok (List.take n list, lexemes)) same

theorem peekKeyword (name : String) :
    Runs (peekKeyword name) tokens (tokens.head?.any (·.key == name)) tokens := by
  cases tokens with
  | nil => exact .peekLexeme_none (.pure _)
  | cons token tokens =>
    refine .peekLexeme_some fun lexeme same => ?_
    subst same
    exact .pure _

theorem peekSymbol (name : String) :
    Runs (peekSymbol name) tokens (tokens.head?.any (· == .symbol name)) tokens := by
  cases tokens with
  | nil => exact .peekLexeme_none (.pure _)
  | cons token tokens =>
    refine .peekLexeme_some fun lexeme same => ?_
    subst same
    exact .pure _

theorem keyword_absent {name : String} (absent : ∀ token ∈ tokens.head?, token.key ≠ name) :
    Runs (keyword name) tokens false tokens := by
  refine .bind (peekKeyword name) ?_
  have none' : tokens.head?.any (·.key == name) = false := by
    rw [Option.any_eq_false]
    simpa using absent
  rw [none']
  exact .pure _

theorem keyword_present (token : Token) (rest : List Token) :
    Runs (keyword token.key) (token :: rest) true rest := by
  refine .bind (peekKeyword _) ?_
  rw [List.head?_cons, Option.any_some, beq_self_eq_true, if_pos rfl]
  exact .bind .skip (.pure _)

theorem symbol_absent {name : String} (absent : ∀ token ∈ tokens.head?, token ≠ .symbol name) :
    Runs (symbol name) tokens false tokens := by
  refine .bind (peekSymbol name) ?_
  have none' : tokens.head?.any (· == .symbol name) = false := by
    rw [Option.any_eq_false]
    simpa using absent
  rw [none']
  exact .pure _

theorem symbol_present (name : String) (rest : List Token) :
    Runs (symbol name) (.symbol name :: rest) true rest := by
  refine .bind (peekSymbol _) ?_
  rw [List.head?_cons, Option.any_some, beq_self_eq_true, if_pos rfl]
  exact .bind .skip (.pure _)

theorem keywords_absent {list : List String}
    (absent : (tokens.take list.length).map Token.key ≠ list) :
    Runs (keywords list) tokens false tokens := by
  refine .bind (peekTokens _) ?_
  rw [beq_eq_false_iff_ne.mpr absent]
  exact .pure _

theorem oneOfKeywords_absent {list : List String}
    (absent : ∀ token ∈ tokens.head?, token.key ∉ list) :
    Runs (oneOfKeywords list) tokens none tokens := by
  cases tokens with
  | nil => exact .peekLexeme_none (.pure _)
  | cons token tokens =>
    refine .peekLexeme_some fun lexeme same => ?_
    subst same
    have other : list.contains lexeme.token.key = false := by simpa using absent _ rfl
    simp only [other]
    exact .pure _

theorem expectKeyword (token : Token) (rest : List Token) :
    Runs (expectKeyword token.key) (token :: rest) () rest :=
  .bind (keyword_present _ _) (.pure _)

theorem expectSymbol (name : String) (rest : List Token) :
    Runs (expectSymbol name) (.symbol name :: rest) () rest :=
  .bind (symbol_present _ _) (.pure _)

theorem attempt_of_runs {p : Parser α} {a : α} (runs : Runs p tokens a rest) :
    Runs (attempt p) tokens (some a) rest := by
  intro lexemes same
  obtain ⟨left, read, done⟩ := runs lexemes same
  exact ⟨left, by simp [attempt, read], done⟩

theorem attempt_of_fails {p : Parser α} (fails : Fails p tokens) :
    Runs (attempt p) tokens none tokens := by
  intro lexemes same
  obtain ⟨fault, read, other⟩ := fails lexemes same
  refine ⟨lexemes, ?_, same⟩
  cases fault <;> simp_all [attempt]

theorem tried {p : Parser α} {a : α} (runs : Runs p tokens a rest) :
    Runs (tried p) tokens (.ok a) rest := by
  intro lexemes same
  obtain ⟨left, read, done⟩ := runs lexemes same
  exact ⟨left, by simp [Parser.tried, read], done⟩

theorem forIn {state : Type} {list : List β} {f : β → state → Parser (ForInStep state)} {s : state}
    (each : ∀ b ∈ list, Runs (f b s) tokens (.yield s) tokens) :
    Runs (forIn list s f) tokens s tokens := by
  induction list with
  | nil => exact .pure s
  | cons b list ih =>
    rw [List.forall_mem_cons] at each
    rw [List.forIn_cons]
    exact .bind each.1 (ih each.2)

end Runs

/-! ### Lists -/

section Lists

variable {element : Parser α} (follows : List Token → Prop) {tokensOf : β → List Token}
  {value : β → α} {list : List β}

private theorem Runs.commaListFrom (comma : ∀ rest, follows (.symbol "," :: rest))
    (last : follows rest) (stop : ∀ token ∈ rest.head?, token ≠ .symbol ",")
    (each : ∀ b ∈ list, ∀ rest, follows rest →
      Runs element (tokensOf b ++ rest) (value b) rest)
    (some' : list ≠ []) {fuel : Nat} (enough : list.length ≤ fuel) :
    Runs (commaListFrom (fun _ => false) element fuel)
      ([.symbol ","].intercalate (list.map tokensOf) ++ rest) (list.map value) rest := by
  induction list generalizing fuel with
  | nil => exact absurd rfl some'
  | cons b list ih =>
    rw [List.forall_mem_cons] at each
    obtain ⟨fuel, rfl⟩ : ∃ n, fuel = n + 1 := Nat.exists_eq_succ_of_ne_zero (by
      rintro rfl
      simp at enough)
    cases list with
    | nil =>
      rw [List.map_singleton, List.intercalate_singleton, List.map_singleton]
      exact .bind (each.1 rest last) (.bind (.symbol_absent stop) (.pure _))
    | cons c list =>
      rw [List.map_cons, List.map_cons, List.intercalate_cons_cons, ← List.map_cons,
        List.append_assoc, List.append_assoc]
      have more := ih each.2 (List.cons_ne_nil _ _) (Nat.le_of_succ_le_succ enough)
      refine .bind (each.1 _ (comma _)) (.bind (.symbol_present "," _) ?_)
      refine .peekLexeme fun found _ => ?_
      cases found <;> exact .bind more (.pure _)

private theorem length_le_intercalate (tokensOf : β → List Token) (list : List β) :
    list.length ≤ ([.symbol ","].intercalate (list.map tokensOf)).length + 1 := by
  induction list with
  | nil => exact Nat.zero_le _
  | cons b list ih =>
    cases list with
    | nil => simp
    | cons c list =>
      rw [List.map_cons, List.map_cons, List.intercalate_cons_cons, ← List.map_cons]
      simp only [List.length_cons, List.length_append, List.length_nil] at ih ⊢
      omega

theorem exists_intercalate_eq_cons (f : β → Token) (b : β) (list : List β) :
    ∃ tail, [.symbol ","].intercalate ((b :: list).map fun b => [f b]) = f b :: tail := by
  cases list with
  | nil => exact ⟨[], rfl⟩
  | cons c list =>
    rw [List.map_cons, List.map_cons, List.intercalate_cons_cons]
    exact ⟨_, rfl⟩

theorem Runs.commaList (comma : ∀ rest, follows (.symbol "," :: rest)) (last : follows rest)
    (stop : ∀ token ∈ rest.head?, token ≠ .symbol ",")
    (each : ∀ b ∈ list, ∀ rest, follows rest →
      Runs element (tokensOf b ++ rest) (value b) rest) (some' : list ≠ []) :
    Runs (commaList element) ([.symbol ","].intercalate (list.map tokensOf) ++ rest)
      (list.map value) rest := by
  refine .getLength fun lexemes enough => ?_
  refine .commaListFrom follows comma last stop each some' ?_
  have bound := length_le_intercalate tokensOf list
  rw [List.length_append] at enough
  omega

end Lists

/-! ### Failures -/

namespace Fails

theorem bind {p : Parser α} {f : α → Parser β} {a : α} {middle : List Token}
    (first : Runs p tokens a middle) (second : Fails (f a) middle) : Fails (p >>= f) tokens := by
  intro lexemes same
  obtain ⟨left, read, next⟩ := first lexemes same
  obtain ⟨fault, failed, other⟩ := second left next
  exact ⟨fault, (bind_ok read).trans failed, other⟩

theorem bind_first {p : Parser α} {f : α → Parser β} (first : Fails p tokens) :
    Fails (p >>= f) tokens := by
  intro lexemes same
  obtain ⟨fault, failed, other⟩ := first lexemes same
  refine ⟨fault, ?_, other⟩
  rw [bind_apply, failed]
  rfl

theorem peekLexeme_some {f : Option Lexeme → Parser β} {more : List Token}
    (second : ∀ lexeme : Lexeme, lexeme.token = token → Fails (f (some lexeme)) (token :: more)) :
    Fails (peekLexeme >>= f) (token :: more) := by
  intro lexemes same
  obtain ⟨lexeme, others, found, this, -⟩ := ahead_of_cons same
  obtain ⟨fault, failed, other⟩ := second lexeme this lexemes same
  refine ⟨fault, ?_, other⟩
  simp only [bind_apply, peekLexeme, found]
  exact failed

theorem expectedAt (what : String) (found : Option Lexeme) :
    Fails (Parser.expectedAt (α := α) what found) tokens :=
  fun _ _ => ⟨_, rfl, by simp⟩

end Fails

/-! ### Results -/

namespace Gives

variable {motive : α → List Token → Prop}

theorem of_runs {p : Parser α} {a : α} (runs : Runs p tokens a rest) (holds : motive a rest) :
    Gives p tokens motive := by
  intro lexemes b left same read
  obtain ⟨other, found, rfl⟩ := runs lexemes same
  rw [found] at read
  obtain ⟨rfl, rfl⟩ := Prod.mk.inj (Except.ok.inj read)
  exact holds

theorem mono {p : Parser α} {other : α → List Token → Prop} (gives : Gives p tokens other)
    (weaker : ∀ a rest, other a rest → motive a rest) : Gives p tokens motive :=
  fun lexemes a left same read => weaker _ _ (gives lexemes a left same read)

theorem any (p : Parser α) : Gives p tokens fun _ _ => True := fun _ _ _ _ _ => trivial

theorem pure {a : α} (holds : motive a tokens) : Gives (pure a) tokens motive :=
  .of_runs (.pure a) holds

theorem bind {p : Parser α} {f : α → Parser β} {target : β → List Token → Prop}
    (first : Gives p tokens motive)
    (second : ∀ a rest, motive a rest → Gives (f a) rest target) :
    Gives (p >>= f) tokens target := by
  intro lexemes b left same read
  obtain ⟨a, rest, found, read⟩ := exists_of_bind_ok read
  exact second _ _ (first lexemes _ _ same found) _ _ _ rfl read

theorem bind_runs {p : Parser α} {f : α → Parser β} {a : α} {target : β → List Token → Prop}
    (first : Runs p tokens a rest) (second : Gives (f a) rest target) :
    Gives (p >>= f) tokens target := by
  refine .bind (motive := fun b left => b = a ∧ left = rest) (.of_runs first ⟨rfl, rfl⟩) ?_
  rintro _ _ ⟨rfl, rfl⟩
  exact second

theorem peekLexeme {f : Option Lexeme → Parser β} {target : β → List Token → Prop}
    (second : ∀ found, Gives (f found) tokens target) :
    Gives (peekLexeme >>= f) tokens target :=
  fun lexemes b left same read => second _ lexemes b left same read

theorem peekLexeme_some {f : Option Lexeme → Parser β} {target : β → List Token → Prop}
    {more : List Token}
    (second : ∀ lexeme : Lexeme, lexeme.token = token →
      Gives (f (some lexeme)) (token :: more) target) :
    Gives (Parser.peekLexeme >>= f) (token :: more) target := by
  intro lexemes b left same read
  obtain ⟨lexeme, others, found, this, -⟩ := ahead_of_cons same
  rw [bind_apply] at read
  simp only [Parser.peekLexeme, found] at read
  exact second lexeme this lexemes b left same read

theorem next {f : Option Lexeme → Parser β} {target : β → List Token → Prop}
    (last : Gives (f none) [] target)
    (more : ∀ lexeme rest, tokens = lexeme.token :: rest → Gives (f (some lexeme)) rest target) :
    Gives (Parser.next >>= f) tokens target := by
  intro lexemes b left same read
  cases tokens with
  | nil =>
    simp only [bind_apply, Parser.next, ahead_of_nil same] at read
    exact last [] b left rfl read
  | cons token rest =>
    obtain ⟨lexeme, others, found, rfl, rfl⟩ := ahead_of_cons same
    simp only [bind_apply, Parser.next, found] at read
    exact more lexeme _ rfl others b left rfl read

theorem expectedAt (what : String) (found : Option Lexeme) {motive : α → List Token → Prop} :
    Gives (Parser.expectedAt what found) tokens motive := by
  rintro lexemes a left same ⟨⟩

theorem get {f : List Lexeme → Parser β} {target : β → List Token → Prop}
    (second : ∀ lexemes, Gives (f lexemes) tokens target) : Gives (get >>= f) tokens target :=
  fun lexemes b left same read => second lexemes lexemes b left same read

theorem bind_any {p : Parser α} {f : α → Parser β} {target : β → List Token → Prop}
    (second : ∀ a rest, Gives (f a) rest target) : Gives (p >>= f) tokens target :=
  .bind (.any p) fun a rest _ => second a rest

end Gives

end Parser

end RowStamp.Sql
