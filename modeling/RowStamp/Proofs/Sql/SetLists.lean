import RowStamp.Proofs.Sql.Operations
import RowStamp.Sql.Grammar.Statements

/-!
Set-lists of UPDATE texts.  An assignment to a list of columns in parentheses has a tuple as its
target, whatever the number of columns; a list of values in parentheses is a tuple as well, except
that one value in parentheses is read as that value.
-/

set_option autoImplicit false
set_option relaxedAutoImplicit false

namespace RowStamp.Sql

namespace Parser

variable {α : Type} {p : Parser α} {lexemes left : List Lexeme} {a : α}

private theorem symbol_of_expectSymbol {name : String} {u : Unit}
    (read : expectSymbol name lexemes = .ok (u, left)) :
    symbol name lexemes = .ok (true, left) := by
  obtain ⟨found, middle, first, second⟩ := exists_of_bind_ok read
  cases found with
  | true =>
    obtain ⟨-, rfl⟩ := Prod.mk.inj (Except.ok.inj second)
    exact first
  | false => cases second

private theorem peekSymbol_apply (name : String) (lexemes : List Lexeme) :
    peekSymbol name lexemes =
      .ok ((ahead lexemes).head?.any (·.token == .symbol name), lexemes) := by
  rw [peekSymbol, bind_apply, peekLexeme]
  cases (ahead lexemes).head? <;> rfl

private theorem exists_of_symbol {name : String} (read : symbol name lexemes = .ok (true, left)) :
    ∃ position, ahead lexemes = ⟨.symbol name, position⟩ :: left := by
  rw [symbol, bind_ok (peekSymbol_apply name lexemes)] at read
  cases next : ahead lexemes with
  | nil =>
    rw [next] at read
    cases read
  | cons lexeme rest =>
    obtain ⟨token, position⟩ := lexeme
    by_cases same : token = .symbol name
    · subst same
      simp only [next, List.head?_cons, Option.any_some, beq_self_eq_true, if_true] at read
      obtain ⟨u, middle, skipped, done⟩ := exists_of_bind_ok read
      obtain ⟨-, rfl⟩ := Prod.mk.inj (Except.ok.inj done)
      obtain ⟨-, rfl⟩ := Prod.mk.inj (Except.ok.inj skipped)
      exact ⟨position, by rw [next]; rfl⟩
    · have absent : (token == .symbol name) = false := beq_eq_false_iff_ne.mpr same
      simp only [next, List.head?_cons, Option.any_some, absent] at read
      cases read

private theorem of_symbol_absent {name : String} (read : symbol name lexemes = .ok (false, left)) :
    left = lexemes ∧ ∀ lexeme ∈ (ahead lexemes).head?, lexeme.token ≠ .symbol name := by
  rw [symbol, bind_ok (peekSymbol_apply name lexemes)] at read
  cases present : (ahead lexemes).head?.any (·.token == .symbol name) with
  | true =>
    rw [present] at read
    obtain ⟨u, middle, -, done⟩ := exists_of_bind_ok read
    cases done
  | false =>
    rw [present] at read
    obtain ⟨-, rfl⟩ := Prod.mk.inj (Except.ok.inj read)
    refine ⟨rfl, ?_⟩
    simpa [Option.any_eq_false] using present

private theorem significant_of_symbol {name : String}
    (read : symbol name lexemes = .ok (true, left)) :
    significant lexemes = .symbol name :: significant left := by
  obtain ⟨position, next⟩ := exists_of_symbol read
  rw [← significant_ahead, next]
  rfl

private theorem exists_of_parenthesized (read : parenthesized p lexemes = .ok (a, left)) :
    ∃ opened middle, symbol "(" lexemes = .ok (true, opened) ∧ p opened = .ok (a, middle) ∧
      symbol ")" middle = .ok (true, left) := by
  obtain ⟨u, opened, opens, read⟩ := exists_of_bind_ok read
  obtain ⟨inside, middle, inner, read⟩ := exists_of_bind_ok read
  obtain ⟨u, last, closes, read⟩ := exists_of_bind_ok read
  obtain ⟨rfl, rfl⟩ := Prod.mk.inj (Except.ok.inj read)
  exact ⟨opened, middle, symbol_of_expectSymbol opens, inner, symbol_of_expectSymbol closes⟩

private theorem exists_fuel {fuel i : Nat} {list : List α} {trailing : Token → Bool}
    (read : commaListFrom trailing p fuel lexemes = .ok (list, left)) (inside : i < list.length) :
    ∃ n, fuel = n + 1 := by
  cases fuel with
  | zero =>
    obtain ⟨rfl, -⟩ := Prod.mk.inj (Except.ok.inj read)
    simp at inside
  | succ n => exact ⟨n, rfl⟩

private theorem exists_of_commaListFrom {fuel : Nat} {list : List α}
    (read : commaListFrom (fun _ => false) p (fuel + 1) lexemes = .ok (list, left)) :
    ∃ a middle, p lexemes = .ok (a, middle) ∧
      (list = [a] ∨ ∃ rest more, symbol "," middle = .ok (true, rest) ∧
        commaListFrom (fun _ => false) p fuel rest = .ok (more, left) ∧ list = a :: more) := by
  obtain ⟨a, middle, first, read⟩ := exists_of_bind_ok read
  refine ⟨a, middle, first, ?_⟩
  obtain ⟨found, rest, comma, read⟩ := exists_of_bind_ok read
  cases found with
  | false =>
    obtain ⟨rfl, -⟩ := Prod.mk.inj (Except.ok.inj read)
    exact .inl rfl
  | true =>
    obtain ⟨next, same, peeked, read⟩ := exists_of_bind_ok read
    obtain ⟨-, rfl⟩ := Prod.mk.inj (Except.ok.inj peeked)
    have read : (commaListFrom (fun _ => false) p fuel >>= fun more => pure (a :: more)) rest =
        .ok (list, left) := by
      cases next <;> exact read
    obtain ⟨more, last, later, done⟩ := exists_of_bind_ok read
    obtain ⟨rfl, rfl⟩ := Prod.mk.inj (Except.ok.inj done)
    exact .inr ⟨rest, more, comma, later, rfl⟩

private theorem attempt_of_fails (fails : Fails p (significant lexemes)) :
    attempt p lexemes = .ok (none, lexemes) := by
  obtain ⟨fault, failed, other⟩ := fails lexemes rfl
  cases fault <;> simp_all [attempt]

end Parser

namespace Grammar

open RowStamp.Sql.Parser

def context (d : Dialect) (depth : Nat) : Context := ⟨d, atDepth d depth, false⟩

/-- Values with commas between them, where no query is next. -/
def valueList (cx : Context) : Parser (List Expr) := do
  match (← peekLexeme).map (fun lexeme => lexeme.token.key) with
  | some "SELECT" => expected "an expression"
  | some "WITH" => expected "an expression"
  | _ => cx.exprs

def listForm : List Expr → Expr
  | [e] => .nested e
  | items => .tuple items

theorem listForm_of_length_ne_one {items : List Expr} (several : items.length ≠ 1) :
    listForm items = .tuple items := by
  match items with
  | [e] => exact absurd rfl several
  | [] => rfl
  | _ :: _ :: _ => rfl

private theorem parenthesesForm_ok {cx : Context} {lexemes middle left : List Lexeme}
    {items : List Expr} (values : valueList cx.normal lexemes = .ok (items, middle))
    (close : symbol ")" middle = .ok (true, left)) :
    parenthesesForm cx lexemes = .ok (listForm items, left) := by
  have closed : expectSymbol ")" middle = .ok ((), left) := bind_ok close
  have done (e : Expr) : (do expectSymbol ")"; pure e : Parser Expr) middle = .ok (e, left) :=
    bind_ok closed
  unfold parenthesesForm valueList at *
  have peek : peekLexeme lexemes = .ok ((ahead lexemes).head?, lexemes) := rfl
  rw [bind_ok peek] at values ⊢
  generalize (ahead lexemes).head?.map (fun lexeme => lexeme.token.key) = key at values ⊢
  split
  · cases values
  · cases values
  · have read : cx.normal.exprs lexemes = .ok (items, middle) := by
      split at values
      · contradiction
      · contradiction
      · exact values
    rw [bind_ok read]
    rcases items with _ | ⟨e, _ | ⟨second, more⟩⟩ <;> exact done _

private theorem operand_parentheses {cx : Context} {lexemes opened middle left : List Lexeme}
    {items : List Expr} (opens : symbol "(" lexemes = .ok (true, opened))
    (values : valueList cx.normal opened = .ok (items, middle))
    (close : symbol ")" middle = .ok (true, left)) :
    operand cx lexemes = .ok (listForm items, left) := by
  obtain ⟨position, next⟩ := exists_of_symbol opens
  have untyped : typedConstant cx lexemes = .ok (none, lexemes) := by
    refine attempt_of_fails ?_
    rw [significant_of_symbol opens]
    exact .peekLexeme_some fun _ _ => .bind_first (.dataType rfl)
  have peek : peekLexeme lexemes = .ok (some ⟨.symbol "(", position⟩, lexemes) := by
    rw [peekLexeme, next]
    rfl
  have skipped : skip lexemes = .ok ((), opened) := by
    rw [skip, next]
    rfl
  refine (bind_ok untyped).trans ((bind_ok peek).trans ?_)
  dsimp only [symbolForm?]
  exact (bind_ok skipped).trans (parenthesesForm_ok values close)

private theorem exists_expression {cx : Context} {rank : Nat} {lexemes left : List Lexeme}
    {root : Expr}
    (first : operand cx lexemes = .ok (root, left)) (stops : Stops cx rank (significant left)) :
    ∃ last, expression cx rank lexemes = .ok (root, last) ∧
      significant last = significant left := by
  rw [expression_eq, bind_ok first]
  exact stops.afterOperand root left rfl

/-- Tokens that come after an assignment: another one, the next clause, or the end of the
statement. -/
def EndsAssignment (tokens : List Token) : Prop :=
  ∀ token ∈ tokens.head?, token = .symbol "," ∨ token = .symbol ";" ∨
    token.key ∈ ["FROM", "WHERE", "RETURNING", "LIMIT", "END"]

private theorem EndsAssignment.stops {cx : Context} {tokens : List Token}
    (ends : EndsAssignment tokens) (rank : Nat) : Stops cx rank tokens := by
  have unread : Strength.none.rank cx.dialect ≤ rank := by
    simp [Strength.rank, Strength.commonRank, Strength.postgresRank]
  cases tokens with
  | nil => exact ⟨by simp [NoSuffix], by simp, .none, unread, .bind (.peekTokens 3) (.pure _)⟩
  | cons token rest =>
    have symbolic (s : String) (weak : symbolStrength cx.dialect s = .none) :
        Runs (nextStrength cx) (.symbol s :: rest) .none (.symbol s :: rest) :=
      .bind (.peekTokens 3) (weak ▸ .pure _)
    rcases ends token rfl with rfl | rfl | clause
    · have weak : symbolStrength cx.dialect "," = .none := by cases cx.dialect <;> rfl
      exact ⟨by simp [NoSuffix], by simp [Token.key], .none, unread, symbolic _ weak⟩
    · have weak : symbolStrength cx.dialect ";" = .none := by cases cx.dialect <;> rfl
      exact ⟨by simp [NoSuffix], by simp [Token.key], .none, unread, symbolic _ weak⟩
    · have none' (after : List String) : wordStrength cx token.key after = .none := by
        simp only [List.mem_cons, List.not_mem_nil, or_false] at clause
        rcases clause with same | same | same | same | same <;> rw [same] <;> rfl
      have other : token.key ≠ "COLLATE" := fun same => by simp [same] at clause
      cases token with
      | word value quote =>
        exact ⟨by simp [NoSuffix], by simpa using other, .none, unread,
          .bind (.peekTokens 3) (none' _ ▸ .pure _)⟩
      | _ => simp [Token.key] at clause

/-! ### Assignments to tuples -/

/-- Names and values, both in parentheses with commas between them. -/
def tupleAssignment (d : Dialect) (depth : Nat) : Parser (List (List Ident) × List Expr) := do
  let names ← parenthesized (commaList (objectName d))
  expectSymbol "="
  let values ← parenthesized (valueList (context d depth))
  return (names, values)

private theorem exists_assignment {d : Dialect} {depth : Nat} {start left : List Lexeme}
    {names : List (List Ident)} {values : List Expr}
    (read : tupleAssignment d depth start = .ok ((names, values), left))
    (ends : EndsAssignment (significant left)) :
    ∃ last, assignment (context d (depth + 1)) start =
      .ok (⟨.tuple names, listForm values⟩, last) := by
  obtain ⟨targets, equals, named, read⟩ := exists_of_bind_ok read
  obtain ⟨u, value, equal, read⟩ := exists_of_bind_ok read
  obtain ⟨items, last, valued, read⟩ := exists_of_bind_ok read
  obtain ⟨same, rfl⟩ := Prod.mk.inj (Except.ok.inj read)
  obtain ⟨rfl, rfl⟩ := Prod.mk.inj same
  have targeted : target d start = .ok (.tuple targets, equals) := by
    obtain ⟨opened, middle, opens, listed, closes⟩ := exists_of_parenthesized named
    have closed : expectSymbol ")" middle = .ok ((), equals) := bind_ok closes
    rw [target, bind_ok opens, if_pos rfl, bind_ok listed, bind_ok closed]
    rfl
  obtain ⟨opened, middle, opens, listed, closes⟩ := exists_of_parenthesized valued
  have first : operand (context d depth) value = .ok (listForm items, last) :=
    operand_parentheses opens listed closes
  obtain ⟨left, expressed, -⟩ := exists_expression first (ends.stops (Strength.none.rank d))
  have read : (context d (depth + 1)).expr value = .ok (listForm items, left) := expressed
  refine ⟨left, ?_⟩
  refine (bind_ok targeted).trans ?_
  rw [bind_ok equal, bind_ok read]
  rfl

/-! ### Places in a set-list -/

/-- The assignment at a place of a set-list starts at some tokens: those before it are read one
after the other, with a comma after each. -/
inductive StartsAt (cx : Context) : List Lexeme → Nat → List Lexeme → Prop
  | first (tokens : List Lexeme) : StartsAt cx tokens 0 tokens
  | later {tokens left rest start : List Lexeme} {a : Assignment} {i : Nat}
      (read : assignment cx tokens = .ok (a, left)) (comma : symbol "," left = .ok (true, rest))
      (more : StartsAt cx rest i start) : StartsAt cx tokens (i + 1) start

private theorem StartsAt.getElem? {cx : Context} {tokens start left last : List Lexeme}
    {i fuel : Nat} {list : List Assignment} {a : Assignment} (starts : StartsAt cx tokens i start)
    (listed : commaListFrom (fun _ => false) (assignment cx) fuel tokens = .ok (list, left))
    (inside : i < list.length) (read : assignment cx start = .ok (a, last)) :
    list[i]? = some a := by
  induction starts generalizing fuel list with
  | first tokens =>
    obtain ⟨fuel, rfl⟩ := exists_fuel listed inside
    obtain ⟨other, middle, again, listed⟩ := exists_of_commaListFrom listed
    obtain ⟨rfl, -⟩ := Prod.mk.inj (Except.ok.inj (read.symm.trans again))
    rcases listed with rfl | ⟨rest, more, -, -, rfl⟩ <;> rfl
  | later first comma more ih =>
    obtain ⟨fuel, rfl⟩ := exists_fuel listed inside
    obtain ⟨other, middle, again, listed⟩ := exists_of_commaListFrom listed
    obtain ⟨rfl, rfl⟩ := Prod.mk.inj (Except.ok.inj (first.symm.trans again))
    rcases listed with rfl | ⟨rest, list, between, listed, rfl⟩
    · simp at inside
    · obtain ⟨-, rfl⟩ := Prod.mk.inj (Except.ok.inj (comma.symm.trans between))
      exact ih listed (Nat.lt_of_succ_lt_succ inside) read

/-- UPDATE, from after its first word up to its set-list. -/
def updateHead (cx : Context) : Parser (Option String × JoinedTables × List JoinedTables) := do
  let conflict ← conflictWords
  let table ← joinedTables cx
  let fromBefore ← if ← keyword "FROM" then tableList cx else pure []
  expectKeyword "SET"
  return (conflict, table, fromBefore)

/-- The tokens of a statement, without the blanks and semicolons before it. -/
def statementAhead (lexemes : List Lexeme) : List Lexeme :=
  lexemes.dropWhile fun lexeme => lexeme.token.isBlank || lexeme.token == .symbol ";"

private theorem statementAhead_ahead (lexemes : List Lexeme) :
    statementAhead (ahead lexemes) = statementAhead lexemes := by
  induction lexemes with
  | nil => rfl
  | cons lexeme rest ih =>
    cases blank : lexeme.token.isBlank with
    | true => simpa [ahead, statementAhead, blank] using ih
    | false => simp [ahead, blank]

private theorem exists_of_statements {d : Dialect} {fuel : Nat} {lexemes left : List Lexeme}
    {statement : Statement} (read : statements d fuel true lexemes = .ok ([statement], left)) :
    ∃ tokens last, (atDepth d depthLimit).statement tokens = .ok (statement, last) ∧
      ahead tokens = statementAhead lexemes := by
  induction fuel generalizing lexemes with
  | zero => cases read
  | succ fuel ih =>
    obtain ⟨found, rest, semicolon, after⟩ := exists_of_bind_ok read
    cases found with
    | true =>
      obtain ⟨tokens, last, stated, same⟩ := ih after
      obtain ⟨position, next⟩ := exists_of_symbol semicolon
      refine ⟨tokens, last, stated, ?_⟩
      rw [same, ← statementAhead_ahead lexemes, next]
      simp [statementAhead]
    | false =>
      obtain ⟨rfl, other⟩ := of_symbol_absent semicolon
      have peek : peekLexeme rest = .ok ((ahead rest).head?, rest) := rfl
      rw [if_neg Bool.false_ne_true, bind_ok peek] at after
      cases next : ahead rest with
      | nil =>
        rw [next] at after
        cases after
      | cons lexeme more =>
        rw [next] at after other
        obtain ⟨first, last, stated, after⟩ := exists_of_bind_ok after
        obtain ⟨others, ended, -, done⟩ := exists_of_bind_ok after
        obtain ⟨same, -⟩ := Prod.mk.inj (Except.ok.inj done)
        obtain ⟨rfl, -⟩ := List.cons.inj same
        refine ⟨rest, last, stated, ?_⟩
        rw [← statementAhead_ahead, next, statementAhead, List.dropWhile_cons_of_neg]
        simpa [not_isBlank_of_ahead next] using other

private theorem exists_of_assignments {cx : Context} {k : List Assignment → Parser Statement}
    {lexemes last : List Lexeme} {stmt : Sql.Update}
    (kept : ∀ list, Yields (k list) fun read => ∀ stmt, read = .update stmt →
      stmt.assignments = list)
    (read : (assignments cx >>= k) lexemes = .ok (.update stmt, last)) :
    ∃ left, assignments cx lexemes = .ok (stmt.assignments, left) := by
  obtain ⟨list, left, listed, read⟩ := exists_of_bind_ok read
  obtain rfl := kept list left (.update stmt) last read stmt rfl
  exact ⟨left, listed⟩

private theorem exists_of_parse {d : Dialect} {sql : String} {statement : Statement}
    {lexs : List Lexeme}
    (lexed : lexemes d sql = .ok lexs) (parsed : Statement.parse d sql = .ok statement) :
    ∃ tokens last, (atDepth d depthLimit).statement tokens = .ok (statement, last) ∧
      ahead tokens = statementAhead lexs := by
  unfold Statement.parse statementsOf at parsed
  rw [lexed] at parsed
  cases run : statements d (2 * lexs.length + 1) true lexs with
  | error fault => simp [StateT.run', run] at parsed
  | ok result =>
    obtain ⟨_ | ⟨first, _ | ⟨second, others⟩⟩, left⟩ := result
    · simp [StateT.run', run] at parsed
    · obtain rfl : first = statement := by simpa [StateT.run', run] using parsed
      exact exists_of_statements run
    · simp [StateT.run', run] at parsed

private theorem update_of_statement {d : Dialect} {lexemes rest last : List Lexeme} {word : Lexeme}
    {statement : Statement} (front : ahead lexemes = word :: rest)
    (isUpdate : word.token.key = "UPDATE")
    (stated : (atDepth d depthLimit).statement lexemes = .ok (statement, last)) :
    update (context d (depthLimit - 1)) rest = .ok (statement, last) := by
  change anyStatement (context d (depthLimit - 1)) lexemes = _ at stated
  have peek : peekLexeme lexemes = .ok (some word, lexemes) := by
    rw [peekLexeme, front]
    rfl
  have skipped : skip lexemes = .ok ((), rest) := by
    rw [skip, front]
    rfl
  have opens : (word.token == .symbol "(") = false := by
    rw [beq_eq_false_iff_ne]
    intro symbolic
    simp [symbolic, Token.key] at isUpdate
  rw [anyStatement, bind_ok peek] at stated
  simp only [isUpdate, opens, Bool.false_or] at stated
  rw [if_neg (by decide)] at stated
  change (skip >>= fun _ => update (context d (depthLimit - 1))) lexemes = _ at stated
  rwa [bind_ok skipped] at stated

private theorem assignments_of_update {cx : Context} {lexemes tokens last : List Lexeme}
    {head : Option String × JoinedTables × List JoinedTables} {stmt : Sql.Update}
    (headed : updateHead cx lexemes = .ok (head, tokens))
    (updated : update cx lexemes = .ok (.update stmt, last)) :
    ∃ left, assignments cx tokens = .ok (stmt.assignments, left) := by
  obtain ⟨conflict, afterConflict, first, headed⟩ := exists_of_bind_ok headed
  obtain ⟨table, afterTable, second, headed⟩ := exists_of_bind_ok headed
  obtain ⟨found, afterFrom, third, headed⟩ := exists_of_bind_ok headed
  rw [update, bind_ok first, bind_ok second, bind_ok third] at updated
  cases found
  all_goals
    obtain ⟨fromBefore, afterTables, fourth, headed⟩ := exists_of_bind_ok headed
    obtain ⟨u, afterSet, fifth, headed⟩ := exists_of_bind_ok headed
    obtain ⟨-, rfl⟩ := Prod.mk.inj (Except.ok.inj headed)
    refine exists_of_assignments (fun list => ?_)
      ((bind_ok fifth).symm.trans ((bind_ok fourth).symm.trans updated))
    have stated (s : Sql.Update) (same : s.assignments = list) :
        Yields (pure (Statement.update s)) fun read => ∀ stmt, read = .update stmt →
          stmt.assignments = list :=
      .pure fun _ read => Statement.update.inj read ▸ same
    -- whatever FROM, WHERE, RETURNING and LIMIT read, the statement has this list
    refine .bind fun isFrom => ?_
    split
    all_goals
      repeat refine .bind fun _ => ?_
      split
      · exact .bind fun _ => .bind fun _ => stated _ rfl
      · exact .bind fun _ => stated _ rfl

/-- The set-list of an UPDATE starts at some tokens of a text. -/
def SetListFrom (d : Dialect) (sql : String) (tokens : List Lexeme) : Prop :=
  ∃ lexs word rest head, lexemes d sql = .ok lexs ∧ statementAhead lexs = word :: rest ∧
    word.token.key = "UPDATE" ∧
    updateHead (context d (depthLimit - 1)) rest = .ok (head, tokens)

private theorem SetListFrom.assignments {d : Dialect} {sql : String} {tokens : List Lexeme}
    {stmt : Sql.Update} (from' : SetListFrom d sql tokens)
    (parsed : Statement.parse d sql = .ok (.update stmt)) :
    ∃ left, assignments (context d (depthLimit - 1)) tokens = .ok (stmt.assignments, left) := by
  obtain ⟨lexs, word, rest, head, lexed, front, isUpdate, headed⟩ := from'
  obtain ⟨start, last, stated, same⟩ := exists_of_parse lexed parsed
  exact assignments_of_update headed (update_of_statement (same.trans front) isUpdate stated)

/-- The set-list of an UPDATE text has, at a place, names in parentheses to which as many values in
parentheses are assigned. -/
def AssignsTuple (d : Dialect) (sql : String) (i : Nat) (names : List (List Ident))
    (values : List Expr) : Prop :=
  values.length = names.length ∧ ∃ tokens start left, SetListFrom d sql tokens ∧
    StartsAt (context d (depthLimit - 1)) tokens i start ∧
    tupleAssignment d (depthLimit - 2) start = .ok ((names, values), left) ∧
    EndsAssignment (significant left)

/-- Names and values in parentheses are read as an assignment of one value, or of a tuple, to a
tuple. -/
theorem AssignsTuple.getElem? {d : Dialect} {sql : String} {stmt : Sql.Update} {i : Nat}
    {names : List (List Ident)} {values : List Expr} (assigns : AssignsTuple d sql i names values)
    (parsed : Statement.parse d sql = .ok (.update stmt)) (inside : i < stmt.assignments.length) :
    stmt.assignments[i]? = some ⟨.tuple names, listForm values⟩ := by
  obtain ⟨-, tokens, start, left, from', starts, read, ends⟩ := assigns
  obtain ⟨last, listed⟩ := from'.assignments parsed
  obtain ⟨rest, assigned⟩ := exists_assignment read ends
  exact starts.getElem? listed inside assigned

end Grammar

end RowStamp.Sql
