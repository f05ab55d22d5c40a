import RowStamp.Proofs.Sql.Comparisons
import RowStamp.Proofs.Sql.Recovery

/-!
An UPDATE of columns with simple values under a conjunction of comparisons: its text, its tokens,
and what is read of it.
-/

set_option autoImplicit false
set_option relaxedAutoImplicit false

namespace RowStamp.Sql

open RowStamp.Sql.Parser (Ends Gives IsName IsOperator Runs conjunction)

variable {d : Dialect}

/-- An UPDATE of columns of a table, with values that columns are compared with. -/
structure SimpleUpdate where
  table : Ident
  assignments : List (Ident × Expr)
  conditions : List (Ident × Expr)

namespace SimpleUpdate

def comparison (pair : Ident × Expr) : Expr := .binary (.name [pair.1]) "=" pair.2

/-- The condition that all comparisons hold, where there are any. -/
def selection : List (Ident × Expr) → Option Expr
  | [] => none
  | pair :: more => some (conjunction (comparison pair) (more.map comparison))

def statement (stmt : SimpleUpdate) : Update where
  conflict := none
  table := ⟨.table [stmt.table] [] [] [], []⟩
  fromBefore := []
  assignments := stmt.assignments.map fun pair => ⟨.column [pair.1], pair.2⟩
  fromAfter := []
  selection := selection stmt.conditions
  returning := []
  limit := none

/-- All identifiers and values are simple, and something is assigned.  The table and the compared
columns are read as they are, and are no words that mean something else in their places. -/
structure WellFormed (d : Dialect) (stmt : SimpleUpdate) : Prop where
  table : stmt.table.Simple d
  tableFine : stmt.table.survives = true
  tableKey : stmt.table.token.key ∉ ["REPLACE", "LATERAL", "TABLE", "UNNEST"]
  assignments : ∀ pair ∈ stmt.assignments, pair.1.Simple d ∧ pair.2.Simple d
  someAssignment : stmt.assignments ≠ []
  columns : ∀ pair ∈ stmt.conditions,
    pair.1.Simple d ∧ pair.1.survives = true ∧ IsName d pair.1
  values : ∀ pair ∈ stmt.conditions, pair.2.Simple d

/-- The assigned columns that are not quoted may be any texts. -/
structure Framed (d : Dialect) (stmt : SimpleUpdate) : Prop where
  table : stmt.table.Simple d
  tableFine : stmt.table.survives = true
  tableKey : stmt.table.token.key ∉ ["REPLACE", "LATERAL", "TABLE", "UNNEST"]
  assignments : ∀ pair ∈ stmt.assignments, pair.1.Shaped d ∧ pair.2.Simple d
  someAssignment : stmt.assignments ≠ []
  columns : ∀ pair ∈ stmt.conditions,
    pair.1.Simple d ∧ pair.1.survives = true ∧ IsName d pair.1
  values : ∀ pair ∈ stmt.conditions, pair.2.Simple d

def legible (d : Dialect) (stmt : SimpleUpdate) : Bool :=
  stmt.assignments.all fun pair => pair.1.legible d

theorem WellFormed.framed {stmt : SimpleUpdate} (wellFormed : stmt.WellFormed d) :
    stmt.Framed d :=
  { wellFormed with
    assignments := fun pair member => (wellFormed.assignments pair member).imp_left (·.shaped) }

theorem WellFormed.legible {stmt : SimpleUpdate} (wellFormed : stmt.WellFormed d) :
    stmt.legible d = true :=
  List.all_eq_true.mpr fun pair member => (wellFormed.assignments pair member).1.legible

/-! ### Tokens -/

def pairTokens (pair : Ident × Expr) : List Token :=
  [pair.1.token, .symbol "=", pair.2.token]

def moreTokens (more : List (Ident × Expr)) : List Token :=
  more.flatMap fun pair => .word "AND" none :: pairTokens pair

def conditionTokens : List (Ident × Expr) → List Token
  | [] => []
  | pair :: more => .word "WHERE" none :: (pairTokens pair ++ moreTokens more)

def setTokens (stmt : SimpleUpdate) : List Token :=
  .word "SET" none :: ([.symbol ","].intercalate (stmt.assignments.map pairTokens) ++
    conditionTokens stmt.conditions)

def tokens (stmt : SimpleUpdate) : List Token :=
  .word "UPDATE" none :: stmt.table.token :: stmt.setTokens

@[simp] theorem key_update : (Token.word "UPDATE" none).key = "UPDATE" := rfl

@[simp] theorem key_set : (Token.word "SET" none).key = "SET" := rfl

@[simp] theorem key_where : (Token.word "WHERE" none).key = "WHERE" := rfl

@[simp] theorem key_and : (Token.word "AND" none).key = "AND" := rfl

/-! ### Reading -/

variable {stmt : SimpleUpdate} {rest : List Token} {depth rank : Nat}

private theorem key_token {e : Expr} (simple : e.Simple d) :
    e.token.key = "" ∨ e.token.key = "NULL" := by
  cases simple with
  | null => exact .inr rfl
  | _ => exact .inl rfl

private theorem key_value_not_quantifier {e : Expr} (simple : e.Simple d) :
    ∀ token ∈ (e.token :: rest).head?, token.key ∉ ["ANY", "ALL", "SOME"] := by
  rcases key_token simple with key | key <;> simp [key]

private theorem ends_moreTokens (more : List (Ident × Expr)) (strong : Strength.and.rank d ≤ rank) :
    Ends d rank (moreTokens more) := by
  cases more with
  | nil => simp [Ends, moreTokens]
  | cons pair more => simp [Ends, moreTokens, strong]

theorem rank_and_le : Strength.and.rank d ≤ Strength.equality.rank d := by cases d <;> decide

private theorem runs_comparison {pair : Ident × Expr} (isName : IsName d pair.1)
    (simple : pair.2.Simple d) (more : List (Ident × Expr)) :
    Runs (Grammar.expression (atLevel d (depth + 1)) (Strength.and.rank d))
      (pairTokens pair ++ moreTokens more) (comparison pair) (moreTokens more) := by
  have weaker : Strength.and.rank d < Strength.equality.rank d := by cases d <;> decide
  refine .expression_name isName .equality fun fuel enough => ?_
  obtain ⟨fuel, rfl⟩ : ∃ n, fuel = n + 1 :=
    Nat.exists_eq_succ_of_ne_zero (by simp at enough; omega)
  refine .operations_cons .equality weaker (key_value_not_quantifier simple)
    (simple.runs (atLevel d depth) (ends_moreTokens more rank_and_le)) ?_
  exact .operations (ends_moreTokens more (Nat.le_refl _)) _ _

private theorem runs_more {more : List (Ident × Expr)} (isName : ∀ pair ∈ more, IsName d pair.1)
    (simple : ∀ pair ∈ more, pair.2.Simple d) (first : Expr) {fuel : Nat}
    (enough : more.length ≤ fuel) :
    Runs (Grammar.operations (atLevel d (depth + 2)) 0 (fuel + 1) first) (moreTokens more)
      (conjunction first (more.map comparison)) [] := by
  induction more generalizing first fuel with
  | nil => exact .operations (by simp [Ends, moreTokens]) _ _
  | cons pair more ih =>
    rw [List.forall_mem_cons] at isName simple
    obtain ⟨fuel, rfl⟩ : ∃ n, fuel = n + 1 :=
      Nat.exists_eq_succ_of_ne_zero (by simp at enough; omega)
    have positive : 0 < Strength.and.rank d := by cases d <;> decide
    have single : ∀ token ∈ (pairTokens pair ++ moreTokens more).head?,
        token.key ∉ ["ANY", "ALL", "SOME"] := by
      rintro token ⟨⟩
      exact isName.1.single
    exact .operations_cons .and positive single (runs_comparison isName.1 simple.1 more)
      (ih isName.2 simple.2 _ (by simpa using enough))

private theorem runs_selection {first : Ident × Expr} {more : List (Ident × Expr)}
    (isName : ∀ pair ∈ first :: more, IsName d pair.1)
    (simple : ∀ pair ∈ first :: more, pair.2.Simple d) :
    Runs (atLevel d (depth + 3)).expr (pairTokens first ++ moreTokens more)
      (conjunction (comparison first) (more.map comparison)) [] := by
  rw [List.forall_mem_cons] at isName simple
  have positive : 0 < Strength.equality.rank d := by cases d <;> decide
  have bound : more.length ≤ (moreTokens more).length := by
    induction more with
    | nil => exact Nat.zero_le _
    | cons pair more ih =>
      simp [moreTokens, pairTokens, List.length_flatMap] at ih ⊢
      omega
  have read : Runs (Grammar.expression (atLevel d (depth + 2)) 0)
      (pairTokens first ++ moreTokens more)
      (conjunction (comparison first) (more.map comparison)) [] := by
    refine .expression_name isName.1 .equality fun fuel enough => ?_
    replace enough : (moreTokens more).length + 2 ≤ fuel := enough
    obtain ⟨fuel, rfl⟩ : ∃ n, fuel = n + 1 := Nat.exists_eq_succ_of_ne_zero (by omega)
    exact .operations_cons .equality positive (key_value_not_quantifier simple.1)
      (simple.1.runs (atLevel d (depth + 1)) (ends_moreTokens more rank_and_le))
      (runs_more isName.2 simple.2 _ (by omega))
  have rank : Strength.none.rank d = 0 := by cases d <;> rfl
  rw [← rank] at read
  exact read

private theorem runs_assignments {pairs : List (Ident × Expr)}
    (simple : ∀ pair ∈ pairs, pair.2.Simple d) (some' : pairs ≠ []) (ends : Ends d 0 rest)
    (stop : ∀ token ∈ rest.head?, token ≠ .symbol ",") :
    Runs (Grammar.assignments (atLevel d (depth + 1)))
      ([.symbol ","].intercalate (pairs.map pairTokens) ++ rest)
      (pairs.map fun pair => ⟨.column [pair.1], pair.2⟩) rest := by
  refine .commaList (Ends d 0) Ends.comma ends stop (fun pair member rest ends => ?_) some'
  have column : Runs (Grammar.target d) (pairTokens pair ++ rest) (.column [pair.1])
      (.symbol "=" :: pair.2.token :: rest) := by
    refine .bind (.symbol_absent (by simp [pairTokens, Ident.token])) ?_
    exact .bind (.objectName rfl (by simp)) (.pure _)
  exact .bind column (.bind (.expectSymbol "=" _) (.bind (runs_expr (simple pair member) ends)
    (.pure _)))

private theorem runs_tableAlias :
    Runs (Grammar.tableAlias d) (.word "SET" none :: rest) [] (.word "SET" none :: rest) := by
  have none' : Runs (Grammar.aliasWhere (Grammar.aliasesTable d)) (.word "SET" none :: rest)
      none (.word "SET" none :: rest) := by
    refine .bind (.keyword_absent (by simp)) (.peekLexeme_some fun lexeme same => ?_)
    rw [Option.map_some, same]
    dsimp only
    rw [if_neg (by cases d <;> decide)]
    exact .pure _
  exact .bind none' (.pure _)

private theorem runs_hintsAhead :
    Runs Grammar.namedTable.hintsAhead (.word "SET" none :: rest) false
      (.word "SET" none :: rest) := by
  refine .bind (.peekTokens 2) ?_
  cases rest with
  | nil => exact .pure _
  | cons token rest =>
    rw [List.take_succ_cons, List.take_succ_cons]
    split
    · rename_i first same
      obtain rfl := (List.cons.inj same).1
      exact .pure _
    · exact .pure _

private theorem runs_namedTable (table : Ident) :
    Runs (Grammar.namedTable (atLevel d depth)) (table.token :: .word "SET" none :: rest)
      (.table [table] [] [] []) (.word "SET" none :: rest) := by
  have sample : Runs (Grammar.tableSample (atLevel d depth)) (.word "SET" none :: rest) []
      (.word "SET" none :: rest) := .bind (.oneOfKeywords_absent (by simp)) (.pure _)
  have indexHints (fuel : Nat) : Runs (Grammar.indexHints (fuel + 1))
      (.word "SET" none :: rest) [] (.word "SET" none :: rest) :=
    .bind (.oneOfKeywords_absent (by simp)) (.pure _)
  refine .bind (.objectName rfl (by simp)) ?_
  refine .bind (.peekKeyword _) ?_
  rw [if_neg (by simp)]
  refine .bind (.pure _) (.bind (.symbol_absent (by simp)) ?_)
  refine .bind (.pure _) ?_
  refine .bind (.keywords_absent (by simp)) ?_
  rw [if_neg (by simp)]
  refine .bind (.pure _) (.bind runs_tableAlias ?_)
  dsimp only
  split
  · refine .getLength fun _ _ => .bind (.attempt_of_runs (indexHints _)) (.bind (.pure _) ?_)
    refine .bind runs_hintsAhead ?_
    rw [if_neg (by simp)]
    exact .bind (.pure _) (.bind sample (.pure _))
  · refine .bind (.pure _) (.bind runs_hintsAhead ?_)
    rw [if_neg (by simp)]
    exact .bind (.pure _) (.bind sample (.pure _))

private theorem runs_relation (framed : stmt.Framed d) :
    Runs (Grammar.relation (atLevel d depth)) (stmt.table.token :: .word "SET" none :: rest)
      (.table [stmt.table] [] [] []) (.word "SET" none :: rest) := by
  have tableKey := framed.tableKey
  simp only [List.mem_cons, List.not_mem_nil, or_false, not_or] at tableKey
  obtain ⟨-, noLateral, noTable, noUnnest⟩ := tableKey
  refine .bind (.keyword_absent (by simpa using noLateral)) ?_
  refine .bind (.keyword_absent (by simpa using noTable)) ?_
  refine .bind (.symbol_absent (by simp [Ident.token])) ?_
  rw [if_neg (by simp)]
  have opensValues : Runs Grammar.relation.opensValues
      (stmt.table.token :: .word "SET" none :: rest) false
      (stmt.table.token :: .word "SET" none :: rest) := .bind (.peekTokens 2) (.pure _)
  refine .bind opensValues ?_
  rw [if_neg (by simp)]
  refine .bind (.peekKeyword _) ?_
  rw [if_neg (by simp [noUnnest])]
  exact runs_namedTable stmt.table

theorem runs_conflictWords (framed : stmt.Framed d) :
    Runs Grammar.conflictWords (stmt.table.token :: .word "SET" none :: rest) none
      (stmt.table.token :: .word "SET" none :: rest) := by
  have tableKey := framed.tableKey
  simp only [List.mem_cons, List.not_mem_nil, or_false, not_or] at tableKey
  refine .bind (.forIn fun word member => .bind (.keywords_absent ?_) (.pure _))
    (.bind (.keyword_absent (by simpa using tableKey.1)) (.pure _))
  simp only [List.mem_cons, List.not_mem_nil, or_false] at member
  rcases member with rfl | rfl | rfl | rfl | rfl <;> simp

theorem runs_joinedTables (framed : stmt.Framed d) :
    Runs (Grammar.joinedTables (atLevel d (depth + 1)))
      (stmt.table.token :: .word "SET" none :: rest)
      ⟨.table [stmt.table] [] [] [], []⟩ (.word "SET" none :: rest) := by
  have join : Runs (Grammar.join (atLevel d (depth + 1))) (.word "SET" none :: rest) none
      (.word "SET" none :: rest) := by
    refine .bind (.keyword_absent (by simp)) ?_
    refine .bind (.keyword_absent (by simp)) ?_
    refine .bind (.keyword_absent (by simp)) ?_
    refine .bind (.keyword_absent (by simp)) ?_
    refine .bind (.keyword_absent (by simp)) ?_
    exact .bind (.bind (.oneOfKeywords_absent (by simp)) (.pure _)) (.pure _)
  exact .bind (runs_relation framed) (.getLength fun _ _ =>
    .bind (.bind join (.pure _)) (.pure _))

private theorem runs_update (framed : stmt.Framed d) :
    Runs (Grammar.update (atLevel d (depth + 3))) (stmt.table.token :: stmt.setTokens)
      (.update stmt.statement) [] := by
  have where' : Runs (Grammar.whereClause (atLevel d (depth + 3)))
      (conditionTokens stmt.conditions) (selection stmt.conditions) [] := by
    cases found : stmt.conditions with
    | nil => exact .bind (.keyword_absent (by simp [conditionTokens])) (.pure _)
    | cons pair more =>
      have isName : ∀ other ∈ pair :: more, IsName d other.1 := fun other member =>
        (framed.columns other (found ▸ member)).2.2
      have simple : ∀ other ∈ pair :: more, other.2.Simple d := fun other member =>
        framed.values other (found ▸ member)
      exact .bind (.keyword_present _ _) (.bind (runs_selection isName simple) (.pure _))
  have stops : ∀ token ∈ (conditionTokens stmt.conditions).head?, token = .word "WHERE" none := by
    cases stmt.conditions <;> simp [conditionTokens]
  have ends : Ends d 0 (conditionTokens stmt.conditions) := fun token member =>
    .inr (.inr (.inl (stops token member)))
  refine .bind (runs_conflictWords framed) (.bind (runs_joinedTables framed) ?_)
  refine .bind (.keyword_absent (by simp)) (.bind (.pure _) ?_)
  refine .bind (.expectKeyword (.word "SET" none) _) ?_
  refine .bind (runs_assignments (fun pair member => (framed.assignments pair member).2)
    framed.someAssignment ends fun token member => by simp [stops token member]) ?_
  have noFrom : (conditionTokens stmt.conditions).head?.any (·.key == "FROM") = false := by
    rw [Option.any_eq_false]
    exact fun token member => by simp [stops token member]
  refine .bind (.peekKeyword _) ?_
  rw [if_neg (by simp [noFrom])]
  refine .bind (.pure _) (.bind where' (.bind (.bind (.keyword_absent (by simp)) (.pure _)) ?_))
  exact .bind (.keyword_absent (by simp)) (.bind (.pure _) (.pure _))

private theorem runs_anyStatement (framed : stmt.Framed d) :
    Runs (Grammar.anyStatement (atLevel d (depth + 3))) stmt.tokens (.update stmt.statement) [] := by
  refine .peekLexeme_some fun lexeme same => ?_
  dsimp only
  rw [same, if_neg (by simp)]
  exact .bind .skip (runs_update framed)

/-! ### The text -/

def pairText (pair : Ident × Expr) : List Char :=
  pair.1.text.toList ++ ' ' :: ['='] ++ ' ' :: pair.2.text.toList

/-- The written form of the comparisons after the first. -/
def moreText (more : List (Ident × Expr)) : List Char :=
  more.flatMap fun pair => ' ' :: ("AND".toList ++ ' ' :: pairText pair)

def conditionText : List (Ident × Expr) → List Char
  | [] => []
  | pair :: more => ' ' :: ("WHERE".toList ++ ' ' :: (pairText pair ++ moreText more))

private theorem toList_text_comparison (pair : Ident × Expr) :
    (comparison pair).text.toList = pairText pair := by
  simp [comparison, pairText, nameText]

private theorem toList_text_conjunction (first : Expr) (more : List (Ident × Expr)) :
    (conjunction first (more.map comparison)).text.toList =
      first.text.toList ++ moreText more := by
  induction more generalizing first with
  | nil => simp [conjunction, moreText]
  | cons pair more ih =>
    have step := ih (.binary first "AND" (comparison pair))
    simp [moreText, toList_text_comparison] at step ⊢
    exact step

theorem toList_text (some' : stmt.assignments ≠ []) :
    (Statement.update stmt.statement).text.toList =
      "UPDATE".toList ++ ' ' :: (stmt.table.text.toList ++ ' ' :: ("SET".toList ++ ' ' ::
        (separated (stmt.assignments.map pairText) ++ conditionText stmt.conditions))) := by
  have set : characters (clause " SET " (assignmentList stmt.statement.assignments)) =
      ' ' :: ("SET".toList ++ ' ' :: separated (stmt.assignments.map pairText)) := by
    have pairs : (stmt.statement.assignments.map Assignment.fragment).map
        (fun e => e.text.toList) = stmt.assignments.map pairText := by
      simp [statement, Assignment.fragment, Target.text, nameText, pairText, Function.comp_def]
    have written : (assignmentList stmt.statement.assignments).isEmpty = false := by
      obtain ⟨pair, pairs, found⟩ := List.exists_cons_of_ne_nil some'
      cases pairs <;> simp [statement, found, assignmentList, Expr.commaSeparated]
    rw [clause, written, if_neg (by simp), characters_cons, assignmentList,
      Expr.characters_commaSeparated, pairs]
    simp
  rw [Statement.toList_text, Statement.fragments, Update.fragments]
  simp only [characters_append, characters_cons, set]
  simp [statement, JoinedTables.fragments, TableRef.fragments, TableRef.joinFragments, nameText,
    clause, Expr.commaSeparated, JoinedTables.listFragments]
  cases stmt.conditions with
  | nil => simp [selection, conditionText]
  | cons pair more =>
    simp [selection, conditionText, toList_text_conjunction, toList_text_comparison]

/-! ### What is read of the text -/

def survives (d : Dialect) (stmt : SimpleUpdate) : Bool :=
  (stmt.assignments.all fun pair => pair.1.survives && pair.2.survives d) &&
    stmt.conditions.all fun pair => pair.2.survives d

def closes (d : Dialect) (stmt : SimpleUpdate) : Bool :=
  (stmt.assignments.all fun pair => pair.1.closes && pair.2.closes d) &&
    stmt.conditions.all fun pair => pair.2.closes d

def readPair (d : Dialect) (pair : Ident × Expr) : Ident × Expr :=
  (pair.1.readBack, pair.2.readBack d)

/-- What is read of the statement, where its identifiers and values are read up to their closing
quotes. -/
def readBack (d : Dialect) (stmt : SimpleUpdate) : SimpleUpdate where
  table := stmt.table
  assignments := stmt.assignments.map (readPair d)
  conditions := stmt.conditions.map fun pair => (pair.1, pair.2.readBack d)

private theorem Framed.of_readBack (framed : stmt.Framed d) :
    (stmt.readBack d).Framed d where
  table := framed.table
  tableFine := framed.tableFine
  tableKey := framed.tableKey
  assignments := by
    intro pair member
    obtain ⟨given, inside, rfl⟩ := List.mem_map.mp member
    obtain ⟨column, value⟩ := framed.assignments given inside
    exact ⟨column.of_readBack, value.of_readBack⟩
  someAssignment := by simpa [readBack] using framed.someAssignment
  columns := by
    intro pair member
    obtain ⟨given, inside, rfl⟩ := List.mem_map.mp member
    exact framed.columns given inside
  values := by
    intro pair member
    obtain ⟨given, inside, rfl⟩ := List.mem_map.mp member
    exact (framed.values given inside).of_readBack

private theorem spells_pair {pair : Ident × Expr} {column : Ident}
    (first : Spells d pair.1.text.toList [column.token]) (value : pair.2.Simple d)
    (closed : pair.2.closes d = true) :
    Spells d (pairText pair) (pairTokens (column, pair.2.readBack d)) := by
  have equals := Spells.equals.join (.inl rfl) [] (by simp) (value.spells_readBack closed)
  have all := first.join (.inl rfl) [] (by simp) equals
  simpa [pairText, pairTokens, marks, punctuationToken, Token.isBlank] using all

private theorem spells_more {more : List (Ident × Expr)}
    (columns : ∀ pair ∈ more, pair.1.Simple d ∧ pair.1.survives = true ∧ IsName d pair.1)
    (values : ∀ pair ∈ more, pair.2.Simple d)
    (closed : ∀ pair ∈ more, pair.2.closes d = true) {first : List Char} {tokens : List Token}
    (spells : Spells d first tokens) :
    Spells d (first ++ moreText more)
      (tokens ++ moreTokens (more.map fun pair => (pair.1, pair.2.readBack d))) := by
  induction more generalizing first tokens with
  | nil => simpa [moreText, moreTokens] using spells
  | cons pair more ih =>
    rw [List.forall_mem_cons] at columns values closed
    have next := spells_pair (columns.1.1.spells columns.1.2.1) values.1 closed.1
    have and : Spells d ('A' :: "ND".toList) [.word "AND" none] :=
      .word (by decide) (by decide)
    have joined := spells.join (.inl rfl) [] (by simp) (and.join (.inl rfl) [] (by simp) next)
    have all := ih columns.2 values.2 closed.2 joined
    simpa [moreText, moreTokens, marks, punctuationToken, Token.isBlank] using all

private theorem spells (framed : stmt.Framed d) (legible : stmt.legible d = true)
    (closed : stmt.closes d = true) :
    Spells d (Statement.update stmt.statement).text.toList (stmt.readBack d).tokens := by
  simp only [closes, Bool.and_eq_true, List.all_eq_true] at closed
  obtain ⟨assignments, conditions⟩ := closed
  have pairs : Spells d (separated (stmt.assignments.map pairText))
      ([.symbol ","].intercalate ((stmt.readBack d).assignments.map pairTokens)) := by
    rw [readBack, List.map_map]
    refine .commas fun pair member => ?_
    obtain ⟨column, value⟩ := framed.assignments pair member
    exact spells_pair (column.spells_readBack (List.all_eq_true.mp legible pair member)
      (assignments pair member).1) value
      (assignments pair member).2
  have word (c : Char) (cs : List Char) (start : isWordStart c = true)
      (parts : cs.all isWordPart = true) :
      Spells d (c :: cs) [.word (String.ofList (c :: cs)) none] := .word start parts
  have list : Spells d (separated (stmt.assignments.map pairText) ++
      conditionText stmt.conditions)
      ([.symbol ","].intercalate ((stmt.readBack d).assignments.map pairTokens) ++
        conditionTokens (stmt.readBack d).conditions) := by
    have columns := framed.columns
    have values := framed.values
    have read : (stmt.readBack d).conditions =
        stmt.conditions.map fun pair => (pair.1, pair.2.readBack d) := rfl
    cases found : stmt.conditions with
    | nil => simpa [read, found, conditionText, conditionTokens] using pairs
    | cons pair more =>
      rw [found, List.forall_mem_cons] at columns values conditions
      have first := spells_pair (columns.1.1.spells columns.1.2.1) values.1 conditions.1
      have all := pairs.join (.inl rfl) [] (by simp)
        ((word 'W' "HERE".toList rfl (by decide)).join (.inl rfl) [] (by simp)
          (spells_more columns.2 values.2 conditions.2 first))
      simpa [read, found, conditionText, conditionTokens, marks, punctuationToken, Token.isBlank]
        using all
  rw [toList_text framed.someAssignment]
  have set := (word 'S' "ET".toList rfl (by decide)).join (.inl rfl) [] (by simp) list
  have table := (framed.table.spells framed.tableFine).join (.inl rfl) [] (by simp) set
  have all := (word 'U' "PDATE".toList rfl (by decide)).join (.inl rfl) [] (by simp) table
  have kept : (stmt.readBack d).table = stmt.table := rfl
  simpa [tokens, setTokens, marks, punctuationToken, Token.isBlank, kept] using all

theorem parse_text (framed : stmt.Framed d) (legible : stmt.legible d = true)
    (closed : stmt.closes d = true) :
    Statement.parse d (Statement.update stmt.statement).text =
      .ok (.update (stmt.readBack d).statement) :=
  parse_of_runs (stmt.spells framed legible closed) ⟨_, _, rfl, by simp⟩
    (runs_anyStatement framed.of_readBack)

private theorem conjunction_injective {first other : Ident × Expr}
    {more others : List (Ident × Expr)}
    (same : conjunction (comparison first) (more.map comparison) =
      conjunction (comparison other) (others.map comparison)) :
    first = other ∧ more = others := by
  have step (first : Ident × Expr) (more : List (Ident × Expr)) (last : Ident × Expr) :
      conjunction (comparison first) ((more ++ [last]).map comparison) =
        .binary (conjunction (comparison first) (more.map comparison)) "AND"
          (comparison last) := by simp [conjunction]
  have one {left right : Ident × Expr} (equal : comparison left = comparison right) :
      left = right := by
    simp only [comparison, Expr.binary.injEq, Expr.name.injEq, List.cons.injEq] at equal
    exact Prod.ext equal.1.1 equal.2.2
  induction more using List.reverseRecOn generalizing others with
  | nil =>
    induction others using List.reverseRecOn with
    | nil => exact ⟨one same, rfl⟩
    | append_singleton others last =>
      rw [step] at same
      simp [conjunction, comparison] at same
  | append_singleton more last ih =>
    induction others using List.reverseRecOn with
    | nil =>
      rw [step] at same
      simp [conjunction, comparison] at same
    | append_singleton others final =>
      rw [step, step, Expr.binary.injEq] at same
      obtain ⟨rfl, rfl⟩ := ih same.1
      exact ⟨rfl, by rw [one same.2.2]⟩

private theorem selection_injective {conditions others : List (Ident × Expr)}
    (same : selection conditions = selection others) : conditions = others := by
  cases conditions <;> cases others <;> simp only [selection, reduceCtorEq] at same
  · rfl
  · obtain ⟨rfl, rfl⟩ := conjunction_injective (Option.some.inj same)
    rfl

private theorem statement_injective {left right : SimpleUpdate}
    (same : left.statement = right.statement) :
    left.assignments = right.assignments ∧ left.conditions = right.conditions := by
  refine ⟨?_, selection_injective (congrArg Update.selection same)⟩
  refine List.map_injective_iff.mpr ?_ (congrArg Update.assignments same)
  intro pair other equal
  simp only [Assignment.mk.injEq, Target.column.injEq, List.cons.injEq] at equal
  exact Prod.ext equal.1.1 equal.2

/-- Where identifiers and values survive they are read up to their closing quotes, as they were. -/
theorem Framed.survives_iff (framed : stmt.Framed d) :
    stmt.survives d = true ↔
      stmt.closes d = true ∧ (stmt.readBack d).statement = stmt.statement := by
  have assignments : (∀ pair ∈ stmt.assignments,
        pair.1.survives = true ∧ pair.2.survives d = true) ↔
      (∀ pair ∈ stmt.assignments, pair.1.closes = true ∧ pair.2.closes d = true) ∧
        stmt.assignments.map (readPair d) = stmt.assignments := by
    refine forall_iff_map_eq_self fun pair member => ?_
    obtain ⟨column, value⟩ := framed.assignments pair member
    rw [column.survives_iff, value.survives_iff, readPair, Prod.ext_iff]
    exact and_and_and_comm
  have conditions : (∀ pair ∈ stmt.conditions, pair.2.survives d = true) ↔
      (∀ pair ∈ stmt.conditions, pair.2.closes d = true) ∧
        (stmt.conditions.map fun pair => (pair.1, pair.2.readBack d)) = stmt.conditions := by
    refine forall_iff_map_eq_self fun pair member => ?_
    rw [(framed.values pair member).survives_iff, Prod.ext_iff]
    simp
  simp only [survives, closes, Bool.and_eq_true, List.all_eq_true, assignments, conditions]
  constructor
  · rintro ⟨⟨first, pairs⟩, second, values⟩
    refine ⟨⟨first, second⟩, ?_⟩
    rw [readBack, pairs, values]
  · rintro ⟨⟨first, second⟩, same⟩
    obtain ⟨pairs, values⟩ := statement_injective same
    exact ⟨⟨first, pairs⟩, second, values⟩

end SimpleUpdate

end RowStamp.Sql
