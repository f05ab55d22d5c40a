import RowStamp.Proofs.Sql.Recovery

/-!
An INSERT of rows of simple values: its text, its tokens, and what is read of it.
-/

set_option autoImplicit false
set_option relaxedAutoImplicit false

namespace RowStamp.Sql

open RowStamp.Sql.Parser (Ends Gives Runs)

variable {d : Dialect}

/-- An INSERT of rows of values into columns of a table. -/
structure SimpleInsert where
  table : Ident
  columns : List Ident
  rows : List (List Expr)

namespace SimpleInsert

def statement (stmt : SimpleInsert) : Insert where
  conflict := none
  replaces := false
  priority := none
  ignores := false
  overwrites := false
  intoWord := true
  tableWord := false
  table := [stmt.table]
  tableAlias := none
  columns := stmt.columns
  partition := []
  source := .query ⟨[], .values ⟨"VALUES", false, stmt.rows⟩, []⟩
  rowAlias := none
  onConflict := []
  returning := []

/-- All identifiers and values are simple, and there are some; the table and the first column are
no words that mean something else in their places. -/
structure WellFormed (d : Dialect) (stmt : SimpleInsert) : Prop where
  table : stmt.table.Simple d
  tableKey : stmt.table.token.key ∉ ["LOCAL", "DIRECTORY", "TABLE"]
  columns : ∀ column ∈ stmt.columns, column.Simple d
  someColumn : stmt.columns ≠ []
  columnKey : ∀ column ∈ stmt.columns.head?, column.token.key ≠ "SELECT"
  rows : ∀ row ∈ stmt.rows, row ≠ [] ∧ ∀ e ∈ row, e.Simple d
  someRow : stmt.rows ≠ []

/-- The columns that are not quoted may be any texts. -/
structure Framed (d : Dialect) (stmt : SimpleInsert) : Prop where
  table : stmt.table.Simple d
  tableKey : stmt.table.token.key ∉ ["LOCAL", "DIRECTORY", "TABLE"]
  columns : ∀ column ∈ stmt.columns, column.Shaped d
  someColumn : stmt.columns ≠ []
  columnKey : ∀ column ∈ stmt.columns.head?, column.token.key ≠ "SELECT"
  rows : ∀ row ∈ stmt.rows, row ≠ [] ∧ ∀ e ∈ row, e.Simple d
  someRow : stmt.rows ≠ []

def legible (d : Dialect) (stmt : SimpleInsert) : Bool := stmt.columns.all (Ident.legible d)

theorem WellFormed.framed {stmt : SimpleInsert} (wellFormed : stmt.WellFormed d) :
    stmt.Framed d :=
  { wellFormed with columns := fun column member => (wellFormed.columns column member).shaped }

theorem WellFormed.legible {stmt : SimpleInsert} (wellFormed : stmt.WellFormed d) :
    stmt.legible d = true :=
  List.all_eq_true.mpr fun column member => (wellFormed.columns column member).legible

/-! ### Tokens -/

@[simp] theorem key_insert : (Token.word "INSERT" none).key = "INSERT" := rfl

@[simp] theorem key_into : (Token.word "INTO" none).key = "INTO" := rfl

@[simp] theorem key_values : (Token.word "VALUES" none).key = "VALUES" := rfl

def rowTokens (row : List Expr) : List Token :=
  .symbol "(" :: ([.symbol ","].intercalate (row.map fun e => [e.token]) ++ [.symbol ")"])

def rowsTokens (rows : List (List Expr)) : List Token :=
  [.symbol ","].intercalate (rows.map rowTokens)

def bodyTokens (stmt : SimpleInsert) : List Token :=
  .symbol "(" :: ([.symbol ","].intercalate (stmt.columns.map fun column => [column.token]) ++
    .symbol ")" :: .word "VALUES" none :: rowsTokens stmt.rows)

def tokens (stmt : SimpleInsert) : List Token :=
  .word "INSERT" none :: .word "INTO" none :: stmt.table.token :: stmt.bodyTokens

/-! ### Reading -/

variable {stmt : SimpleInsert} {rest : List Token} {depth : Nat}

private theorem runs_values {row : List Expr} (simple : ∀ e ∈ row, e.Simple d) (some' : row ≠ []) :
    Runs (atLevel d (depth + 1)).exprs
      ([.symbol ","].intercalate (row.map fun e => [e.token]) ++ .symbol ")" :: rest) row
      (.symbol ")" :: rest) := by
  have read : Runs (Parser.commaList (atLevel d (depth + 1)).expr)
      ([.symbol ","].intercalate (row.map fun e => [e.token]) ++ .symbol ")" :: rest) (row.map id)
      (.symbol ")" :: rest) :=
    .commaList (Ends d 0) Ends.comma (Ends.close _) (by simp)
      (fun e member rest ends => runs_expr (simple e member) ends) some'
  rwa [List.map_id] at read

private theorem runs_rows (allowEmpty : Bool) {rows : List (List Expr)}
    (simple : ∀ row ∈ rows, row ≠ [] ∧ ∀ e ∈ row, e.Simple d) (some' : rows ≠ []) :
    Runs (Grammar.valuesRows (atLevel d (depth + 1)) allowEmpty "VALUES") (rowsTokens rows)
      ⟨"VALUES", false, rows⟩ [] := by
  have noRow : (rows.map fun row => (false, row)).any Prod.fst = false := by simp
  have same : (rows.map fun row => (false, row)).map Prod.snd = rows := by
    simp [Function.comp_def]
  have result : (⟨"VALUES", false, rows⟩ : Values) =
      ⟨"VALUES", (rows.map fun row => (false, row)).any Prod.fst,
        (rows.map fun row => (false, row)).map Prod.snd⟩ := by rw [noRow, same]
  rw [result, ← List.append_nil (rowsTokens rows)]
  refine .bind (.commaList (fun _ => True) (by simp) trivial (by simp) ?_ some') (.pure _)
  intro row member rest _
  obtain ⟨some', values⟩ := simple row member
  obtain ⟨e, es, rfl⟩ := List.exists_cons_of_ne_nil some'
  obtain ⟨tail, start⟩ := Parser.exists_intercalate_eq_cons Expr.token e es
  have inside : Runs (atLevel d (depth + 1)).exprs
      ([.symbol ","].intercalate ((e :: es).map fun e => [e.token]) ++ .symbol ")" :: rest)
      (e :: es) (.symbol ")" :: rest) := runs_values values some'
  rw [start] at inside
  refine .bind (.keyword_absent (by simp [rowTokens, Token.key])) ?_
  rw [rowTokens, start, List.cons_append, List.append_assoc, List.singleton_append]
  refine .bind (.expectSymbol "(" _) (.bind (.peekSymbol ")") ?_)
  rw [if_neg (by simp [token_ne_symbol])]
  exact .bind inside (.bind (.expectSymbol ")" _) (.pure _))

private theorem runs_queryTail : Runs (Grammar.queryTail (atLevel d depth)) [] [] [] := by
  have limit : Runs (Grammar.limitClause (atLevel d depth)) [] [] [] :=
    .bind (.keyword_absent (by simp)) (.bind (.pure _)
      (.bind (.keyword_absent (by simp)) (.pure _)))
  have fetch : Runs (Grammar.fetchClause (atLevel d depth)) [] [] [] :=
    .bind (.keyword_absent (by simp)) (.pure _)
  have locks (fuel : Nat) : Runs (Grammar.lockClauses (atLevel d depth) (fuel + 1)) [] [] [] :=
    .bind (.keyword_absent (by simp)) (.pure _)
  exact .bind (.keywords_absent (by simp)) (.bind (.pure _) (.bind limit (.bind fetch
    (.getLength fun _ _ => .bind (locks _) (.pure _)))))

private theorem runs_query {rows : List (List Expr)}
    (simple : ∀ row ∈ rows, row ≠ [] ∧ ∀ e ∈ row, e.Simple d) (some' : rows ≠ []) :
    Runs (Grammar.wholeQuery (atLevel d (depth + 1)))
      (.word "VALUES" none :: rowsTokens rows) ⟨[], .values ⟨"VALUES", false, rows⟩, []⟩ [] := by
  have front : Runs (Grammar.withClause (atLevel d (depth + 1)))
      (.word "VALUES" none :: rowsTokens rows) [] (.word "VALUES" none :: rowsTokens rows) :=
    .bind (.keyword_absent (by simp)) (.pure _)
  have body : Runs (Grammar.simpleBody (atLevel d (depth + 1)))
      (.word "VALUES" none :: rowsTokens rows) (.values ⟨"VALUES", false, rows⟩) [] := by
    refine .bind (.peekKeyword _) (.bind (.peekKeyword _) ?_)
    rw [if_neg (by simp)]
    refine .bind (.peekSymbol _) ?_
    rw [if_neg (by simp)]
    refine .bind (.keyword_present _ _) ?_
    exact .bind (runs_rows _ simple some') (.pure _)
  have alone (fuel : Nat) : Runs (Grammar.bodyFrom (atLevel d (depth + 1)) (fuel + 1) 0)
      (.word "VALUES" none :: rowsTokens rows) (.values ⟨"VALUES", false, rows⟩) [] :=
    .bind body (.getLength fun _ _ => .peekLexeme_none (.pure _))
  exact .bind front (.bind (.oneOfKeywords_absent (by simp)) (.getLength fun _ _ =>
    .bind (alone _) (.bind runs_queryTail (.pure _))))

private theorem runs_columns (allowEmpty : Bool) {columns : List Ident} (some' : columns ≠ [])
    (rest : List Token) :
    Runs (Parser.optionalIdentifierList allowEmpty)
      (.symbol "(" :: ([.symbol ","].intercalate (columns.map fun column => [column.token]) ++
        .symbol ")" :: rest)) columns rest := by
  have read : Runs (Parser.commaList Parser.identifier)
      ([.symbol ","].intercalate (columns.map fun column => [column.token]) ++ .symbol ")" :: rest)
      (columns.map id) (.symbol ")" :: rest) :=
    .commaList (fun _ => True) (by simp) trivial (by simp)
      (fun column _ rest _ => .identifier rfl rest) some'
  rw [List.map_id] at read
  obtain ⟨column, others, rfl⟩ := List.exists_cons_of_ne_nil some'
  obtain ⟨tail, start⟩ := Parser.exists_intercalate_eq_cons Ident.token column others
  rw [start] at read ⊢
  refine .bind (.peekSymbol "(") ?_
  rw [if_pos (by simp)]
  refine .bind (.symbol_present "(" _) (.bind (.peekSymbol ")") ?_)
  rw [if_neg (by simp [Ident.token])]
  exact .bind read (.bind (.expectSymbol ")" _) (.pure _))

private theorem runs_body (framed : stmt.Framed d) :
    Runs (Grammar.insertBody (atLevel d (depth + 2))) stmt.bodyTokens
      (stmt.columns, [], .query ⟨[], .values ⟨"VALUES", false, stmt.rows⟩, []⟩) [] := by
  have source : Runs (Grammar.insertSource (atLevel d (depth + 2)))
      (.word "VALUES" none :: rowsTokens stmt.rows)
      (.query ⟨[], .values ⟨"VALUES", false, stmt.rows⟩, []⟩) [] := by
    refine .bind (.peekKeyword _) (.bind (.peekKeyword _) ?_)
    rw [if_neg (by simp)]
    refine .bind (.peekKeyword _) ?_
    rw [if_neg (by simp)]
    exact .bind (runs_query framed.rows framed.someRow) (.pure _)
  have partition : Runs (Grammar.insertPartition (atLevel d (depth + 2)))
      (.word "VALUES" none :: rowsTokens stmt.rows) []
      (.word "VALUES" none :: rowsTokens stmt.rows) :=
    .bind (.keyword_absent (by simp)) (.pure _)
  have subquery : Runs Grammar.subqueryAhead stmt.bodyTokens false stmt.bodyTokens := by
    obtain ⟨column, others, found⟩ := List.exists_cons_of_ne_nil framed.someColumn
    obtain ⟨tail, start⟩ := Parser.exists_intercalate_eq_cons Ident.token column others
    have other : column.token.key ≠ "SELECT" := framed.columnKey column (by rw [found]; rfl)
    rw [bodyTokens, found, start]
    refine .bind (.peekTokens 2) ?_
    have none' : (column.token.key == "SELECT") = false := beq_eq_false_iff_ne.mpr other
    rw [← none']
    exact .pure _
  refine .bind (.keywords_absent (by simp [bodyTokens])) (.bind subquery ?_)
  exact .bind (runs_columns _ framed.someColumn _)
    (.bind partition (.bind source (.pure _)))

theorem runs_conflictWords (tokens : List Token) :
    Runs Grammar.conflictWords (.word "INTO" none :: tokens) none (.word "INTO" none :: tokens) :=
  .bind (.forIn fun word _ => .bind (.keywords_absent (by simp)) (.pure _))
    (.bind (.keyword_absent (by simp)) (.pure _))

private theorem runs_statement (framed : stmt.Framed d) :
    Runs (Grammar.insert (atLevel d (depth + 2)) false)
      (.word "INTO" none :: stmt.table.token :: stmt.bodyTokens) (.insert stmt.statement) [] := by
  have tableKey := framed.tableKey
  simp only [List.mem_cons, List.not_mem_nil, or_false, not_or] at tableKey
  obtain ⟨noLocal, noDirectory, noTable⟩ := tableKey
  have name : Runs (Parser.objectName d) (stmt.table.token :: stmt.bodyTokens) [stmt.table]
      stmt.bodyTokens := .objectName rfl (by simp [bodyTokens])
  have row : Runs (Grammar.rowAlias (atLevel d (depth + 2))) [] none [] := by
    refine .bind (.peekKeyword _) ?_
    rw [if_neg (by simp)]
    exact .pure _
  have into (start : Insert) : Runs (Grammar.insertInto (atLevel d (depth + 2)) start)
      (stmt.table.token :: stmt.bodyTokens)
      { start with
        tableWord := false, table := [stmt.table], tableAlias := none, columns := stmt.columns,
        partition := [], source := .query ⟨[], .values ⟨"VALUES", false, stmt.rows⟩, []⟩,
        rowAlias := none, onConflict := [], returning := [] } [] := by
    refine .bind (.keyword_absent (by simpa using noTable)) (.bind name ?_)
    refine .bind (.peekKeyword _) ?_
    rw [if_neg (by simp [bodyTokens])]
    refine .bind (.pure _) (.bind (runs_body framed) (.bind row ?_))
    exact .bind (.bind (.keyword_absent (by simp)) (.pure _))
      (.bind (.bind (.keyword_absent (by simp)) (.pure _)) (.pure _))
  refine .bind (runs_conflictWords _) ?_
  dsimp only
  split
  · refine .bind (.oneOfKeywords_absent (by simp)) (.bind (.keyword_absent (by simp)) ?_)
    refine .bind (.keyword_absent (by simp)) (.bind (.keyword_present _ _) ?_)
    refine .bind (.keyword_absent (by simpa using noLocal)) ?_
    exact .bind (.keyword_absent (by simpa using noDirectory)) (.bind (into _) (.pure _))
  · refine .bind (.pure _) (.bind (.pure _) ?_)
    refine .bind (.keyword_absent (by simp)) (.bind (.keyword_present _ _) ?_)
    refine .bind (.keyword_absent (by simpa using noLocal)) ?_
    exact .bind (.keyword_absent (by simpa using noDirectory)) (.bind (into _) (.pure _))

private theorem runs_anyStatement (framed : stmt.Framed d) :
    Runs (Grammar.anyStatement (atLevel d (depth + 2))) stmt.tokens (.insert stmt.statement) [] := by
  refine .peekLexeme_some fun lexeme same => ?_
  dsimp only
  rw [same, if_neg (by simp)]
  exact .bind .skip (runs_statement framed)

/-! ### The text -/

def rowText (row : List Expr) : List Char :=
  '(' :: (separated (row.map fun e => e.text.toList) ++ [')'])

def rowsText (rows : List (List Expr)) : List Char := separated (rows.map rowText)

def columnsText (columns : List Ident) : List Char :=
  separated (columns.map fun column => column.text.toList)

theorem toList_text (some' : stmt.columns ≠ []) :
    (Statement.insert stmt.statement).text.toList =
      "INSERT".toList ++ ' ' :: [] ++ ("INTO".toList ++ ' ' :: [] ++ (stmt.table.text.toList ++
        ' ' :: ['('] ++ (columnsText stmt.columns ++ ')' :: [' '] ++ ("VALUES".toList ++ ' ' :: [] ++
          rowsText stmt.rows)))) := by
  have rows : (stmt.rows.map (Values.rowFragments false)).map (fun e => e.text.toList) =
      stmt.rows.map rowText := by
    simp [Values.rowFragments, rowText, Function.comp_def]
  simp [Statement.toList_text, Statement.fragments, Insert.fragments, statement, Insert.head,
    nameText, Insert.columnList, some', Insert.sourceFragments, Query.fragments,
    QueryBody.fragments, Values.fragments, Insert.rowAliasText, clause, Expr.commaSeparated,
    toList_identList, rows, columnsText, rowsText]

/-! ### What is read of the text -/

def survives (d : Dialect) (stmt : SimpleInsert) : Bool :=
  stmt.table.survives && stmt.columns.all Ident.survives &&
    stmt.rows.all fun row => row.all (Expr.survives d)

def closes (d : Dialect) (stmt : SimpleInsert) : Bool :=
  stmt.table.closes && stmt.columns.all Ident.closes &&
    stmt.rows.all fun row => row.all (Expr.closes d)

/-- What is read of the statement, where its identifiers and values are read up to their closing
quotes. -/
def readBack (d : Dialect) (stmt : SimpleInsert) : SimpleInsert where
  table := stmt.table.readBack
  columns := stmt.columns.map Ident.readBack
  rows := stmt.rows.map (·.map (Expr.readBack d))

private theorem Framed.of_readBack (framed : stmt.Framed d) :
    (stmt.readBack d).Framed d where
  table := framed.table.of_readBack
  tableKey := by
    rw [readBack, Ident.key_readBack]
    exact framed.tableKey
  columns := by
    intro column member
    obtain ⟨given, inside, rfl⟩ := List.mem_map.mp member
    exact (framed.columns given inside).of_readBack
  someColumn := by simpa [readBack] using framed.someColumn
  columnKey := by
    intro column first
    rw [readBack, List.head?_map] at first
    obtain ⟨given, head, rfl⟩ := Option.map_eq_some_iff.mp first
    rw [Ident.key_readBack]
    exact framed.columnKey given head
  rows := by
    intro row member
    obtain ⟨given, inside, rfl⟩ := List.mem_map.mp member
    obtain ⟨some', simple⟩ := framed.rows given inside
    refine ⟨by simpa using some', fun e member => ?_⟩
    obtain ⟨value, inside, rfl⟩ := List.mem_map.mp member
    exact (simple value inside).of_readBack
  someRow := by simpa [readBack] using framed.someRow

private theorem spells_row {row : List Expr} (simple : ∀ e ∈ row, e.Simple d)
    (closed : ∀ e ∈ row, e.closes d = true) :
    Spells d (rowText row) (rowTokens (row.map (Expr.readBack d))) := by
  have inside : Spells d (separated (row.map fun e => e.text.toList))
      ([.symbol ","].intercalate (row.map fun e => [(e.readBack d).token])) :=
    .commas fun e member => (simple e member).spells_readBack (closed e member)
  have all := inside.join (c := ')') (.inr (.inr rfl)) [] (by simp) .nil
  rw [List.append_nil, List.append_nil] at all
  have row := all.after ['('] (by decide)
  simpa [rowTokens, rowText, marks, punctuationToken, Token.isBlank, Function.comp_def] using row

private theorem spells (framed : stmt.Framed d) (legible : stmt.legible d = true)
    (closed : stmt.closes d = true) :
    Spells d (Statement.insert stmt.statement).text.toList (stmt.readBack d).tokens := by
  simp only [closes, Bool.and_eq_true, List.all_eq_true] at closed
  obtain ⟨⟨table, columns⟩, rows⟩ := closed
  have word (c : Char) (cs : List Char) (start : isWordStart c = true)
      (parts : cs.all isWordPart = true) :
      Spells d (c :: cs) [.word (String.ofList (c :: cs)) none] := .word start parts
  have rowsSpell : Spells d (rowsText stmt.rows) (rowsTokens (stmt.readBack d).rows) := by
    rw [readBack, rowsTokens, List.map_map]
    exact .commas fun row member => spells_row (framed.rows row member).2 (rows row member)
  have columnsSpell : Spells d (columnsText stmt.columns)
      ([.symbol ","].intercalate
        ((stmt.readBack d).columns.map fun column => [column.token])) := by
    rw [readBack, List.map_map]
    exact .commas fun column member =>
      (framed.columns column member).spells_readBack
        (List.all_eq_true.mp legible column member) (columns column member)
  rw [toList_text framed.someColumn]
  have values := (word 'V' "ALUES".toList rfl (by decide)).join (.inl rfl) [] (by simp) rowsSpell
  have body := columnsSpell.join (.inr (.inr rfl)) [' '] (by decide) values
  have table := (framed.table.shaped.spells_readBack framed.table.legible table).join (.inl rfl)
    ['('] (by decide) body
  have into := (word 'I' "NTO".toList rfl (by decide)).join (.inl rfl) [] (by simp) table
  have all := (word 'I' "NSERT".toList rfl (by decide)).join (.inl rfl) [] (by simp) into
  simpa [tokens, bodyTokens, marks, punctuationToken, Token.isBlank, readBack] using all

theorem parse_text (framed : stmt.Framed d) (legible : stmt.legible d = true)
    (closed : stmt.closes d = true) :
    Statement.parse d (Statement.insert stmt.statement).text =
      .ok (.insert (stmt.readBack d).statement) :=
  parse_of_runs (stmt.spells framed legible closed) ⟨_, _, rfl, by simp⟩
    (runs_anyStatement framed.of_readBack)

/-- Where identifiers and values survive they are read up to their closing quotes, as they were. -/
theorem Framed.survives_iff (framed : stmt.Framed d) :
    stmt.survives d = true ↔
      stmt.closes d = true ∧ (stmt.readBack d).statement = stmt.statement := by
  have columns : (∀ column ∈ stmt.columns, column.survives = true) ↔
      (∀ column ∈ stmt.columns, column.closes = true) ∧
        stmt.columns.map Ident.readBack = stmt.columns :=
    forall_iff_map_eq_self fun column member => (framed.columns column member).survives_iff
  have rows : (∀ row ∈ stmt.rows, ∀ e ∈ row, e.survives d = true) ↔
      (∀ row ∈ stmt.rows, ∀ e ∈ row, e.closes d = true) ∧
        stmt.rows.map (·.map (Expr.readBack d)) = stmt.rows :=
    forall_iff_map_eq_self fun row member => forall_iff_map_eq_self fun e inside =>
      ((framed.rows row member).2 e inside).survives_iff
  simp only [survives, closes, Bool.and_eq_true, List.all_eq_true, columns, rows,
    framed.table.shaped.survives_iff]
  simp [statement, readBack]
  tauto

end SimpleInsert

end RowStamp.Sql
