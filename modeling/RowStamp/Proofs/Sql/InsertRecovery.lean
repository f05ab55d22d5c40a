import RowStamp.Proofs.Sql.SimpleInsert

/-!
Where the text of an INSERT of simple values is read as the statement, all of its identifiers and
values survive, and its columns without quotes are names.
-/

set_option autoImplicit false
set_option relaxedAutoImplicit false

namespace RowStamp.Sql.SimpleInsert

open RowStamp.Sql.Parser (Ends Gives Runs)

variable {d : Dialect} {stmt : SimpleInsert} {depth : Nat} {post : List Char} {tokens : List Token}

private theorem ends_of_follows {others : List Char}
    (follows : Follows (')' :: post) others) {rank : Nat}
    (ahead : Ahead d others tokens) : Ends d rank tokens := by
  rcases follows with rfl | ⟨more, rfl⟩
  · obtain ⟨more, rfl, -⟩ := ahead.closing
    exact .close more
  · obtain ⟨more, rfl, -⟩ := ahead.comma
    exact .comma more

private theorem recovers_values (other : d ≠ .mySql) {row : List Expr}
    (simple : ∀ e ∈ row, e.Simple d) (some' : row ≠ [])
    (ahead : Ahead d (separated (row.map fun e => e.text.toList) ++ ')' :: post) tokens) :
    Recovers d (atLevel d (depth + 1)).exprs tokens row (∀ e ∈ row, e.survives d = true)
      (')' :: post) := by
  have recovers : Recovers d (Parser.commaList (atLevel d (depth + 1)).expr) tokens (row.map id)
      (∀ e ∈ row, e.survives d = true) (')' :: post) := by
    refine .commaList (fun tokens ahead => ?_) (fun e member others follows tokens ahead => ?_)
      some' ahead
    · obtain ⟨more, rfl, -⟩ := ahead.closing
      simp
    · exact (simple e member).gives (atLevel d depth) other
        (follows.delimited (by simp [Delimited])) (fun _ => ends_of_follows follows) ahead
  rwa [List.map_id] at recovers

private theorem recovers_rows (other : d ≠ .mySql) {rows : List (List Expr)}
    (simple : ∀ row ∈ rows, row ≠ [] ∧ ∀ e ∈ row, e.Simple d) (some' : rows ≠ [])
    (ahead : Ahead d (rowsText rows ++ []) tokens) :
    Gives (Grammar.valuesRows (atLevel d (depth + 1)) false "VALUES") tokens fun values _ =>
      values = ⟨"VALUES", false, rows⟩ → ∀ row ∈ rows, ∀ e ∈ row, e.survives d = true := by
  have list : Recovers d (Parser.commaList do
        let rowWord ← Parser.keyword "ROW"
        Parser.expectSymbol "("
        if false && (← Parser.peekSymbol ")") then
          Parser.skip
          return (rowWord, [])
        let items ← (atLevel d (depth + 1)).exprs
        Parser.expectSymbol ")"
        return (rowWord, items)) tokens (rows.map fun row => (false, row))
      (∀ row ∈ rows, ∀ e ∈ row, e.survives d = true) [] := by
    refine .commaList (fun tokens ahead => ?_) (fun row member others follows tokens ahead => ?_)
      some' ahead
    · simp [ahead.eq_nil]
    obtain ⟨some', values⟩ := simple row member
    rw [rowText, List.cons_append, List.append_assoc, List.singleton_append] at ahead
    obtain ⟨inside, rfl, next⟩ := ahead.opening
    refine .bind_runs (.keyword_absent (by simp)) (.bind_runs (.expectSymbol "(" _) ?_)
    refine .bind_runs (.peekSymbol ")") ?_
    rw [if_neg (by simp)]
    refine .bind (recovers_values other values some' next) fun items rest known => ?_
    by_cases same : items = row
    · obtain ⟨fine, closing⟩ := known same
      obtain ⟨more, rfl, last⟩ := closing.closing
      exact .bind_runs (.expectSymbol ")" _) (.pure fun _ => ⟨fine, last⟩)
    · exact .bind_any fun _ _ => .pure fun pair => absurd (Prod.mk.inj pair).2 same
  refine .bind list fun pairs rest known => .pure fun same => ?_
  obtain ⟨-, plain, inner⟩ := Values.mk.inj same
  refine (known ?_).1
  rw [← inner, List.map_map]
  refine (List.map_id pairs).symm.trans (List.map_congr_left fun pair member => ?_)
  have none' : pair.1 = false := by simpa using List.any_eq_false.mp plain pair member
  exact Prod.ext none' rfl

private theorem gives_setOperations (operand : Nat → Parser QueryBody) (rank fuel : Nat)
    (left : QueryBody) :
    Gives (Grammar.setOperations operand rank fuel left) tokens fun body _ =>
      body = left ∨ ∃ parts, body = .other parts := by
  induction fuel generalizing left tokens with
  | zero => exact .pure (.inl rfl)
  | succ fuel ih =>
    refine .peekLexeme fun found => ?_
    dsimp only
    split
    · exact .pure (.inl rfl)
    · split
      · exact .pure (.inl rfl)
      · refine .bind_any fun _ _ => .bind_any fun _ _ => .bind_any fun _ _ => ?_
        refine (ih _).mono fun body _ composed => .inr ?_
        rcases composed with rfl | composed
        · exact ⟨_, rfl⟩
        · exact composed

private theorem recovers_query (other : d ≠ .mySql) {rows : List (List Expr)}
    (simple : ∀ row ∈ rows, row ≠ [] ∧ ∀ e ∈ row, e.Simple d) (some' : rows ≠ [])
    (ahead : Ahead d (rowsText rows ++ []) tokens) :
    Gives (Grammar.wholeQuery (atLevel d (depth + 1))) (.word "VALUES" none :: tokens)
      fun query _ => query = ⟨[], .values ⟨"VALUES", false, rows⟩, []⟩ →
        ∀ row ∈ rows, ∀ e ∈ row, e.survives d = true := by
  have body : Gives (Grammar.simpleBody (atLevel d (depth + 1))) (.word "VALUES" none :: tokens)
      fun body _ => body = .values ⟨"VALUES", false, rows⟩ →
        ∀ row ∈ rows, ∀ e ∈ row, e.survives d = true := by
    refine .bind_runs (.peekKeyword _) (.bind_runs (.peekKeyword _) ?_)
    rw [if_neg (by simp)]
    refine .bind_runs (.peekSymbol _) ?_
    rw [if_neg (by simp)]
    refine .bind_runs (.keyword_present _ _) ?_
    have plain : decide ((atLevel d (depth + 1)).dialect = .mySql) = false := decide_eq_false other
    rw [if_pos rfl, plain]
    exact .bind (recovers_rows other simple some' ahead) fun values rest known =>
      .pure fun same => known (QueryBody.values.inj same)
  refine .bind_runs (.bind (.keyword_absent (by simp)) (.pure _)) ?_
  refine .bind_runs (.oneOfKeywords_absent (by simp)) (.get fun lexemes => ?_)
  refine .bind (motive := fun body _ => body = .values ⟨"VALUES", false, rows⟩ →
    ∀ row ∈ rows, ∀ e ∈ row, e.survives d = true) ?_ fun body rest known =>
      .bind_any fun _ _ => .pure fun same => known (Query.mk.inj same).2.1
  refine .bind body fun first rest known => .get fun _ => ?_
  refine (gives_setOperations _ _ _ first).mono fun body _ composed same => ?_
  rcases composed with rfl | ⟨parts, rfl⟩
  · exact known same
  · cases same

private theorem recovers_columns (other : d ≠ .mySql) {columns : List Ident}
    (shaped : ∀ column ∈ columns, column.Shaped d) (some' : columns ≠ [])
    (ahead : Ahead d (columnsText columns ++ ')' :: post) tokens) :
    Recovers d (Parser.optionalIdentifierList false) (.symbol "(" :: tokens) columns
      (∀ column ∈ columns, column.survives = true ∧ column.legible d = true) post := by
  have list : Recovers d (Parser.commaList Parser.identifier) tokens (columns.map id)
      (∀ column ∈ columns, column.survives = true ∧ column.legible d = true) (')' :: post) := by
    refine .commaList (fun tokens ahead => ?_)
      (fun column member others follows tokens ahead => ?_) some' ahead
    · obtain ⟨more, rfl, -⟩ := ahead.closing
      simp
    · exact recovers_identifier other (shaped column member)
        (follows.delimited (by simp [Delimited])) ahead
  rw [List.map_id] at list
  refine .bind_runs (.peekSymbol "(") ?_
  rw [if_pos (by simp)]
  refine .bind_runs (.symbol_present "(" _) (.bind_runs (.peekSymbol ")") ?_)
  rw [if_neg (by simp)]
  refine .bind list fun idents rest known => ?_
  by_cases same : idents = columns
  · obtain ⟨fine, closing⟩ := known same
    obtain ⟨more, rfl, last⟩ := closing.closing
    exact .bind_runs (.expectSymbol ")" _) (.pure fun _ => ⟨fine, last⟩)
  · exact .bind_any fun _ _ => .pure fun equal => absurd equal same

def restText (stmt : SimpleInsert) : List Char :=
  columnsText stmt.columns ++ ')' :: ' ' :: ("VALUES".toList ++ ' ' :: rowsText stmt.rows)

private theorem recovers_body (other : d ≠ .mySql) (framed : stmt.Framed d)
    (ahead : Ahead d stmt.restText tokens) :
    Gives (Grammar.insertBody (atLevel d (depth + 2))) (.symbol "(" :: tokens) fun body _ =>
      body = (stmt.columns, [], .query ⟨[], .values ⟨"VALUES", false, stmt.rows⟩, []⟩) →
        (∀ column ∈ stmt.columns, column.survives = true ∧ column.legible d = true) ∧
          ∀ row ∈ stmt.rows, ∀ e ∈ row, e.survives d = true := by
  have subquery : ∃ found, Runs Grammar.subqueryAhead (.symbol "(" :: tokens) found
      (.symbol "(" :: tokens) := by
    cases tokens with
    | nil => exact ⟨_, .bind (.peekTokens 2) (.pure _)⟩
    | cons token tokens => exact ⟨_, .bind (.peekTokens 2) (.pure _)⟩
  obtain ⟨found, subquery⟩ := subquery
  refine .bind_runs (.keywords_absent (by simp)) (.bind_runs subquery ?_)
  cases found with
  | true =>
    refine .bind_any fun source rest => .pure fun same => ?_
    exact absurd (Prod.mk.inj same).1.symm framed.someColumn
  | false =>
    have plain : decide ((atLevel d (depth + 2)).dialect = .mySql) = false := decide_eq_false other
    rw [if_neg (by simp), plain]
    refine .bind (recovers_columns other framed.columns framed.someColumn ahead)
      fun columns rest known => ?_
    by_cases same : columns = stmt.columns
    · obtain ⟨fine, onward⟩ := known same
      have values : Spells d ('V' :: "ALUES".toList) [.word "VALUES" none] :=
        .word (by decide) (by decide)
      obtain ⟨more, rfl, next⟩ := onward.blank.spells values (by simp [Delimited])
      refine .bind_runs (.bind (.keyword_absent (by simp)) (.pure _)) ?_
      have source : Gives (Grammar.insertSource (atLevel d (depth + 2)))
          (.word "VALUES" none :: more) fun source _ =>
            source = .query ⟨[], .values ⟨"VALUES", false, stmt.rows⟩, []⟩ →
              ∀ row ∈ stmt.rows, ∀ e ∈ row, e.survives d = true := by
        refine .bind_runs (.peekKeyword _) (.bind_runs (.peekKeyword _) ?_)
        rw [if_neg (by simp)]
        refine .bind_runs (.peekKeyword _) ?_
        rw [if_neg (by simp)]
        exact .bind (recovers_query other framed.rows framed.someRow
          (by simpa using next.blank)) fun query rest known =>
            .pure fun same => known (InsertSource.query.inj same)
      exact .bind source fun source rest known => .pure fun whole =>
        ⟨fine, known (Prod.mk.inj (Prod.mk.inj whole).2).2⟩
    · exact .bind_any fun _ _ => .bind_any fun _ _ => .pure fun whole =>
        absurd (Prod.mk.inj whole).1 same

private theorem recovers_into (other : d ≠ .mySql) (framed : stmt.Framed d) {token : Token}
    (key : token.key = stmt.table.token.key)
    (table : ∃ value, token = .word value stmt.table.quote ∧ (value = stmt.table.value →
      stmt.table.survives = true ∧ Ahead d (' ' :: '(' :: stmt.restText) tokens))
    (start : Insert) :
    Gives (Grammar.insertInto (atLevel d (depth + 2)) start) (token :: tokens) fun written _ =>
      written = stmt.statement → stmt.survives d = true ∧ stmt.legible d = true := by
  have tableKey := framed.tableKey
  rw [← key] at tableKey
  simp only [List.mem_cons, List.not_mem_nil, or_false, not_or] at tableKey
  obtain ⟨value, rfl, known⟩ := table
  refine .bind_runs (.keyword_absent (by simpa using tableKey.2.2)) ?_
  by_cases same : value = stmt.table.value
  · obtain ⟨fine, onward⟩ := known same
    obtain ⟨more, rfl, next⟩ := onward.blank.opening
    refine .bind_runs (.objectName rfl (by simp)) (.bind_runs (.peekKeyword _) ?_)
    rw [if_neg (by simp)]
    refine .bind_runs (.pure _) (.bind (recovers_body other framed next) ?_)
    refine fun body rest known => .bind_any fun _ _ => .bind_any fun _ _ => .bind_any fun _ _ =>
      .pure fun whole => ?_
    have parts := Insert.mk.inj whole
    obtain ⟨columns, partition, source⟩ := body
    obtain ⟨columnsFine, rowsFine⟩ := known (by simp_all [statement])
    simp only [survives, legible, Bool.and_eq_true, List.all_eq_true]
    exact ⟨⟨⟨fine, fun column member => (columnsFine column member).1⟩, rowsFine⟩,
      fun column member => (columnsFine column member).2⟩
  · refine .bind gives_objectName fun names rest first => .bind_any fun ahead _ => ?_
    have differs (tableAlias : Option Ident) (body : List Ident × List Expr × InsertSource)
        (alias' : Option RowAlias) (onConflict : Fragments) (returning : List Expr)
        (rest : List Token) :
        ({ start with
          tableWord := false, table := names, tableAlias := tableAlias, columns := body.1,
          partition := body.2.1, source := body.2.2, rowAlias := alias', onConflict := onConflict,
          returning := returning } : Insert) = stmt.statement →
          stmt.survives d = true ∧ stmt.legible d = true := by
      intro whole
      obtain ⟨token, more, ident, others, next, is, rfl⟩ := first
      obtain ⟨rfl, -⟩ := List.cons.inj next
      obtain rfl := Option.some.inj is
      have table : ⟨value, stmt.table.quote⟩ :: others = [stmt.table] := congrArg Insert.table whole
      exact absurd (congrArg Ident.value (List.cons.inj table).1) same
    split
    · exact .bind_any fun _ _ => .bind_any fun _ _ => .bind_any fun _ _ => .bind_any fun body _ =>
        .bind_any fun _ _ => .bind_any fun _ _ => .bind_any fun _ rest => .pure (differs _ body _ _ _ rest)
    · exact .bind_any fun _ _ => .bind_any fun body _ => .bind_any fun _ _ => .bind_any fun _ _ =>
        .bind_any fun _ rest => .pure (differs _ body _ _ _ rest)

private theorem recovers_insert (other : d ≠ .mySql) (framed : stmt.Framed d) {token : Token}
    (key : token.key = stmt.table.token.key)
    (table : ∃ value, token = .word value stmt.table.quote ∧ (value = stmt.table.value →
      stmt.table.survives = true ∧ Ahead d (' ' :: '(' :: stmt.restText) tokens)) :
    Gives (Grammar.insert (atLevel d (depth + 2)) false) (.word "INTO" none :: token :: tokens)
      fun written _ => written = .insert stmt.statement →
        stmt.survives d = true ∧ stmt.legible d = true := by
  have tableKey := framed.tableKey
  rw [← key] at tableKey
  simp only [List.mem_cons, List.not_mem_nil, or_false, not_or] at tableKey
  obtain ⟨noLocal, noDirectory, noTable⟩ := tableKey
  have into (start : Insert) : Gives (do return Statement.insert (← Grammar.insertInto (atLevel d (depth + 2)) start))
      (token :: tokens) fun written _ => written = .insert stmt.statement →
        stmt.survives d = true ∧ stmt.legible d = true :=
    .bind (recovers_into other framed key table start) fun written rest known =>
      .pure fun same => known (Statement.insert.inj same)
  refine .bind_runs (runs_conflictWords _) ?_
  dsimp only
  split
  · refine .bind_runs (.oneOfKeywords_absent (by simp)) (.bind_runs (.keyword_absent (by simp)) ?_)
    refine .bind_runs (.keyword_absent (by simp)) (.bind_runs (.keyword_present _ _) ?_)
    refine .bind_runs (.keyword_absent (by simpa using noLocal)) ?_
    exact .bind_runs (.keyword_absent (by simpa using noDirectory)) (into _)
  · refine .bind_runs (.pure _) (.bind_runs (.pure _) ?_)
    refine .bind_runs (.keyword_absent (by simp)) (.bind_runs (.keyword_present _ _) ?_)
    refine .bind_runs (.keyword_absent (by simpa using noLocal)) ?_
    exact .bind_runs (.keyword_absent (by simpa using noDirectory)) (into _)

private theorem text_eq (some' : stmt.columns ≠ []) :
    (Statement.insert stmt.statement).text.toList =
    'I' :: "NSERT".toList ++ (' ' :: ('I' :: "NTO".toList ++
      (' ' :: (stmt.table.text.toList ++ ' ' :: '(' :: stmt.restText)))) := by
  rw [toList_text some', restText]
  simp

/-- Outside of MySQL the statement is read back from its text only where its identifiers and
values survive and its columns without quotes are names. -/
theorem survives_of_parse_text (other : d ≠ .mySql) (framed : stmt.Framed d)
    (back : Statement.parse d (Statement.insert stmt.statement).text =
      .ok (.insert stmt.statement)) : stmt.survives d = true ∧ stmt.legible d = true := by
  refine of_parse other (fun tokens ahead => ?_) (fun tokens ahead => ?_) back <;>
    rw [text_eq framed.someColumn] at ahead <;>
    obtain ⟨afterInsert, rfl, second⟩ :=
      ahead.spells (Spells.word (by decide) (by decide)) (by simp [Delimited])
  · exact ⟨_, _, rfl, by simp⟩
  obtain ⟨afterInto, rfl, third⟩ :=
    second.blank.spells (Spells.word (by decide) (by decide)) (by simp [Delimited])
  obtain ⟨value, more, rfl, unquoted, known⟩ :=
    framed.table.ahead (by simp [Delimited]) third.blank
  have key : (Token.word value stmt.table.quote).key = stmt.table.token.key := by
    cases quote : stmt.table.quote with
    | none => rw [unquoted quote, Ident.token, quote]
    | some => rw [Ident.token, quote]; rfl
  refine .peekLexeme_some fun lexeme same => ?_
  dsimp only
  rw [same, if_neg (by simp)]
  exact .bind_runs .skip (recovers_insert other framed key ⟨value, rfl, known⟩)

end RowStamp.Sql.SimpleInsert
