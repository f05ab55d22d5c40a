import RowStamp.Proofs.Sql.SimpleUpdate

/-!
Where the text of an UPDATE of simple values is read as the statement, all of its identifiers and
values survive, and its columns without quotes are names.
-/

set_option autoImplicit false
set_option relaxedAutoImplicit false

namespace RowStamp.Sql.SimpleUpdate

open Relation (TransGen)
open RowStamp.Sql.Parser (Ends Extends Gives IsName IsOperator Runs Spined conjunction
  right_eq_of_conjunction sizeOf_le_conjunction)

variable {d : Dialect} {stmt : SimpleUpdate} {depth : Nat} {post : List Char} {tokens : List Token}

/-! ### Conditions -/

private theorem spined_comparison (pair : Ident × Expr) : Spined (comparison pair) :=
  .binary (.name _) _ _

private theorem gives_phrase {cx : Context} {target : Expr} (spined : Spined target)
    {fine : List Token → Prop} (rank fuel : Nat) (parts : Fragments) :
    Gives (Grammar.operations cx rank fuel (.phrase parts)) tokens fun e rest =>
      e = target → fine rest := by
  refine (Gives.operations _ _).mono ?_
  rintro e rest (⟨rfl, -⟩ | grown) rfl
  · cases spined
  · cases (spined.of_grown grown).1

private theorem gives_other {cx : Context} {left right other : Expr} (spined : Spined left)
    (differs : other ≠ right) {operator : String} (more : List Expr)
    {fine : List Token → Prop} (rank fuel : Nat) :
    Gives (Grammar.operations cx rank fuel (.binary left operator other)) tokens fun e rest =>
      e = conjunction (.binary left operator right) more → fine rest := by
  refine (Gives.operations _ _).mono fun e rest reached same => ?_
  subst same
  exact absurd (right_eq_of_conjunction spined (reached.imp_left And.left)) differs

private theorem ahead_pair {pair : Ident × Expr} (column : pair.1.Simple d)
    (fine : pair.1.survives = true) (ahead : Ahead d (pairText pair ++ post) tokens) :
    ∃ more, tokens = pair.1.token :: .symbol "=" :: more ∧
      Ahead d (pair.2.text.toList ++ post) more := by
  rw [pairText, List.append_assoc, List.append_assoc] at ahead
  obtain ⟨afterColumn, rfl, second⟩ := ahead.spells (column.spells fine) (by simp [Delimited])
  obtain ⟨afterEquals, rfl, third⟩ := second.blank.spells Spells.equals (by simp [Delimited])
  exact ⟨afterEquals, rfl, third.blank⟩

private theorem ends_of_moreText {more : List (Ident × Expr)} {rank : Nat}
    (strong : Strength.and.rank d ≤ rank) (ahead : Ahead d (moreText more) tokens) :
    Ends d rank tokens := by
  cases more with
  | nil => simp [Ends, ahead.eq_nil]
  | cons pair more =>
    have and : Spells d ('A' :: "ND".toList) [.word "AND" none] := .word (by decide) (by decide)
    have next : Ahead d (' ' :: ('A' :: "ND".toList ++ (' ' :: pairText pair ++ moreText more)))
        tokens := by simpa [moreText] using ahead
    obtain ⟨rest, rfl, -⟩ := next.blank.spells and (by simp [Delimited])
    simp [Ends, strong]

private theorem delimited_moreText (more : List (Ident × Expr)) : Delimited (moreText more) := by
  cases more <;> simp [moreText, Delimited]

private theorem recovers_comparison (other : d ≠ .mySql) {pair : Ident × Expr}
    (isName : IsName d pair.1) (simple : pair.2.Simple d) (more : List (Ident × Expr))
    (ahead : Ahead d (pair.2.text.toList ++ moreText more) tokens) :
    Recovers d (Grammar.expression (atLevel d (depth + 1)) (Strength.and.rank d))
      (pair.1.token :: .symbol "=" :: tokens) (comparison pair) (pair.2.survives d = true)
      (moreText more) := by
  have weaker : Strength.and.rank d < Strength.equality.rank d := by cases d <;> decide
  have value := simple.gives (atLevel d depth) other (delimited_moreText more)
    (fun more ahead => ends_of_moreText rank_and_le ahead) ahead
  refine .expression_name isName .equality fun fuel => ?_
  refine .operations_cons .equality weaker value (fun right rest known => ?_)
    fun parts rest => gives_phrase (spined_comparison pair) _ _ parts
  by_cases same : right = pair.2
  · obtain ⟨fine, onward⟩ := known same
    subst same
    cases fuel with
    | zero => exact .pure fun _ => ⟨fine, onward⟩
    | succ fuel =>
      have ends : Ends d (Strength.and.rank d) rest := ends_of_moreText (Nat.le_refl _) onward
      have alone : Runs (Grammar.operations (atLevel d (depth + 1)) (Strength.and.rank d)
          (fuel + 1) (comparison pair)) rest (comparison pair) rest := .operations ends _ _
      exact .of_runs alone fun _ => ⟨fine, onward⟩
  · have conjoined : conjunction (comparison pair) [] = comparison pair := rfl
    rw [← conjoined]
    exact gives_other (.name _) same [] _ _

private theorem recovers_more (other : d ≠ .mySql) {more : List (Ident × Expr)}
    (columns : ∀ pair ∈ more, pair.1.Simple d ∧ pair.1.survives = true ∧ IsName d pair.1)
    (simple : ∀ pair ∈ more, pair.2.Simple d) {first : Expr} (spined : Spined first) (fuel : Nat)
    (ahead : Ahead d (moreText more) tokens) :
    Gives (Grammar.operations (atLevel d (depth + 2)) 0 fuel first) tokens fun e _ =>
      e = conjunction first (more.map comparison) → ∀ pair ∈ more, pair.2.survives d = true := by
  induction more generalizing first fuel tokens with
  | nil => exact (Gives.any _).mono fun _ _ _ _ => by simp
  | cons pair more ih =>
    rw [List.forall_mem_cons] at columns simple
    cases fuel with
    | zero =>
      refine .pure fun same => ?_
      have size := sizeOf_le_conjunction (.binary first "AND" (comparison pair))
        (more.map comparison)
      have bound : sizeOf first = sizeOf (conjunction (.binary first "AND" (comparison pair))
        (more.map comparison)) := congrArg sizeOf same
      simp only [Expr.binary.sizeOf_spec] at size
      omega
    | succ fuel =>
      have positive : 0 < Strength.and.rank d := by cases d <;> decide
      have and : Spells d ('A' :: "ND".toList) [.word "AND" none] :=
        .word (by decide) (by decide)
      have next : Ahead d (' ' :: ('A' :: "ND".toList ++
          (' ' :: (pairText pair ++ moreText more)))) tokens := by simpa [moreText] using ahead
      obtain ⟨afterAnd, rfl, second⟩ := next.blank.spells and (by simp [Delimited])
      obtain ⟨after, rfl, third⟩ := ahead_pair columns.1.1 columns.1.2.1 second.blank
      refine .operations_cons .and positive
        (recovers_comparison other columns.1.2.2 simple.1 more third) (fun right rest known => ?_)
        fun parts rest => gives_phrase ((spined.binary _ _).conjunction _) _ _ parts
      by_cases same : right = comparison pair
      · obtain ⟨fine, onward⟩ := known same
        subst same
        exact (ih columns.2 simple.2 (spined.binary _ _) fuel onward).mono fun e _ known same =>
          List.forall_mem_cons.mpr ⟨fine, known same⟩
      · exact gives_other spined same _ _ _

private theorem recovers_selection (other : d ≠ .mySql) {first : Ident × Expr}
    {more : List (Ident × Expr)}
    (columns : ∀ pair ∈ first :: more,
      pair.1.Simple d ∧ pair.1.survives = true ∧ IsName d pair.1)
    (simple : ∀ pair ∈ first :: more, pair.2.Simple d)
    (ahead : Ahead d (pairText first ++ moreText more) tokens) :
    Gives (atLevel d (depth + 3)).expr tokens fun e _ =>
      e = conjunction (comparison first) (more.map comparison) →
        ∀ pair ∈ first :: more, pair.2.survives d = true := by
  rw [List.forall_mem_cons] at columns simple
  have positive : 0 < Strength.equality.rank d := by cases d <;> decide
  obtain ⟨after, rfl, second⟩ := ahead_pair columns.1.1 columns.1.2.1 ahead
  have read : Gives (Grammar.expression (atLevel d (depth + 2)) 0)
      (first.1.token :: .symbol "=" :: after) fun e _ =>
        e = conjunction (comparison first) (more.map comparison) →
          ∀ pair ∈ first :: more, pair.2.survives d = true := by
    have value := simple.1.gives (atLevel d (depth + 1)) other (delimited_moreText more)
      (fun more ahead => ends_of_moreText rank_and_le ahead) second
    refine .expression_name columns.1.2.2 .equality fun fuel => ?_
    refine .operations_cons .equality positive value (fun right rest known => ?_)
      fun parts rest => gives_phrase ((spined_comparison first).conjunction _) _ _ parts
    by_cases same : right = first.2
    · obtain ⟨fine, onward⟩ := known same
      subst same
      exact (recovers_more other columns.2 simple.2 (spined_comparison first) fuel onward).mono
        fun e _ known same => List.forall_mem_cons.mpr ⟨fine, known same⟩
    · exact gives_other (.name _) same _ _ _
  have rank : Strength.none.rank d = 0 := by cases d <;> rfl
  rw [← rank] at read
  exact read

/-! ### Assignments -/

private theorem ahead_condition {conditions : List (Ident × Expr)}
    (ahead : Ahead d (conditionText conditions) tokens) :
    conditions = [] ∧ tokens = [] ∨ ∃ first more rest, conditions = first :: more ∧
      tokens = .word "WHERE" none :: rest ∧ Ahead d (pairText first ++ moreText more) rest := by
  cases conditions with
  | nil => exact .inl ⟨rfl, ahead.eq_nil⟩
  | cons first more =>
    have where' : Spells d ('W' :: "HERE".toList) [.word "WHERE" none] :=
      .word (by decide) (by decide)
    have next : Ahead d (' ' :: ('W' :: "HERE".toList ++
        (' ' :: (pairText first ++ moreText more)))) tokens := ahead
    obtain ⟨rest, rfl, second⟩ := next.blank.spells where' (by simp [Delimited])
    exact .inr ⟨first, more, rest, rfl, rfl, second.blank⟩

private theorem delimited_condition (conditions : List (Ident × Expr)) :
    Delimited (conditionText conditions) := by
  cases conditions <;> simp [conditionText, Delimited]

private theorem ends_of_follows {conditions : List (Ident × Expr)} {others : List Char} {rank : Nat}
    (follows : Follows (conditionText conditions) others) (ahead : Ahead d others tokens) :
    Ends d rank tokens := by
  rcases follows with rfl | ⟨more, rfl⟩
  · rcases ahead_condition ahead with ⟨-, rfl⟩ | ⟨first, more, rest, -, rfl, -⟩ <;> simp [Ends]
  · obtain ⟨more, rfl, -⟩ := ahead.comma
    exact .comma more

private theorem recovers_assignment (other : d ≠ .mySql) {pair : Ident × Expr}
    (column : pair.1.Shaped d) (value : pair.2.Simple d) {conditions : List (Ident × Expr)}
    {others : List Char} (follows : Follows (conditionText conditions) others)
    (ahead : Ahead d (pairText pair ++ others) tokens) :
    Recovers d (Grammar.assignment (atLevel d (depth + 1))) tokens ⟨.column [pair.1], pair.2⟩
      ((pair.1.survives = true ∧ pair.1.legible d = true) ∧ pair.2.survives d = true) others := by
  rw [pairText, List.append_assoc, List.append_assoc] at ahead
  by_cases same : ∃ more, tokens = pair.1.token :: more
  · obtain ⟨more, rfl⟩ := same
    obtain ⟨fine, onward⟩ := column.ahead other (by simp [Delimited]) ahead
    obtain ⟨rest, rfl, next⟩ := onward.blank.spells Spells.equals (by simp [Delimited])
    have target : Runs (Grammar.target d)
        (.word pair.1.value pair.1.quote :: .symbol "=" :: rest) (.column [pair.1])
        (.symbol "=" :: rest) :=
      .bind (.symbol_absent (by simp)) (.bind (.objectName rfl (by simp)) (.pure _))
    refine .bind_runs target (.bind_runs (.expectSymbol "=" _) ?_)
    have read : Gives (atLevel d (depth + 1)).expr rest fun e left =>
        e = pair.2 → pair.2.survives d = true ∧ Ahead d others left :=
      value.gives (atLevel d depth) other (follows.delimited (delimited_condition conditions))
        (fun more ahead => ends_of_follows follows ahead) next.blank
    refine .bind read fun e rest known => .pure fun same => ?_
    obtain ⟨valueFine, onward⟩ := known (Assignment.mk.inj same).2
    exact ⟨⟨fine, valueFine⟩, onward⟩
  · have target : Gives (Grammar.target d) tokens fun target _ => target ≠ .column [pair.1] := by
      by_cases opens : ∃ rest, tokens = .symbol "(" :: rest
      · obtain ⟨rest, rfl⟩ := opens
        exact .bind_runs (.symbol_present "(" _)
          (.bind_any fun _ _ => .bind_any fun _ _ => .pure (by simp))
      · refine .bind_runs (.symbol_absent ?_) (.bind gives_objectName ?_)
        · rintro token head rfl
          exact opens ⟨tokens.tail, List.eq_cons_of_mem_head? head⟩
        · rintro names rest ⟨token, more, ident, others, rfl, is, rfl⟩
          refine .pure fun equal => same ⟨more, ?_⟩
          obtain rfl := (List.cons.inj (Target.column.inj equal)).1
          rw [column.eq_token (by simp [Delimited]) ahead is]
    refine .bind target fun target rest differs => .bind_any fun _ _ => .bind_any fun _ _ => ?_
    exact .pure fun equal => absurd (Assignment.mk.inj equal).1 differs

private theorem recovers_assignments (other : d ≠ .mySql) {pairs conditions : List (Ident × Expr)}
    (simple : ∀ pair ∈ pairs, pair.1.Shaped d ∧ pair.2.Simple d) (some' : pairs ≠ [])
    (ahead : Ahead d (separated (pairs.map pairText) ++ conditionText conditions) tokens) :
    Recovers d (Grammar.assignments (atLevel d (depth + 1))) tokens
      (pairs.map fun pair => ⟨.column [pair.1], pair.2⟩)
      (∀ pair ∈ pairs,
        (pair.1.survives = true ∧ pair.1.legible d = true) ∧ pair.2.survives d = true)
      (conditionText conditions) := by
  refine .commaList (fun tokens ahead => ?_) (fun pair member others follows tokens ahead => ?_)
    some' ahead
  · rcases ahead_condition ahead with ⟨-, rfl⟩ | ⟨first, more, rest, -, rfl, -⟩ <;> simp
  · exact recovers_assignment other (simple pair member).1 (simple pair member).2 follows ahead

/-! ### Statements -/

private theorem text_eq (some' : stmt.assignments ≠ []) :
    (Statement.update stmt.statement).text.toList =
      'U' :: "PDATE".toList ++ (' ' :: (stmt.table.text.toList ++ (' ' :: ('S' :: "ET".toList ++
        (' ' :: (separated (stmt.assignments.map pairText) ++
          conditionText stmt.conditions)))))) := by
  rw [toList_text some']
  simp

private theorem recovers_where (other : d ≠ .mySql) (framed : stmt.Framed d)
    (ahead : Ahead d (conditionText stmt.conditions) tokens) :
    Gives (Grammar.whereClause (atLevel d (depth + 3))) tokens fun e _ =>
      e = selection stmt.conditions → ∀ pair ∈ stmt.conditions, pair.2.survives d = true := by
  have columns := framed.columns
  have values := framed.values
  rcases ahead_condition ahead with ⟨none', rfl⟩ | ⟨first, more, rest, found, rfl, next⟩
  · exact (Gives.any _).mono fun _ _ _ _ => by simp [none']
  · rw [found] at columns values ⊢
    refine .bind_runs (.keyword_present _ _) ?_
    exact .bind (recovers_selection other columns values next) fun e rest known =>
      .pure fun same => known (Option.some.inj same)

private theorem recovers_update (other : d ≠ .mySql) (framed : stmt.Framed d)
    (ahead : Ahead d (separated (stmt.assignments.map pairText) ++ conditionText stmt.conditions)
      tokens) :
    Gives (Grammar.update (atLevel d (depth + 3)))
      (stmt.table.token :: .word "SET" none :: tokens) fun written _ =>
        written = .update stmt.statement → stmt.survives d = true ∧ stmt.legible d = true := by
  refine .bind_runs (runs_conflictWords framed) (.bind_runs (runs_joinedTables framed) ?_)
  refine .bind_runs (.keyword_absent (by simp)) (.bind_runs (.pure _) ?_)
  refine .bind_runs (.expectKeyword (.word "SET" none) _) ?_
  refine .bind (recovers_assignments other framed.assignments framed.someAssignment ahead)
    fun list rest known => ?_
  refine .bind_runs (.peekKeyword _) ?_
  by_cases same : list = stmt.assignments.map fun pair => ⟨.column [pair.1], pair.2⟩
  · obtain ⟨fine, onward⟩ := known same
    have noFrom : rest.head?.any (·.key == "FROM") = false := by
      rcases ahead_condition onward with ⟨-, rfl⟩ | ⟨first, more, rest, -, rfl, -⟩ <;> simp
    rw [if_neg (by simp [noFrom])]
    refine .bind_runs (.pure _) (.bind (recovers_where other framed onward) ?_)
    intro condition rest known
    have whole (returning : List Expr) (limit : Option Expr) (rest : List Token)
        (equal : Statement.update
          { stmt.statement with
            assignments := list, selection := condition, returning := returning,
            limit := limit } = .update stmt.statement) :
        stmt.survives d = true ∧ stmt.legible d = true := by
      have values := known (congrArg Update.selection (Statement.update.inj equal))
      simp only [survives, legible, Bool.and_eq_true, List.all_eq_true]
      exact ⟨⟨fun pair member => ⟨(fine pair member).1.1, (fine pair member).2⟩, values⟩,
        fun pair member => (fine pair member).1.2⟩
    refine .bind_any fun returning rest => .bind_any fun limits rest => ?_
    split
    · exact .bind_any fun _ _ => .bind_any fun _ _ => .pure (whole _ _ rest)
    · exact .bind_any fun _ _ => .pure (whole _ _ rest)
  · have whole (fromAfter : List JoinedTables) (condition : Option Expr) (returning : List Expr)
        (limit : Option Expr) (rest : List Token)
        (equal : Statement.update
          { stmt.statement with
            assignments := list, fromAfter := fromAfter, selection := condition,
            returning := returning, limit := limit } = .update stmt.statement) :
        stmt.survives d = true ∧ stmt.legible d = true :=
      absurd (congrArg Update.assignments (Statement.update.inj equal)) same
    have tail (fromAfter : List JoinedTables) (rest : List Token) :
        Gives (do
          let selection ← Grammar.whereClause (atLevel d (depth + 3))
          let returning ← Grammar.returningClause (atLevel d (depth + 3))
          let limit ← if ← Parser.keyword "LIMIT" then
              pure (some (← (atLevel d (depth + 3)).expr))
            else pure none
          return Statement.update
            { stmt.statement with
              assignments := list, fromAfter := fromAfter, selection := selection,
              returning := returning, limit := limit }) rest fun written _ =>
          written = Statement.update stmt.statement →
            stmt.survives d = true ∧ stmt.legible d = true := by
      refine .bind_any fun _ _ => .bind_any fun _ _ => .bind_any fun _ rest => ?_
      dsimp only
      split
      · exact .bind_any fun _ _ => .bind_any fun _ _ => .pure (whole _ _ _ _ rest)
      · exact .bind_any fun _ _ => .pure (whole _ _ _ _ rest)
    split
    · exact .bind_any fun _ _ => .bind_any fun _ rest => tail _ rest
    · exact .bind_any fun _ rest => tail _ rest

/-- Outside of MySQL the statement is read back from its text only where its identifiers and
values survive and its columns without quotes are names. -/
theorem survives_of_parse_text (other : d ≠ .mySql) (framed : stmt.Framed d)
    (back : Statement.parse d (Statement.update stmt.statement).text =
      .ok (.update stmt.statement)) : stmt.survives d = true ∧ stmt.legible d = true := by
  refine of_parse other (fun tokens ahead => ?_) (fun tokens ahead => ?_) back <;>
    rw [text_eq framed.someAssignment] at ahead <;>
    obtain ⟨afterUpdate, rfl, second⟩ :=
      ahead.spells (Spells.word (by decide) (by decide)) (by simp [Delimited])
  · exact ⟨_, _, rfl, by simp⟩
  obtain ⟨afterTable, rfl, third⟩ := second.blank.spells
    (framed.table.spells framed.tableFine) (by simp [Delimited])
  obtain ⟨afterSet, rfl, fourth⟩ :=
    third.blank.spells (Spells.word (by decide) (by decide)) (by simp [Delimited])
  refine .peekLexeme_some fun lexeme same => ?_
  dsimp only
  rw [same, if_neg (by simp)]
  exact .bind_runs .skip (recovers_update other framed fourth.blank)

end RowStamp.Sql.SimpleUpdate
