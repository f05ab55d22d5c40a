import RowStamp.Sql.Grammar.Operations

/-!
Relations and joins, as they stand after FROM and UPDATE.
-/

set_option autoImplicit false
set_option relaxedAutoImplicit false

namespace RowStamp.Sql

namespace Grammar

open RowStamp.Sql.Parser

/-! ### Aliases -/

/-- Words that end a relation in every dialect, and so are no alias without AS. -/
def tableStops : List String :=
  ["WITH", "EXPLAIN", "ANALYZE", "SELECT", "WHERE", "GROUP", "SORT", "HAVING", "ORDER", "PIVOT",
    "UNPIVOT", "TOP", "LATERAL", "VIEW", "LIMIT", "OFFSET", "FETCH", "UNION", "EXCEPT",
    "INTERSECT", "MINUS", "ON", "JOIN", "INNER", "CROSS", "FULL", "LEFT", "RIGHT", "NATURAL",
    "USING", "CLUSTER", "DISTRIBUTE", "GLOBAL", "ANTI", "SEMI", "RETURNING", "ASOF",
    "MATCH_CONDITION", "OUTER", "SET", "QUALIFY", "WINDOW", "END", "FOR", "PARTITION", "PREWHERE",
    "SETTINGS", "FORMAT", "START", "CONNECT", "MATCH_RECOGNIZE", "SAMPLE", "TABLESAMPLE", "FROM",
    "OPEN"]

/-- Words that end a selected column, and so are no alias without AS. -/
def columnStops : List String :=
  ["WITH", "EXPLAIN", "ANALYZE", "SELECT", "WHERE", "GROUP", "SORT", "HAVING", "ORDER", "TOP",
    "LATERAL", "VIEW", "LIMIT", "OFFSET", "FETCH", "UNION", "EXCEPT", "EXCLUDE", "INTERSECT",
    "MINUS", "CLUSTER", "DISTRIBUTE", "RETURNING", "FROM", "INTO", "END"]

/-- A word may be the alias of a relation; `explicit` where AS is before it. -/
def aliasesTable (dialect : Dialect) (explicit : Bool) (key : String) : Bool :=
  match dialect with
  | .mySql =>
    explicit ||
      !(tableStops ++ ["USE", "IGNORE", "FORCE", "STRAIGHT_JOIN"]).contains key
  | .msSql => !(["IF", "ELSE"].contains key) && (explicit || !tableStops.contains key)
  | _ => explicit || !tableStops.contains key

/-- A word may be the alias of a column; `explicit` where AS is before it. -/
def aliasesColumn (dialect : Dialect) (explicit : Bool) (key : String) : Bool :=
  !(dialect = .msSql && ["IF", "ELSE"].contains key) && (explicit || !columnStops.contains key)

/-- An alias, where there is one, and whether AS is before it. -/
def aliasWhere (allowed : Bool → String → Bool) : Parser (Option (Ident × Bool)) := do
  let explicit ← keyword "AS"
  let lexeme ← peekLexeme
  match lexeme.map Lexeme.token with
  | some (.word value quote) =>
    if allowed explicit (Token.word value quote).key then taken ⟨value, quote⟩ explicit
    else absent lexeme explicit
  | some (.string .plain value) => taken ⟨value, some '\''⟩ explicit
  | some (.string .doubleQuoted value) => taken ⟨value, some '"'⟩ explicit
  | _ => absent lexeme explicit
where
  /-- The alias, consumed. -/
  taken (name : Ident) (explicit : Bool) : Parser (Option (Ident × Bool)) := do
    skip
    return some (name, explicit)
  /-- No alias, which AS does not allow. -/
  absent (lexeme : Option Lexeme) (explicit : Bool) : Parser (Option (Ident × Bool)) :=
    if explicit then expectedAt "an identifier after AS" lexeme else return none

/-- The columns of a relation's alias, where they are listed. -/
def aliasColumns (dialect : Dialect) : Parser String := do
  if ← symbol "(" then
    let columns ← commaList do
      let name ← identifier
      match ← attempt (dataType dialect) with
      | some type => return name.text ++ " " ++ type.text
      | none => return name.text
    expectSymbol ")"
    return " (" ++ ", ".intercalate columns ++ ")"
  else return ""

/-- The alias of a relation as fragments, none where there is no alias. -/
def tableAlias (dialect : Dialect) : Parser Fragments := do
  match ← aliasWhere (aliasesTable dialect) with
  | some (name, explicit) =>
    let columns ← aliasColumns dialect
    return [word ((if explicit then " AS " else " ") ++ name.text ++ columns)]
  | none => return []

/-! ### Relations -/

def indexHints : Nat → Parser (List String)
  | 0 => return []
  | fuel + 1 => do
    match ← oneOfKeywords ["USE", "IGNORE", "FORCE"] with
    | none => return []
    | some kind =>
      let object ← expectOneOf ["INDEX", "KEY"]
      let purpose ← if ← keyword "FOR" then
          if ← keyword "JOIN" then pure "FOR JOIN "
          else if ← keywords ["ORDER", "BY"] then pure "FOR ORDER BY "
          else if ← keywords ["GROUP", "BY"] then pure "FOR GROUP BY "
          else expected "JOIN, ORDER BY or GROUP BY"
        else pure ""
      expectSymbol "("
      let names ← commaListUntil ")" identifier
      expectSymbol ")"
      let hint := kind ++ " " ++ object ++ " " ++ purpose ++ "(" ++ identList names ++ ")"
      return hint :: (← indexHints fuel)

/-- The sample that is taken of a table, where it is said. -/
def tableSample (cx : Context) : Parser Fragments := do
  match ← oneOfKeywords ["TABLESAMPLE", "SAMPLE"] with
  | none => return []
  | some name =>
    let method := match ← oneOfKeywords ["BERNOULLI", "ROW", "SYSTEM", "BLOCK"] with
      | some method => " " ++ method
      | none => ""
    let parentheses ← symbol "("
    let amount ← match ← attempt cx.expr with
      | some e => pure e
      | none =>
        let lexeme ← next
        match lexeme.map Lexeme.token with
        | some (.word value _) => pure (Expr.placeholder value)
        | _ => throw (.sampleSize (← place))
    let unit := match ← oneOfKeywords ["ROWS", "PERCENT"] with
      | some unit => " " ++ unit
      | none => ""
    if parentheses then expectSymbol ")"
    let close := if parentheses then ")" else ""
    let seed ← match ← oneOfKeywords ["REPEATABLE", "SEED"] with
      | some name =>
        let seed ← parenthesized (value cx.dialect)
        pure [word (" " ++ name ++ " ("), seed, word ")"]
      | none => pure []
    return word (" " ++ name ++ method ++ if parentheses then " (" else " ") :: amount ::
      word (unit ++ close) :: seed

/-- The arguments of a table function, from after the opening parenthesis. -/
def tableArguments (cx : Context) : Parser Fragments := do
  let list ← commaListUntil ")" (argument cx)
  expectSymbol ")"
  return between "(" (Expr.commaSeparated list) ")"

def namedTable (cx : Context) : Parser TableRef := do
  let name ← objectName cx.dialect
  let partitions ← if cx.dialect.oneOf [.generic, .mySql] && (← peekKeyword "PARTITION") then
      skip
      let names ← parenthesized (commaList identifier)
      pure [word ("PARTITION (" ++ identList names ++ ")")]
    else pure []
  let arguments ← if ← symbol "(" then tableArguments cx else pure []
  let ordinality ← if ← keywords ["WITH", "ORDINALITY"] then pure [word " WITH ORDINALITY"]
    else pure []
  let label ← tableAlias cx.dialect
  let indexes ← if cx.dialect = .mySql then
      pure ((← attempt (indexHints ((← get).length + 1))).getD [])
    else pure []
  let hints ← if ← hintsAhead then
      skip
      skip
      let list ← cx.exprs
      expectSymbol ")"
      pure (between " WITH (" (Expr.commaSeparated list) ")")
    else pure []
  let sample ← tableSample cx
  return .table name (partitions ++ arguments ++ ordinality) label
    (indexes.map (fun hint => word (" " ++ hint)) ++ hints ++ sample)
where
  /-- The next two tokens are WITH and an opening parenthesis. -/
  hintsAhead : Parser Bool := do
    match ← peekTokens 2 with
    | [first, .symbol "("] => return first.key == "WITH"
    | _ => return false

def relabelled (label : Fragments) : TableRef → Parser TableRef
  | .table name details [] hints => return .table name details label hints
  | .joined first joins [] => return .joined first joins label
  | .other parts [] => return .other parts label
  | .table _ _ old _ => fault old
  | .joined _ _ old => fault old
  | .other _ old => fault old
where
  /-- The fault of a second alias. -/
  fault (old : Fragments) : Parser TableRef :=
    throw (.duplicateAlias (String.ofList ((Expr.text (phrase old)).toList.drop 1)))

/-- A query in parentheses as a relation, from after the opening parenthesis. -/
def derivedTable (cx : Context) (lead : String) : Parser TableRef := do
  let query ← cx.inner.query
  expectSymbol ")"
  let label ← tableAlias cx.dialect
  return .other (between (lead ++ "(") query.fragments ")") label

def usingList (dialect : Dialect) : Parser String := do
  unless ← symbol "(" do expected "a list of columns in parentheses"
  let names ← commaList (objectName dialect)
  expectSymbol ")"
  return "USING(" ++ ", ".intercalate (names.map nameText) ++ ")"

def joinRestriction (cx : Context) (natural : Bool) : Parser Fragments := do
  if natural then return []
  if ← keyword "ON" then return [word " ON ", ← cx.expr]
  if ← keyword "USING" then return [word (" " ++ (← usingList cx.dialect))]
  return []

def sidedJoin (side : String) : Parser String := do
  match ← oneOfKeywords ["OUTER", "SEMI", "ANTI", "JOIN"] with
  | some "JOIN" => return side ++ " JOIN"
  | some kind =>
    expectKeyword "JOIN"
    return side ++ " " ++ kind ++ " JOIN"
  | none => throw (.joinKind side)

/-- The words of a join that may be natural; nothing where no join is next. -/
def joinWords (natural : Bool) : Parser (Option String) := do
  let lead := if natural then "NATURAL " else ""
  match ← oneOfKeywords ["INNER", "JOIN", "LEFT", "RIGHT", "ANTI", "SEMI", "FULL",
    "STRAIGHT_JOIN"] with
  | some "JOIN" => return some (lead ++ "JOIN")
  | some "STRAIGHT_JOIN" => return some "STRAIGHT_JOIN"
  | some "LEFT" => return some (lead ++ (← sidedJoin "LEFT"))
  | some "RIGHT" => return some (lead ++ (← sidedJoin "RIGHT"))
  | some "FULL" =>
    let _ ← keyword "OUTER"
    expectKeyword "JOIN"
    return some (lead ++ "FULL JOIN")
  | some kind =>
    expectKeyword "JOIN"
    return some (lead ++ kind ++ " JOIN")
  | none => if natural then expected "a join type after NATURAL" else return none

/-- One join; nothing where no join is next. -/
def join (cx : Context) : Parser (Option (Join TableRef)) := do
  let lead := if ← keyword "GLOBAL" then "GLOBAL " else ""
  if ← keyword "CROSS" then
    if ← keyword "JOIN" then
      let relation ← cx.inner.tableRef
      let restriction ← if cx.dialect = .mySql then joinRestriction cx false else pure []
      return some ⟨lead ++ "CROSS JOIN", relation, restriction⟩
    if ← keyword "APPLY" then return some ⟨lead ++ "CROSS APPLY", ← cx.inner.tableRef, []⟩
    expected "JOIN or APPLY after CROSS"
  else if ← keyword "OUTER" then
    expectKeyword "APPLY"
    return some ⟨lead ++ "OUTER APPLY", ← cx.inner.tableRef, []⟩
  else if ← keyword "ASOF" then
    expectKeyword "JOIN"
    let relation ← cx.inner.tableRef
    expectKeyword "MATCH_CONDITION"
    let condition ← parenthesized cx.expr
    let restriction ← joinRestriction cx false
    return some ⟨lead ++ "ASOF JOIN", relation,
      between " MATCH_CONDITION (" [condition] ")" ++ restriction⟩
  else
    let natural ← keyword "NATURAL"
    match ← joinWords natural with
    | none => return none
    | some words =>
      let relation ← cx.inner.tableRef
      return some ⟨lead ++ words, relation, ← joinRestriction cx natural⟩

def joinsFrom (cx : Context) : Nat → Parser (List (Join TableRef))
  | 0 => return []
  | fuel + 1 => do
    match ← join cx with
    | some join => return join :: (← joinsFrom cx fuel)
    | none => return []

def joinedTables (cx : Context) : Parser JoinedTables := do
  let relation ← cx.inner.tableRef
  return ⟨relation, ← joinsFrom cx ((← get).length + 1)⟩

def tableList (cx : Context) : Parser (List JoinedTables) := commaList (joinedTables cx)

/-- Joined tables in parentheses, from after the opening parenthesis: where the dialect allows
them, parentheses around one relation are dropped. -/
def nestedTables (cx : Context) : Parser TableRef := do
  let tables ← joinedTables cx
  match tables with
  | ⟨.joined first joins label, []⟩ =>
    expectSymbol ")"
    return .joined (.joined first joins label) [] (← tableAlias cx.dialect)
  | ⟨relation, []⟩ =>
    if cx.dialect = .generic then
      expectSymbol ")"
      match ← tableAlias cx.dialect with
      | [] => return relation
      | label => relabelled label relation
    else expected "joined table"
  | ⟨relation, joins⟩ =>
    expectSymbol ")"
    return .joined relation joins (← tableAlias cx.dialect)

def valuesRows (cx : Context) (allowEmpty : Bool) (keyword : String) : Parser Values := do
  let rows ← commaList do
    let rowWord ← Parser.keyword "ROW"
    expectSymbol "("
    if allowEmpty && (← peekSymbol ")") then
      skip
      return (rowWord, [])
    let items ← cx.exprs
    expectSymbol ")"
    return (rowWord, items)
  return ⟨keyword, rows.any Prod.fst, rows.map Prod.snd⟩

/-- A relation that LATERAL opens, from after the word. -/
def lateralTable (cx : Context) : Parser TableRef := do
  if ← symbol "(" then derivedTable cx "LATERAL "
  else
    let name ← objectName cx.dialect
    expectSymbol "("
    let arguments ← tableArguments cx
    let label ← tableAlias cx.dialect
    return .other (word ("LATERAL " ++ nameText name) :: arguments) label

/-- Arrays as relations, from after the word that opens them. -/
def unnestTable (cx : Context) : Parser TableRef := do
  let arrays ← parenthesized cx.exprs
  let ordinality ← if ← keywords ["WITH", "ORDINALITY"] then pure [word " WITH ORDINALITY"]
    else pure []
  let label ← tableAlias cx.dialect
  return .other (between "UNNEST(" (Expr.commaSeparated arrays) ")" ++ ordinality) label

def relation (cx : Context) : Parser TableRef := do
  if ← keyword "LATERAL" then lateralTable cx
  else if ← keyword "TABLE" then
    let e ← parenthesized cx.expr
    let label ← tableAlias cx.dialect
    return .other (between "TABLE(" [e] ")") label
  else if ← symbol "(" then
    match ← attempt (derivedTable cx "") with
    | some table => return table
    | none => nestedTables cx
  else if cx.dialect = .generic && (← opensValues) then
    skip
    let values ← valuesRows cx false "VALUES"
    let label ← tableAlias cx.dialect
    return .other (between "(" values.fragments ")") label
  else if cx.dialect.oneOf [.generic, .postgres] && (← peekKeyword "UNNEST") then
    skip
    unnestTable cx
  else namedTable cx
where
  /-- The next two tokens are VALUES and an opening parenthesis. -/
  opensValues : Parser Bool := do
    match ← peekTokens 2 with
    | [first, .symbol "("] => return first.key == "VALUES"
    | _ => return false

end Grammar

end RowStamp.Sql
