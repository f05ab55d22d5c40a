import RowStamp.Sql.Expr

/-!
Statements.  INSERT and UPDATE keep the parts that stamping reads or writes; every other statement
is the sequence of its fragments.  The text of a statement and its placeholders both come from its
fragments, in written order.
-/

set_option autoImplicit false
set_option relaxedAutoImplicit false

namespace RowStamp.Sql

open RowStamp.Sql.Expr (word)

def spaced (parts : Fragments) : Fragments := if parts.isEmpty then [] else word " " :: parts

def clause (lead : String) (parts : Fragments) : Fragments :=
  if parts.isEmpty then [] else word lead :: parts

def identList (idents : List Ident) : String := ", ".intercalate (idents.map Ident.text)

/-! ### Tables -/

/-- A join to one more relation. -/
structure Join (ρ : Type) where
  lead : String
  relation : ρ
  restriction : Fragments

/-- A relation, with the written form of its alias: a named table with what follows its name and
its alias, joined tables in parentheses, or any other relation, such as a subquery. -/
inductive TableRef where
  | table (name : List Ident) (details : Fragments) (label : Fragments) (hints : Fragments)
  | joined (first : TableRef) (joins : List (Join TableRef)) (label : Fragments)
  | other (parts : Fragments) (label : Fragments)

namespace TableRef

mutual

def fragments : TableRef → Fragments
  | table name details label hints => .name name :: details ++ label ++ hints
  | joined first joins label =>
    word "(" :: first.fragments ++ joinFragments joins ++ word ")" :: label
  | other parts label => parts ++ label

def joinFragments : List (Join TableRef) → Fragments
  | [] => []
  | ⟨lead, relation, restriction⟩ :: joins =>
    word (" " ++ lead ++ " ") :: relation.fragments ++ restriction ++ joinFragments joins

end

mutual

def names : TableRef → List (List Ident)
  | table name _ _ _ => [name]
  | joined first joins _ => first.names ++ joinNames joins
  | other _ _ => []

def joinNames : List (Join TableRef) → List (List Ident)
  | [] => []
  | ⟨_, relation, _⟩ :: joins => relation.names ++ joinNames joins

end

end TableRef

structure JoinedTables where
  relation : TableRef
  joins : List (Join TableRef)

namespace JoinedTables

def fragments (tables : JoinedTables) : Fragments :=
  tables.relation.fragments ++ TableRef.joinFragments tables.joins

def relations (tables : JoinedTables) : List TableRef :=
  tables.relation :: tables.joins.map Join.relation

def names (tables : JoinedTables) : List (List Ident) := tables.relations.flatMap TableRef.names

def listFragments (list : List JoinedTables) : Fragments :=
  Expr.commaSeparated (list.map fun tables => .phrase tables.fragments)

end JoinedTables

/-! ### Queries -/

structure Values where
  keyword : String
  rowWords : Bool
  rows : List (List Expr)

namespace Values

def rowFragments (rowWord : Bool) (row : List Expr) : Expr :=
  if rowWord then .phrase [word "ROW", .tuple row] else .tuple row

def fragments (values : Values) : Fragments :=
  word (values.keyword ++ " ") ::
    Expr.commaSeparated (values.rows.map (rowFragments values.rowWords))

end Values

/-- The body of a query: rows of values, or any other body. -/
inductive QueryBody where
  | values (list : Values)
  | other (parts : Fragments)

def QueryBody.fragments : QueryBody → Fragments
  | values list => list.fragments
  | other parts => parts

/-- A query: a body, with the clauses before and after it. -/
structure Query where
  front : Fragments
  body : QueryBody
  back : Fragments

def Query.fragments (query : Query) : Fragments :=
  query.front ++ query.body.fragments ++ query.back

/-! ### Assignments -/

inductive Target where
  | column (name : List Ident)
  | tuple (names : List (List Ident))
  deriving DecidableEq

def Target.text : Target → String
  | column name => nameText name
  | tuple names => "(" ++ ", ".intercalate (names.map nameText) ++ ")"

structure Assignment where
  target : Target
  value : Expr

def Assignment.fragment (assignment : Assignment) : Expr :=
  .phrase [word (assignment.target.text ++ " = "), assignment.value]

def assignmentList (assignments : List Assignment) : Fragments :=
  Expr.commaSeparated (assignments.map Assignment.fragment)

/-! ### INSERT -/

/-- Where the rows of an INSERT come from. -/
inductive InsertSource where
  | defaults
  | query (body : Query)
  | assignments (list : List Assignment)

/-- The alias of the new row, with aliases of its columns. -/
structure RowAlias where
  name : List Ident
  columns : List Ident

/-- An INSERT or REPLACE statement. -/
structure Insert where
  conflict : Option String
  replaces : Bool
  priority : Option String
  ignores : Bool
  overwrites : Bool
  intoWord : Bool
  tableWord : Bool
  table : List Ident
  tableAlias : Option Ident
  columns : List Ident
  partition : List Expr
  source : InsertSource
  rowAlias : Option RowAlias
  onConflict : Fragments
  returning : List Expr

namespace Insert

/-- The words before the column list. -/
def head (insert : Insert) : String :=
  let table := nameText insert.table ++
    match insert.tableAlias with
    | some name => " AS " ++ name.text
    | none => ""
  match insert.conflict with
  | some conflict => "INSERT " ++ conflict ++ " INTO " ++ table ++ " "
  | none =>
    (if insert.replaces then "REPLACE" else "INSERT") ++
      (match insert.priority with
        | some priority => " " ++ priority
        | none => "") ++
      (if insert.ignores then " IGNORE" else "") ++
      (if insert.overwrites then " OVERWRITE" else "") ++
      (if insert.intoWord then " INTO" else "") ++
      (if insert.tableWord then " TABLE" else "") ++ " " ++ table ++ " "

def columnList (insert : Insert) : Fragments :=
  if insert.columns.isEmpty then [] else [word ("(" ++ identList insert.columns ++ ") ")]

def sourceFragments (insert : Insert) : Fragments :=
  match insert.source with
  | .query query => query.fragments
  | .assignments list => word "SET " :: assignmentList list
  | .defaults => if insert.columns.isEmpty then [word "DEFAULT VALUES"] else []

def rowAliasText (insert : Insert) : String :=
  match insert.rowAlias with
  | none => ""
  | some row =>
    " AS " ++ nameText row.name ++
      if row.columns.isEmpty then "" else " (" ++ identList row.columns ++ ")"

def fragments (insert : Insert) : Fragments :=
  word insert.head :: insert.columnList ++
    (if insert.partition.isEmpty then []
      else word "PARTITION (" :: Expr.commaSeparated insert.partition ++ [word ") "]) ++
    insert.sourceFragments ++ word insert.rowAliasText :: insert.onConflict ++
    clause " RETURNING " (Expr.commaSeparated insert.returning)

end Insert

/-! ### UPDATE -/

structure Update where
  conflict : Option String
  table : JoinedTables
  fromBefore : List JoinedTables
  assignments : List Assignment
  fromAfter : List JoinedTables
  selection : Option Expr
  returning : List Expr
  limit : Option Expr

namespace Update

def fragments (update : Update) : Fragments :=
  word "UPDATE " ::
    (match update.conflict with
      | some conflict => [word (conflict ++ " ")]
      | none => []) ++
    update.table.fragments ++ clause " FROM " (JoinedTables.listFragments update.fromBefore) ++
    clause " SET " (assignmentList update.assignments) ++
    clause " FROM " (JoinedTables.listFragments update.fromAfter) ++
    (match update.selection with
      | some selection => [word " WHERE ", selection]
      | none => []) ++
    clause " RETURNING " (Expr.commaSeparated update.returning) ++
    (match update.limit with
      | some limit => [word " LIMIT ", limit]
      | none => [])

end Update

/-! ### Statements -/

inductive Statement where
  | insert (stmt : Insert)
  | update (stmt : Update)
  | delete (parts : Fragments)
  | query (body : Query)
  | other (parts : Fragments)

namespace Statement

def fragments : Statement → Fragments
  | .insert stmt => stmt.fragments
  | .update stmt => stmt.fragments
  | .delete parts => parts
  | .query body => body.fragments
  | .other parts => parts

def leaves (statement : Statement) : List Leaf := Expr.joinedLeaves statement.fragments

def text (statement : Statement) : String := renderLeaves statement.leaves

def placeholders (statement : Statement) : List String := placeholdersOf statement.leaves

def label : Statement → String
  | .insert _ => "INSERT"
  | .update _ => "UPDATE"
  | .delete _ => "DELETE"
  | .query _ => "SELECT"
  | .other _ => "another statement kind"

end Statement

/-- The last part of a name, without its quotes. -/
def baseName (name : List Ident) : Option String := name.getLast?.map Ident.value

end RowStamp.Sql
