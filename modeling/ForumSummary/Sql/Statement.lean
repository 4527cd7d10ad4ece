import ForumSummary.Sql.Piece

/-!
# Select statements

The statements of this library are data: a `Select` names tables, joins, conditions, groups, an
order and a window of rows, and has one rendering to pieces. Two levels suffice. The inner level
(`Subselect`) selects columns of joined tables under conditions on single rows; the outer level may
join an inner select, test membership in one, aggregate, sort and cut out a window.
-/

namespace ForumSummary.Sql

/-- A value that a report's statement carries. -/
inductive Literal where
  | int (n : Int32)
  | bigInt (n : Int64)
  | bigUnsigned (n : UInt64)
  deriving DecidableEq, Repr

namespace Literal

/-- The number that a literal denotes. -/
def toInt : Literal → Int
  | .int n => n.toInt
  | .bigInt n => n.toInt
  | .bigUnsigned n => n.toNat

/-- The literal as a value to bind. -/
def toValue : Literal → Value
  | .int n => .int (some n)
  | .bigInt n => .bigInt (some n)
  | .bigUnsigned n => .bigUnsigned (some n)

/-- The literal written in a statement. -/
def text (l : Literal) : String :=
  Numeral.text l.toInt

end Literal

/-- A column of a table, by the table's name in the statement. -/
structure Column where
  table : String
  name : String
  deriving DecidableEq, Repr

/-- A table of the database and its name in the statement. -/
structure Table where
  name : String
  label : String
  deriving DecidableEq, Repr

/-- How two numbers are compared. -/
inductive Comparison where
  | equal
  | atLeast
  | atMost
  deriving DecidableEq, Repr

/-- A condition on a single row. -/
inductive RowTest where
  | sameColumn (a b : Column)
  | compare (c : Column) (op : Comparison) (v : Literal)
  | isNull (c : Column)
  | isNotNull (c : Column)
  | oneOf (c : Column) (vs : List Literal)
  deriving DecidableEq, Repr

/-- A table joined on a condition. -/
structure InnerJoin where
  table : Table
  on : RowTest
  deriving DecidableEq, Repr

/-- A select inside another: columns of joined tables, under a condition. -/
structure Subselect where
  columns : List Column
  source : Table
  joins : List InnerJoin
  condition : RowTest
  deriving DecidableEq, Repr

/-- A condition on a row of the outer select. -/
inductive Condition where
  | row (t : RowTest)
  | member (c : Column) (sub : Subselect)
  deriving DecidableEq, Repr

/-- A join of the outer select. A left join keeps rows without a partner. -/
inductive Join where
  | inner (j : InnerJoin)
  | left (sub : Subselect) (label : String) (on : List RowTest)
  deriving DecidableEq, Repr

/-- An expression of the select list. `sumWhere` counts the rows of a group that meet all tests, by
adding up `one` for those and `zero` for the others. -/
inductive Expression where
  | column (c : Column)
  | literal (v : Literal)
  | nullBigInt
  | sumWhere (tests : List RowTest) (one zero : Literal)
  | countDistinct (c : Column)
  deriving DecidableEq, Repr

/-- An entry of the select list, with the name it is given, if any. -/
structure Output where
  expression : Expression
  label : Option String
  deriving DecidableEq, Repr

/-- What rows are ordered by: a column, or an entry of the select list by its name. -/
inductive SortKey where
  | column (c : Column)
  | output (label : String)
  deriving DecidableEq, Repr

/-- A sort key and its direction. -/
structure SortTerm where
  key : SortKey
  descending : Bool
  deriving DecidableEq, Repr

/-- A window of rows: how many at most, and how many before it. -/
structure Window where
  limit : UInt64
  offset : UInt64
  deriving DecidableEq, Repr

/-- A select statement. -/
structure Select where
  outputs : List Output
  source : Table
  joins : List Join
  conditions : List Condition
  groupBy : List Column
  orderBy : List SortTerm
  window : Option Window
  deriving DecidableEq, Repr

/-! ## Rendering -/

/-- A name in double quotes. -/
def quoted (name : String) : String :=
  "\"" ++ name ++ "\""

/-- Fixed text as pieces. -/
def fixed (s : String) : Pieces Literal :=
  [.text s]

/-- A value as pieces. -/
def place (v : Literal) : Pieces Literal :=
  [.value v]

/-- A column. -/
def Column.pieces (c : Column) : Pieces Literal :=
  fixed (quoted c.table ++ "." ++ quoted c.name)

/-- A table with its name in the statement. -/
def Table.pieces (t : Table) : Pieces Literal :=
  fixed (quoted t.name ++ " AS " ++ quoted t.label)

/-- The sign of a comparison. -/
def Comparison.sign : Comparison → String
  | .equal => " = "
  | .atLeast => " >= "
  | .atMost => " <= "

/-- A condition on a single row. -/
def RowTest.pieces : RowTest → Pieces Literal
  | .sameColumn a b => a.pieces ++ fixed " = " ++ b.pieces
  | .compare c op v => c.pieces ++ fixed op.sign ++ place v
  | .isNull c => c.pieces ++ fixed " IS NULL"
  | .isNotNull c => c.pieces ++ fixed " IS NOT NULL"
  | .oneOf c vs =>
    c.pieces ++ fixed " IN (" ++ Pieces.joinWith ", " (vs.map place) ++ fixed ")"

/-- An inner join. -/
def InnerJoin.pieces (j : InnerJoin) : Pieces Literal :=
  fixed " INNER JOIN " ++ j.table.pieces ++ fixed " ON " ++ j.on.pieces

/-- A select inside another, in parentheses. -/
def Subselect.pieces (s : Subselect) : Pieces Literal :=
  fixed "(SELECT " ++ Pieces.joinWith ", " (s.columns.map Column.pieces) ++ fixed " FROM " ++
    s.source.pieces ++ s.joins.flatMap InnerJoin.pieces ++ fixed " WHERE " ++ s.condition.pieces ++
    fixed ")"

/-- A condition of the outer select. -/
def Condition.pieces : Condition → Pieces Literal
  | .row t => t.pieces
  | .member c sub => c.pieces ++ fixed " IN " ++ sub.pieces

/-- Tests that must all hold. -/
def allTests (ts : List RowTest) : Pieces Literal :=
  Pieces.joinWith " AND " (ts.map RowTest.pieces)

/-- A join of the outer select. -/
def Join.pieces : Join → Pieces Literal
  | .inner j => j.pieces
  | .left sub label on =>
    fixed " LEFT JOIN " ++ sub.pieces ++ fixed (" AS " ++ quoted label ++ " ON ") ++ allTests on

/-- An expression of the select list. -/
def Expression.pieces : Expression → Pieces Literal
  | .column c => c.pieces
  | .literal v => place v
  | .nullBigInt => fixed "NULL::BIGINT"
  | .sumWhere tests one zero =>
    fixed "SUM((CASE WHEN (" ++ allTests tests ++ fixed ") THEN " ++ place one ++ fixed " ELSE " ++
      place zero ++ fixed " END))"
  | .countDistinct c => fixed "COUNT(DISTINCT " ++ c.pieces ++ fixed ")"

/-- An entry of the select list. -/
def Output.pieces (o : Output) : Pieces Literal :=
  match o.label with
  | none => o.expression.pieces
  | some label => o.expression.pieces ++ fixed (" AS " ++ quoted label)

/-- A sort key. -/
def SortKey.pieces : SortKey → Pieces Literal
  | .column c => c.pieces
  | .output label => fixed (quoted label)

/-- A sort key with its direction. -/
def SortTerm.pieces (o : SortTerm) : Pieces Literal :=
  o.key.pieces ++ fixed (if o.descending then " DESC" else " ASC")

/-- A clause that stands only when it has entries. -/
def clause (keyword separator : String) (entries : List (Pieces Literal)) : Pieces Literal :=
  if entries.isEmpty then [] else .text keyword :: Pieces.joinWith separator entries

namespace Select

/-- The select list. -/
def listPieces (s : Select) : Pieces Literal :=
  fixed "SELECT " ++ Pieces.joinWith ", " (s.outputs.map Output.pieces)

/-- The rows that the statement is about: tables, joins and conditions. -/
def sourcePieces (s : Select) : Pieces Literal :=
  fixed " FROM " ++ s.source.pieces ++ s.joins.flatMap Join.pieces ++
    clause " WHERE " " AND " (s.conditions.map Condition.pieces)

/-- Groups and order. -/
def groupPieces (s : Select) : Pieces Literal :=
  clause " GROUP BY " ", " (s.groupBy.map Column.pieces) ++
    clause " ORDER BY " ", " (s.orderBy.map SortTerm.pieces)

/-- The window. -/
def windowPieces (s : Select) : Pieces Literal :=
  match s.window with
  | none => []
  | some w =>
    fixed " LIMIT " ++ place (.bigUnsigned w.limit) ++ fixed " OFFSET " ++
      place (.bigUnsigned w.offset)

/-- The whole statement. -/
def pieces (s : Select) : Pieces Literal :=
  s.listPieces ++ s.sourcePieces ++ s.groupPieces ++ s.windowPieces

/-- The text with placeholders. -/
def parameterized (s : Select) : String :=
  s.pieces.parameterized

/-- The text with its values written in. -/
def inlined (s : Select) : String :=
  s.pieces.inlined Literal.text

/-- The values, in the order of the placeholders. -/
def values (s : Select) : List Literal :=
  s.pieces.values

end Select

end ForumSummary.Sql
