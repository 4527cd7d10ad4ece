import ForumSummary.Proofs.Sql.Datum
import Mathlib.Data.Multiset.Bind
import Mathlib.Data.Multiset.Dedup
import Mathlib.Algebra.BigOperators.Group.Multiset.Defs

/-!
# The meaning of select statements

A database is a finite collection of records for each table, in no order and with repetitions. A
select statement is read in the order of the standard: the tables are joined (`Join.apply`), the
conditions select rows (`Select.sourceRows`), the rows are put into groups (`Select.groups`), and
each group gives one row of the answer (`resultRow`). The answer is then put in order and cut
(`Select.Answers`). Where the order leaves rows tied, the server may return them either way, so a
statement has answers and not one answer.

Texts are compared by a collation, which is any total preorder; nulls come after everything else.
-/

namespace ForumSummary.Sql

/-- A record of a table, by the names of its columns. -/
abbrev Record := String → Datum

/-- The records of each table. -/
abbrev Database := String → Multiset Record

/-- What the columns of the joined tables hold. -/
abbrev Env := Column → Datum

namespace Env

/-- The row of no table. -/
def empty : Env :=
  fun _ => .null

/-- A row with a record joined to it under a label. -/
def join (e : Env) (label : String) (r : Record) : Env :=
  fun c => if c.table = label then r c.name else e c

@[simp] theorem join_self (e : Env) (label : String) (r : Record) (name : String) :
    join e label r ⟨label, name⟩ = r name :=
  if_pos rfl

theorem join_of_ne (e : Env) {label : String} (r : Record) {c : Column} (h : c.table ≠ label) :
    join e label r c = e c :=
  if_neg h

end Env

/-- What a condition on a single row comes to. -/
def RowTest.truth (e : Env) : RowTest → Truth
  | .sameColumn a b => (e a).same (e b)
  | .compare c op v => (e c).compare op v.toInt
  | .isNull c => .ofBool (e c = .null)
  | .isNotNull c => .ofBool (e c ≠ .null)
  | .oneOf c vs => .any (vs.map fun v => (e c).compare .equal v.toInt)

/-- What a conjunction of conditions on a single row comes to. -/
def RowTest.truthAll (e : Env) (ts : List RowTest) : Truth :=
  .all (ts.map (RowTest.truth e))

/-! ## Joins -/

/-- Each row with each record of a table. -/
def Table.cross (db : Database) (t : Table) (rows : Multiset Env) : Multiset Env :=
  (rows ×ˢ db t.name).map fun p => p.1.join t.label p.2

/-- Each row with the records of a table that meet the condition of the join. -/
def InnerJoin.apply (db : Database) (rows : Multiset Env) (j : InnerJoin) : Multiset Env :=
  (j.table.cross db rows).filter fun e => j.on.truth e = .yes

namespace Subselect

/-- The rows that an inner select is about. -/
def sourceRows (db : Database) (s : Subselect) : Multiset Env :=
  (s.joins.foldl (InnerJoin.apply db) (s.source.cross db {Env.empty})).filter fun e =>
    s.condition.truth e = .yes

/-- The record that an inner select makes of a row. -/
def record (s : Subselect) (e : Env) : Record :=
  fun name => ((s.columns.find? (·.name = name)).map e).getD .null

/-- The records that an inner select gives. -/
def records (db : Database) (s : Subselect) : Multiset Record :=
  (s.sourceRows db).map s.record

/-- The values that an inner select gives, where it is taken for its first column. -/
def values (db : Database) (s : Subselect) : Multiset Datum :=
  (s.sourceRows db).map fun e => (s.columns.head?.map e).getD .null

end Subselect

/-- Some rows, or one row in their place where there are none. -/
def orAlone {α : Type} (alone : α) (rows : Multiset α) : Multiset α :=
  if rows.card = 0 then {alone} else rows

/-- A row with the records of an inner select that meet all tests, or with nulls where none does. -/
def Subselect.joinLeft (db : Database) (sub : Subselect) (label : String) (on : List RowTest)
    (e : Env) : Multiset Env :=
  orAlone (e.join label fun _ => .null) <|
    ((sub.records db).map (e.join label)).filter fun e' => RowTest.truthAll e' on = .yes

/-- The rows after a join. -/
def Join.apply (db : Database) (rows : Multiset Env) : Join → Multiset Env
  | .inner j => j.apply db rows
  | .left sub label on => rows.bind (sub.joinLeft db label on)

/-- What a condition of the outer select comes to. -/
def Condition.truth (db : Database) (e : Env) : Condition → Truth
  | .row t => t.truth e
  | .member c sub => .any ((sub.values db).map (e c).same)

/-! ## Groups -/

/-- A group of rows, with what its columns hold where the rows agree on them. -/
structure Group where
  columns : Env
  members : Multiset Env

/-- The columns of a group with the given values of its grouping columns. -/
def keyColumns (cs : List Column) (key : List Datum) : Env :=
  fun c => ((cs.zip key).lookup c).getD .null

/-- The groups of rows that agree on some columns. Nulls agree with each other. -/
def grouped (cs : List Column) (rows : Multiset Env) : Multiset Group :=
  (rows.map fun e => cs.map e).dedup.map fun key =>
    ⟨keyColumns cs key, rows.filter fun e => cs.map e = key⟩

/-- An expression that is about all rows of a group. -/
def Expression.aggregates : Expression → Bool
  | .sumWhere .. => true
  | .countDistinct _ => true
  | _ => false

/-- The value of an expression for a group. There is no sum over no rows. -/
def Expression.value (g : Group) : Expression → Datum
  | .column c => g.columns c
  | .literal v => .integer v.toInt
  | .nullBigInt => .null
  | .sumWhere tests one zero =>
    if g.members.card = 0 then .null
    else .integer (g.members.map fun e =>
      if RowTest.truthAll e tests = .yes then one.toInt else zero.toInt).sum
  | .countDistinct c => .integer ((g.members.map (· c)).filter (· ≠ .null)).dedup.card

/-- The name of a column of the answer. -/
def Output.name (o : Output) : String :=
  match o.label, o.expression with
  | some label, _ => label
  | none, .column c => c.name
  | none, .sumWhere .. => "sum"
  | none, .countDistinct _ => "count"
  | none, _ => "?column?"

/-- A row of an answer: the names of its columns and their values. -/
abbrev ResultRow := List (String × Datum)

/-- The row that a select list makes of a group. -/
def resultRow (outputs : List Output) (g : Group) : ResultRow :=
  outputs.map fun o => (o.name, o.expression.value g)

namespace Select

/-- The rows that a statement is about. -/
def sourceRows (db : Database) (s : Select) : Multiset Env :=
  (s.joins.foldl (Join.apply db) (s.source.cross db {Env.empty})).filter fun e =>
    Truth.all (s.conditions.map (Condition.truth db e)) = .yes

/-- The groups of a statement. Without grouping columns all rows are one group, be it empty, for an
aggregate, and each row is one for a select list without aggregates. -/
def groups (db : Database) (s : Select) : Multiset Group :=
  if s.groupBy ≠ [] then grouped s.groupBy (s.sourceRows db)
  else if s.outputs.any (·.expression.aggregates) then {⟨Env.empty, s.sourceRows db⟩}
  else (s.sourceRows db).map fun e => ⟨e, {e}⟩

end Select

/-! ## Order -/

/-- A way of comparing texts: some total preorder. -/
structure Collation where
  le : String → String → Bool
  trans : ∀ a b c, le a b → le b c → le a c
  total : ∀ a b, le a b || le b a

/-- The collation by code points. -/
def Collation.byCodePoints : Collation where
  le a b := a ≤ b
  trans a b c hab hbc := decide_eq_true (String.le_trans (of_decide_eq_true hab)
    (of_decide_eq_true hbc))
  total a b := by
    rw [Bool.or_eq_true, decide_eq_true_iff, decide_eq_true_iff]
    exact String.le_total a b

/-- Whether a value may stand before another in rising order. -/
def Datum.le (collation : Collation) : Datum → Datum → Bool
  | .integer m, .integer n => m ≤ n
  | .integer _, _ => true
  | .text _, .integer _ => false
  | .text s, .text t => collation.le s t
  | .text _, .null => true
  | .null, .null => true
  | .null, _ => false

/-- What a group is sorted by. A name stands for the entry of the select list that has it. -/
def SortKey.value (outputs : List Output) (g : Group) : SortKey → Datum
  | .column c => g.columns c
  | .output name => ((resultRow outputs g).lookup name).getD .null

/-- Whether a group may stand before another as far as one term goes. -/
def SortTerm.le (collation : Collation) (outputs : List Output) (t : SortTerm)
    (g h : Group) : Bool :=
  if t.descending then (t.key.value outputs h).le collation (t.key.value outputs g)
  else (t.key.value outputs g).le collation (t.key.value outputs h)

/-- Whether a group may stand before another: by the first term, and by the later ones where it
leaves the two tied. -/
def precedes (collation : Collation) (outputs : List Output) :
    List SortTerm → Group → Group → Bool
  | [], _, _ => true
  | t :: ts, g, h => t.le collation outputs g h &&
      (!t.le collation outputs h g || precedes collation outputs ts g h)

/-- The part of a list that a window shows. -/
def Window.cut {α : Type} (w : Window) (l : List α) : List α :=
  (l.drop w.offset.toNat).take w.limit.toNat

/-- The list that a statement with or without a window returns of all its rows. -/
def Select.cut {α : Type} (s : Select) (l : List α) : List α :=
  match s.window with
  | none => l
  | some w => w.cut l

/-- A list of the groups of a statement in an order that its sort terms allow. -/
def Select.Arranges (collation : Collation) (db : Database) (s : Select)
    (gs : List Group) : Prop :=
  (gs : Multiset Group) = s.groups db ∧
    gs.Pairwise fun g h => precedes collation s.outputs s.orderBy g h

/-- The rows that a statement may return: those of its groups in an order that the sort terms allow,
cut to the window. -/
def Select.Answers (collation : Collation) (db : Database) (s : Select)
    (rows : List ResultRow) : Prop :=
  ∃ gs, s.Arranges collation db gs ∧ rows = s.cut (gs.map (resultRow s.outputs))

end ForumSummary.Sql
