import ForumSummary.Sql.Statement

/-!
# Bound statements

A statement is bound before anything is sent: its text with placeholders is put together with one
argument for each placeholder.
-/

namespace ForumSummary.Sql

/-- A statement ready to be sent. -/
structure Bound where
  text : String
  arguments : List Argument

/-- Binds the values of a rendered statement. -/
def Pieces.bind (ps : Pieces Value) : Except BindError Bound :=
  (Sql.bind ps.values).map fun arguments => ⟨ps.parameterized, arguments⟩

/-- Binds the values of a select statement. -/
def Select.bind (s : Select) : Except BindError Bound :=
  (s.pieces.mapValues Literal.toValue).bind

end ForumSummary.Sql
