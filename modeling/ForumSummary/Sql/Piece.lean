import ForumSummary.Sql.Value

/-!
# Statement text and its values

A statement is rendered to pieces: fixed text, and the places of values. From the pieces come its
two texts. `parameterized` puts `$1`, `$2`, … in the places, so it depends on no value; `inlined`
writes the values themselves. `values` are the values in the order of their places, so the n-th
value belongs to `$n`.
-/

namespace ForumSummary.Sql

/-- A part of a statement: fixed text, or the place of a value. -/
inductive Piece (α : Type) where
  | text (s : String)
  | value (v : α)
  deriving DecidableEq, Repr

/-- A rendered statement. -/
abbrev Pieces (α : Type) := List (Piece α)

namespace Pieces

variable {α β : Type}

/-- The values of a statement, from left to right. -/
def values : Pieces α → List α
  | [] => []
  | .text _ :: ps => values ps
  | .value v :: ps => v :: values ps

/-- The text with placeholders, numbered from `n` on. -/
def parameterizedFrom (n : Nat) : Pieces α → String
  | [] => ""
  | .text s :: ps => s ++ parameterizedFrom n ps
  | .value _ :: ps => "$" ++ Numeral.natText n ++ parameterizedFrom (n + 1) ps

/-- The text with placeholders `$1`, `$2`, … -/
def parameterized (ps : Pieces α) : String :=
  parameterizedFrom 1 ps

/-- The text with the values written in their places. -/
def inlined (write : α → String) : Pieces α → String
  | [] => ""
  | .text s :: ps => s ++ inlined write ps
  | .value v :: ps => write v ++ inlined write ps

/-- The same pieces with other values. -/
def mapValues (f : α → β) : Pieces α → Pieces β
  | [] => []
  | .text s :: ps => .text s :: mapValues f ps
  | .value v :: ps => .value (f v) :: mapValues f ps

/-- Pieces one after the other with a text between neighbours. -/
def joinWith (separator : String) : List (Pieces α) → Pieces α
  | [] => []
  | [ps] => ps
  | ps :: rest => ps ++ .text separator :: joinWith separator rest

/-! ## Laws -/

@[simp] theorem values_append (ps qs : Pieces α) : values (ps ++ qs) = values ps ++ values qs := by
  induction ps with
  | nil => rfl
  | cons p ps ih => cases p <;> simp [values, ih]

theorem parameterizedFrom_append (n : Nat) (ps qs : Pieces α) :
    parameterizedFrom n (ps ++ qs) =
      parameterizedFrom n ps ++ parameterizedFrom (n + (values ps).length) qs := by
  induction ps generalizing n with
  | nil => simp [parameterizedFrom, values]
  | cons p ps ih =>
    cases p with
    | text s => simp [parameterizedFrom, values, ih, String.append_assoc]
    | value v =>
      simp [parameterizedFrom, values, ih, String.append_assoc, Nat.add_assoc, Nat.add_comm 1]

theorem parameterizedFrom_mapValues (f : α → β) (n : Nat) (ps : Pieces α) :
    parameterizedFrom n (mapValues f ps) = parameterizedFrom n ps := by
  induction ps generalizing n with
  | nil => rfl
  | cons p ps ih => cases p <;> simp [mapValues, parameterizedFrom, ih]

theorem values_mapValues (f : α → β) (ps : Pieces α) :
    values (mapValues f ps) = (values ps).map f := by
  induction ps with
  | nil => rfl
  | cons p ps ih => cases p <;> simp [mapValues, values, ih]

end Pieces

/-- The statement that selects values and nothing else. -/
def selectValues (vs : List Value) : Pieces Value :=
  .text "SELECT " :: Pieces.joinWith ", " (vs.map fun v => [.value v])

end ForumSummary.Sql
