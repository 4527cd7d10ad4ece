import ForumSummary.Json.Decoder

/-!
# Kinds of filters

A report can be narrowed in four ways. The order of the kinds is the order in which a query lists
its filters and in which they enter a statement.
-/

namespace ForumSummary

/-- The four ways of narrowing a report. -/
inductive Filter.Kind where
  | forum
  | dateFrom
  | dateTo
  | groups
  deriving DecidableEq, Repr

namespace Filter.Kind

/-- All kinds, in order. -/
def all : List Kind :=
  [.forum, .dateFrom, .dateTo, .groups]

/-- The name of a kind. -/
def name : Kind → String
  | .forum => "forum"
  | .dateFrom => "datefrom"
  | .dateTo => "dateto"
  | .groups => "groups"

/-- The kind of a name. -/
def ofName? (s : String) : Option Kind :=
  all.find? (·.name = s)

/-- The kinds by name. -/
def byName : List (String × Kind) :=
  all.map fun k => (k.name, k)

/-- Reads a kind from JSON. -/
def decode : Json.Decoder Kind :=
  Json.Decoder.variant byName

/-- Reads a kind that is written as its name and in no other way. -/
def decodeName : Json.Decoder Kind :=
  Json.Decoder.name byName

/-- A kind as JSON. -/
def toJson (k : Kind) : Json :=
  .string k.name

theorem mem_all (k : Kind) : k ∈ all := by
  cases k <;> decide

theorem ofName?_name (k : Kind) : ofName? k.name = some k := by
  cases k <;> decide

theorem name_of_ofName? {s : String} {k : Kind} (h : ofName? s = some k) : k.name = s := by
  have := List.find?_some h
  simpa using this

end Filter.Kind

end ForumSummary
