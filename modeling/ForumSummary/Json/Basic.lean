import ForumSummary.Json.Number

/-!
# JSON values

A value keeps the members of its objects in order and allows a name to repeat. The functions at the
end build the values that records of this library are written as.
-/

namespace ForumSummary

/-- A JSON value. -/
inductive Json where
  | null
  | bool (b : Bool)
  | number (n : Json.Number)
  | string (s : String)
  | array (items : List Json)
  | object (members : List (String × Json))
  deriving Inhabited

namespace Json

/-- A signed 64-bit integer as a value. -/
def ofInt64 (n : Int64) : Json :=
  .number (.ofInt64 n)

/-- An unsigned 64-bit integer as a value. -/
def ofUInt64 (n : UInt64) : Json :=
  .number (.ofUInt64 n)

/-- An unsigned 32-bit integer as a value. -/
def ofUInt32 (n : UInt32) : Json :=
  .number (.ofUInt64 n.toUInt64)

/-- A value that may be missing; null stands for none. -/
def ofOption {α : Type} (toJson : α → Json) : Option α → Json
  | none => .null
  | some a => toJson a

/-- A list of values as an array. -/
def ofList {α : Type} (toJson : α → Json) (as : List α) : Json :=
  .array (as.map toJson)

end Json

end ForumSummary
