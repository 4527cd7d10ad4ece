import ForumSummary.Json.Decoder

/-!
# Reading records

A record is written as an object, whose members may stand in any order among members of other names,
or as an array of its fields in order. `Record α` lists the fields of a record (`slots`) and says
how a value is built from them (`build`); records are put together field by field, in declared
order.

Reading goes through the text once, in order: a repeated name and a field that does not read are
reported where they stand. Then the first missing field is reported, in declared order.
-/

namespace ForumSummary.Json

/-- What the absence of a field means. -/
inductive Presence where
  /-- The field must be there. -/
  | required
  /-- A missing member stands for null; an array must have it. -/
  | nullable
  /-- The field has a default. -/
  | defaulted
  deriving DecidableEq, Repr

/-- A field: its name, what its absence means, and a check that its value reads. -/
structure Slot where
  name : String
  presence : Presence
  check : Outline → Except Failure Unit

/-- The fields of a record, and how to build it from their outlines. -/
structure Record (α : Type) where
  slots : List Slot
  build : (String → Option Outline) → Except Failure α

namespace Record

/-- A record of one field, with the value to take when it is absent, if any. -/
def single {α : Type} (name : String) (presence : Presence) (absent : Option α) (d : Decoder α) :
    Record α where
  slots := [⟨name, presence, fun o => (d o).map fun _ => ()⟩]
  build find :=
    match find name, absent with
    | some o, _ => d o
    | none, some a => .ok a
    | none, none => fail (.missingField name)

/-- A field that must be there. -/
def required {α : Type} (name : String) (d : Decoder α) : Record α :=
  single name .required none d

/-- A field that may be null or, in an object, missing. -/
def nullable {α : Type} (name : String) (d : Decoder α) : Record (Option α) :=
  single name .nullable (some none) (Decoder.optional d)

/-- A field with a default. -/
def defaulted {α : Type} (name : String) (default : α) (d : Decoder α) : Record α :=
  single name .defaulted (some default) d

instance : Functor Record where
  map f r := ⟨r.slots, fun find => (r.build find).map f⟩

instance : Applicative Record where
  pure a := ⟨[], fun _ => .ok a⟩
  seq f r :=
    ⟨f.slots ++ (r ()).slots, fun find => do
      let g ← f.build find
      let a ← (r ()).build find
      return g a⟩

/-! ## From an object -/

/-- Checks members in text order, with the names seen so far. -/
def checkMembers (slots : List Slot) (closed : Bool) (seen : List String) :
    List (Option String × Outline) → Except Failure Unit
  | [] => ensureClosed closed
  | (some name, v) :: more =>
    match slots.find? (·.name = name) with
    | none => do
      Decoder.skipValue v
      checkMembers slots closed seen more
    | some slot =>
      if name ∈ seen then fail (.duplicateField name)
      else do
        under (.member name) (slot.check v)
        checkMembers slots closed (name :: seen) more
  | (none, _) :: _ => .error .malformed

/-- The value of the first member of a name. -/
def member? (members : List (Option String × Outline)) (name : String) : Option Outline :=
  members.lookup (some name)

/-! ## From an array -/

/-- Checks items in order, from the given index on, for a record of the given description. -/
def checkItems (title : String) (size : Nat) (closed : Bool) (index : Nat) :
    List Slot → List Outline → Except Failure Unit
  | [], [] => ensureClosed closed
  | [], _ :: _ => .error .malformed
  | slot :: slots, [] =>
    if ¬ closed then .error .malformed
    else if slot.presence = .defaulted then checkItems title size closed (index + 1) slots []
    else fail (.invalidLength index title size)
  | slot :: slots, v :: more => do
    under (.item index) (slot.check v)
    checkItems title size closed (index + 1) slots more

/-- The item in the place of a field. -/
def item? (slots : List Slot) (items : List Outline) (name : String) : Option Outline :=
  ((slots.map (·.name)).zip items).lookup name

/-- Reads a record; `title` is its description in messages. -/
def decode {α : Type} (title : String) (r : Record α) : Decoder α
  | .object members closed => do
    checkMembers r.slots closed [] members
    r.build (member? members)
  | .array items closed => do
    checkItems title r.slots.length closed 0 r.slots items
    r.build (item? r.slots items)
  | o => wrongType title o

end Record

end ForumSummary.Json
