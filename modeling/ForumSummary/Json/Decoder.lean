import ForumSummary.Json.Outline

/-!
# Reading values of a known kind

A decoder turns an outline into a value of a known type. A failure says either that the text leaves
the JSON grammar (`malformed`) or what is wrong with the data, with the path to it. Parts are read
in text order and the first fault decides, so a value of the wrong kind is reported even when the
text breaks later.
-/

namespace ForumSummary.Json

/-- One step of the way from the root of a text to a part of it. -/
inductive Step where
  | member (name : String)
  | item (index : Nat)
  deriving DecidableEq, Repr

/-- What was found where something else was expected. -/
inductive Found where
  | null
  | bool (b : Bool)
  | integer (n : Int)
  | float (bits : UInt64)
  | string (s : String)
  | sequence
  | map
  deriving DecidableEq, Repr

/-- What is wrong with data that follows the grammar. -/
inductive Cause where
  | invalidType (found : Found) (expected : String)
  | invalidValue (n : Int) (expected : String)
  | invalidLength (length : Nat) (record : String) (size : Nat)
  | tooShort (length : Nat) (expected : String)
  | missingField (name : String)
  | duplicateField (name : String)
  | unknownVariant (name : String) (known : List String)
  | noVariant (kind : String)
  | notANumber (text : String)
  | notAFlag (text : String)
  | outOfRange (error : Numeral.Error)
  | rejected (message : String)
  deriving DecidableEq, Repr

/-- Why a text was not read. -/
inductive Failure where
  | malformed
  | data (path : List Step) (cause : Cause)
  deriving DecidableEq, Repr

/-! ## Wording -/

/-- A text between backticks. -/
def ticked (s : String) : String :=
  "`" ++ s ++ "`"

/-- What was found, in words. -/
def Found.message : Found → String
  | .null => "null"
  | .bool b => "boolean " ++ ticked (if b then "true" else "false")
  | .integer n => "integer " ++ ticked (Numeral.text n)
  | .float bits => "floating point " ++ ticked (String.ofList (Binary64.chars bits))
  | .string s => "string " ++ Text.shown s
  | .sequence => "sequence"
  | .map => "map"

/-- The names of which one was expected. -/
def expectedNames : List String → String
  | [a] => ticked a
  | [a, b] => ticked a ++ " or " ++ ticked b
  | names => "one of " ++ ", ".intercalate (names.map ticked)

/-- The wording of a cause. -/
def Cause.message : Cause → String
  | .invalidType found expected => "invalid type: " ++ found.message ++ ", expected " ++ expected
  | .invalidValue n expected =>
    "invalid value: integer " ++ ticked (Numeral.text n) ++ ", expected " ++ expected
  | .invalidLength length record size =>
    "invalid length " ++ Numeral.natText length ++ ", expected " ++ record ++ " with " ++
      Numeral.natText size ++ " elements"
  | .tooShort length expected =>
    "invalid length " ++ Numeral.natText length ++ ", expected " ++ expected
  | .missingField name => "missing field " ++ ticked name
  | .duplicateField name => "duplicate field " ++ ticked name
  | .unknownVariant name known =>
    "unknown variant " ++ ticked name ++ ", expected " ++ expectedNames known
  | .noVariant kind => "data did not match any variant of untagged enum " ++ kind
  | .notANumber text => "expected a number, got '" ++ text ++ "'"
  | .notAFlag text => "expected a flag, got '" ++ text ++ "'"
  | .outOfRange error => error.message
  | .rejected message => message

/-- A path: names are separated by points, and indices stand in brackets. -/
def pathText : List Step → String
  | [] => ""
  | .member name :: r => name ++ rest r
  | .item i :: r => "[" ++ Numeral.natText i ++ "]" ++ rest r
where
  /-- The steps after the first. -/
  rest : List Step → String
    | [] => ""
    | .member name :: r => "." ++ name ++ rest r
    | .item i :: r => "[" ++ Numeral.natText i ++ "]" ++ rest r

/-! ## Decoders -/

/-- Reads a value of type `α` from an outline. -/
abbrev Decoder (α : Type) := Outline → Except Failure α

/-- The same failure, seen from one step further out. -/
def Failure.under (step : Step) : Failure → Failure
  | .malformed => .malformed
  | .data path cause => .data (step :: path) cause

/-- A part read one step further in. -/
def under {α : Type} (step : Step) (r : Except Failure α) : Except Failure α :=
  r.mapError (Failure.under step)

/-- Fails for a cause at this place. -/
def fail {α : Type} (cause : Cause) : Except Failure α :=
  .error (.data [] cause)

/-- Fails unless the text followed the grammar to the end of a container. -/
def ensureClosed (closed : Bool) : Except Failure Unit :=
  if closed then .ok () else .error .malformed

/-- What stands in an outline. A scalar has to be read whole, a container only to its bracket. -/
def Outline.found : Outline → Except Failure Found
  | .null => .ok .null
  | .bool b => .ok (.bool b)
  | .number l =>
    match l.value? with
    | some (.int n _) => .ok (.integer n)
    | some (.float bits) => .ok (.float bits)
    | none => .error .malformed
  | .string (some s) => .ok (.string s)
  | .string none => .error .malformed
  | .array .. => .ok .sequence
  | .object .. => .ok .map
  | .broken => .error .malformed

/-- Fails because something else than `expected` was found. -/
def wrongType {α : Type} (expected : String) (o : Outline) : Except Failure α := do
  fail (.invalidType (← o.found) expected)

namespace Decoder

/-- Reads an integer between two bounds. -/
def integerBetween (lo hi : Int) (expected : String) : Decoder Int
  | .number l =>
    match l.value? with
    | some (.int n _) => if lo ≤ n ∧ n ≤ hi then .ok n else fail (.invalidValue n expected)
    | some (.float bits) => fail (.invalidType (.float bits) expected)
    | none => .error .malformed
  | o => wrongType expected o

/-- Reads a signed 64-bit integer. -/
def int64 : Decoder Int64 := fun o =>
  (integerBetween Int64.minValue.toInt Int64.maxValue.toInt "i64" o).map Int64.ofInt

/-- Reads an unsigned 64-bit integer. -/
def uint64 : Decoder UInt64 := fun o =>
  (integerBetween 0 (UInt64.size - 1) "u64" o).map fun n => UInt64.ofNat n.toNat

/-- Reads an unsigned 32-bit integer. -/
def uint32 : Decoder UInt32 := fun o =>
  (integerBetween 0 (UInt32.size - 1) "u32" o).map fun n => UInt32.ofNat n.toNat

/-- Reads a boolean. -/
def boolean : Decoder Bool
  | .bool b => .ok b
  | o => wrongType "a boolean" o

/-- Reads a string. -/
def string : Decoder String
  | .string (some s) => .ok s
  | o => wrongType "a string" o

/-- Reads null. -/
def unit : Decoder Unit
  | .null => .ok ()
  | o => wrongType "unit" o

/-- Reads a value or null. -/
def optional {α : Type} (d : Decoder α) : Decoder (Option α)
  | .null => .ok none
  | o => (d o).map some

/-- Reads items from the given index on. -/
def itemsFrom {α : Type} (d : Decoder α) (index : Nat) : List Outline → Except Failure (List α)
  | [] => .ok []
  | v :: vs => do
    let a ← under (.item index) (d v)
    return a :: (← itemsFrom d (index + 1) vs)

/-- Reads an array of values of one kind. -/
def list {α : Type} (d : Decoder α) : Decoder (List α)
  | .array items closed => do
    let as ← itemsFrom d 0 items
    ensureClosed closed
    return as
  | o => wrongType "a sequence" o

/-- The value of a name out of a fixed choice. -/
def choose {α : Type} (choices : List (String × α)) (name : String) : Except Failure α :=
  match choices.lookup name with
  | some a => .ok a
  | none => fail (.unknownVariant name (choices.map (·.1)))

/-- Reads one of a fixed choice of names, written as a string. -/
def name {α : Type} (choices : List (String × α)) : Decoder α
  | .string (some s) => choose choices s
  | o => wrongType "variant identifier" o

/-- Reads one of a fixed choice of names: as a string, or as the only name of an object whose value
is null. -/
def variant {α : Type} (choices : List (String × α)) : Decoder α
  | .string (some s) => choose choices s
  | .object ((some s, v) :: more) closed => do
    let a ← choose choices s
    unit v
    ensureClosed (closed && more.isEmpty)
    return a
  | _ => .error .malformed

/-- A value that is read whole before it is looked at must denote something, and its containers must
stay within 127 levels, counted from the root; `level` containers are around it. -/
def readWholeValue (level : Nat) (o : Outline) : Except Failure Unit :=
  if o.toJson?.isSome ∧ level + o.depth ≤ 127 then .ok () else .error .malformed

/-- A value that is passed over only has to follow the grammar. -/
def skipValue (o : Outline) : Except Failure Unit :=
  ensureClosed o.isClosed

/-- Reads a whole text: a fault of the data decides before what follows the value. -/
def ofText {α : Type} (d : Decoder α) (text : String) : Except Failure α :=
  match Outline.ofText text.toList with
  | (v, complete) => do
    let a ← d v
    ensureClosed complete
    return a

end Decoder

end ForumSummary.Json
