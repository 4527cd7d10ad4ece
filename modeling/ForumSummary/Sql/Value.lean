import ForumSummary.Text.Numeral
import ForumSummary.Text.Escaped

/-!
# Values and arguments of statements

A statement carries values of many types (`Value`), each of which may be null. The server takes
arguments of fewer types (`Argument`): it has no unsigned integers, so those are widened, and the
greatest ones are narrowed to BIGINT when they fit. `bind` makes one argument of every value, in
order, and fails at the first value that has none.
-/

namespace ForumSummary.Sql

/-- A value in a statement; none is null. -/
inductive Value where
  | bool (v : Option Bool)
  | tinyInt (v : Option Int8)
  | smallInt (v : Option Int16)
  | int (v : Option Int32)
  | bigInt (v : Option Int64)
  | tinyUnsigned (v : Option UInt8)
  | smallUnsigned (v : Option UInt16)
  | unsigned (v : Option UInt32)
  | bigUnsigned (v : Option UInt64)
  | float (v : Option Float32)
  | double (v : Option Float)
  | string (v : Option String)
  | char (v : Option Char)
  | bytes (v : Option (List UInt8))

/-- An argument sent to the server; none is null. -/
inductive Argument where
  | bool (v : Option Bool)
  | int2 (v : Option Int16)
  | int4 (v : Option Int32)
  | int8 (v : Option Int64)
  | float4 (v : Option Float32)
  | float8 (v : Option Float)
  | text (v : Option String)

/-- Why a value has no argument. -/
inductive BindError where
  | tooLarge
  | unsupported (v : Value)

/-! ## Wording -/

/-- A value that may be missing, in a message. -/
def optionText {α : Type} (text : α → String) : Option α → String
  | none => "None"
  | some a => "Some(" ++ text a ++ ")"

/-- A value in a message, for the types that have no argument. -/
def Value.message : Value → String
  | .tinyInt v => "TinyInt(" ++ optionText (fun n => Numeral.text n.toInt) v ++ ")"
  | .tinyUnsigned v => "TinyUnsigned(" ++ optionText (fun n => Numeral.natText n.toNat) v ++ ")"
  | .char v => "Char(" ++ optionText Text.shownChar v ++ ")"
  | .bytes v =>
    let octets (bs : List UInt8) :=
      "[" ++ ", ".intercalate (bs.map fun b => Numeral.natText b.toNat) ++ "]"
    "Bytes(" ++ optionText octets v ++ ")"
  | _ => ""

/-- The wording of a failure to bind. -/
def BindError.message : BindError → String
  | .tooLarge => "unsigned parameter does not fit in BIGINT"
  | .unsupported v => "unsupported query parameter: " ++ v.message

/-! ## Binding -/

/-- The argument for a value. -/
def Value.bind : Value → Except BindError Argument
  | .bool v => .ok (.bool v)
  | .smallInt v => .ok (.int2 v)
  | .int v => .ok (.int4 v)
  | .bigInt v => .ok (.int8 v)
  | .smallUnsigned v => .ok (.int4 (v.map fun n => Int32.ofNat n.toNat))
  | .unsigned v => .ok (.int8 (v.map fun n => Int64.ofNat n.toNat))
  | .bigUnsigned none => .ok (.int8 none)
  | .bigUnsigned (some n) =>
    if n.toNat ≤ Int64.maxValue.toInt then .ok (.int8 (some (Int64.ofNat n.toNat)))
    else .error .tooLarge
  | .float v => .ok (.float4 v)
  | .double v => .ok (.float8 v)
  | .string v => .ok (.text v)
  | v => .error (.unsupported v)

/-- The arguments for a list of values, one for each and in order. -/
def bind : List Value → Except BindError (List Argument)
  | [] => .ok []
  | v :: vs => do
    let a ← v.bind
    return a :: (← bind vs)

end ForumSummary.Sql
