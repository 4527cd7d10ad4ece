import ForumSummary.Calendar.Date
import ForumSummary.Error
import ForumSummary.Json.Record
import ForumSummary.Text.Blank

/-!
# Selected dates

A date selector holds three numbers and a flag that says whether the date is used. Forms send
numbers and flags as JSON values or as texts, and both are read alike. Whether the numbers are a
date is asked only when the date is used.
-/

namespace ForumSummary.Calendar

/-- What a date selector holds. -/
structure Selection where
  day : UInt32
  month : UInt32
  year : Int32
  enabled : Bool
  deriving DecidableEq, Repr

/-- The dates from which and up to which posts are counted. -/
structure Selections where
  dateFrom : Option Selection
  dateTo : Option Selection
  deriving DecidableEq, Repr

namespace Selection

/-- The date that the numbers are. -/
def date (s : Selection) : Except ReportError Date :=
  match Date.of? s.year.toInt s.month.toNat s.day.toNat with
  | some d => .ok d
  | none => .error (.invalidDate s.year s.month s.day)

/-- The first second of the selected day. -/
def firstSecond (s : Selection) : Except ReportError Int64 :=
  s.date.map fun d => Int64.ofInt d.firstSecond

/-- The last second of the selected day. -/
def lastSecond (s : Selection) : Except ReportError Int64 :=
  s.date.map fun d => Int64.ofInt d.lastSecond

/-! ## Reading -/

open Json (Decoder Failure Outline)

/-- A number, written as such or as a text with blanks around it; `level` containers are around the
value. -/
def decodeInt64 (level : Nat) : Decoder Int64 := fun o => do
  Decoder.readWholeValue level o
  match o with
  | .string (some s) =>
    match Numeral.readInt64 (Text.trim s.toList) with
    | .ok n => return n
    | .error _ => Json.fail (.notANumber s)
  | o =>
    match Decoder.int64 o with
    | .ok n => return n
    | .error _ => Json.fail (.noVariant "NumberOrString")

/-- A number between two bounds. -/
def decodeBetween (level : Nat) (lo hi : Int) : Decoder Int := fun o => do
  let n := (← decodeInt64 level o).toInt
  if n < lo then Json.fail (.outOfRange .tooSmall)
  else if hi < n then Json.fail (.outOfRange .tooLarge)
  else return n

/-- A day or a month. -/
def decodeUInt32 (level : Nat) : Decoder UInt32 := fun o =>
  (decodeBetween level 0 (UInt32.size - 1) o).map fun n => UInt32.ofNat n.toNat

/-- A year. -/
def decodeInt32 (level : Nat) : Decoder Int32 := fun o =>
  (decodeBetween level Int32.minValue.toInt Int32.maxValue.toInt o).map Int32.ofInt

/-- The flag that a text without blanks around it stands for. -/
def flagOfText (text : String) : Except Failure Bool :=
  if text = "1" ∨ text = "true" then .ok true
  else if text = "0" ∨ text = "false" ∨ text = "" then .ok false
  else Json.fail (.notAFlag text)

/-- A flag: a boolean, a number other than zero, or a text. -/
def decodeFlag (level : Nat) : Decoder Bool := fun o => do
  Decoder.readWholeValue level o
  match o with
  | .bool b => return b
  | .string (some s) => flagOfText (Text.trimmed s)
  | o =>
    match Decoder.int64 o with
    | .ok n => return n ≠ 0
    | .error _ => Json.fail (.noVariant "Flag")

/-- The fields of a selection inside `level` containers. -/
def record (level : Nat) : Json.Record Selection :=
  Selection.mk <$> .required "day" (decodeUInt32 (level + 1))
    <*> .required "month" (decodeUInt32 (level + 1))
    <*> .required "year" (decodeInt32 (level + 1))
    <*> .defaulted "enabled" false (decodeFlag (level + 1))

/-- Reads a selection. -/
def decode (level : Nat) : Decoder Selection :=
  (record level).decode "struct DateSelection"

end Selection

namespace Selections

open Json (Decoder)

/-- The fields of two selections. -/
def record : Json.Record Selections :=
  Selections.mk <$> .defaulted "datefrom" none (Decoder.optional (Selection.decode 1))
    <*> .defaulted "dateto" none (Decoder.optional (Selection.decode 1))

/-- Reads two selections. -/
def decode : Decoder Selections :=
  record.decode "struct DateRange"

/-- Reads two selections from a JSON text. -/
def ofText (text : String) : Except Json.Failure Selections :=
  decode.ofText text

end Selections

end ForumSummary.Calendar
