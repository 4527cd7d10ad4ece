import ForumSummary.Text.Blank

/-!
# Decimal numerals

`chars` writes an integer in decimal. `readBetween` reads one: an optional sign, then ASCII digits
up to the end of the text, for a number between two bounds. Digits are taken from the left, and the
first one that is no digit, or that takes the number past its bound, decides the error.
-/

namespace ForumSummary.Numeral

/-- Why a text is no integer of the wanted range. -/
inductive Error where
  | empty
  | invalidDigit
  | tooLarge
  | tooSmall
  deriving DecidableEq, Repr

/-- The wording of an error. -/
def Error.message : Error → String
  | .empty => "cannot parse integer from empty string"
  | .invalidDigit => "invalid digit found in string"
  | .tooLarge => "number too large to fit in target type"
  | .tooSmall => "number too small to fit in target type"

/-! ## Writing -/

/-- The decimal digit of a number below ten. -/
def digitChar (d : Nat) : Char :=
  Char.ofNat (0x30 + d)

/-- The decimal digits of a natural number, without leading zeros. -/
def natChars (n : Nat) : List Char :=
  if n < 10 then [digitChar n] else natChars (n / 10) ++ [digitChar (n % 10)]

/-- An integer in decimal, with a minus sign when it is negative. -/
def chars (n : Int) : List Char :=
  if n < 0 then '-' :: natChars n.natAbs else natChars n.natAbs

/-- An integer in decimal, as a string. -/
def text (n : Int) : String :=
  String.ofList (chars n)

/-- A natural number in decimal, as a string. -/
def natText (n : Nat) : String :=
  String.ofList (natChars n)

/-- An integer in at least `width` characters: zeros stand between the sign and the digits. -/
def padded (width : Nat) (n : Int) : String :=
  let digits := natChars n.natAbs
  let sign : List Char := if n < 0 then ['-'] else []
  String.ofList (sign ++ List.replicate (width - sign.length - digits.length) '0' ++ digits)

/-! ## Reading -/

/-- The value of an ASCII digit. -/
def digit? (c : Char) : Option Nat :=
  if 0x30 ≤ c.toNat ∧ c.toNat ≤ 0x39 then some (c.toNat - 0x30) else none

/-- Reads digits after a number `acc` read so far. The number must stay at most `limit`; past it the
error is `excess`. -/
def accumulate (limit : Nat) (excess : Error) (acc : Nat) : List Char → Except Error Nat
  | [] => .ok acc
  | c :: r =>
    match digit? c with
    | none => .error .invalidDigit
    | some d =>
      if acc * 10 + d ≤ limit then accumulate limit excess (acc * 10 + d) r else .error excess

/-- Reads one digit or more, for a number of at most `limit`. -/
def magnitude (limit : Nat) (excess : Error) : List Char → Except Error Nat
  | [] => .error .invalidDigit
  | cs => accumulate limit excess 0 cs

/-- Reads an integer from `lo` to `hi`. A minus sign is a sign only where negative numbers are
allowed. -/
def readBetween (lo hi : Int) : List Char → Except Error Int
  | [] => .error .empty
  | '+' :: r => (magnitude hi.toNat .tooLarge r).map Int.ofNat
  | '-' :: r =>
    if lo < 0 then (magnitude (-lo).toNat .tooSmall r).map (fun n => -Int.ofNat n)
    else .error .invalidDigit
  | cs => (magnitude hi.toNat .tooLarge cs).map Int.ofNat

/-- Reads a signed 64-bit integer. -/
def readInt64 (cs : List Char) : Except Error Int64 :=
  (readBetween Int64.minValue.toInt Int64.maxValue.toInt cs).map Int64.ofInt

/-- Reads an unsigned 64-bit integer. -/
def readUInt64 (cs : List Char) : Except Error UInt64 :=
  (readBetween 0 (UInt64.size - 1) cs).map fun n => UInt64.ofNat n.toNat

/-- Reads an unsigned 32-bit integer. -/
def readUInt32 (cs : List Char) : Except Error UInt32 :=
  (readBetween 0 (UInt32.size - 1) cs).map fun n => UInt32.ofNat n.toNat

/-- Reads an unsigned 16-bit integer. -/
def readUInt16 (cs : List Char) : Except Error UInt16 :=
  (readBetween 0 (UInt16.size - 1) cs).map fun n => UInt16.ofNat n.toNat

end ForumSummary.Numeral
