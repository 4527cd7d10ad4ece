import ForumSummary.Decimal.Shortest

/-!
# Numbers of a JSON text

A number literal is kept as it is written (`Literal`). Its value (`Literal.value?`) is an integer
when it has neither fraction nor exponent and fits a signed or an unsigned 64-bit word, and a
binary64 number otherwise. The binary64 number is one scaling by a power of ten of the digits that
fit a 64-bit word; a literal too great for binary64 has no value.
-/

namespace ForumSummary.Json

/-- The integers that a signed or an unsigned 64-bit word holds. -/
def IsWord (n : Int) : Prop :=
  Int64.minValue.toInt ≤ n ∧ n < UInt64.size

instance (n : Int) : Decidable (IsWord n) :=
  inferInstanceAs (Decidable (_ ∧ _))

/-- A number: an integer of 64 bits, or a finite binary64 number given by its bits. -/
inductive Number where
  | int (n : Int) (isWord : IsWord n)
  | float (bits : UInt64)
  deriving DecidableEq

namespace Number

/-- A signed word as a number. -/
def ofInt64 (n : Int64) : Number :=
  .int n.toInt ⟨n.minValue_le_toInt, Int.lt_of_lt_of_le n.toInt_lt (by decide)⟩

/-- An unsigned word as a number. -/
def ofUInt64 (n : UInt64) : Number :=
  .int n.toNat ⟨Int.le_trans (by decide) (Int.natCast_nonneg _), Int.ofNat_lt.2 n.toNat_lt⟩

/-- The text of a number. -/
def chars : Number → List Char
  | .int n _ => Numeral.chars n
  | .float bits => Binary64.chars bits

end Number

/-! ## Literals -/

/-- A number as it is written: sign, digits before the point, digits after it, and exponent. -/
structure Literal where
  negative : Bool
  whole : List Char
  fraction : Option (List Char)
  exponent : Option Int
  deriving DecidableEq

namespace Literal

/-- Takes digits from the left while the number they make with `acc` fits a 64-bit word. -/
def takeWord (acc : Nat) : List Char → Nat × List Char
  | [] => (acc, [])
  | c :: r =>
    let next := acc * 10 + (c.toNat - 0x30)
    if next < UInt64.size then takeWord next r else (acc, c :: r)

/-- `significand · 10 ^ exponent` in binary64: the significand is rounded, then multiplied or
divided once by the power of ten. Exponents below -308 divide by `10 ^ 308` first, which at the
third time leaves nothing of any 64-bit significand. -/
def scale (fuel : Nat) (significand : Float) (exponent : Int) : Option Float :=
  if exponent.natAbs ≤ 308 then
    let power := Float.ofScientific 1 false exponent.natAbs
    if 0 ≤ exponent then
      let scaled := significand * power
      if scaled.isInf then none else some scaled
    else some (significand / power)
  else if significand == 0.0 then some significand
  else if 0 ≤ exponent then none
  else
    match fuel with
    | 0 => some 0.0
    | fuel + 1 => scale fuel (significand / Float.ofScientific 1 false 308) (exponent + 308)

/-- The value of a literal; none when it is too great. -/
def value? (l : Literal) : Option Number :=
  let (whole, dropped) := takeWord 0 l.whole
  let digits := l.fraction.getD []
  let (significand, left) := takeWord whole digits
  let signed : Int := if l.negative then -whole else whole
  if h : l.fraction = none ∧ l.exponent = none ∧ dropped = [] ∧ IsWord signed ∧
      ¬ (l.negative ∧ whole = 0) then
    some (.int signed h.2.2.2.1)
  else
    let exponent : Int := l.exponent.getD 0 + dropped.length - (digits.length - left.length)
    (scale 3 (Float.ofNat significand) exponent).map fun x =>
      .float (if l.negative then -x else x).toBits

end Literal

end ForumSummary.Json
