import ForumSummary.Text.Numeral

/-!
# Shortest decimals of binary64 numbers

A binary64 number is written with the fewest decimal digits that read back as the same number, and
of the candidates with that many digits the nearest is taken. The search walks the grids of
multiples of a power of ten from coarse to fine and stops at the first grid with a point in the
interval of numbers that round to the given one. All arithmetic is exact, on natural numbers.
-/

namespace ForumSummary.Binary64

/-- A finite number as `± mantissa · 2 ^ exponent`. `narrowBelow` says that the next smaller number
lies half as far away as the next greater one. -/
structure Parts where
  negative : Bool
  mantissa : Nat
  exponent : Int
  narrowBelow : Bool
  deriving DecidableEq, Repr

/-- The parts of the finite number with the given bits. -/
def parts (bits : UInt64) : Parts :=
  let n := bits.toNat
  let fraction : Nat := n % Nat.pow 2 52
  let biased : Nat := n / Nat.pow 2 52 % Nat.pow 2 11
  let negative := n / Nat.pow 2 63 = 1
  if biased = 0 then ⟨negative, fraction, -1074, false⟩
  else ⟨negative, Nat.pow 2 52 + fraction, (biased : Int) - 1075, fraction = 0 && 1 < biased⟩

/-- A positive decimal `digits · 10 ^ exponent`. -/
structure Decimal where
  digits : Nat
  exponent : Int
  deriving DecidableEq, Repr

/-- The number `4 · mantissa` of the parts, measured in quarters of the unit `2 ^ exponent`, and the
ends of the interval around it in which decimals read back. -/
def Parts.window (p : Parts) : Nat × Nat × Nat :=
  (4 * p.mantissa - (if p.narrowBelow then 1 else 2), 4 * p.mantissa, 4 * p.mantissa + 2)

/-- The point of the grid `10 ^ k` that is in the interval and nearest to the number, if any. The
ends of the interval belong to it when the mantissa is even; of two points equally near, the even
one is taken. -/
def Parts.onGrid (p : Parts) (k : Int) : Option Decimal :=
  let (low, mid, high) := p.window
  let unit := p.exponent - 2
  let a := Nat.pow 2 unit.toNat * Nat.pow 10 (-k).toNat
  let b := Nat.pow 2 (-unit).toNat * Nat.pow 10 k.toNat
  let inside (c : Nat) : Bool :=
    if p.mantissa % 2 = 0 then low * a ≤ c * b && c * b ≤ high * a
    else low * a < c * b && c * b < high * a
  let below := mid * a / b
  let above := below + 1
  let toBelow := mid * a - below * b
  let toAbove := above * b - mid * a
  if below ≠ 0 ∧ inside below ∧
      (¬ inside above ∨ toBelow < toAbove ∨ (toBelow = toAbove ∧ below % 2 = 0)) then
    some ⟨below, k⟩
  else if inside above then some ⟨above, k⟩
  else none

/-- The first grid with a hit, from `10 ^ k` down, over at most `fuel` grids. -/
def Parts.search (p : Parts) : Nat → Int → Decimal
  | 0, k => ⟨p.mantissa, k⟩
  | fuel + 1, k => (p.onGrid k).getD (p.search fuel (k - 1))

/-- The shortest decimal of a positive number. The first grid is coarser than the number itself, and
seventeen digits always suffice. -/
def Parts.shortest (p : Parts) : Decimal :=
  let magnitude : Int := p.mantissa.log2 + p.exponent + 1
  p.search 24 (magnitude * 30103 / 100000 + 2)

/-- Numbers from `10 ^ -5` to below `10 ^ 16` are written positionally, with a point and at least
one digit on either side of it; others have an exponent that shows its sign and is not padded. -/
def Decimal.chars (d : Decimal) : List Char :=
  let digits := Numeral.natChars d.digits
  let point : Int := digits.length + d.exponent
  if 0 ≤ d.exponent ∧ point ≤ 16 then
    digits ++ List.replicate d.exponent.toNat '0' ++ ['.', '0']
  else if 0 < point ∧ point ≤ 16 then
    digits.take point.toNat ++ ['.'] ++ digits.drop point.toNat
  else if -5 < point ∧ point ≤ 0 then
    ['0', '.'] ++ List.replicate (-point).toNat '0' ++ digits
  else
    let fraction := if digits.length ≤ 1 then [] else '.' :: digits.drop 1
    let sign := if 0 < point then ['+'] else []
    digits.take 1 ++ fraction ++ ['e'] ++ sign ++ Numeral.chars (point - 1)

/-- The text of a finite number. -/
def chars (bits : UInt64) : List Char :=
  let p := parts bits
  let sign : List Char := if p.negative then ['-'] else []
  if p.mantissa = 0 then sign ++ ['0', '.', '0'] else sign ++ p.shortest.chars

end ForumSummary.Binary64
