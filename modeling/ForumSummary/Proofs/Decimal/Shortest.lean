import ForumSummary.Decimal.Shortest
import Mathlib.Algebra.Order.Field.Power
import Mathlib.Data.Rat.Cast.Order
import Mathlib.Tactic.Linarith
import Mathlib.Tactic.NormNum
import Mathlib.Tactic.Ring

/-!
# Decimals that round to a number

The decimal that a binary64 number is written with is rounded to this number, so that nothing is
lost in writing (`rounds_shortest`). A point that is found on a grid is rounded to the number
(`rounds_of_onGrid`), a grid that is fine enough has such a point (`isSome_onGrid`), and the search
gets as far as a grid that is fine enough (`fine_last`).
-/

namespace ForumSummary.Binary64

/-- The number that a decimal denotes. -/
def Decimal.value (d : Decimal) : ℚ :=
  d.digits * 10 ^ d.exponent

namespace Parts

/-- A number is rounded to the one of the parts, signs apart: it lies between the points halfway to
the next numbers on either side. The points themselves are rounded to a number with an even
mantissa. -/
def Rounds (p : Parts) (x : ℚ) : Prop :=
  let low := (p.mantissa - if p.narrowBelow then 1 / 4 else 1 / 2) * (2 : ℚ) ^ p.exponent
  let high := (p.mantissa + 1 / 2) * (2 : ℚ) ^ p.exponent
  if p.mantissa % 2 = 0 then low ≤ x ∧ x ≤ high else low < x ∧ x < high

/-- Zero is rounded to zero. -/
theorem rounds_zero {p : Parts} (h : p.mantissa = 0) : p.Rounds 0 := by
  have hunit : (0 : ℚ) < 2 ^ p.exponent := by positivity
  unfold Rounds
  rw [h, Nat.cast_zero, zero_sub, zero_add]
  refine ⟨mul_nonpos_of_nonpos_of_nonneg ?_ hunit.le, by positivity⟩
  split <;> norm_num

/-! ## Grids -/

/-- A power with an integer exponent is a quotient of powers with natural ones. -/
theorem pow_toNat_eq {x : ℚ} (hx : x ≠ 0) (n : ℤ) : x ^ n.toNat = x ^ (-n).toNat * x ^ n := by
  obtain ⟨m, rfl | rfl⟩ := n.eq_nat_or_neg
  · simp
  · simp [hx]

/-- The unit of the window, measured on a grid: the quotient of the two numbers is `2 ^ unit` over
`10 ^ k`. -/
def scaleUp (unit k : ℤ) : ℕ :=
  2 ^ unit.toNat * 10 ^ (-k).toNat

/-- The step of the grid, measured like the unit of the window. -/
def scaleDown (unit k : ℤ) : ℕ :=
  2 ^ (-unit).toNat * 10 ^ k.toNat

variable {unit k : ℤ}

theorem scaleDown_pos : 0 < scaleDown unit k := by
  unfold scaleDown
  positivity

theorem scaleUp_mul : (scaleUp unit k : ℚ) * 10 ^ k = scaleDown unit k * 2 ^ unit := by
  have htwo := pow_toNat_eq (two_ne_zero : (2 : ℚ) ≠ 0) unit
  have hten := pow_toNat_eq (by norm_num : (10 : ℚ) ≠ 0) k
  unfold scaleUp scaleDown
  push_cast
  rw [htwo, hten]
  ring

section
variable {m c : ℕ}

theorem cast_mul_scaleUp :
    ((m * scaleUp unit k : ℕ) : ℚ) * 10 ^ k = scaleDown unit k * (m * 2 ^ unit) := by
  push_cast
  rw [mul_assoc, scaleUp_mul]
  ring

theorem cast_mul_scaleDown :
    ((c * scaleDown unit k : ℕ) : ℚ) * 10 ^ k = scaleDown unit k * (c * 10 ^ k) := by
  push_cast
  ring

/-- Multiples of the unit and of the step are compared as natural numbers. -/
theorem scaleUp_le_scaleDown_iff : m * scaleUp unit k ≤ c * scaleDown unit k ↔
    (m : ℚ) * 2 ^ unit ≤ c * 10 ^ k := by
  have hten : (0 : ℚ) < 10 ^ k := by positivity
  have hdown : (0 : ℚ) < scaleDown unit k := Nat.cast_pos.2 scaleDown_pos
  rw [← @Nat.cast_le ℚ, ← mul_le_mul_iff_left₀ hten, cast_mul_scaleUp, cast_mul_scaleDown,
    mul_le_mul_iff_right₀ hdown]

theorem scaleDown_le_scaleUp_iff : c * scaleDown unit k ≤ m * scaleUp unit k ↔
    (c : ℚ) * 10 ^ k ≤ m * 2 ^ unit := by
  have hten : (0 : ℚ) < 10 ^ k := by positivity
  have hdown : (0 : ℚ) < scaleDown unit k := Nat.cast_pos.2 scaleDown_pos
  rw [← @Nat.cast_le ℚ, ← mul_le_mul_iff_left₀ hten, cast_mul_scaleUp, cast_mul_scaleDown,
    mul_le_mul_iff_right₀ hdown]

end

variable {p : Parts}

/-- A point of a grid is between the ends of the window. -/
def inside (p : Parts) (k : ℤ) (c : ℕ) : Bool :=
  let point := c * scaleDown (p.exponent - 2) k
  let low := p.window.1 * scaleUp (p.exponent - 2) k
  let high := p.window.2.2 * scaleUp (p.exponent - 2) k
  if p.mantissa % 2 = 0 then low ≤ point && point ≤ high else low < point && point < high

/-- The last point of a grid that is not above the number. -/
def below (p : Parts) (k : ℤ) : ℕ :=
  p.window.2.1 * scaleUp (p.exponent - 2) k / scaleDown (p.exponent - 2) k

/-- A grid gives one of the two points next to the number, if one of them is inside. -/
theorem onGrid_eq (p : Parts) (k : ℤ) : p.onGrid k =
    let number := p.window.2.1 * scaleUp (p.exponent - 2) k
    let toBelow := number - p.below k * scaleDown (p.exponent - 2) k
    let toAbove := (p.below k + 1) * scaleDown (p.exponent - 2) k - number
    if p.below k ≠ 0 ∧ p.inside k (p.below k) ∧ (¬ p.inside k (p.below k + 1) ∨
        toBelow < toAbove ∨ (toBelow = toAbove ∧ p.below k % 2 = 0)) then some ⟨p.below k, k⟩
    else if p.inside k (p.below k + 1) then some ⟨p.below k + 1, k⟩
    else none :=
  rfl

theorem rounds_iff_inside (hp : 0 < p.mantissa) {c : ℕ} :
    p.Rounds (c * 10 ^ k) ↔ p.inside k c = true := by
  have hunit : (2 : ℚ) ^ (p.exponent - 2) = 2 ^ p.exponent / 4 := by
    rw [zpow_sub₀ two_ne_zero]
    norm_num
  have hlow : (p.window.1 : ℚ) * 2 ^ (p.exponent - 2) =
      (p.mantissa - if p.narrowBelow then 1 / 4 else 1 / 2) * (2 : ℚ) ^ p.exponent := by
    rw [hunit, window]
    cases p.narrowBelow with
    | true =>
      rw [if_pos rfl, if_pos rfl, Nat.cast_sub (by omega)]
      push_cast
      ring
    | false =>
      rw [if_neg Bool.false_ne_true, if_neg Bool.false_ne_true, Nat.cast_sub (by omega)]
      push_cast
      ring
  have hhigh : (p.window.2.2 : ℚ) * 2 ^ (p.exponent - 2) =
      (p.mantissa + 1 / 2) * (2 : ℚ) ^ p.exponent := by
    rw [hunit, window]
    push_cast
    ring
  unfold Rounds inside
  simp only [← not_le]
  split <;> simp [scaleUp_le_scaleDown_iff, scaleDown_le_scaleUp_iff, hlow, hhigh]

/-- A point that is taken from a grid is rounded to the number. -/
theorem rounds_of_onGrid (hp : 0 < p.mantissa) {d : Decimal} (h : p.onGrid k = some d) :
    0 < d.digits ∧ p.Rounds d.value := by
  rw [onGrid_eq] at h
  simp only at h
  split at h
  · next hbelow =>
    cases h
    exact ⟨Nat.pos_of_ne_zero hbelow.1, (rounds_iff_inside hp).2 hbelow.2.1⟩
  · split at h
    · next habove =>
      cases h
      exact ⟨Nat.succ_pos _, (rounds_iff_inside hp).2 habove⟩
    · cases h

/-- On a grid whose step is at most the unit of the window, the point above the number is inside. -/
theorem inside_below_add_one
    (hfine : scaleDown (p.exponent - 2) k ≤ scaleUp (p.exponent - 2) k) :
    p.inside k (p.below k + 1) = true := by
  have hmod := Nat.mod_lt (p.window.2.1 * scaleUp (p.exponent - 2) k)
    (@scaleDown_pos (p.exponent - 2) k)
  have hdiv := Nat.div_add_mod' (p.window.2.1 * scaleUp (p.exponent - 2) k)
    (scaleDown (p.exponent - 2) k)
  have hlow : p.window.1 * scaleUp (p.exponent - 2) k ≤
      p.window.2.1 * scaleUp (p.exponent - 2) k := Nat.mul_le_mul_right _ (Nat.sub_le _ _)
  have hhigh : p.window.2.2 * scaleUp (p.exponent - 2) k =
      p.window.2.1 * scaleUp (p.exponent - 2) k + 2 * scaleUp (p.exponent - 2) k :=
    Nat.add_mul _ _ _
  have hpoint : (p.below k + 1) * scaleDown (p.exponent - 2) k =
      p.below k * scaleDown (p.exponent - 2) k + scaleDown (p.exponent - 2) k := Nat.succ_mul _ _
  rw [← below] at hdiv
  unfold inside
  rw [hpoint, hhigh]
  split <;> simp only [Bool.and_eq_true, decide_eq_true_eq] <;> omega

/-- A grid whose step is at most the unit of the window has a point inside. -/
theorem isSome_onGrid (hfine : scaleDown (p.exponent - 2) k ≤ scaleUp (p.exponent - 2) k) :
    (p.onGrid k).isSome = true := by
  have habove := inside_below_add_one hfine
  rw [onGrid_eq]
  simp only
  split <;> rfl

/-! ## The search -/

/-- A search that comes to a grid with a hit gives a hit. -/
theorem exists_search {fuel : ℕ} (h : (p.onGrid (k - fuel)).isSome = true) :
    ∃ grid, p.onGrid grid = some (p.search (fuel + 1) k) := by
  induction fuel generalizing k with
  | zero =>
    rw [Nat.cast_zero, sub_zero] at h
    obtain ⟨d, hd⟩ := Option.isSome_iff_exists.1 h
    exact ⟨k, by rw [search, hd, Option.getD_some]⟩
  | succ fuel ih =>
    cases hgrid : p.onGrid k with
    | some d => exact ⟨k, by rw [search, hgrid, Option.getD_some]⟩
    | none =>
      rw [search, hgrid, Option.getD_none]
      refine ih ?_
      rwa [sub_sub, add_comm (1 : ℤ), ← Nat.cast_succ]

/-- A power of ten is compared with a power of two through powers with a common exponent. -/
theorem ten_zpow_le_of_approx {q r : ℕ} (hq : 0 < q)
    (happrox : ((10 : ℚ) ^ r) ^ unit ≤ (2 ^ q) ^ unit) (h : q * k ≤ r * unit) :
    (10 : ℚ) ^ k ≤ 2 ^ unit := by
  refine le_of_pow_le_pow_left₀ hq.ne' (by positivity) ?_
  calc ((10 : ℚ) ^ k) ^ q = 10 ^ (q * k) := by rw [mul_comm, zpow_mul, zpow_natCast]
    _ ≤ 10 ^ (r * unit) := zpow_le_zpow_right₀ (by norm_num) h
    _ = (10 ^ r) ^ unit := by rw [zpow_mul, zpow_natCast]
    _ ≤ (2 ^ q) ^ unit := happrox
    _ = (2 ^ unit) ^ q := by rw [← zpow_natCast, ← zpow_mul, mul_comm, zpow_mul, zpow_natCast]

/-- A power of ten is at most a power of two whose exponent is greater by the factor `log₂ 10` and a
margin. -/
theorem ten_zpow_le_two_zpow (hlow : -2000 ≤ unit) (hhigh : unit ≤ 2000)
    (h : 100000 * k ≤ 30103 * unit - 400000) : (10 : ℚ) ^ k ≤ 2 ^ unit := by
  -- The logarithm lies between `196 / 59` and `93 / 28`; the side depends on the sign.
  rcases le_total 0 unit with hsign | hsign
  · have happrox : ((10 : ℚ) ^ 59) ^ unit ≤ (2 ^ 196) ^ unit :=
      zpow_le_zpow_left₀ hsign (by positivity) (by norm_num)
    exact ten_zpow_le_of_approx (by decide) happrox (by omega)
  · have happrox : ((10 : ℚ) ^ 28) ^ unit ≤ (2 ^ 93) ^ unit := by
      have hinv : ((2 : ℚ) ^ 93) ^ (-unit) ≤ (10 ^ 28) ^ (-unit) :=
        zpow_le_zpow_left₀ (by omega) (by positivity) (by norm_num)
      rw [zpow_neg, zpow_neg] at hinv
      exact (inv_le_inv₀ (by positivity) (by positivity)).1 hinv
    exact ten_zpow_le_of_approx (by decide) happrox (by omega)

theorem scaleDown_le_scaleUp (h : (10 : ℚ) ^ k ≤ 2 ^ unit) : scaleDown unit k ≤ scaleUp unit k := by
  have hle := (@scaleDown_le_scaleUp_iff unit k 1 1).2 (by simpa using h)
  simpa using hle

/-- The mantissa of a number has 53 binary digits at most, and its exponent 11. -/
theorem parts_bounds (bits : UInt64) :
    (parts bits).mantissa < 2 ^ 53 ∧ -1074 ≤ (parts bits).exponent ∧
      (parts bits).exponent ≤ 972 := by
  have hfraction : bits.toNat % 2 ^ 52 < 2 ^ 52 := Nat.mod_lt _ (by decide)
  have hbiased : bits.toNat / 2 ^ 52 % 2 ^ 11 < 2 ^ 11 := Nat.mod_lt _ (by decide)
  unfold parts
  simp only [Nat.pow_eq]
  split
  · exact ⟨hfraction.trans (by decide), le_rfl, (by decide : (-1074 : ℤ) ≤ 972)⟩
  · simp only
    omega

/-- The decimal that a positive number is written with is positive and is rounded to this number. -/
theorem rounds_shortest {bits : UInt64} (h : 0 < (parts bits).mantissa) :
    0 < (parts bits).shortest.digits ∧ (parts bits).Rounds (parts bits).shortest.value := by
  obtain ⟨hmantissa, hlow, hhigh⟩ := parts_bounds bits
  have hlog : (parts bits).mantissa.log2 ≤ 52 :=
    Nat.lt_succ_iff.1 ((Nat.log2_lt h.ne').2 hmantissa)
  -- The step of the last of the 24 grids is small enough.
  have hlast : 100000 * ((((parts bits).mantissa.log2 : ℤ) + (parts bits).exponent + 1) * 30103 /
      100000 + 2 - (23 : ℕ)) ≤ 30103 * ((parts bits).exponent - 2) - 400000 := by omega
  have hfine := ten_zpow_le_two_zpow (by omega) (by omega) hlast
  obtain ⟨grid, hgrid⟩ := exists_search (isSome_onGrid (scaleDown_le_scaleUp hfine))
  exact rounds_of_onGrid h hgrid

end Parts

end ForumSummary.Binary64
