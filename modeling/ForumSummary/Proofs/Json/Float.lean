import ForumSummary.Proofs.Decimal.Shortest
import ForumSummary.Proofs.Json.Literal

/-!
# Binary64 numbers in a JSON text

A decimal is written as a literal of the grammar, with the point among the digits, before them or
behind them, or with an exponent (`chars_ofDecimal`). The literal denotes this decimal
(`magnitude_ofDecimal`), so a binary64 number is written as a number literal that is rounded to it
(`exists_readLiteral_float`).
-/

namespace ForumSummary.Json

open Binary64 (Decimal parts)

/-- Zeros in front of digits do not count. -/
theorem natOfDigits_replicate_append (n : Nat) (cs : List Char) :
    natOfDigits (List.replicate n '0' ++ cs) = natOfDigits cs := by
  induction n with
  | zero => rfl
  | succ n ih => exact ih

/-- Zeros behind digits count as powers of ten. -/
theorem natOfDigits_append_replicate (cs : List Char) (n : Nat) :
    natOfDigits (cs ++ List.replicate n '0') = natOfDigits cs * 10 ^ n := by
  induction n with
  | zero => rw [List.replicate_zero, List.append_nil, Nat.pow_zero, Nat.mul_one]
  | succ n ih =>
    rw [List.replicate_succ', ← List.append_assoc, natOfDigits, List.foldl_append,
      ← natOfDigits, ih, Nat.pow_succ, ← Nat.mul_assoc]
    rfl

namespace Literal

/-- The decimal that a literal denotes, signs apart. -/
def magnitude (l : Literal) : ℚ :=
  natOfDigits (l.whole ++ l.fraction.getD []) *
    10 ^ (l.exponent.getD 0 - (l.fraction.getD []).length)

/-- The decimal that a literal denotes has the sign of a binary64 number and is rounded to it. -/
def IsRoundedTo (l : Literal) (bits : UInt64) : Prop :=
  l.negative = (parts bits).negative ∧ (parts bits).Rounds l.magnitude

/-- The literal that a decimal is written as. -/
def ofDecimal (negative : Bool) (d : Decimal) : Literal :=
  let digits := Numeral.natChars d.digits
  let point : Int := digits.length + d.exponent
  if 0 ≤ d.exponent ∧ point ≤ 16 then
    ⟨negative, digits ++ List.replicate d.exponent.toNat '0', some ['0'], none⟩
  else if 0 < point ∧ point ≤ 16 then
    ⟨negative, digits.take point.toNat, some (digits.drop point.toNat), none⟩
  else if -5 < point ∧ point ≤ 0 then
    ⟨negative, ['0'], some (List.replicate (-point).toNat '0' ++ digits), none⟩
  else
    ⟨negative, digits.take 1, if digits.length ≤ 1 then none else some (digits.drop 1),
      some (point - 1)⟩

/-- An exponent shows its sign. -/
theorem exponentChars_sub_one (point : Int) :
    exponentChars (some (point - 1)) =
      ['e'] ++ ((if 0 < point then ['+'] else []) ++ Numeral.chars (point - 1)) := by
  unfold Numeral.chars
  by_cases hpos : 0 < point
  · rw [exponentChars, if_pos (by omega), if_pos hpos, if_neg (by omega)]
    rfl
  · rw [exponentChars, if_neg (by omega), if_neg hpos, if_pos (by omega)]
    rfl

theorem chars_ofDecimal (negative : Bool) (d : Decimal) :
    (ofDecimal negative d).chars = (if negative then ['-'] else []) ++ d.chars := by
  unfold ofDecimal Decimal.chars
  simp only
  split
  · simp [chars, fractionChars, exponentChars]
  split
  · simp [chars, fractionChars, exponentChars]
  split
  · simp [chars, fractionChars, exponentChars]
  · rw [chars, exponentChars_sub_one]
    by_cases hone : (Numeral.natChars d.digits).length ≤ 1
    · simp [hone, fractionChars]
    · simp [hone, fractionChars]

theorem negative_ofDecimal (negative : Bool) (d : Decimal) :
    (ofDecimal negative d).negative = negative := by
  unfold ofDecimal
  simp only
  split_ifs <;> rfl

theorem isWellFormed_ofDecimal (negative : Bool) {d : Decimal} (h : 0 < d.digits) :
    (ofDecimal negative d).IsWellFormed := by
  have hdigits := areDigits_natChars d.digits
  have hleading : ∀ r, Numeral.natChars d.digits ≠ '0' :: r :=
    fun r hr => h.ne' (Numeral.eq_zero_of_natChars_eq_cons hr)
  have hzeros (n : Nat) : ∀ c ∈ List.replicate n '0', isDigit c = true := by
    intro c hc
    rw [List.eq_of_mem_replicate hc]
    rfl
  have hzero : AreDigits ['0'] := ⟨List.cons_ne_nil _ _, hzeros 1⟩
  unfold ofDecimal
  generalize Numeral.natChars d.digits = digits at hdigits hleading
  have htake (n : Nat) : ∀ r, digits.take n = '0' :: r → r = [] := by
    intro r hr
    rw [← List.take_append_drop n digits, hr] at hleading
    exact absurd rfl (hleading _)
  simp only
  split
  · refine ⟨⟨List.append_ne_nil_of_left_ne_nil hdigits.1 _,
      List.forall_mem_append.2 ⟨hdigits.2, hzeros _⟩⟩, fun r hr => ?_, ?_⟩
    · obtain ⟨c, s, rfl⟩ := List.exists_cons_of_ne_nil hdigits.1
      exact absurd (congrArg (· :: s) (List.cons.inj hr).1) (hleading s)
    · rintro _ ⟨⟩
      exact hzero
  split
  · next hexponent hpoint =>
    refine ⟨hdigits.take (by omega), htake _, ?_⟩
    rintro _ ⟨⟩
    exact hdigits.drop (by omega)
  split
  · refine ⟨hzero, fun r hr => (List.cons.inj hr).2.symm, ?_⟩
    rintro _ ⟨⟩
    exact ⟨List.append_ne_nil_of_right_ne_nil _ hdigits.1,
      List.forall_mem_append.2 ⟨hzeros _, hdigits.2⟩⟩
  · refine ⟨hdigits.take Nat.one_pos, htake 1, fun fraction hfraction => ?_⟩
    split at hfraction
    · cases hfraction
    · next hmore =>
      cases hfraction
      exact hdigits.drop (by omega)

theorem magnitude_ofDecimal (negative : Bool) (d : Decimal) :
    (ofDecimal negative d).magnitude = d.value := by
  have hvalue : d.value = natOfDigits (Numeral.natChars d.digits) * 10 ^ d.exponent := by
    rw [natOfDigits_natChars]
    rfl
  have hlength := List.length_pos_iff.2 (Numeral.natChars_ne_nil d.digits)
  rw [hvalue]
  unfold ofDecimal
  generalize Numeral.natChars d.digits = digits at hlength
  simp only
  split
  · next hpoint =>
    obtain ⟨n, hn⟩ := Int.eq_ofNat_of_zero_le hpoint.1
    have hdigits := natOfDigits_append_replicate digits (n + 1)
    rw [List.replicate_succ', ← List.append_assoc] at hdigits
    have htenth : (10 : ℚ) ^ ((0 : ℤ) - (1 : ℕ)) = 1 / 10 := by norm_num
    simp only [magnitude, Option.getD_some, Option.getD_none, hn, Int.toNat_natCast, hdigits,
      List.length_singleton, htenth, zpow_natCast]
    push_cast
    ring
  split
  · next hexponent hpoint =>
    simp only [magnitude, Option.getD_some, Option.getD_none, List.take_append_drop]
    congr 2
    rw [List.length_drop]
    omega
  split
  · next hsmall =>
    have hdigits (n : Nat) : natOfDigits (['0'] ++ (List.replicate n '0' ++ digits)) =
        natOfDigits digits := natOfDigits_replicate_append (n + 1) digits
    simp only [magnitude, Option.getD_some, Option.getD_none, List.length_append,
      List.length_replicate, hdigits]
    congr 2
    omega
  · by_cases hone : digits.length ≤ 1
    · simp only [magnitude, if_pos hone, Option.getD_none, Option.getD_some, List.append_nil,
        List.take_of_length_le hone, List.length_nil]
      congr 2
      omega
    · simp only [magnitude, if_neg hone, Option.getD_some, List.take_append_drop]
      congr 2
      rw [List.length_drop]
      omega

/-- The literal that a binary64 number is written as. -/
def ofFloat (bits : UInt64) : Literal :=
  if (parts bits).mantissa = 0 then ⟨(parts bits).negative, ['0'], some ['0'], none⟩
  else ofDecimal (parts bits).negative (parts bits).shortest

theorem chars_ofFloat (bits : UInt64) : (ofFloat bits).chars = Binary64.chars bits := by
  unfold ofFloat Binary64.chars
  simp only
  split
  · rfl
  · exact chars_ofDecimal _ _

theorem isWellFormed_ofFloat (bits : UInt64) : (ofFloat bits).IsWellFormed := by
  unfold ofFloat
  split
  · have hzero := areDigits_natChars 0
    rw [Numeral.natChars_of_lt (by decide)] at hzero
    exact ⟨hzero, fun r hr => (List.cons.inj hr).2.symm, fun _ h => Option.some.inj h ▸ hzero⟩
  · next hmantissa =>
    exact isWellFormed_ofDecimal _
      (Binary64.Parts.rounds_shortest (Nat.pos_of_ne_zero hmantissa)).1

theorem isRoundedTo_ofFloat (bits : UInt64) : (ofFloat bits).IsRoundedTo bits := by
  unfold ofFloat
  split
  · next hmantissa =>
    have hzero : magnitude ⟨(parts bits).negative, ['0'], some ['0'], none⟩ = 0 := by
      have hdigits : natOfDigits ['0', '0'] = 0 := rfl
      simp [magnitude, hdigits]
    exact ⟨rfl, hzero ▸ Binary64.Parts.rounds_zero hmantissa⟩
  · next hmantissa =>
    refine ⟨negative_ofDecimal _ _, ?_⟩
    rw [magnitude_ofDecimal]
    exact (Binary64.Parts.rounds_shortest (Nat.pos_of_ne_zero hmantissa)).2

end Literal

/-- A binary64 number is written as a number literal of its sign that is rounded to it. -/
theorem exists_readLiteral_float {rest : List Char} (bits : UInt64) (hrest : EndsLiteral rest) :
    ∃ l : Literal, readLiteral (Binary64.chars bits ++ rest) = some (l, rest) ∧
      l.IsRoundedTo bits := by
  refine ⟨.ofFloat bits, ?_, Literal.isRoundedTo_ofFloat bits⟩
  rw [← Literal.chars_ofFloat]
  exact readLiteral_append (Literal.isWellFormed_ofFloat bits) hrest

end ForumSummary.Json
