import ForumSummary.Json.Outline
import ForumSummary.Proofs.Text.Numeral

/-!
# Number literals

A literal of the grammar (`IsWellFormed`) is read from its text (`readLiteral_append`), as long as
nothing follows that would make it longer (`EndsLiteral`). So is the literal of an integer from the
numeral of the integer (`readLiteral_chars`). An integer that a 64-bit word holds, signed or
unsigned, is the value of its literal (`value?_ofInt`).
-/

namespace ForumSummary.Json

/-- A text of digits, one at least. -/
def AreDigits (cs : List Char) : Prop :=
  cs ≠ [] ∧ ∀ c ∈ cs, isDigit c = true

theorem areDigits_natChars (n : Nat) : AreDigits (Numeral.natChars n) :=
  ⟨Numeral.natChars_ne_nil n, Numeral.isSome_digit?_of_mem_natChars⟩

section
variable {digits : List Char} {n : Nat}

theorem AreDigits.take (h : AreDigits digits) (hn : 0 < n) : AreDigits (digits.take n) := by
  refine ⟨fun hnil => ?_, fun c hc => h.2 c (List.mem_of_mem_take hc)⟩
  rcases List.take_eq_nil_iff.1 hnil with hn' | hnil'
  · omega
  · exact h.1 hnil'

theorem AreDigits.drop (h : AreDigits digits) (hn : n < digits.length) :
    AreDigits (digits.drop n) := by
  refine ⟨fun hnil => ?_, fun c hc => h.2 c (List.mem_of_mem_drop hc)⟩
  have := List.drop_eq_nil_iff.1 hnil
  omega

end

namespace Literal

/-- A literal of the grammar: there are digits before the point, which do not begin with a zero
unless it stands alone, and behind the point, if there is one. -/
structure IsWellFormed (l : Literal) : Prop where
  whole : AreDigits l.whole
  leading : ∀ r, l.whole = '0' :: r → r = []
  fraction : ∀ digits, l.fraction = some digits → AreDigits digits

/-- The point and the digits behind it. -/
def fractionChars : Option (List Char) → List Char
  | none => []
  | some digits => '.' :: digits

/-- The letter of an exponent, its sign and its digits. -/
def exponentChars : Option Int → List Char
  | none => []
  | some n => 'e' :: (if 0 ≤ n then '+' else '-') :: Numeral.natChars n.natAbs

/-- The text of a literal. -/
def chars (l : Literal) : List Char :=
  (if l.negative then ['-'] else []) ++
    (l.whole ++ (fractionChars l.fraction ++ exponentChars l.exponent))

/-- The literal that writes an integer. -/
def ofInt (n : Int) : Literal :=
  ⟨n < 0, Numeral.natChars n.natAbs, none, none⟩

theorem isWellFormed_ofInt (n : Int) : (ofInt n).IsWellFormed where
  whole := areDigits_natChars n.natAbs
  leading r h := by
    have hzero := Numeral.eq_zero_of_natChars_eq_cons h
    rw [ofInt, hzero, Numeral.natChars_of_lt (by decide)] at h
    exact (List.cons.inj h).2.symm
  fraction := nofun

theorem chars_ofInt (n : Int) : (ofInt n).chars = Numeral.chars n := by
  unfold Numeral.chars
  split <;> simp_all [chars, ofInt, fractionChars, exponentChars]

end Literal

/-! ## Reading a literal -/

/-- A text does not begin with a digit. -/
def EndsDigits (rest : List Char) : Prop :=
  ∀ c r, rest = c :: r → isDigit c = false

/-- A text does not make a number literal before it longer. -/
def EndsLiteral (rest : List Char) : Prop :=
  ∀ c r, rest = c :: r → isDigit c = false ∧ c ≠ '.' ∧ c ≠ 'e' ∧ c ≠ 'E'

theorem endsLiteral_nil : EndsLiteral [] :=
  nofun

theorem endsLiteral_cons {c : Char} (hd : isDigit c = false) (hp : c ≠ '.') (he : c ≠ 'e')
    (hE : c ≠ 'E') (r : List Char) : EndsLiteral (c :: r) := by
  rintro c' r' h
  obtain ⟨rfl, -⟩ := List.cons.inj h
  exact ⟨hd, hp, he, hE⟩

variable {rest : List Char}

theorem EndsLiteral.endsDigits (h : EndsLiteral rest) : EndsDigits rest :=
  fun c r hr => (h c r hr).1

theorem endsDigits_cons {c : Char} (hc : isDigit c = false) (r : List Char) :
    EndsDigits (c :: r) := by
  rintro c' r' h
  rwa [← (List.cons.inj h).1]

theorem readDigits_append {digits : List Char} (hdigits : AreDigits digits)
    (hrest : EndsDigits rest) : readDigits (digits ++ rest) = some (digits, rest) := by
  have htake : rest.takeWhile isDigit = [] := by
    cases rest with
    | nil => rfl
    | cons c r => rw [List.takeWhile_cons_of_neg (by rw [hrest c r rfl]; decide)]
  have hdrop : rest.dropWhile isDigit = rest := by
    cases rest with
    | nil => rfl
    | cons c r => rw [List.dropWhile_cons_of_neg (by rw [hrest c r rfl]; decide)]
  unfold readDigits
  rw [List.takeWhile_append_of_pos hdigits.2, List.dropWhile_append_of_pos hdigits.2, htake, hdrop,
    List.append_nil]
  split
  · exact absurd rfl hdigits.1
  · rfl

theorem readWhole_append {whole : List Char} (hwhole : AreDigits whole)
    (hleading : ∀ r, whole = '0' :: r → r = []) (hrest : EndsDigits rest) :
    readWhole (whole ++ rest) = some (whole, rest) := by
  obtain ⟨c, r, rfl⟩ := List.exists_cons_of_ne_nil hwhole.1
  by_cases hc : c = '0'
  · -- A zero stands alone, and is read before it is asked what follows.
    subst hc
    obtain rfl := hleading r rfl
    show readWhole ('0' :: rest) = some (['0'], rest)
    cases rest with
    | nil => rfl
    | cons d s => simp only [readWhole, hrest d s rfl, Bool.false_eq_true, if_false]
  · have hdigits : readWhole (c :: r ++ rest) = readDigits (c :: r ++ rest) := by
      rw [List.cons_append, readWhole]
      rintro r' h
      exact absurd (List.cons.inj h).1 hc
    rw [hdigits]
    exact readDigits_append hwhole hrest

theorem readFraction_append {fraction : Option (List Char)}
    (hfraction : ∀ digits, fraction = some digits → AreDigits digits) (hrest : EndsDigits rest)
    (hpoint : ∀ r, rest ≠ '.' :: r) :
    readFraction (Literal.fractionChars fraction ++ rest) = some (fraction, rest) := by
  cases fraction with
  | none =>
    rw [Literal.fractionChars, List.nil_append, readFraction]
    exact fun r h => hpoint r h
  | some digits =>
    rw [Literal.fractionChars, List.cons_append, readFraction,
      readDigits_append (hfraction digits rfl) hrest]
    rfl

/-- The digits denote the number that they write. -/
theorem natOfDigits_natChars (n : Nat) : natOfDigits (Numeral.natChars n) = n := by
  have hdigit : ∀ d < 10, (Numeral.digitChar d).toNat - 0x30 = d := by decide
  induction n using Nat.strongRecOn with
  | ind n ih =>
    rcases Nat.lt_or_ge n 10 with h | h
    · rw [Numeral.natChars_of_lt h, natOfDigits, List.foldl_cons, hdigit n h, List.foldl_nil,
        Nat.zero_mul, Nat.zero_add]
    · have hinit := ih (n / 10) (by omega)
      rw [natOfDigits] at hinit
      rw [Numeral.natChars_eq_append h, natOfDigits, List.foldl_append, hinit, List.foldl_cons,
        hdigit _ (Nat.mod_lt n (by decide)), List.foldl_nil, Nat.div_add_mod']

theorem readExponent_append (exponent : Option Int) (hrest : EndsLiteral rest) :
    readExponent (Literal.exponentChars exponent ++ rest) = some (exponent, rest) := by
  cases exponent with
  | none =>
    rw [Literal.exponentChars, List.nil_append, readExponent]
    · rintro r rfl
      exact (hrest 'e' r rfl).2.2.1 rfl
    · rintro r rfl
      exact (hrest 'E' r rfl).2.2.2 rfl
  | some n =>
    have hread := readDigits_append (areDigits_natChars n.natAbs) hrest.endsDigits
    by_cases hn : 0 ≤ n
    · rw [Literal.exponentChars, if_pos hn, List.cons_append, List.cons_append, readExponent,
        readSignedExponent, hread]
      simp only [Option.map_some, natOfDigits_natChars, Int.natAbs_of_nonneg hn]
    · have hneg : -(n.natAbs : Int) = n := by omega
      rw [Literal.exponentChars, if_neg hn, List.cons_append, List.cons_append, readExponent,
        readSignedExponent, hread]
      simp only [Option.map_some, natOfDigits_natChars, hneg]

theorem endsDigits_exponentChars_append (exponent : Option Int) (hrest : EndsLiteral rest) :
    EndsDigits (Literal.exponentChars exponent ++ rest) := by
  cases exponent with
  | none => exact hrest.endsDigits
  | some n => exact endsDigits_cons (by decide) _

theorem endsDigits_fractionChars_append (fraction : Option (List Char))
    (hrest : EndsDigits rest) : EndsDigits (Literal.fractionChars fraction ++ rest) := by
  cases fraction with
  | none => exact hrest
  | some digits => exact endsDigits_cons (by decide) _

theorem readUnsignedLiteral_append {l : Literal} (h : l.IsWellFormed) (hrest : EndsLiteral rest) :
    readUnsignedLiteral l.negative (l.whole ++ (Literal.fractionChars l.fraction ++
      (Literal.exponentChars l.exponent ++ rest))) = some (l, rest) := by
  have hexponent := endsDigits_exponentChars_append l.exponent hrest
  have hpoint : ∀ r, Literal.exponentChars l.exponent ++ rest ≠ '.' :: r := by
    intro r hr
    cases he : l.exponent with
    | none =>
      rw [he] at hr
      exact (hrest '.' r hr).2.1 rfl
    | some n =>
      rw [he] at hr
      exact absurd (List.cons.inj hr).1 (by decide)
  simp only [readUnsignedLiteral,
    readWhole_append h.whole h.leading (endsDigits_fractionChars_append l.fraction hexponent),
    readFraction_append h.fraction hexponent hpoint, readExponent_append l.exponent hrest,
    Option.bind_eq_bind, Option.bind_some]
  rfl

/-- A literal is read from its text. -/
theorem readLiteral_append {l : Literal} (h : l.IsWellFormed) (hrest : EndsLiteral rest) :
    readLiteral (l.chars ++ rest) = some (l, rest) := by
  have hread := readUnsignedLiteral_append h hrest
  rw [Literal.chars, List.append_assoc, List.append_assoc, List.append_assoc]
  cases hsign : l.negative with
  | true =>
    rw [hsign] at hread
    rwa [if_pos rfl, List.singleton_append, readLiteral]
  | false =>
    rw [hsign] at hread
    rw [if_neg Bool.false_ne_true, List.nil_append]
    -- The first digit is no sign.
    obtain ⟨c, r, hcr⟩ := List.exists_cons_of_ne_nil h.whole.1
    have hdigit : isDigit c = true := h.whole.2 c (hcr ▸ List.mem_cons_self)
    rw [hcr] at hread ⊢
    rw [List.cons_append, readLiteral]
    · exact hread
    · rintro r' hr
      rw [(List.cons.inj hr).1] at hdigit
      cases hdigit

/-- The numeral of an integer is read as its literal. -/
theorem readLiteral_chars (n : Int) (hrest : EndsLiteral rest) :
    readLiteral (Numeral.chars n ++ rest) = some (Literal.ofInt n, rest) := by
  rw [← Literal.chars_ofInt]
  exact readLiteral_append (Literal.isWellFormed_ofInt n) hrest

/-! ## The value of a literal -/

theorem takeWord_append {acc m : Nat} {cs : List Char} (h : Literal.takeWord acc cs = (m, []))
    (rest : List Char) : Literal.takeWord acc (cs ++ rest) = Literal.takeWord m rest := by
  induction cs generalizing acc with
  | nil =>
    obtain rfl : acc = m := congrArg Prod.fst h
    rfl
  | cons c r ih =>
    simp only [List.cons_append, Literal.takeWord] at h ⊢
    split at h
    · next hfits => rw [if_pos hfits, ih h]
    · exact absurd (congrArg Prod.snd h) (List.cons_ne_nil c r)

/-- The digits of a number that fits a word are taken whole. -/
theorem takeWord_natChars {n : Nat} (hn : n < UInt64.size) :
    Literal.takeWord 0 (Numeral.natChars n) = (n, []) := by
  induction n using Nat.strongRecOn with
  | ind n ih =>
    have hdigit : ∀ d < 10, (Numeral.digitChar d).toNat - 0x30 = d := by decide
    rcases Nat.lt_or_ge n 10 with h | h
    · rw [Numeral.natChars_of_lt h]
      simp only [Literal.takeWord, hdigit n h, Nat.zero_mul, Nat.zero_add, if_pos hn]
    · have hfits : n / 10 * 10 + n % 10 = n := by omega
      rw [Numeral.natChars_eq_append h, takeWord_append (ih (n / 10) (by omega) (by omega))]
      simp only [Literal.takeWord, hdigit _ (Nat.mod_lt n (by decide)), hfits, if_pos hn]

/-- The value of the literal of an integer that is a word. -/
theorem value?_ofInt {n : Int} (h : IsWord n) : (Literal.ofInt n).value? = some (.int n h) := by
  obtain ⟨hlo, hhi⟩ := h
  have hmin : Int64.minValue.toInt = -9223372036854775808 := rfl
  have hsize : UInt64.size = 18446744073709551616 := rfl
  have hsigned : (if decide (n < 0) = true then -(n.natAbs : Int) else n.natAbs) = n := by
    by_cases hn : n < 0
    · rw [if_pos (decide_eq_true hn)]
      omega
    · rw [if_neg (by simpa using hn)]
      omega
  -- The sign is never that of a zero.
  have hzero : ¬ (decide (n < 0) = true ∧ n.natAbs = 0) := by
    rw [decide_eq_true_iff]
    omega
  unfold Literal.value? Literal.ofInt
  simp only [takeWord_natChars (n := n.natAbs) (by omega), hsigned]
  rw [dif_pos ⟨trivial, trivial, trivial, ⟨hlo, hhi⟩, hzero⟩]

end ForumSummary.Json
