import ForumSummary.Proofs.Text.Numeral
import Mathlib.Data.Nat.Digits.Defs
import Mathlib.Tactic.Ring

/-!
# Texts that denote integers

A text denotes an integer when it consists of an optional sign and decimal digits, one at least
(`Denotes`). Zeros may stand in front, and zero may have either sign. A reader accepts exactly the
texts that denote an integer between its bounds, and reads this integer (`readBetween_eq_ok_iff`).
A reader of natural numbers does so, too, but for texts with a minus sign
(`readBetween_zero_eq_ok_iff`).
-/

namespace ForumSummary.Numeral

/-- Digits, one at least, write a number: the last digit counts once, the one before it ten times,
and so on. -/
def Spells (cs : List Char) (n : Nat) : Prop :=
  ∃ ds : List Nat, ds ≠ [] ∧ (∀ d ∈ ds, d < 10) ∧ cs = ds.map digitChar ∧
    n = Nat.ofDigits 10 ds.reverse

/-- A text denotes an integer: an optional sign and the digits of its absolute value. -/
inductive Denotes : List Char → Int → Prop where
  | unsigned {cs : List Char} {n : Nat} (h : Spells cs n) : Denotes cs n
  | plus {cs : List Char} {n : Nat} (h : Spells cs n) : Denotes ('+' :: cs) n
  | minus {cs : List Char} {n : Nat} (h : Spells cs n) : Denotes ('-' :: cs) (-n)

/-! ## Digits -/

section
variable {limit : Nat} {excess : Error}

/-- A digit behind a number makes the number ten times as great. -/
theorem ofDigits_reverse_cons_cons (acc d : Nat) (ds : List Nat) :
    Nat.ofDigits 10 (acc :: d :: ds).reverse = Nat.ofDigits 10 ((acc * 10 + d) :: ds).reverse := by
  simp only [List.reverse_cons, Nat.ofDigits_append, Nat.ofDigits_singleton, List.length_append,
    List.length_singleton, pow_succ]
  ring

theorem le_ofDigits_reverse_cons (acc : Nat) (ds : List Nat) :
    acc ≤ Nat.ofDigits 10 (acc :: ds).reverse := by
  rw [List.reverse_cons, Nat.ofDigits_append, Nat.ofDigits_singleton]
  exact Nat.le_add_left_of_le (Nat.le_mul_of_pos_left acc (by positivity))

/-- Digits are read after a number when they are digits and do not take it past the limit. -/
theorem accumulate_eq_ok_iff {acc n : Nat} (hacc : acc ≤ limit) {cs : List Char} :
    accumulate limit excess acc cs = .ok n ↔ ∃ ds : List Nat, (∀ d ∈ ds, d < 10) ∧
      cs = ds.map digitChar ∧ n = Nat.ofDigits 10 (acc :: ds).reverse ∧ n ≤ limit := by
  induction cs generalizing acc with
  | nil =>
    constructor
    · intro h
      cases h
      exact ⟨[], nofun, rfl, by simp, hacc⟩
    · rintro ⟨ds, -, hds, rfl, -⟩
      obtain rfl := List.map_eq_nil_iff.1 hds.symm
      simp [accumulate]
  | cons c r ih =>
    rw [accumulate]
    constructor
    · intro h
      split at h
      · cases h
      · next d hd =>
        split at h
        · next hle =>
          obtain ⟨ds, hds, rfl, hvalue, hn⟩ := (ih hle).1 h
          obtain ⟨d', hd', rfl⟩ := exists_eq_digitChar (by rw [hd]; rfl)
          obtain rfl := Option.some.inj ((digit?_digitChar hd').symm.trans hd)
          rw [← ofDigits_reverse_cons_cons] at hvalue
          exact ⟨d' :: ds, List.forall_mem_cons.2 ⟨hd', hds⟩, rfl, hvalue, hn⟩
        · cases h
    · rintro ⟨ds, hds, hcs, hvalue, hn⟩
      cases ds with
      | nil => cases hcs
      | cons d ds =>
        obtain ⟨hd, hmore⟩ := List.forall_mem_cons.1 hds
        obtain ⟨rfl, rfl⟩ := List.cons.inj hcs
        rw [ofDigits_reverse_cons_cons] at hvalue
        have hle : acc * 10 + d ≤ limit :=
          (le_ofDigits_reverse_cons _ ds).trans (hvalue ▸ hn)
        simp only [digit?_digitChar hd, if_pos hle]
        exact (ih hle).2 ⟨ds, hmore, rfl, hvalue, hn⟩

theorem magnitude_eq_ok_iff {cs : List Char} {n : Nat} :
    magnitude limit excess cs = .ok n ↔ Spells cs n ∧ n ≤ limit := by
  cases cs with
  | nil =>
    refine iff_of_false nofun ?_
    rintro ⟨⟨ds, hne, -, hds, -⟩, -⟩
    exact hne (List.map_eq_nil_iff.1 hds.symm)
  | cons c r =>
    rw [magnitude, accumulate_eq_ok_iff (Nat.zero_le limit)]
    · constructor
      · rintro ⟨ds, hds, hcs, hn, hle⟩
        refine ⟨⟨ds, ?_, hds, hcs, ?_⟩, hle⟩
        · rintro rfl
          cases hcs
        · simpa using hn
      · rintro ⟨⟨ds, -, hds, hcs, hn⟩, hle⟩
        exact ⟨ds, hds, hcs, by simpa using hn, hle⟩
    · exact nofun

end

/-! ## Signs -/

section
variable {cs r : List Char} {n : Int}

/-- Digits begin with a digit. -/
theorem Spells.exists_cons {m : Nat} (h : Spells cs m) :
    ∃ c r, cs = c :: r ∧ (digit? c).isSome = true := by
  obtain ⟨ds, hne, hds, rfl, -⟩ := h
  obtain ⟨d, more, rfl⟩ := List.exists_cons_of_ne_nil hne
  refine ⟨digitChar d, more.map digitChar, rfl, ?_⟩
  rw [digit?_digitChar (hds d List.mem_cons_self)]
  rfl

theorem Spells.not_cons_sign {m : Nat} {c : Char} (hc : digit? c = none) :
    ¬ Spells (c :: r) m := by
  intro h
  obtain ⟨d, s, hcons, hd⟩ := h.exists_cons
  obtain ⟨rfl, -⟩ := List.cons.inj hcons
  rw [hc] at hd
  cases hd

theorem not_denotes_nil : ¬ Denotes [] n := by
  rintro ⟨h⟩
  obtain ⟨_, _, hcons, -⟩ := h.exists_cons
  cases hcons

theorem denotes_plus_iff : Denotes ('+' :: r) n ↔ ∃ m : Nat, Spells r m ∧ n = m := by
  constructor
  · rintro (h | h | h)
    · exact absurd h (Spells.not_cons_sign (by decide))
    · exact ⟨_, h, rfl⟩
  · rintro ⟨m, h, rfl⟩
    exact .plus h

theorem denotes_minus_iff : Denotes ('-' :: r) n ↔ ∃ m : Nat, Spells r m ∧ n = -m := by
  constructor
  · rintro (h | h | h)
    · exact absurd h (Spells.not_cons_sign (by decide))
    · exact ⟨_, h, rfl⟩
  · rintro ⟨m, h, rfl⟩
    exact .minus h

theorem denotes_unsigned_iff {c : Char} (hplus : c ≠ '+') (hminus : c ≠ '-') :
    Denotes (c :: r) n ↔ ∃ m : Nat, Spells (c :: r) m ∧ n = m := by
  constructor
  · rintro (h | h | h)
    · exact ⟨_, h, rfl⟩
    · exact absurd rfl hplus
    · exact absurd rfl hminus
  · rintro ⟨m, h, rfl⟩
    exact .unsigned h

/-! ## Reading -/

theorem map_magnitude_eq_ok_iff {limit : Nat} {excess : Error} {sign : Nat → Int} :
    (magnitude limit excess cs).map sign = .ok n ↔ ∃ m, Spells cs m ∧ m ≤ limit ∧ n = sign m := by
  constructor
  · intro h
    cases hm : magnitude limit excess cs with
    | error e => rw [hm] at h; cases h
    | ok m =>
      rw [hm] at h
      cases h
      obtain ⟨hspells, hle⟩ := magnitude_eq_ok_iff.1 hm
      exact ⟨m, hspells, hle, rfl⟩
  · rintro ⟨m, hspells, hle, rfl⟩
    rw [magnitude_eq_ok_iff.2 ⟨hspells, hle⟩]
    rfl

variable {lo hi : Int} (hhi : 0 ≤ hi)

/-- What does not begin with a sign is read as digits. -/
theorem readBetween_of_unsigned {c : Char} (hplus : c ≠ '+') (hminus : c ≠ '-') :
    readBetween lo hi (c :: r) = (magnitude hi.toNat .tooLarge (c :: r)).map Int.ofNat := by
  rw [readBetween]
  · exact List.cons_ne_nil c r
  · rintro s h
    exact hplus (List.cons.inj h).1
  · rintro s h
    exact hminus (List.cons.inj h).1

include hhi

theorem map_ofNat_magnitude_eq_ok_iff {digits : List Char} :
    (magnitude hi.toNat .tooLarge digits).map Int.ofNat = .ok n ↔
      (∃ m : Nat, Spells digits m ∧ n = m) ∧ n ≤ hi := by
  rw [map_magnitude_eq_ok_iff]
  constructor
  · rintro ⟨m, h, hle, rfl⟩
    rw [Int.ofNat_eq_natCast]
    exact ⟨⟨m, h, rfl⟩, by omega⟩
  · rintro ⟨⟨m, h, rfl⟩, hle⟩
    exact ⟨m, h, by omega, rfl⟩

/-- A reader reads the texts that denote an integer between its bounds. -/
theorem readBetween_eq_ok_iff (hlo : lo < 0) :
    readBetween lo hi cs = .ok n ↔ Denotes cs n ∧ lo ≤ n ∧ n ≤ hi := by
  -- Without a minus sign the number meets the lower bound.
  have hlower {digits : List Char} (h : ∃ m : Nat, Spells digits m ∧ n = m) : lo ≤ n := by
    obtain ⟨m, -, rfl⟩ := h
    omega
  cases cs with
  | nil =>
    refine iff_of_false (fun h => ?_) fun h => not_denotes_nil h.1
    cases h
  | cons c r =>
    by_cases hplus : c = '+'
    · subst hplus
      rw [readBetween, map_ofNat_magnitude_eq_ok_iff hhi, denotes_plus_iff]
      exact and_congr_right fun h => (and_iff_right (hlower h)).symm
    · by_cases hminus : c = '-'
      · subst hminus
        rw [readBetween, if_pos hlo, map_magnitude_eq_ok_iff, denotes_minus_iff]
        constructor
        · rintro ⟨m, h, hle, rfl⟩
          rw [Int.ofNat_eq_natCast]
          exact ⟨⟨m, h, rfl⟩, by omega, by omega⟩
        · rintro ⟨⟨m, h, rfl⟩, hle, -⟩
          exact ⟨m, h, by omega, rfl⟩
      · rw [readBetween_of_unsigned hplus hminus, map_ofNat_magnitude_eq_ok_iff hhi,
          denotes_unsigned_iff hplus hminus]
        exact and_congr_right fun h => (and_iff_right (hlower h)).symm

/-- A reader of natural numbers takes no minus sign, not even before zero. -/
theorem readBetween_zero_eq_ok_iff : readBetween 0 hi cs = .ok n ↔
    Denotes cs n ∧ cs.head? ≠ some '-' ∧ n ≤ hi := by
  cases cs with
  | nil =>
    refine iff_of_false (fun h => ?_) fun h => not_denotes_nil h.1
    cases h
  | cons c r =>
    by_cases hplus : c = '+'
    · subst hplus
      rw [readBetween, map_ofNat_magnitude_eq_ok_iff hhi, denotes_plus_iff]
      have hhead : ('+' :: r).head? ≠ some '-' := fun h => absurd (Option.some.inj h) (by decide)
      exact and_congr_right fun _ => (and_iff_right hhead).symm
    · by_cases hminus : c = '-'
      · subst hminus
        rw [readBetween, if_neg (by decide)]
        refine iff_of_false (fun h => ?_) fun h => h.2.1 rfl
        cases h
      · rw [readBetween_of_unsigned hplus hminus, map_ofNat_magnitude_eq_ok_iff hhi,
          denotes_unsigned_iff hplus hminus]
        have hhead : (c :: r).head? ≠ some '-' := fun h => hminus (Option.some.inj h)
        exact and_congr_right fun _ => (and_iff_right hhead).symm

end

/-- A signed word is read from the texts that denote it. -/
theorem readInt64_eq_ok_iff {cs : List Char} {n : Int64} :
    readInt64 cs = .ok n ↔ Denotes cs n.toInt := by
  have hread {i : Int} := @readBetween_eq_ok_iff cs i Int64.minValue.toInt Int64.maxValue.toInt
    (by decide) (by decide)
  unfold readInt64
  constructor
  · intro h
    cases hi : readBetween Int64.minValue.toInt Int64.maxValue.toInt cs with
    | error e => rw [hi] at h; cases h
    | ok i =>
      obtain ⟨hdenotes, hlower, hupper⟩ := hread.1 hi
      rw [hi] at h
      cases h
      rwa [Int64.toInt_ofInt_of_le hlower (Int.lt_of_le_of_lt hupper (by decide))]
  · intro h
    rw [hread.2 ⟨h, n.minValue_le_toInt, n.toInt_le⟩]
    exact congrArg Except.ok (Int64.ofInt_toInt n)

/-- A word is denoted by the text that writes it. -/
theorem denotes_chars (n : Int64) : Denotes (chars n.toInt) n.toInt :=
  readInt64_eq_ok_iff.1 (readInt64_chars n)

end ForumSummary.Numeral
