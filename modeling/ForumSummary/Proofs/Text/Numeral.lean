import ForumSummary.Text.Numeral

/-!
# The digits of a numeral

A natural number is written with ASCII digits (`forall_mem_natChars`), at least one
(`natChars_ne_nil`), and no two numbers are written alike (`natChars_injective`). A reader reads
back every integer between its bounds (`readBetween_chars`).
-/

namespace ForumSummary.Numeral

theorem digit?_digitChar {d : Nat} (h : d < 10) : digit? (digitChar d) = some d := by
  have hdigits : ∀ d < 10, digit? (digitChar d) = some d := by decide
  exact hdigits d h

/-- The digits are those of the numbers below ten. -/
theorem exists_eq_digitChar {c : Char} (h : (digit? c).isSome = true) :
    ∃ d < 10, c = digitChar d := by
  unfold digit? at h
  split at h
  · next hc =>
    refine ⟨c.toNat - 0x30, by omega, ?_⟩
    rw [digitChar, Nat.add_sub_cancel' hc.1, Char.ofNat_toNat]
  · cases h

/-- The last digit of a number, and the digits before it. -/
theorem natChars_eq_append {n : Nat} (h : 10 ≤ n) :
    natChars n = natChars (n / 10) ++ [digitChar (n % 10)] := by
  rw [natChars, if_neg (Nat.not_lt.2 h)]

theorem natChars_of_lt {n : Nat} (h : n < 10) : natChars n = [digitChar n] := by
  rw [natChars, if_pos h]

theorem natChars_ne_nil (n : Nat) : natChars n ≠ [] := by
  rcases Nat.lt_or_ge n 10 with h | h
  · rw [natChars_of_lt h]
    exact List.cons_ne_nil _ _
  · rw [natChars_eq_append h]
    exact List.append_ne_nil_of_right_ne_nil _ (List.cons_ne_nil _ _)

/-- What holds of all digits holds of all characters of a numeral. -/
theorem forall_mem_natChars {P : Char → Prop} (hP : ∀ d < 10, P (digitChar d)) (n : Nat) :
    ∀ c ∈ natChars n, P c := by
  induction n using Nat.strongRecOn with
  | ind n ih =>
    intro c hc
    rcases Nat.lt_or_ge n 10 with h | h
    · rw [natChars_of_lt h, List.mem_singleton] at hc
      subst hc
      exact hP n h
    · rw [natChars_eq_append h, List.mem_append, List.mem_singleton] at hc
      rcases hc with hc | rfl
      · exact ih (n / 10) (by omega) c hc
      · exact hP _ (Nat.mod_lt n (by decide))

/-- What holds of all digits and of the minus sign holds of all characters of an integer. -/
theorem forall_mem_chars {P : Char → Prop} (hminus : P '-') (hP : ∀ d < 10, P (digitChar d))
    (n : Int) : ∀ c ∈ chars n, P c := by
  unfold chars
  split
  · exact List.forall_mem_cons.2 ⟨hminus, forall_mem_natChars hP _⟩
  · exact forall_mem_natChars hP _

theorem chars_ne_nil (n : Int) : chars n ≠ [] := by
  unfold chars
  split
  · exact List.cons_ne_nil _ _
  · exact natChars_ne_nil _

theorem isSome_digit?_of_mem_natChars {n : Nat} : ∀ c ∈ natChars n, (digit? c).isSome = true :=
  forall_mem_natChars (fun d hd => by rw [digit?_digitChar hd]; rfl) n

/-- Only zero begins with a zero. -/
theorem eq_zero_of_natChars_eq_cons {n : Nat} {r : List Char} (h : natChars n = '0' :: r) :
    n = 0 := by
  induction n using Nat.strongRecOn generalizing r with
  | ind n ih =>
    rcases Nat.lt_or_ge n 10 with hn | hn
    · have hdigits : ∀ d < 10, digitChar d = '0' → d = 0 := by decide
      rw [natChars_of_lt hn] at h
      exact hdigits n hn (List.cons.inj h).1
    · obtain ⟨c, s, hs⟩ := List.exists_cons_of_ne_nil (natChars_ne_nil (n / 10))
      rw [natChars_eq_append hn, hs, List.cons_append] at h
      obtain rfl := (List.cons.inj h).1
      have := ih (n / 10) (by omega) hs
      omega

theorem natChars_injective : Function.Injective natChars := by
  intro n
  induction n using Nat.strongRecOn with
  | ind n ih =>
    intro m h
    have hdigit {a b : Nat} (ha : a < 10) (hb : b < 10) (hab : digitChar a = digitChar b) :
        a = b := by
      have hread := congrArg digit? hab
      rw [digit?_digitChar ha, digit?_digitChar hb] at hread
      exact Option.some.inj hread
    -- A single digit is not also a last digit behind others.
    have hlast (a b k : Nat) : [digitChar a] ≠ natChars k ++ [digitChar b] := by
      intro hab
      have hinit : [] ++ [digitChar a] = natChars k ++ [digitChar b] := hab
      exact natChars_ne_nil k (List.append_inj_left' hinit rfl).symm
    rcases Nat.lt_or_ge n 10 with hn | hn <;> rcases Nat.lt_or_ge m 10 with hm | hm
    · rw [natChars_of_lt hn, natChars_of_lt hm] at h
      exact hdigit hn hm (List.cons.inj h).1
    · rw [natChars_of_lt hn, natChars_eq_append hm] at h
      exact absurd h (hlast _ _ _)
    · rw [natChars_eq_append hn, natChars_of_lt hm] at h
      exact absurd h.symm (hlast _ _ _)
    · rw [natChars_eq_append hn, natChars_eq_append hm] at h
      obtain ⟨hinit, hend⟩ := List.append_inj' h rfl
      have hquotient := ih (n / 10) (by omega) hinit
      have hremainder := hdigit (Nat.mod_lt n (by decide)) (Nat.mod_lt m (by decide))
        (List.cons.inj hend).1
      omega

/-! ## Reading what is written -/

section
variable {limit : Nat} {excess : Error}

theorem accumulate_append (acc : Nat) (xs ys : List Char) :
    accumulate limit excess acc (xs ++ ys) =
      accumulate limit excess acc xs >>= fun n => accumulate limit excess n ys := by
  induction xs generalizing acc with
  | nil => rfl
  | cons c r ih =>
    simp only [List.cons_append, accumulate]
    cases digit? c with
    | none => rfl
    | some d =>
      simp only
      split
      · exact ih _
      · rfl

theorem accumulate_digitChar {acc d : Nat} (hd : d < 10) (h : acc * 10 + d ≤ limit) :
    accumulate limit excess acc [digitChar d] = .ok (acc * 10 + d) := by
  simp only [accumulate, digit?_digitChar hd, if_pos h]

/-- Reading the digits of a number never exceeds the number. -/
theorem accumulate_natChars {n : Nat} (h : n ≤ limit) :
    accumulate limit excess 0 (natChars n) = .ok n := by
  induction n using Nat.strongRecOn with
  | ind n ih =>
    rcases Nat.lt_or_ge n 10 with hn | hn
    · rw [natChars_of_lt hn, accumulate_digitChar hn (by omega), Nat.zero_mul, Nat.zero_add]
    · have hread := ih (n / 10) (by omega) (by omega)
      have hsum : n / 10 * 10 + n % 10 = n := Nat.div_add_mod' n 10
      rw [natChars_eq_append hn, accumulate_append, hread]
      show accumulate limit excess (n / 10) [digitChar (n % 10)] = _
      rw [accumulate_digitChar (Nat.mod_lt n (by decide)) (by omega), hsum]

theorem magnitude_natChars {n : Nat} (h : n ≤ limit) :
    magnitude limit excess (natChars n) = .ok n := by
  obtain ⟨c, r, hcr⟩ := List.exists_cons_of_ne_nil (natChars_ne_nil n)
  rw [← @accumulate_natChars limit excess n h, hcr]
  rfl

end

/-- A reader reads back every integer between its bounds. -/
theorem readBetween_chars {lo hi n : Int} (hlo : lo ≤ n) (hhi : n ≤ hi) :
    readBetween lo hi (chars n) = .ok n := by
  unfold chars
  split
  · next hneg =>
    have hread : magnitude (-lo).toNat .tooSmall (natChars n.natAbs) = .ok n.natAbs :=
      magnitude_natChars (by omega)
    have hvalue : -Int.ofNat n.natAbs = n := by simp only [Int.ofNat_eq_natCast]; omega
    simp only [readBetween, if_pos (Int.lt_of_le_of_lt hlo hneg), hread, Except.map, hvalue]
  · next hneg =>
    have hread : magnitude hi.toNat .tooLarge (natChars n.natAbs) = .ok n.natAbs :=
      magnitude_natChars (by omega)
    have hvalue : Int.ofNat n.natAbs = n := by simp only [Int.ofNat_eq_natCast]; omega
    -- A digit is no sign.
    obtain ⟨c, r, hcr⟩ := List.exists_cons_of_ne_nil (natChars_ne_nil n.natAbs)
    have hdigit : (digit? c).isSome = true :=
      isSome_digit?_of_mem_natChars c (hcr ▸ List.mem_cons_self)
    have hunsigned : readBetween lo hi (natChars n.natAbs) =
        (magnitude hi.toNat .tooLarge (natChars n.natAbs)).map Int.ofNat := by
      rw [hcr]
      unfold readBetween
      split
      · next h => cases h
      · next h => cases h; cases hdigit
      · next h => cases h; cases hdigit
      · rfl
    rw [hunsigned, hread, Except.map, hvalue]

theorem readInt64_chars (n : Int64) : readInt64 (chars n.toInt) = .ok n := by
  rw [readInt64, readBetween_chars (Int64.minValue_le_toInt n) (Int64.toInt_le n)]
  exact congrArg Except.ok (Int64.ofInt_toInt n)

theorem readInt64_text (n : Int64) : readInt64 (text n.toInt).toList = .ok n := by
  rw [text, String.toList_ofList, readInt64_chars]

end ForumSummary.Numeral
