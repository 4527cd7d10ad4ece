import ForumSummary.Json.Outline

/-!
# Strings in a JSON text

Every character of a string is written in a form that is read as this character and as no other
(`readUnits_escape`), so a string literal is read as its string, whatever follows it
(`readString_quote`).
-/

namespace ForumSummary.Json

/-- A short escape reads as its character, and is no escape in hexadecimal digits. -/
theorem escaped?_of_shortEscape? {c e : Char} (h : shortEscape? c = some e) :
    e ≠ 'u' ∧ escaped? e = some c := by
  unfold shortEscape? at h
  -- The five characters that have one are known, and so are their letters.
  iterate 5
    split at h
    · next hc =>
      cases h
      exact ⟨by decide, hc ▸ rfl⟩
  cases h

/-- The two hexadecimal digits of a control character name it. -/
theorem hexUnit?_control {c : Char} (hc : c.toNat < 0x20) :
    hexUnit? '0' '0' (Text.hexDigit (c.toNat / 16)) (Text.hexDigit (c.toNat % 16)) =
      some (.char c) := by
  have hcontrol : ∀ n < 0x20,
      hexUnit? '0' '0' (Text.hexDigit (n / 16)) (Text.hexDigit (n % 16)) =
        some (.char (Char.ofNat n)) := by
    decide
  have hread := hcontrol c.toNat hc
  rwa [Char.ofNat_toNat] at hread

variable {acc : List StringUnit} {rest : List Char}

theorem readUnits_letter {e c : Char} (hu : e ≠ 'u') (he : escaped? e = some c) :
    readUnits acc ('\\' :: e :: rest) = readUnits (.char c :: acc) rest := by
  rw [readUnits, he]
  exact fun a b c d r h => absurd h hu

/-- A character is read back from the form in which it is written. -/
theorem readUnits_escape (c : Char) :
    readUnits acc (escape c ++ rest) = readUnits (.char c :: acc) rest := by
  unfold escape
  split
  · next h =>
    rcases h with rfl | rfl
    · exact readUnits_letter (by decide) rfl
    · exact readUnits_letter (by decide) rfl
  · next hplain =>
    obtain ⟨hquote, hslash⟩ := not_or.1 hplain
    split
    · next hc =>
      split
      · next e hshort =>
        obtain ⟨hu, he⟩ := escaped?_of_shortEscape? hshort
        exact readUnits_letter hu he
      · simp only [List.cons_append, List.nil_append, readUnits, hexUnit?_control hc]
    · next hc =>
      rw [List.singleton_append, readUnits, if_neg hc]
      · exact hquote
      · rintro a b c' d r rfl
        exact absurd rfl hslash
      · rintro e r rfl
        exact absurd rfl hslash

theorem readUnits_flatMap_escape (cs : List Char) :
    readUnits acc (cs.flatMap escape ++ '"' :: rest) =
      some (acc.reverse ++ cs.map .char, rest) := by
  induction cs generalizing acc with
  | nil =>
    rw [List.flatMap_nil, List.nil_append, readUnits, List.map_nil, List.append_nil]
  | cons c cs ih =>
    rw [List.flatMap_cons, List.append_assoc, readUnits_escape, ih, List.reverse_cons,
      List.append_assoc, List.singleton_append, List.map_cons]

theorem joinUnits_map_char (cs : List Char) : joinUnits (cs.map .char) = some cs := by
  induction cs with
  | nil => rfl
  | cons c cs ih => rw [List.map_cons, joinUnits, ih, Option.map_some]

/-- A string literal begins with a quote, and what comes after it reads as the string. -/
theorem readString_quote (s : String) (rest : List Char) :
    ∃ r, quote s ++ rest = '"' :: r ∧ readString r = some (some s, rest) := by
  refine ⟨s.toList.flatMap escape ++ '"' :: rest, ?_, ?_⟩
  · unfold quote
    rw [List.append_assoc, List.append_assoc, List.singleton_append, List.singleton_append]
  · unfold readString
    rw [readUnits_flatMap_escape, List.reverse_nil, List.nil_append, Option.map_some]
    simp only [joinUnits_map_char, Option.map_some, String.ofList_toList]

end ForumSummary.Json
