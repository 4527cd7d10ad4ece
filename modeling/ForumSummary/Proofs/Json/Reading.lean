import ForumSummary.Json.Decoder
import ForumSummary.Proofs.Json.Literal
import ForumSummary.Proofs.Json.Quoted
import ForumSummary.Proofs.Json.Written

/-!
# Reading what is written

The outline of a text that writes a value is the value's own outline (`Json.outline`): reading loses
nothing, and blanks between tokens do not matter (`outline_ofText_of_written`). So a decoder sees of
such a text the outline of the value and no fault of the text (`Decoder.ofText_of_written`).
-/

namespace ForumSummary.Json

/-! ## The outline of a value -/

mutual

/-- The outline of the texts that write a value. A binary64 number is not written exactly. -/
def outline : Json → Outline
  | .null => .null
  | .bool b => .bool b
  | .number (.int n _) => .number (.ofInt n)
  | .number (.float _) => .broken
  | .string s => .string (some s)
  | .array vs => .array (outlines vs) true
  | .object ms => .object (memberOutlines ms) true

/-- The outlines of items. -/
def outlines : List Json → List Outline
  | [] => []
  | v :: vs => v.outline :: outlines vs

/-- The outlines of members. -/
def memberOutlines : List (String × Json) → List (Option String × Outline)
  | [] => []
  | (k, v) :: ms => (some k, v.outline) :: memberOutlines ms

end

theorem outlines_eq_map (vs : List Json) : outlines vs = vs.map outline := by
  induction vs with
  | nil => rfl
  | cons v vs ih => rw [outlines, ih, List.map_cons]

/-! ## Blanks and first characters -/

variable {fuel : Nat} {rest : List Char}

theorem skipBlanks_append {b : List Char} (hb : Blank b) (cs : List Char) :
    skipBlanks (b ++ cs) = skipBlanks cs :=
  List.dropWhile_append_of_pos hb

theorem skipBlanks_of_blank {b : List Char} (hb : Blank b) : skipBlanks b = [] := by
  have h := skipBlanks_append hb []
  rwa [List.append_nil] at h

theorem skipBlanks_cons {c : Char} (hc : isJsonBlank c = false) (r : List Char) :
    skipBlanks (c :: r) = c :: r :=
  List.dropWhile_cons_of_neg (by rw [hc]; exact Bool.false_ne_true)

theorem skipBlanks_append_cons {b : List Char} (hb : Blank b) {c : Char}
    (hc : isJsonBlank c = false) (r : List Char) : skipBlanks (b ++ c :: r) = c :: r := by
  rw [skipBlanks_append hb, skipBlanks_cons hc]

/-- Blanks do not make a number literal before them longer. -/
theorem EndsLiteral.blank_append {b : List Char} (hb : Blank b) (hrest : EndsLiteral rest) :
    EndsLiteral (b ++ rest) := by
  cases b with
  | nil => exact hrest
  | cons c r =>
    have hc : c = ' ' ∨ c = '\t' ∨ c = '\n' ∨ c = '\r' := by
      simpa [isJsonBlank, or_assoc] using hb c List.mem_cons_self
    rcases hc with rfl | rfl | rfl | rfl <;>
      exact endsLiteral_cons (by decide) (by decide) (by decide) (by decide) _

/-- What follows an item or a member, after blanks, does not make a number literal longer. -/
theorem endsLiteral_append_cons {b : List Char} (hb : Blank b) {c : Char}
    (hc : c = ',' ∨ c = ']' ∨ c = '\x7d') (r : List Char) : EndsLiteral (b ++ c :: r) := by
  refine .blank_append hb ?_
  rcases hc with rfl | rfl | rfl <;>
    exact endsLiteral_cons (by decide) (by decide) (by decide) (by decide) r

/-- A numeral begins with a minus sign or a digit. -/
theorem exists_chars_eq_cons (n : Int) :
    ∃ c r, Numeral.chars n = c :: r ∧ (c = '-' ∨ isDigit c = true) := by
  unfold Numeral.chars
  split
  · exact ⟨'-', _, rfl, .inl rfl⟩
  · obtain ⟨c, r, hcr⟩ := List.exists_cons_of_ne_nil (Numeral.natChars_ne_nil n.natAbs)
    exact ⟨c, r, hcr, .inr (Numeral.isSome_digit?_of_mem_natChars c (hcr ▸ List.mem_cons_self))⟩

/-- A text that writes a value begins with a character that is no blank and closes no array. -/
theorem Written.exists_cons {v : Json} {cs : List Char} (h : v.Written cs) :
    ∃ c r, cs = c :: r ∧ isJsonBlank c = false ∧ c ≠ ']' := by
  cases h with
  | @int n =>
    obtain ⟨c, r, hcr, rfl | hc⟩ := exists_chars_eq_cons n
    · exact ⟨'-', r, hcr, by decide, by decide⟩
    · have hne : ∀ d : Char, isDigit d = false → c ≠ d := by
        rintro d hd rfl
        exact Bool.noConfusion (hd.symm.trans hc)
      refine ⟨c, r, hcr, ?_, hne _ (by decide)⟩
      simp [isJsonBlank, hne ' ' (by decide), hne '\t' (by decide), hne '\n' (by decide),
        hne '\r' (by decide)]
  | null | yes | no | string | emptyArray | array | emptyObject | object =>
    exact ⟨_, _, rfl, by decide, by decide⟩

/-! ## Values -/

/-- A text that begins with a minus sign or a digit is read as a number literal. -/
theorem value_number {c : Char} (hc : c = '-' ∨ isDigit c = true) (r : List Char) :
    Outline.value (fuel + 1) (c :: r) =
      match readLiteral (c :: r) with
      | some (l, rest) => (.number l, some rest)
      | none => (.broken, none) := by
  have hne : ∀ {d : Char} {s : List Char}, d ≠ '-' → isDigit d = false → c :: r ≠ d :: s := by
    rintro d s hm hd hs
    obtain rfl := (List.cons.inj hs).1
    exact hc.elim hm fun hc => Bool.noConfusion (hd.symm.trans hc)
  rw [Outline.value]
  all_goals first
    | rfl
    | exact fun s hs => hne (by decide) (by decide) hs

/-- After an opening bracket, what is no closing bracket begins an item. -/
theorem value_array {c : Char} (hc : c ≠ ']') {cs r : List Char} (hcs : skipBlanks cs = c :: r) :
    Outline.value (fuel + 1) ('[' :: cs) =
      (.array (Outline.items fuel (c :: r)).1 (Outline.items fuel (c :: r)).2.isSome,
        (Outline.items fuel (c :: r)).2) := by
  simp only [Outline.value, hcs]
  split
  · next h => exact absurd (List.cons.inj h).1 hc
  · rfl

/-- After an opening brace, what is no closing brace begins a member. -/
theorem value_object {c : Char} (hc : c ≠ '\x7d') {cs r : List Char}
    (hcs : skipBlanks cs = c :: r) :
    Outline.value (fuel + 1) ('\x7b' :: cs) =
      (.object (Outline.members fuel (c :: r)).1 (Outline.members fuel (c :: r)).2.isSome,
        (Outline.members fuel (c :: r)).2) := by
  simp only [Outline.value, hcs]
  split
  · next h => exact absurd (List.cons.inj h).1 hc
  · rfl

/-- The last item of an array. -/
theorem items_last {v : Outline} {cs r : List Char}
    (hv : Outline.value fuel cs = (v, some r)) (hr : skipBlanks r = ']' :: rest) :
    Outline.items (fuel + 1) cs = ([v], some rest) := by
  simp only [Outline.items, hv, hr]

/-- An item of an array that another item follows. -/
theorem items_next {v : Outline} {cs r ds s : List Char} {c : Char}
    (hv : Outline.value fuel cs = (v, some r)) (hr : skipBlanks r = ',' :: ds)
    (hds : skipBlanks ds = c :: s) (hc : c ≠ ']') :
    Outline.items (fuel + 1) cs =
      (v :: (Outline.items fuel (c :: s)).1, (Outline.items fuel (c :: s)).2) := by
  simp only [Outline.items, hv, hr, hds]
  split
  · next h => exact absurd (List.cons.inj h).1 hc
  · rfl

/-- The last member of an object. -/
theorem members_last {k : String} {v : Outline} {cs afterName r : List Char}
    (hname : skipBlanks afterName = ':' :: cs)
    (hv : Outline.value fuel (skipBlanks cs) = (v, some r)) (hr : skipBlanks r = '\x7d' :: rest) :
    Outline.members (fuel + 1) (quote k ++ afterName) = ([(some k, v)], some rest) := by
  obtain ⟨s, hs, hread⟩ := readString_quote k afterName
  rw [hs]
  simp only [Outline.members, hread, hname, hv, hr]

/-- A member of an object that another member follows. -/
theorem members_next {k : String} {v : Outline} {cs afterName r ds : List Char}
    (hname : skipBlanks afterName = ':' :: cs)
    (hv : Outline.value fuel (skipBlanks cs) = (v, some r)) (hr : skipBlanks r = ',' :: ds) :
    Outline.members (fuel + 1) (quote k ++ afterName) =
      ((some k, v) :: (Outline.members fuel (skipBlanks ds)).1,
        (Outline.members fuel (skipBlanks ds)).2) := by
  obtain ⟨s, hs, hread⟩ := readString_quote k afterName
  rw [hs]
  simp only [Outline.members, hread, hname, hv, hr]

/-! ## Written texts -/

/-- A text that writes members begins with a name. -/
theorem MembersWritten.exists_cons {ms : List (String × Json)} {cs : List Char}
    (h : MembersWritten ms cs) : ∃ r, cs = '"' :: r := by
  cases h <;> exact ⟨_, rfl⟩

/-- A text that writes items begins with the first of them. -/
theorem ItemsWritten.exists_cons {vs : List Json} {cs : List Char} (h : ItemsWritten vs cs) :
    ∃ c r, cs = c :: r ∧ isJsonBlank c = false ∧ c ≠ ']' := by
  cases h with
  | last hv | next hv =>
    obtain ⟨c, r, rfl, hc⟩ := hv.exists_cons
    exact ⟨c, _, rfl, hc⟩

theorem Written.skipBlanks_append {v : Json} {cs : List Char} (h : v.Written cs)
    (rest : List Char) : skipBlanks (cs ++ rest) = cs ++ rest := by
  obtain ⟨c, r, rfl, hc, -⟩ := h.exists_cons
  exact skipBlanks_cons hc _

mutual

/-- A text that writes a value is read as the value's outline, up to where the text ends. -/
theorem value_of_written : ∀ {v : Json} {cs : List Char}, v.Written cs →
    ∀ (fuel : Nat) (rest : List Char), 2 * cs.length ≤ fuel → EndsLiteral rest →
      Outline.value fuel (cs ++ rest) = (v.outline, some rest)
  | _, _, .null, _ + 1, _, _, _ => rfl
  | _, _, .yes, _ + 1, _, _, _ => rfl
  | _, _, .no, _ + 1, _, _, _ => rfl
  | _, _, @Written.int n _, 0, _, hfuel, _ => by
    obtain ⟨c, r, hcr, -⟩ := exists_chars_eq_cons n
    simp [hcr] at hfuel
  | _, _, @Written.int n _, fuel + 1, rest, _, hrest => by
    obtain ⟨c, r, hcr, hc⟩ := exists_chars_eq_cons n
    rw [hcr, List.cons_append, value_number hc, ← List.cons_append, ← hcr,
      readLiteral_chars n hrest]
    rfl
  | _, _, @Written.string s, fuel + 1, rest, _, _ => by
    obtain ⟨r, hr, hread⟩ := readString_quote s rest
    rw [hr, Outline.value, hread]
    rfl
  | _, _, .emptyArray hb, fuel + 1, rest, _, _ => by
    simp only [List.cons_append, List.append_assoc, Outline.value, skipBlanks_append hb]
    rfl
  | _, _, .array hb hvs, fuel + 1, rest, hfuel, _ => by
    obtain ⟨c, r, rfl, hc, hclose⟩ := hvs.exists_cons
    have hitems := items_of_written hvs fuel rest
      (by simp only [List.length_cons, List.length_append] at hfuel ⊢; omega)
    rw [List.cons_append, List.append_assoc, List.cons_append,
      value_array hclose (skipBlanks_append_cons hb hc _), ← List.cons_append, hitems]
    rfl
  | _, _, .emptyObject hb, fuel + 1, rest, _, _ => by
    simp only [List.cons_append, List.append_assoc, Outline.value, skipBlanks_append hb]
    rfl
  | _, _, .object hb hms, fuel + 1, rest, hfuel, _ => by
    obtain ⟨r, rfl⟩ := hms.exists_cons
    have hmembers := members_of_written hms fuel rest
      (by simp only [List.length_cons, List.length_append] at hfuel ⊢; omega)
    rw [List.cons_append, List.append_assoc, List.cons_append, value_object (by decide)
      (skipBlanks_append_cons hb (by decide) _), ← List.cons_append, hmembers]
    rfl

/-- A text that writes items is read as their outlines. -/
theorem items_of_written : ∀ {vs : List Json} {cs : List Char}, ItemsWritten vs cs →
    ∀ (fuel : Nat) (rest : List Char), 2 * cs.length ≤ fuel →
      Outline.items fuel (cs ++ rest) = (outlines vs, some rest)
  | _, _, .last .., 0, _, hfuel => by simp at hfuel
  | _, _, .next .., 0, _, hfuel => by simp at hfuel
  | _, _, @ItemsWritten.last _ _ a hv ha, fuel + 1, rest, hfuel => by
    have hread := value_of_written hv fuel (a ++ ']' :: rest)
      (by simp only [List.length_append, List.length_cons] at hfuel; omega)
      (endsLiteral_append_cons ha (.inr (.inl rfl)) _)
    rw [List.append_assoc, List.append_assoc, List.singleton_append,
      items_last hread (skipBlanks_append_cons ha (by decide) _)]
    rfl
  | _, _, @ItemsWritten.next _ _ _ a b _ hv ha hb hvs, fuel + 1, rest, hfuel => by
    obtain ⟨c, r, rfl, hc, hclose⟩ := hvs.exists_cons
    have hread := value_of_written hv fuel (a ++ ',' :: (b ++ c :: (r ++ rest)))
      (by simp only [List.length_append, List.length_cons] at hfuel; omega)
      (endsLiteral_append_cons ha (.inl rfl) _)
    have hitems := items_of_written hvs fuel rest
      (by simp only [List.length_append, List.length_cons] at hfuel ⊢; omega)
    simp only [List.append_assoc, List.cons_append] at hitems ⊢
    rw [items_next hread (skipBlanks_append_cons ha (by decide) _)
      (skipBlanks_append_cons hb hc _) hclose, hitems]
    rfl

/-- A text that writes members is read as their outlines. -/
theorem members_of_written : ∀ {ms : List (String × Json)} {cs : List Char},
    MembersWritten ms cs → ∀ (fuel : Nat) (rest : List Char), 2 * cs.length ≤ fuel →
      Outline.members fuel (cs ++ rest) = (memberOutlines ms, some rest)
  | _, _, .last .., 0, _, hfuel => by simp at hfuel
  | _, _, .next .., 0, _, hfuel => by simp at hfuel
  | _, _, @MembersWritten.last _ _ _ _ _ c ha hb hv hc, fuel + 1, rest, hfuel => by
    have hread := value_of_written hv fuel (c ++ '\x7d' :: rest)
      (by simp only [List.length_append, List.length_cons] at hfuel; omega)
      (endsLiteral_append_cons hc (.inr (.inr rfl)) _)
    rw [← hv.skipBlanks_append, ← skipBlanks_append hb] at hread
    simp only [List.append_assoc, List.cons_append, List.nil_append]
    exact members_last (skipBlanks_append_cons ha (by decide) _) hread
      (skipBlanks_append_cons hc (by decide) _)
  | _, _, @MembersWritten.next _ _ _ _ _ _ c d _ ha hb hv hc hd hms, fuel + 1, rest, hfuel => by
    obtain ⟨r, rfl⟩ := hms.exists_cons
    have hread := value_of_written hv fuel (c ++ ',' :: (d ++ '"' :: (r ++ rest)))
      (by simp only [List.length_append, List.length_cons] at hfuel; omega)
      (endsLiteral_append_cons hc (.inl rfl) _)
    rw [← hv.skipBlanks_append, ← skipBlanks_append hb] at hread
    have hmembers := members_of_written hms fuel rest
      (by simp only [List.length_append, List.length_cons] at hfuel ⊢; omega)
    simp only [List.append_assoc, List.cons_append] at hmembers ⊢
    rw [members_next (skipBlanks_append_cons ha (by decide) _) hread
      (skipBlanks_append_cons hc (by decide) _), skipBlanks_append_cons hd (by decide), hmembers]
    rfl

end

/-! ## Whole texts -/

/-- A text that writes a value, with blanks around it, is read as the value's outline and is
complete. -/
theorem outline_ofText_of_written {v : Json} {a cs b : List Char} (ha : Blank a)
    (hv : v.Written cs) (hb : Blank b) : Outline.ofText (a ++ (cs ++ b)) = (v.outline, true) := by
  have hread := value_of_written hv (2 * (a ++ (cs ++ b)).length + 2) b
    (by simp only [List.length_append]; omega)
    (by simpa using EndsLiteral.blank_append hb endsLiteral_nil)
  unfold Outline.ofText
  rw [skipBlanks_append ha, hv.skipBlanks_append, hread]
  simp only [skipBlanks_of_blank hb, List.isEmpty_nil]

/-- Of a complete text, a decoder sees its outline and no fault of the text. -/
theorem Decoder.ofText_of_complete {α : Type} {d : Decoder α} {text : String} {o : Outline}
    (h : Outline.ofText text.toList = (o, true)) : d.ofText text = d o := by
  unfold Decoder.ofText
  rw [h]
  show (d o).bind _ = d o
  cases d o <;> rfl

/-- Texts are read alike if they are complete alike and a decoder reads their outlines alike. -/
theorem Decoder.ofText_congr {α : Type} {d : Decoder α} {text text' : String} {o o' : Outline}
    {complete : Bool} (h : Outline.ofText text.toList = (o, complete))
    (h' : Outline.ofText text'.toList = (o', complete)) (hd : d o = d o') :
    d.ofText text = d.ofText text' := by
  unfold Decoder.ofText
  simp only [h, h', hd]

/-- A text that is read is complete. -/
theorem Decoder.ofText_eq_ok_iff {α : Type} {d : Decoder α} {text : String} {a : α} :
    d.ofText text = .ok a ↔ ∃ o, Outline.ofText text.toList = (o, true) ∧ d o = .ok a := by
  constructor
  · intro h
    rcases hread : Outline.ofText text.toList with ⟨o, complete⟩
    cases complete with
    | true => exact ⟨o, rfl, by rwa [ofText_of_complete hread] at h⟩
    | false =>
      unfold Decoder.ofText at h
      rw [hread] at h
      change (d o).bind _ = .ok a at h
      cases hd : d o with
      | error e => rw [hd] at h; exact nomatch h
      | ok b => rw [hd] at h; exact nomatch h
  · rintro ⟨o, hread, hd⟩
    rw [ofText_of_complete hread, hd]

/-- Of a text that writes a value, a decoder sees the outline of the value. -/
theorem Decoder.ofText_of_written {α : Type} (d : Decoder α) {v : Json} {a cs b : List Char}
    (ha : Blank a) (hv : v.Written cs) (hb : Blank b) :
    d.ofText (String.ofList (a ++ (cs ++ b))) = d v.outline := by
  refine ofText_of_complete ?_
  rw [String.toList_ofList, outline_ofText_of_written ha hv hb]

end ForumSummary.Json
