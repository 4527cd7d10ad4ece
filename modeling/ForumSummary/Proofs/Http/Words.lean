import ForumSummary.Http.Parameters
import ForumSummary.Proofs.Http.Form
import ForumSummary.Proofs.Text.Numeral

/-!
# Words in a query

A word is a text of plain characters without blanks, so a query holds it as it is and a parameter
reads it as it is (`present_of_isWord`). Numbers are words, and so are the names that columns,
directions and formats are read from (`isWord_of_sortColumn`, `isWord_of_sortDirection`,
`isWord_of_format`). A list of group ids is a word as well, and the ids are read from it
(`groupsOfText_groupText`).
-/

namespace ForumSummary

/-- The capitals are the 26 characters from A on. -/
theorem exists_eq_capital {c : Char} (h : c.isUpper = true) :
    ∃ d < 26, c = Char.ofNat (0x41 + d) := by
  obtain ⟨hfirst, hlast⟩ := of_decide_eq_true h
  have hfirst' : 0x41 ≤ c.toNat := hfirst
  have hlast' : c.toNat ≤ 0x5A := hlast
  exact ⟨c.toNat - 0x41, by omega, by rw [Nat.add_sub_cancel' hfirst', Char.ofNat_toNat]⟩

/-- What holds of the capitals and of a text in lower case holds of all characters of the text. -/
theorem forall_mem_of_lowerAscii {P : Char → Prop} (hcapital : ∀ d < 26, P (Char.ofNat (0x41 + d)))
    {text : String} (h : ∀ c ∈ (lowerAscii text).toList, P c) : ∀ c ∈ text.toList, P c := by
  intro c hc
  have hlower : P c.toLower := by
    refine h _ ?_
    rw [lowerAscii, String.toList_ofList]
    exact List.mem_map_of_mem hc
  cases hupper : c.isUpper with
  | true =>
    obtain ⟨d, hd, rfl⟩ := exists_eq_capital hupper
    exact hcapital d hd
  | false =>
    have hsame : c.toLower = c := dif_neg (of_decide_eq_false hupper)
    rwa [hsame] at hlower

/-! ## Names -/

theorem SortColumn.name_of_ofText {text : String} {c : SortColumn} (h : ofText text = .ok c) :
    c.name = text := by
  unfold ofText at h
  split at h
  · next c' hc =>
    cases h
    simpa using List.find?_some hc
  · cases h

theorem SortDirection.name_of_ofText {text : String} {d : SortDirection} (h : ofText text = .ok d) :
    d.name = lowerAscii text := by
  unfold ofText at h
  split at h
  · next d' hd =>
    cases h
    simpa using List.find?_some hd
  · cases h

theorem Export.Format.name_of_ofText {text : String} {f : Export.Format} (h : ofText text = .ok f) :
    f.name = lowerAscii text := by
  unfold ofText at h
  split at h
  · next f' hf =>
    cases h
    simpa using List.find?_some hf
  · cases h

namespace Http

/-- A text that a query holds as it is: not empty, of plain characters, without blanks. -/
def IsWord (text : String) : Prop :=
  text ≠ "" ∧ ∀ c ∈ text.toList, IsPlain c ∧ Text.isBlank c = false

-- Only the characters of the text are looked at.
instance (text : String) : Decidable (IsWord text) :=
  @instDecidableAnd _ _ inferInstance (List.decidableBAll _ text.toList)

/-- A word is read as it is. -/
theorem present_of_isWord {text : String} (h : IsWord text) : present (some text) = some text := by
  have htrim : Text.trimmed text = text := by
    rw [Text.trimmed, Text.trim_eq_self fun c hc => (h.2 c hc).2, String.ofList_toList]
  rw [present, Option.map_some, htrim]
  exact Option.filter_eq_some_iff.2 ⟨rfl, decide_eq_true h.1⟩

theorem SummaryParameters.readPresent_of_isWord {α : Type} {text : String}
    {read : String → Except ReportError α} {a : α} (hword : IsWord text)
    (hread : read text = .ok a) :
    readPresent (some text) read = .ok (some a) := by
  rw [readPresent, present_of_isWord hword]
  exact congrArg (Except.map some) hread

theorem isWord_of_lowerAscii {text : String} (h : IsWord (lowerAscii text)) : IsWord text := by
  refine ⟨?_, forall_mem_of_lowerAscii (by decide) h.2⟩
  rintro rfl
  exact h.1 rfl

theorem isWord_of_sortColumn {text : String} {c : SortColumn} (h : SortColumn.ofText text = .ok c) :
    IsWord text := by
  rw [← SortColumn.name_of_ofText h]
  cases c <;> decide

theorem isWord_of_sortDirection {text : String} {d : SortDirection}
    (h : SortDirection.ofText text = .ok d) : IsWord text := by
  refine isWord_of_lowerAscii (SortDirection.name_of_ofText h ▸ ?_)
  cases d <;> decide

theorem isWord_of_format {text : String} {f : Export.Format}
    (h : Export.Format.ofText text = .ok f) : IsWord text := by
  refine isWord_of_lowerAscii (Export.Format.name_of_ofText h ▸ ?_)
  cases f <;> decide

/-! ## Numbers -/

theorem forall_mem_chars_isWord (n : Int) :
    ∀ c ∈ Numeral.chars n, IsPlain c ∧ Text.isBlank c = false :=
  Numeral.forall_mem_chars (by decide) (by decide) n

theorem isWord_ofList {cs : List Char} (hne : cs ≠ [])
    (h : ∀ c ∈ cs, IsPlain c ∧ Text.isBlank c = false) : IsWord (String.ofList cs) := by
  rw [IsWord, String.toList_ofList]
  exact ⟨fun hempty => hne (String.ofList_eq_empty_iff.1 hempty), h⟩

/-- A number is a word. -/
theorem isWord_text (n : Int) : IsWord (Numeral.text n) :=
  isWord_ofList (Numeral.chars_ne_nil n) (forall_mem_chars_isWord n)

/-- Group ids as they are written in a list. -/
def groupText (ids : List Int64) : String :=
  String.ofList (Text.join ',' (ids.map fun id => Numeral.chars id.toInt))

section
variable {ids : List Int64} (h : ids ≠ [])
include h

theorem isWord_groupText : IsWord (groupText ids) := by
  obtain ⟨id, more, rfl⟩ := List.exists_cons_of_ne_nil h
  refine isWord_ofList (Text.join_ne_nil _ (Numeral.chars_ne_nil _)) ?_
  exact Text.forall_mem_join (by decide)
    (List.forall_mem_map.2 fun id _ => forall_mem_chars_isWord _)

theorem groupPieces_groupText : Report.groupPieces (groupText ids).toList =
    ids.map fun id => Numeral.chars id.toInt := by
  have hcomma : ∀ piece ∈ ids.map fun id => Numeral.chars id.toInt, ',' ∉ piece :=
    List.forall_mem_map.2 fun id _ hmem =>
      Numeral.forall_mem_chars (P := (· ≠ ',')) (by decide) (by decide) _ _ hmem rfl
  have htrim : ∀ piece ∈ ids.map fun id => Numeral.chars id.toInt, Text.trim piece = piece :=
    List.forall_mem_map.2 fun id _ =>
      Text.trim_eq_self fun c hc => (forall_mem_chars_isWord _ c hc).2
  have hnonempty : ∀ piece ∈ ids.map fun id => Numeral.chars id.toInt, (!piece.isEmpty) = true :=
    List.forall_mem_map.2 fun id _ => by simp [Numeral.chars_ne_nil]
  have hne : (ids.map fun id => Numeral.chars id.toInt) ≠ [] := by simpa using h
  rw [Report.groupPieces, groupText, String.toList_ofList, Text.split_join hne hcomma,
    List.map_congr_left htrim, List.map_id', List.filter_eq_self.2 hnonempty]

/-- A list of group ids is read as it is written. -/
theorem groupsOfText_groupText : Report.groupsOfText (groupText ids) = .ok ids := by
  have hread : (ids.map fun id => Numeral.chars id.toInt).mapM Numeral.readInt64 = .ok ids := by
    clear h
    induction ids with
    | nil => rfl
    | cons id more ih =>
      rw [List.map_cons, List.mapM_cons, Numeral.readInt64_chars, ih]
      rfl
  rw [Report.groupsOfText, groupPieces_groupText h, hread]

end

end Http

end ForumSummary
