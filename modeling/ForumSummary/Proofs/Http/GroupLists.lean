import ForumSummary.Http.Parameters
import ForumSummary.Proofs.Names
import ForumSummary.Proofs.Text.Pieces
import ForumSummary.Proofs.Text.Signed
import Mathlib.Data.List.Forall2

/-!
# Texts that list groups

A text lists the ids that its entries denote: the entries are the pieces between commas that are not
blank, and each must be a numeral of a signed word with blanks around it (`IsEntry`). One entry that
is none spoils the list. So ids are read back from their numerals, whatever blanks and blank pieces
are written among them (`groupsOfText_grammar`), and a request has them as its groups.
-/

namespace ForumSummary

/-- A character of a numeral is not blank. -/
theorem Numeral.Denotes.isBlank_eq_false {cs : List Char} {n : Int} (h : Denotes cs n) :
    ∀ c ∈ cs, Text.isBlank c = false := by
  have hdigits {digits : List Char} {m : Nat} (hspells : Spells digits m) :
      ∀ c ∈ digits, Text.isBlank c = false := by
    obtain ⟨ds, -, hds, rfl, -⟩ := hspells
    have hten : ∀ d < 10, Text.isBlank (digitChar d) = false := by decide
    exact List.forall_mem_map.2 fun d hd => hten d (hds d hd)
  cases h with
  | unsigned h => exact hdigits h
  | plus h | minus h => exact List.forall_mem_cons.2 ⟨by decide, hdigits h⟩

/-- There are partners for all members of a list when each member has one. -/
theorem exists_forall₂_iff {α β : Type} {R : α → β → Prop} {as : List α} :
    (∃ bs, List.Forall₂ R as bs) ↔ ∀ a ∈ as, ∃ b, R a b := by
  induction as with
  | nil => exact iff_of_true ⟨[], .nil⟩ nofun
  | cons a as ih =>
    rw [List.forall_mem_cons, ← ih]
    constructor
    · rintro ⟨_, _ | ⟨hb, hbs⟩⟩
      exact ⟨⟨_, hb⟩, _, hbs⟩
    · rintro ⟨⟨b, hb⟩, bs, hbs⟩
      exact ⟨b :: bs, .cons hb hbs⟩

namespace Report

open Text (AllBlank)

/-! ## Entries -/

/-- The entries of a list of groups: the pieces between commas that are not blank. -/
def entries (text : List Char) : List (List Char) :=
  (Text.split ',' text).filter fun piece => !piece.all Text.isBlank

/-- An entry denotes an id: it is a numeral of the id with blanks around it. -/
def IsEntry (entry : List Char) (id : Int64) : Prop :=
  ∃ before numeral after, AllBlank before ∧ AllBlank after ∧
    entry = before ++ numeral ++ after ∧ Numeral.Denotes numeral id.toInt

/-- Entries are read without the blanks around them. -/
theorem readInt64_trim_eq_ok_iff {entry : List Char} {id : Int64} :
    Numeral.readInt64 (Text.trim entry) = .ok id ↔ IsEntry entry id := by
  rw [Numeral.readInt64_eq_ok_iff]
  constructor
  · intro h
    obtain ⟨before, after, hbefore, hafter, hentry⟩ := Text.exists_eq_append_trim entry
    exact ⟨before, _, after, hbefore, hafter, hentry, h⟩
  · rintro ⟨before, numeral, after, hbefore, hafter, rfl, h⟩
    rwa [Text.trim_surrounded hbefore hafter, Text.trim_eq_self h.isBlank_eq_false]

/-- The pieces that are read are the entries without the blanks around them. -/
theorem groupPieces_eq (text : List Char) : groupPieces text = (entries text).map Text.trim := by
  rw [groupPieces, List.filter_map, entries]
  congr 1
  refine List.filter_congr fun piece _ => congrArg (!·) ?_
  rw [Bool.eq_iff_iff, List.isEmpty_iff, Text.trim_eq_nil_iff, List.all_eq_true]
  rfl

theorem mapM_readInt64_eq_ok_iff {entries : List (List Char)} {ids : List Int64} :
    (entries.map Text.trim).mapM Numeral.readInt64 = .ok ids ↔
      List.Forall₂ IsEntry entries ids := by
  induction entries generalizing ids with
  | nil =>
    rw [List.forall₂_nil_left_iff]
    exact ⟨fun h => by cases h; rfl, fun h => by rw [h]; rfl⟩
  | cons entry more ih =>
    rw [List.map_cons, List.mapM_cons, List.forall₂_cons_left_iff]
    constructor
    · intro h
      cases hid : Numeral.readInt64 (Text.trim entry) with
      | error e => rw [hid] at h; cases h
      | ok id =>
        rw [hid] at h
        cases hmore : (more.map Text.trim).mapM Numeral.readInt64 with
        | error e => rw [hmore] at h; cases h
        | ok others =>
          rw [hmore] at h
          cases h
          exact ⟨id, others, readInt64_trim_eq_ok_iff.1 hid, ih.1 hmore, rfl⟩
    · rintro ⟨id, others, hid, hmore, rfl⟩
      rw [readInt64_trim_eq_ok_iff.2 hid, ih.2 hmore]
      rfl

/-- The ids of a list are what its entries denote, in order. -/
theorem groupsOfText_eq_ok_iff {text : String} {ids : List Int64} :
    groupsOfText text = .ok ids ↔ List.Forall₂ IsEntry (entries text.toList) ids := by
  rw [← mapM_readInt64_eq_ok_iff, ← groupPieces_eq, groupsOfText]
  cases (groupPieces text.toList).mapM Numeral.readInt64 with
  | error e => exact iff_of_false nofun nofun
  | ok others => exact ⟨fun h => by cases h; rfl, fun h => by cases h; rfl⟩

theorem groupsOfText_eq_error {text : String} {e : ReportError} (h : groupsOfText text = .error e) :
    e = .invalidGroupList text := by
  unfold groupsOfText at h
  split at h <;> cases h
  rfl

/-- A text lists groups: each of its entries denotes an id. -/
def IsGroupList (text : String) : Prop :=
  ∀ entry ∈ entries text.toList, ∃ id, IsEntry entry id

theorem exists_groupsOfText_iff {text : String} :
    (∃ ids, groupsOfText text = .ok ids) ↔ IsGroupList text := by
  simp only [groupsOfText_eq_ok_iff]
  exact exists_forall₂_iff

instance : DecidablePred IsGroupList := fun text =>
  decidable_of_iff ((groupsOfText text).isOk = true) <| by
    rw [← exists_groupsOfText_iff]
    cases groupsOfText text with
    | ok ids => exact iff_of_true rfl ⟨ids, rfl⟩
    | error e => exact iff_of_false nofun nofun

theorem reads_groupsOfText : Reads groupsOfText IsGroupList .invalidGroupList := by
  intro text
  cases hids : groupsOfText text with
  | ok ids => exact .inl ⟨exists_groupsOfText_iff.1 ⟨ids, hids⟩, ids, rfl⟩
  | error e =>
    refine .inr ⟨fun hlist => ?_, by rw [groupsOfText_eq_error hids]⟩
    obtain ⟨ids, hok⟩ := exists_groupsOfText_iff.2 hlist
    rw [hids] at hok
    cases hok

/-! ## Ids that are written -/

/-- Pieces write ids: each is blank, or it is the next id in decimal with blanks around it. -/
inductive Lists : List (List Char) → List Int64 → Prop where
  | nil : Lists [] []
  | blank {piece : List Char} {pieces : List (List Char)} {ids : List Int64} (h : AllBlank piece)
    (more : Lists pieces ids) : Lists (piece :: pieces) ids
  | id {before after : List Char} {id : Int64} {pieces : List (List Char)} {ids : List Int64}
    (hbefore : AllBlank before) (hafter : AllBlank after) (more : Lists pieces ids) :
    Lists ((before ++ Numeral.chars id.toInt ++ after) :: pieces) (id :: ids)

section
variable {pieces : List (List Char)} {ids : List Int64}

theorem not_mem_of_allBlank {cs : List Char} (h : AllBlank cs) : ',' ∉ cs :=
  fun hmem => absurd (h _ hmem) (by decide)

theorem Lists.not_mem (h : Lists pieces ids) : ∀ piece ∈ pieces, ',' ∉ piece := by
  induction h with
  | nil => exact nofun
  | blank hblank _ ih => exact List.forall_mem_cons.2 ⟨not_mem_of_allBlank hblank, ih⟩
  | @id before after id pieces ids hbefore hafter _ ih =>
    have hnumeral : ',' ∉ Numeral.chars id.toInt := fun hmem =>
      Numeral.forall_mem_chars (P := (· ≠ ',')) (by decide) (by decide) _ _ hmem rfl
    refine List.forall_mem_cons.2 ⟨?_, ih⟩
    simp only [List.mem_append, not_or]
    exact ⟨⟨not_mem_of_allBlank hbefore, hnumeral⟩, not_mem_of_allBlank hafter⟩

/-- The entries among pieces that write ids denote these ids. -/
theorem Lists.forall₂_isEntry (h : Lists pieces ids) :
    List.Forall₂ IsEntry (pieces.filter fun piece => !piece.all Text.isBlank) ids := by
  induction h with
  | nil => exact .nil
  | blank hblank _ ih =>
    rwa [List.filter_cons_of_neg]
    rw [List.all_eq_true.2 hblank]
    decide
  | @id before after id pieces ids hbefore hafter _ ih =>
    have hdenotes := Numeral.denotes_chars id
    rw [List.filter_cons_of_pos]
    · exact .cons ⟨before, _, after, hbefore, hafter, rfl, hdenotes⟩ ih
    · -- The first character of the numeral is not blank.
      obtain ⟨c, r, hcr⟩ := List.exists_cons_of_ne_nil (Numeral.chars_ne_nil id.toInt)
      have hc := hdenotes.isBlank_eq_false c (hcr ▸ List.mem_cons_self)
      simp [hcr, hc]

theorem Lists.groupsOfText (h : Lists pieces ids) :
    groupsOfText (String.ofList (Text.join ',' pieces)) = .ok ids := by
  rw [groupsOfText_eq_ok_iff, String.toList_ofList, entries]
  cases pieces with
  | nil =>
    cases h
    exact .nil
  | cons piece more =>
    rw [Text.split_join (List.cons_ne_nil _ _) h.not_mem]
    exact h.forall₂_isEntry

end

/-! ## Blanks around a list -/

theorem map_trim_split_surrounded {before after : List Char} (hbefore : AllBlank before)
    (hafter : AllBlank after) (cs : List Char) :
    (Text.split ',' (before ++ cs ++ after)).map Text.trim = (Text.split ',' cs).map Text.trim := by
  have hleft (cs : List Char) :
      (Text.split ',' (before ++ cs)).map Text.trim = (Text.split ',' cs).map Text.trim := by
    obtain ⟨piece, more, hcs⟩ := List.exists_cons_of_ne_nil (Text.split_ne_nil ',' cs)
    rw [Text.split_append_left (not_mem_of_allBlank hbefore) hcs, hcs, List.map_cons,
      Text.trim_blank_append hbefore, List.map_cons]
  have hright (cs : List Char) :
      (Text.split ',' (cs ++ after)).map Text.trim = (Text.split ',' cs).map Text.trim := by
    obtain hnil | ⟨front, piece, hcs⟩ := List.eq_nil_or_concat (Text.split ',' cs)
    · exact absurd hnil (Text.split_ne_nil ',' cs)
    · rw [List.concat_eq_append] at hcs
      rw [Text.split_append_right (not_mem_of_allBlank hafter) hcs, hcs, List.map_append,
        List.map_singleton, Text.trim_append_blank hafter, List.map_append, List.map_singleton]
  rw [hright, hleft]

/-- Blanks around a list do not matter. -/
theorem groupPieces_trim (cs : List Char) : groupPieces (Text.trim cs) = groupPieces cs := by
  obtain ⟨before, after, hbefore, hafter, hcs⟩ := Text.exists_eq_append_trim cs
  have hpieces := map_trim_split_surrounded hbefore hafter (Text.trim cs)
  rw [← hcs] at hpieces
  rw [groupPieces, groupPieces, hpieces]

end Report

namespace Http

/-- A text that lists ids, one at least, is present and read as these ids. -/
theorem SummaryParameters.readPresent_groupsOfText {text : String} {ids : List Int64}
    (hne : ids ≠ []) (h : Report.groupsOfText text = .ok ids) :
    readPresent (some text) Report.groupsOfText = .ok (some ids) := by
  have htrimmed : Report.groupsOfText (Text.trimmed text) = .ok ids := by
    rw [Report.groupsOfText_eq_ok_iff, ← Report.mapM_readInt64_eq_ok_iff, ← Report.groupPieces_eq,
      Text.trimmed, String.toList_ofList, Report.groupPieces_trim, Report.groupPieces_eq,
      Report.mapM_readInt64_eq_ok_iff, ← Report.groupsOfText_eq_ok_iff, h]
  have hpresent : present (some text) = some (Text.trimmed text) := by
    refine Option.filter_eq_some_iff.2 ⟨rfl, decide_eq_true fun hempty => hne ?_⟩
    rw [hempty] at htrimmed
    cases htrimmed
    rfl
  rw [readPresent, hpresent]
  exact congrArg (Except.map some) htrimmed

/-- Groups that are read are put into the request, and change nothing else. -/
theorem SummaryParameters.toRequest_groups {text : String} {ids : List Int64}
    (h : readPresent (some text) Report.groupsOfText = .ok (some ids)) (p : SummaryParameters) :
    toRequest { p with groups := some text } =
      (toRequest { p with groups := none }).map fun (request, format) =>
        ({ request with groups := ids }, format) := by
  unfold toRequest
  simp only [h]
  cases readPresent p.sort SortColumn.ofText with
  | error e => rfl
  | ok column =>
  cases readPresent p.direction SortDirection.ofText with
  | error e => rfl
  | ok direction =>
  cases readPresent p.download Export.Format.ofText with
  | error e => rfl
  | ok format => rfl

/-- A text is a list of groups when and only when each of its entries denotes an id, and then the
ids are those of the entries, in order; an entry that denotes none spoils the list, and the error
has the whole text. Ids that are written in decimal, with any blanks around them and any blank
pieces among them, are read back; if there are any, then a request whose groups are this text is the
request without it but for these ids. -/
theorem groupsOfText_grammar :
    (∀ text : String,
      ((∃ ids, Report.groupsOfText text = .ok ids) ↔
        ∀ entry ∈ Report.entries text.toList, ∃ id, Report.IsEntry entry id) ∧
      (∀ ids, Report.groupsOfText text = .ok ids ↔
        List.Forall₂ Report.IsEntry (Report.entries text.toList) ids) ∧
      ∀ e, Report.groupsOfText text = .error e ↔ e = .invalidGroupList text ∧
        ∃ entry ∈ Report.entries text.toList, ∀ id, ¬ Report.IsEntry entry id) ∧
    ∀ pieces ids, Report.Lists pieces ids →
      let text := String.ofList (Text.join ',' pieces)
      Report.groupsOfText text = .ok ids ∧
      (ids ≠ [] → ∀ p : SummaryParameters,
        SummaryParameters.toRequest { p with groups := some text } =
          (SummaryParameters.toRequest { p with groups := none }).map fun (request, format) =>
            ({ request with groups := ids }, format)) := by
  refine ⟨fun text => ?_, fun pieces ids h => ?_⟩
  · have hok : (∃ ids, Report.groupsOfText text = .ok ids) ↔
        ∀ entry ∈ Report.entries text.toList, ∃ id, Report.IsEntry entry id := by
      simp only [Report.groupsOfText_eq_ok_iff]
      exact exists_forall₂_iff
    refine ⟨hok, fun ids => Report.groupsOfText_eq_ok_iff, fun e => ⟨fun h => ?_, ?_⟩⟩
    · refine ⟨Report.groupsOfText_eq_error h, ?_⟩
      by_contra hall
      push Not at hall
      obtain ⟨ids, hids⟩ := hok.2 hall
      cases hids.symm.trans h
    · rintro ⟨rfl, entry, hentry, hnone⟩
      cases hread : Report.groupsOfText text with
      | error e => rw [Report.groupsOfText_eq_error hread]
      | ok ids =>
        obtain ⟨id, hid⟩ := hok.1 ⟨ids, hread⟩ entry hentry
        exact absurd hid (hnone id)
  · have hread := h.groupsOfText
    exact ⟨hread, fun hne p => SummaryParameters.toRequest_groups
      (SummaryParameters.readPresent_groupsOfText hne hread) p⟩

/-- The least and the greatest id, with an em space, a tab and blank pieces around them. -/
theorem groupsOfText_grammar_extremes :
    let text := " ,\u2003-9223372036854775808\t,,9223372036854775807 "
    Report.groupsOfText text = .ok [-9223372036854775808, 9223372036854775807] ∧
    SummaryParameters.toRequest { courseId := some 9, groups := some text } =
      .ok ({ courseId := 9, groups := [-9223372036854775808, 9223372036854775807], page := 1 },
        none) := by
  intro text
  have hspace : Text.AllBlank [' '] := by decide
  have hwide : Text.AllBlank ['\u2003'] := by decide
  have htab : Text.AllBlank ['\t'] := by decide
  have hlists : Report.Lists [[' '], ['\u2003'] ++ Numeral.chars (-9223372036854775808) ++ ['\t'],
      [], [] ++ Numeral.chars 9223372036854775807 ++ [' ']]
      [-9223372036854775808, 9223372036854775807] :=
    .blank hspace <| @Report.Lists.id _ _ (-9223372036854775808) _ _ hwide htab <|
      .blank nofun <| @Report.Lists.id _ _ 9223372036854775807 _ _ nofun hspace .nil
  obtain ⟨hread, hrequest⟩ := groupsOfText_grammar.2 _ _ hlists
  have htext : String.ofList (Text.join ',' [[' '], ['\u2003'] ++
      Numeral.chars (-9223372036854775808) ++ ['\t'], [],
      [] ++ Numeral.chars 9223372036854775807 ++ [' ']]) = text := by
    decide +kernel
  rw [htext] at hread hrequest
  exact ⟨hread, hrequest (List.cons_ne_nil _ _) { courseId := some 9 }⟩

end Http

end ForumSummary
