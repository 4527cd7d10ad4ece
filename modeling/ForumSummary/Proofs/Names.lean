import ForumSummary.Export.Format
import ForumSummary.Filter.Kind
import ForumSummary.SortOrder

/-!
# Names that are read

What a report is sorted by, the direction of a sort and the format of a download are given by name,
the last two in either case of letters. A reader takes the names, each for what it names, and
refuses every other text, which its error carries along (`Reads`). The kinds of filters have names
too (`Filter.Kind.names`), in the steps that change a query and in the texts of stored queries.
-/

namespace ForumSummary

/-- A reader takes the texts that are good, and refuses the others with an error about them. -/
def Reads {α : Type} (read : String → Except ReportError α) (IsGood : String → Prop)
    (error : String → ReportError) : Prop :=
  ∀ s, IsGood s ∧ (∃ a, read s = .ok a) ∨ ¬ IsGood s ∧ read s = .error (error s)

theorem Reads.eq_error_iff {α : Type} {read : String → Except ReportError α}
    {IsGood : String → Prop} {error : String → ReportError} (h : Reads read IsGood error)
    {s : String} {e : ReportError} : read s = .error e ↔ ¬ IsGood s ∧ e = error s := by
  obtain ⟨hgood, a, ha⟩ | ⟨hbad, he⟩ := h s
  · rw [ha]
    exact iff_of_false nofun fun hrefused => hrefused.1 hgood
  · rw [he, Except.error.injEq, eq_comm]
    exact (and_iff_right hbad).symm

/-- The error of a text that is not good. -/
def refusal (IsGood : String → Prop) [DecidablePred IsGood] (error : String → ReportError)
    (s : String) : Option ReportError :=
  if IsGood s then none else some (error s)

theorem Reads.refusal_eq {α : Type} {read : String → Except ReportError α} {IsGood : String → Prop}
    [DecidablePred IsGood] {error : String → ReportError} (h : Reads read IsGood error)
    (s : String) : refusal IsGood error s =
      match read s with
      | .ok _ => none
      | .error e => some e := by
  obtain ⟨hgood, a, ha⟩ | ⟨hbad, he⟩ := h s
  · rw [refusal, if_pos hgood, ha]
  · rw [refusal, if_neg hbad, he]

/-- One of a list is found by its name when the name is among theirs. -/
theorem find?_name_cases {α : Type} (all : List α) (name : α → String) (s : String) :
    s ∈ all.map name ∧ (∃ a, all.find? (name · = s) = some a) ∨
      s ∉ all.map name ∧ all.find? (name · = s) = none := by
  cases hfind : all.find? (name · = s) with
  | some a =>
    have hname := List.find?_some hfind
    exact .inl ⟨List.mem_map.2 ⟨a, List.mem_of_find?_eq_some hfind, by simpa using hname⟩, a, rfl⟩
  | none =>
    refine .inr ⟨fun hmem => ?_, rfl⟩
    obtain ⟨a, ha, hname⟩ := List.mem_map.1 hmem
    exact List.find?_eq_none.1 hfind a ha (decide_eq_true hname)

/-- A text in lower case is the same by the library's function. -/
theorem lowerAscii_eq_toLower (s : String) : lowerAscii s = s.toLower := by
  have hlower : s.toLower = s.map Char.toLower := rfl
  rw [lowerAscii, hlower, ← String.toList_map, String.ofList_toList]

/-- A text names what a report is sorted by. -/
def SortColumn.IsName (s : String) : Prop :=
  s ∈ ["fullname", "firstname", "lastname", "username", "postcount", "replycount"]

instance : DecidablePred SortColumn.IsName := fun _ => inferInstanceAs (Decidable (_ ∈ _))

theorem SortColumn.reads_ofText : Reads ofText IsName .invalidSortColumn := by
  intro s
  unfold ofText
  obtain ⟨hname, c, hc⟩ | ⟨hname, hnone⟩ := find?_name_cases all name s
  · exact .inl ⟨hname, c, by rw [hc]⟩
  · exact .inr ⟨hname, by rw [hnone]⟩

/-- A text names the direction of a sort. -/
def SortDirection.IsName (s : String) : Prop :=
  s.toLower ∈ ["asc", "desc"]

instance : DecidablePred SortDirection.IsName := fun _ => inferInstanceAs (Decidable (_ ∈ _))

theorem SortDirection.reads_ofText : Reads ofText IsName .invalidSortDirection := by
  intro s
  unfold ofText
  rw [lowerAscii_eq_toLower]
  obtain ⟨hname, d, hd⟩ | ⟨hname, hnone⟩ := find?_name_cases all name s.toLower
  · exact .inl ⟨hname, d, by rw [hd]⟩
  · exact .inr ⟨hname, by rw [hnone]⟩

/-- A text names the format of a download. -/
def Export.Format.IsName (s : String) : Prop :=
  s.toLower ∈ ["csv", "json"]

instance : DecidablePred Export.Format.IsName := fun _ => inferInstanceAs (Decidable (_ ∈ _))

theorem Export.Format.reads_ofText : Reads ofText IsName .invalidExportFormat := by
  intro s
  unfold ofText
  rw [lowerAscii_eq_toLower]
  obtain ⟨hname, f, hf⟩ | ⟨hname, hnone⟩ := find?_name_cases all name s.toLower
  · exact .inl ⟨hname, f, by rw [hf]⟩
  · exact .inr ⟨hname, by rw [hnone]⟩

/-! ## Kinds of filters -/

namespace Filter.Kind

/-- The kinds of filters by their names. -/
def names : List (String × Kind) :=
  [("forum", .forum), ("datefrom", .dateFrom), ("dateto", .dateTo), ("groups", .groups)]

theorem mem_names_iff {s : String} {k : Kind} : (s, k) ∈ names ↔ s = k.name := by
  have hnames : names = all.map fun k => (k.name, k) := rfl
  rw [hnames, List.mem_map]
  constructor
  · rintro ⟨k, -, ⟨⟩⟩
    rfl
  · rintro rfl
    exact ⟨k, mem_all k, rfl⟩

theorem lookup_names (s : String) : names.lookup s = ofName? s := by
  cases h : ofName? s with
  | some k =>
    rw [← name_of_ofName? h]
    cases k <;> decide
  | none =>
    rw [List.lookup_eq_none_iff]
    rintro ⟨name, k⟩ hp
    obtain rfl := mem_names_iff.1 hp
    rw [bne_iff_ne]
    rintro rfl
    rw [ofName?_name] at h
    cases h

theorem mem_names_of_lookup {s : String} {k : Kind} (h : names.lookup s = some k) :
    (s, k) ∈ names := by
  rw [lookup_names] at h
  exact mem_names_iff.2 (name_of_ofName? h).symm

end Filter.Kind

end ForumSummary
