import ForumSummary.Proofs.Calendar.Ranges

/-!
# Sides that are no date

A date selector is not used, or it is used and holds a day, or it is used and its numbers are no
date (`selector_cases`). Only the last gives a warning about its side, and then the side counts as
one that is not used: it is 0, so the range does not run backwards, and the other side is what it is
without it (`Range.ofSelections_sides`).
-/

namespace ForumSummary.Calendar

/-- A date selector is not there, or it is not used. -/
def Unused (selection : Option Selection) : Prop :=
  ∀ s, selection = some s → s.enabled = false

/-- A date selector is there and used, and its numbers are no date. -/
def Misdated (selection : Option Selection) (s : Selection) : Prop :=
  selection = some s ∧ s.enabled = true ∧ ¬ IsGregorian s.year.toInt s.month.toNat s.day.toNat

/-- A warning says that an input is no date: the input `item`, which is labelled `label`. -/
structure Warning.Rejects (w : Warning) (item label : String) (e : ReportError) : Prop where
  item_eq : w.item = item
  code_eq : w.code = "invaliddate"
  message_eq : w.message = "The '" ++ label ++ "' date is invalid: " ++ e.message ++ "."

/-- What a side of a range is: its moment, which is the `second` of a day that is selected, and the
warnings about the input `item`. -/
structure IsSide (item label : String) (second : Date → Int) (selection : Option Selection)
    (moment : Int64) (warnings : List Warning) : Prop where
  unused : Unused selection → moment = 0 ∧ warnings = []
  selected : ∀ d, Selected selection d → moment.toInt = second d ∧ warnings = []
  misdated : ∀ s, Misdated selection s → moment = 0 ∧
    ∃ w, warnings = [w] ∧ w.Rejects item label (.invalidDate s.year s.month s.day)

section
variable {selection : Option Selection} {s : Selection}

theorem selector_cases (selection : Option Selection) :
    Unused selection ∨ (∃ d, Selected selection d) ∨ ∃ s, Misdated selection s := by
  cases selection with
  | none =>
    refine .inl fun s hs => ?_
    cases hs
  | some s =>
    cases hused : s.enabled with
    | false =>
      refine .inl fun s' hs => ?_
      cases hs
      exact hused
    | true =>
      by_cases hdate : IsGregorian s.year.toInt s.month.toNat s.day.toNat
      · obtain ⟨d, hd⟩ := Selection.exists_holds_iff.2 hdate
        exact .inr (.inl ⟨d, s, rfl, hused, Selection.date_eq_ok_iff.2 hd⟩)
      · exact .inr (.inr ⟨s, rfl, hused, hdate⟩)

theorem Unused.not_selected (h : Unused selection) (d : Date) : ¬ Selected selection d := by
  rintro ⟨s, hs, hused, -⟩
  rw [h s hs] at hused
  cases hused

theorem Misdated.date_eq_error (h : Misdated selection s) :
    s.date = .error (.invalidDate s.year s.month s.day) := by
  rw [Selection.date, Date.of?_eq_none_iff.2 (mt isDate_iff_isGregorian.1 h.2.2)]

/-- A side has no warning unless it is no date. -/
theorem IsSide.warnings_eq_nil_iff {item label : String} {second : Date → Int} {moment : Int64}
    {warnings : List Warning} (h : IsSide item label second selection moment warnings) :
    warnings = [] ↔ ∀ s, ¬ Misdated selection s := by
  constructor
  · rintro rfl s hs
    obtain ⟨-, w, hw, -⟩ := h.misdated s hs
    cases hw
  · intro hnone
    rcases selector_cases selection with hunused | ⟨d, hd⟩ | ⟨s, hs⟩
    · exact (h.unused hunused).2
    · exact (h.selected d hd).2
    · exact absurd hs (hnone s)

end

namespace Range

section
variable {moment : Selection → Except ReportError Int64} {warning : ReportError → Warning}
  {selection : Option Selection} {item label : String}

theorem side_of_unused (h : Unused selection) : side moment warning selection = (0, []) := by
  have hfilter : selection.filter (·.enabled) = none := by
    rw [Option.filter_eq_none_iff]
    intro s hs hused
    rw [h s hs] at hused
    cases hused
  rw [side, hfilter]

section
variable {second : Date → Int}
  (hmoment : ∀ s, moment s = s.date.map fun d => Int64.ofInt (second d))
include hmoment

theorem side_of_misdated {s : Selection} (h : Misdated selection s) :
    side moment warning selection = (0, [warning (.invalidDate s.year s.month s.day)]) := by
  have hdate := h.date_eq_error
  obtain ⟨rfl, hused, -⟩ := h
  simp only [side, Option.filter_some, hused, if_true, hmoment, hdate, Except.map]

theorem side_isSide (hword : ∀ d, (Int64.ofInt (second d)).toInt = second d)
    (hwarning : ∀ e, (warning e).Rejects item label e) :
    IsSide item label second selection (side moment warning selection).1
      (side moment warning selection).2 where
  unused h := by
    rw [side_of_unused h]
    exact ⟨rfl, rfl⟩
  selected d h := by
    rw [side_of_selected hmoment h]
    exact ⟨hword d, rfl⟩
  misdated s h := by
    rw [side_of_misdated hmoment h]
    exact ⟨rfl, _, rfl, hwarning _⟩

end

/-- The warnings of a side are all about its input. -/
theorem item_of_mem_side (hwarning : ∀ e, (warning e).item = item) :
    ∀ w ∈ (side moment warning selection).2, w.item = item := by
  intro w hw
  unfold side at hw
  split at hw
  · cases hw
  · split at hw
    · cases hw
    · rw [List.mem_singleton.1 hw]
      exact hwarning _

end

/-! ## The warnings about one input -/

/-- The warnings of a range about an input. -/
def about (r : Range) (item : String) : List Warning :=
  r.warnings.filter (·.item = item)

theorem filter_item {warnings : List Warning} {item : String}
    (h : ∀ w ∈ warnings, w.item = item) (item' : String) :
    warnings.filter (·.item = item') = if item = item' then warnings else [] := by
  split
  · next heq =>
    refine List.filter_eq_self.2 fun w hw => decide_eq_true ?_
    rw [h w hw, heq]
  · next hne =>
    refine List.filter_eq_nil_iff.2 fun w hw => ?_
    rw [h w hw, decide_eq_true_eq]
    exact hne

variable (s : Selections)

/-- The side of the first second. -/
def fromSide (s : Selections) : Int64 × List Warning :=
  side Selection.firstSecond .invalidFrom s.dateFrom

/-- The side of the last second. -/
def toSide (s : Selections) : Int64 × List Warning :=
  side Selection.lastSecond .invalidTo s.dateTo

/-- The warnings about a range as a whole. -/
def rangeWarnings (start stop : Int64) : List Warning :=
  if 0 < start ∧ 0 < stop ∧ stop < start then [.backwards] else []

theorem ofSelections_eq : ofSelections s =
    ⟨(fromSide s).1, (toSide s).1,
      (fromSide s).2 ++ (toSide s).2 ++ rangeWarnings (fromSide s).1 (toSide s).1⟩ :=
  rfl

theorem item_of_mem_rangeWarnings {start stop : Int64} :
    ∀ w ∈ rangeWarnings start stop, w.item = "dates" := by
  intro w hw
  unfold rangeWarnings at hw
  split at hw
  · rw [List.mem_singleton.1 hw]
    rfl
  · cases hw

/-- A side that is 0 sets no bound, so the range does not run backwards. -/
theorem rangeWarnings_of_zero {start stop : Int64} (h : start = 0 ∨ stop = 0) :
    rangeWarnings start stop = [] := by
  refine if_neg ?_
  rintro ⟨hstart, hstop, -⟩
  rcases h with rfl | rfl
  · exact absurd hstart (by decide)
  · exact absurd hstop (by decide)

/-- The warnings about an input are those of its side. -/
theorem about_ofSelections (item : String) : (ofSelections s).about item =
    (if "datefrom" = item then (fromSide s).2 else []) ++
      (if "dateto" = item then (toSide s).2 else []) ++
      if "dates" = item then rangeWarnings (fromSide s).1 (toSide s).1 else [] := by
  have hfrom : ∀ w ∈ (fromSide s).2, w.item = "datefrom" := item_of_mem_side fun _ => rfl
  have hto : ∀ w ∈ (toSide s).2, w.item = "dateto" := item_of_mem_side fun _ => rfl
  rw [about, ofSelections_eq, List.filter_append, List.filter_append, filter_item hfrom,
    filter_item hto, filter_item item_of_mem_rangeWarnings]

theorem about_dateFrom : (ofSelections s).about "datefrom" = (fromSide s).2 := by
  rw [about_ofSelections]
  simp

theorem about_dateTo : (ofSelections s).about "dateto" = (toSide s).2 := by
  rw [about_ofSelections]
  simp

theorem about_dates :
    (ofSelections s).about "dates" = rangeWarnings (fromSide s).1 (toSide s).1 := by
  rw [about_ofSelections]
  simp

/-- What a range makes of its sides. A side that is not used is 0 without a warning, one that holds
a day has no warning, and one that is no date is 0 with one warning. The warnings are in the order
of the sides, and the one about the range comes last; there is none when a side is no date, and then
the other side is what it is when that side is not used. The range may be used when and only when
neither side is a used selector without a date and there is no warning about the range. -/
theorem ofSelections_sides (selections : Selections) :
    let range := ofSelections selections
    IsSide "datefrom" "From" Date.firstSecond selections.dateFrom range.start
      (range.about "datefrom") ∧
    IsSide "dateto" "To" Date.lastSecond selections.dateTo range.stop (range.about "dateto") ∧
    range.warnings = range.about "datefrom" ++ range.about "dateto" ++ range.about "dates" ∧
    (∀ s, Misdated selections.dateFrom s →
      let disabled := ofSelections { selections with dateFrom := some { s with enabled := false } }
      range.about "dates" = [] ∧ range.stop = disabled.stop ∧
        range.about "dateto" = disabled.about "dateto") ∧
    (∀ s, Misdated selections.dateTo s →
      let disabled := ofSelections { selections with dateTo := some { s with enabled := false } }
      range.about "dates" = [] ∧ range.start = disabled.start ∧
        range.about "datefrom" = disabled.about "datefrom") ∧
    (range.isValid = true ↔ (∀ s, ¬ Misdated selections.dateFrom s) ∧
      (∀ s, ¬ Misdated selections.dateTo s) ∧ range.about "dates" = []) := by
  intro range
  have hfrom : IsSide "datefrom" "From" Date.firstSecond selections.dateFrom range.start
      (range.about "datefrom") := by
    rw [about_dateFrom]
    exact side_isSide (fun _ => rfl) Date.toInt_ofInt_firstSecond fun _ => ⟨rfl, rfl, rfl⟩
  have hto : IsSide "dateto" "To" Date.lastSecond selections.dateTo range.stop
      (range.about "dateto") := by
    rw [about_dateTo]
    exact side_isSide (fun _ => rfl) Date.toInt_ofInt_lastSecond fun _ => ⟨rfl, rfl, rfl⟩
  have hwarnings : range.warnings =
      range.about "datefrom" ++ range.about "dateto" ++ range.about "dates" := by
    rw [about_dateFrom, about_dateTo, about_dates]
    rfl
  refine ⟨hfrom, hto, hwarnings, fun s hs => ⟨?_, rfl, ?_⟩, fun s hs => ⟨?_, rfl, ?_⟩, ?_⟩
  · rw [about_dates]
    exact rangeWarnings_of_zero (.inl (hfrom.misdated s hs).1)
  · rw [about_dateTo, about_dateTo]
    rfl
  · rw [about_dates]
    exact rangeWarnings_of_zero (.inr (hto.misdated s hs).1)
  · rw [about_dateFrom, about_dateFrom]
    rfl
  · rw [isValid, List.isEmpty_iff, hwarnings, List.append_eq_nil_iff, List.append_eq_nil_iff,
      hfrom.warnings_eq_nil_iff, hto.warnings_eq_nil_iff, and_assoc]

/-- The 30th of February 2021 as the first day, and a last day in the year before. -/
theorem ofSelections_sides_february :
    let range := ofSelections ⟨some ⟨30, 2, 2021, true⟩, some ⟨1, 6, 2020, true⟩⟩
    range.start = 0 ∧ range.stop.toInt = 1591055999 ∧
      (∃ w, range.warnings = [w] ∧ w.Rejects "datefrom" "From" (.invalidDate 2021 2 30)) ∧
      ¬ range.isValid = true := by
  intro range
  have hfebruary : Misdated (some ⟨30, 2, 2021, true⟩) ⟨30, 2, 2021, true⟩ :=
    ⟨rfl, rfl, by decide⟩
  have hjune : Selected (some ⟨1, 6, 2020, true⟩) ⟨2020, 6, 1, by decide⟩ := ⟨_, rfl, rfl, rfl⟩
  obtain ⟨hfrom, hto, hwarnings, hmisdated, -, hvalid⟩ :=
    ofSelections_sides ⟨some ⟨30, 2, 2021, true⟩, some ⟨1, 6, 2020, true⟩⟩
  obtain ⟨hstart, w, hw, hrejects⟩ := hfrom.misdated _ hfebruary
  obtain ⟨hstop, hquiet⟩ := hto.selected _ hjune
  obtain ⟨hdates, -⟩ := hmisdated _ hfebruary
  rw [hw, hquiet, hdates] at hwarnings
  exact ⟨hstart, hstop, ⟨w, hwarnings, hrejects⟩, fun h => (hvalid.1 h).1 _ hfebruary⟩

end Range

end ForumSummary.Calendar
