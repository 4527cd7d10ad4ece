import ForumSummary.Calendar.Range
import ForumSummary.Proofs.Calendar.Selected

/-!
# Ranges of selected days

Two selectors that hold days give the range from the first second of the one to the last second of
the other, and no warning but that the range runs backwards. That warning is given for days from
1970-01-01 on only (`Range.ofSelections_of_selected`): a side that is not positive counts as a side
that is not used, so a range back to an earlier day gets no warning (`Range.backwards_unwarned`).
-/

namespace ForumSummary.Calendar

/-- A date selector is there, is used, and holds a day of the calendar. -/
def Selected (selection : Option Selection) (d : Date) : Prop :=
  ∃ s, selection = some s ∧ s.enabled = true ∧ s.date = .ok d

/-- A selector holds one day. -/
theorem Selected.unique {selection : Option Selection} {d d' : Date} (h : Selected selection d)
    (h' : Selected selection d') : d = d' := by
  obtain ⟨s, rfl, -, hd⟩ := h
  obtain ⟨_, hs, -, hd'⟩ := h'
  cases hs
  exact Except.ok.inj (hd.symm.trans hd')

namespace Range

variable {moment : Selection → Except ReportError Int64} {warning : ReportError → Warning}
  {selection : Option Selection} {d d' : Date}

/-- A side that holds a day has a moment of that day, and no warning. -/
theorem side_of_selected {second : Date → Int64} (hmoment : ∀ s, moment s = s.date.map second)
    (h : Selected selection d) : side moment warning selection = (second d, []) := by
  obtain ⟨s, rfl, hused, hdate⟩ := h
  simp only [side, Option.filter_some, hused, if_true, hmoment, hdate, Except.map]

/-- The one warning that two days can get is given when the second is the earlier one and its last
second counts as a bound. -/
theorem backwards_iff :
    0 < d.firstSecond ∧ 0 < d'.lastSecond ∧ d'.lastSecond < d.firstSecond ↔
      d' < d ∧ Date.epoch ≤ d' := by
  have hepoch : Date.epoch.dayNumber = 0 := rfl
  rw [Date.lt_iff_dayNumber_lt, Date.le_iff_dayNumber_le, hepoch]
  simp only [Date.lastSecond, Date.firstSecond, Date.secondsPerDay]
  omega

/-- Two days give the range from the first second of the one to the last second of the other. It
gets the warning `invaliddaterange` when it runs backwards to 1970-01-01 or a later day, and no
other warning. -/
theorem ofSelections_of_selected (selections : Selections)
    (hfrom : Selected selections.dateFrom d) (hto : Selected selections.dateTo d') :
    (ofSelections selections).start.toInt = d.firstSecond ∧
      (ofSelections selections).stop.toInt = d'.lastSecond ∧
      (ofSelections selections).warnings =
        (if d' < d ∧ Date.epoch ≤ d' then [Warning.backwards] else []) ∧
      ∀ w ∈ (ofSelections selections).warnings, w.code = "invaliddaterange" := by
  have hstart : side Selection.firstSecond .invalidFrom selections.dateFrom =
      (Int64.ofInt d.firstSecond, []) := side_of_selected (fun _ => rfl) hfrom
  have hstop : side Selection.lastSecond .invalidTo selections.dateTo =
      (Int64.ofInt d'.lastSecond, []) := side_of_selected (fun _ => rfl) hto
  have hzero : (0 : Int64).toInt = 0 := rfl
  have hrange : (ofSelections selections).start.toInt = d.firstSecond ∧
      (ofSelections selections).stop.toInt = d'.lastSecond ∧
      (ofSelections selections).warnings =
        if d' < d ∧ Date.epoch ≤ d' then [Warning.backwards] else [] := by
    simp only [ofSelections, hstart, hstop, List.nil_append, Int64.lt_iff_toInt_lt, hzero,
      Date.toInt_ofInt_firstSecond, Date.toInt_ofInt_lastSecond, backwards_iff, and_self]
  refine ⟨hrange.1, hrange.2.1, hrange.2.2, fun w hw => ?_⟩
  rw [hrange.2.2] at hw
  split at hw
  · rw [List.mem_singleton.1 hw]
    rfl
  · cases hw

/-- From 2024-03-01 back to 2024-02-29. -/
theorem ofSelections_of_selected_leap :
    (ofSelections ⟨some ⟨1, 3, 2024, true⟩, some ⟨29, 2, 2024, true⟩⟩).warnings = [.backwards] := by
  have hfrom : Selected (some ⟨1, 3, 2024, true⟩) ⟨2024, 3, 1, by decide⟩ := ⟨_, rfl, rfl, rfl⟩
  have hto : Selected (some ⟨29, 2, 2024, true⟩) ⟨2024, 2, 29, by decide⟩ := ⟨_, rfl, rfl, rfl⟩
  obtain ⟨-, -, hwarnings, -⟩ := ofSelections_of_selected ⟨_, _⟩ hfrom hto
  rw [hwarnings, if_pos ⟨Date.lt_iff.2 (by decide), (Date.lt_iff.2 (by decide)).le⟩]

/-- From 2024-03-01 back to the last day of 1969, without a warning. -/
theorem backwards_unwarned : ∃ d d',
    let selections : Selections := ⟨some ⟨1, 3, 2024, true⟩, some ⟨31, 12, 1969, true⟩⟩
    Selected selections.dateFrom d ∧ Selected selections.dateTo d' ∧ d' < d ∧
      (ofSelections selections).warnings = [] :=
  ⟨⟨2024, 3, 1, by decide⟩, ⟨1969, 12, 31, by decide⟩, ⟨_, rfl, rfl, rfl⟩, ⟨_, rfl, rfl, rfl⟩,
    Date.lt_iff.2 (by decide), by decide⟩

end Range

end ForumSummary.Calendar
