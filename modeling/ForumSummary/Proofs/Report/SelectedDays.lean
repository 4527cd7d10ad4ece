import ForumSummary.Proofs.Calendar.Warnings
import ForumSummary.Proofs.Report.Plans

/-!
# From selected days to a query

Two selections that give no warning are a range of moments, and a request takes the range as its
bounds. A bound that is not positive bounds nothing. So the query counts posts from the first second
of the one day when that day is after 1970-01-01, and up to the last second of the other when that
day is not before it (`Plan.filters_of_selectedDays`). Earlier days that are selected set no filter,
and no warning says so (`Plan.selected_without_filter`).
-/

namespace ForumSummary.Calendar

namespace Range

variable {moment : Selection → Except ReportError Int64} {warning : ReportError → Warning}
  {selection : Option Selection}

/-- Both sides of a range without warnings have none. -/
theorem side_warnings_eq_nil {s : Selections} (h : (ofSelections s).warnings = []) :
    (side Selection.firstSecond .invalidFrom s.dateFrom).2 = [] ∧
      (side Selection.lastSecond .invalidTo s.dateTo).2 = [] := by
  simp only [ofSelections, List.append_eq_nil_iff] at h
  exact h.1

section
variable {second : Date → Int}
  (hmoment : ∀ s, moment s = s.date.map fun d => Int64.ofInt (second d))
  (hquiet : (side moment warning selection).2 = [])
include hmoment hquiet

/-- A side without a warning has the moment of the selected day; it is 0 when no day is selected. -/
theorem side_of_quiet :
    (∃ d, Selected selection d ∧ (side moment warning selection).1 = Int64.ofInt (second d)) ∨
      (∀ d, ¬ Selected selection d) ∧ (side moment warning selection).1 = 0 := by
  rcases selector_cases selection with hunused | ⟨d, hd⟩ | ⟨s, hs⟩
  · rw [side_of_unused hunused]
    exact .inr ⟨hunused.not_selected, rfl⟩
  · rw [side_of_selected hmoment hd]
    exact .inl ⟨d, hd, rfl⟩
  · rw [side_of_misdated hmoment hs] at hquiet
    cases hquiet

/-- A side without a warning bounds a request by the moment of the selected day, if that moment is
positive. -/
theorem bound_side_eq_some_iff (hword : ∀ d, (Int64.ofInt (second d)).toInt = second d)
    (t : Int64) :
    Report.Request.bound (some (side moment warning selection).1) = some t ↔
      ∃ d, Selected selection d ∧ 0 < second d ∧ t.toInt = second d := by
  simp only [Report.Request.bound, Option.filter_eq_some_iff, Option.some.injEq,
    decide_eq_true_eq, Int64.lt_iff_toInt_lt]
  obtain ⟨d, hd, hside⟩ | ⟨hnone, hside⟩ := side_of_quiet hmoment hquiet
  · rw [hside]
    constructor
    · rintro ⟨rfl, hpos⟩
      exact ⟨d, hd, hword d ▸ hpos, hword d⟩
    · rintro ⟨d', hd', hpos, ht⟩
      obtain rfl := hd.unique hd'
      refine ⟨Int64.toInt_inj.1 ((hword d).trans ht.symm), ?_⟩
      rwa [ht]
  · rw [hside]
    constructor
    · rintro ⟨rfl, hpos⟩
      exact absurd hpos (by decide)
    · rintro ⟨d, hd, -⟩
      exact absurd hd (hnone d)

end

end Range

end ForumSummary.Calendar

namespace ForumSummary.Report.Plan

open Calendar

/-- The query of a plan whose bounds are a range without warnings counts posts from the first second
of the selected day, if that day is after 1970-01-01, and up to the last second of the other one, if
that day is not before 1970-01-01; it has no other filters on moments. -/
theorem filters_of_selectedDays (selections : Selections) (request : Request) (store : Store)
    (plan : Plan) (hwarnings : (Range.ofSelections selections).warnings = [])
    (hplan : (prepare
      { request with
        dateFrom := some (Range.ofSelections selections).start
        dateTo := some (Range.ofSelections selections).stop } store).result = .ok plan) :
    (∀ f, plan.query.filter .dateFrom = some f ↔
      ∃ t, f = .dateFrom t ∧ ∃ d, Selected selections.dateFrom d ∧ 0 < d.dayNumber ∧
        t.toInt = d.firstSecond) ∧
    (∀ f, plan.query.filter .dateTo = some f ↔
      ∃ t, f = .dateTo t ∧ ∃ d, Selected selections.dateTo d ∧ 0 ≤ d.dayNumber ∧
        t.toInt = d.lastSecond) := by
  obtain ⟨hfrom, hto⟩ := Range.side_warnings_eq_nil hwarnings
  have hlower := Range.bound_side_eq_some_iff (fun _ => rfl) hfrom Date.toInt_ofInt_firstSecond
  have hupper := Range.bound_side_eq_some_iff (fun _ => rfl) hto Date.toInt_ofInt_lastSecond
  simp only [Date.firstSecond_pos_iff] at hlower
  simp only [Date.lastSecond_pos_iff] at hupper
  obtain ⟨scope, courseGroups, -, rfl, -⟩ := prepare_eq_ok hplan
  refine ⟨fun f => ?_, fun f => ?_⟩
  · refine Option.map_eq_some_iff.trans (exists_congr fun t => ?_)
    exact and_comm.trans (and_congr eq_comm (hlower t))
  · refine Option.map_eq_some_iff.trans (exists_congr fun t => ?_)
    exact and_comm.trans (and_congr eq_comm (hupper t))

/-- The whole day 2024-03-01 is selected. -/
theorem filters_of_selectedDays_leap : ∃ plan,
    (prepare { courseId := 9, dateFrom := some 1709251200, dateTo := some 1709337599 }
      .sample).result = .ok plan ∧
    plan.query.filter .dateFrom = some (.dateFrom 1709251200) ∧
    plan.query.filter .dateTo = some (.dateTo 1709337599) := by
  let day : Date := ⟨2024, 3, 1, by decide⟩
  obtain ⟨hfrom, hto⟩ := filters_of_selectedDays ⟨some ⟨1, 3, 2024, true⟩, some ⟨1, 3, 2024, true⟩⟩
    { courseId := 9 } .sample _ (by decide) rfl
  refine ⟨_, rfl, (hfrom _).2 ⟨_, rfl, day, ?_⟩, (hto _).2 ⟨_, rfl, day, ?_⟩⟩
  · exact ⟨⟨_, rfl, rfl, rfl⟩, by decide, by decide⟩
  · exact ⟨⟨_, rfl, rfl, rfl⟩, by decide, by decide⟩

/-- The last day of 1969 is selected, without a warning, and no filter is set. -/
theorem selected_without_filter : ∃ d plan,
    let range := Range.ofSelections ⟨some ⟨31, 12, 1969, true⟩, none⟩
    Selected (some ⟨31, 12, 1969, true⟩) d ∧ d.firstSecond = -86400 ∧ range.warnings = [] ∧
      (prepare { courseId := 9, dateFrom := some range.start, dateTo := some range.stop }
        .sample).result = .ok plan ∧
      plan.query.filter .dateFrom = none :=
  ⟨⟨1969, 12, 31, by decide⟩, _, ⟨_, rfl, rfl, rfl⟩, by decide, by decide, rfl, rfl⟩

end ForumSummary.Report.Plan
