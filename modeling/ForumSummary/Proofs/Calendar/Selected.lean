import ForumSummary.Calendar.Selection
import ForumSummary.Proofs.Calendar.Clock

/-!
# The days of selections

The numbers of a selection are a day of the Gregorian calendar or no date at all
(`Selection.date_eq_ok_iff`, `isDate_iff_isGregorian`), and a selection that is a day has the first
and the last second of that day (`Selection.Spans`). The days of selections tile time as a clock
shows it (`Selection.days_tile`).
-/

namespace ForumSummary.Calendar

/-! ## Dates -/

/-- Three numbers are a date of the Gregorian calendar, of the years that are kept: seven months
have 31 days and four have 30, and February has 28, or 29 in the years that 400 divides and in those
that 4 divides and 100 does not. -/
def IsGregorian (year : Int) (month day : Nat) : Prop :=
  -262143 ≤ year ∧ year ≤ 262142 ∧ 1 ≤ day ∧
    (month ∈ [1, 3, 5, 7, 8, 10, 12] ∧ day ≤ 31 ∨ month ∈ [4, 6, 9, 11] ∧ day ≤ 30 ∨
      month = 2 ∧ (day ≤ 28 ∨ day = 29 ∧ (400 ∣ year ∨ 4 ∣ year ∧ ¬ 100 ∣ year)))

instance (year : Int) (month day : Nat) : Decidable (IsGregorian year month day) :=
  inferInstanceAs (Decidable (_ ∧ _))

theorem isDate_iff_isGregorian {year : Int} {month day : Nat} :
    IsDate year month day ↔ IsGregorian year month day := by
  have hleap : isLeap year = true ↔ 400 ∣ year ∨ 4 ∣ year ∧ ¬ 100 ∣ year := by
    rw [isLeap_iff]
    omega
  unfold IsDate IsGregorian firstYear lastYear daysInMonth
  refine and_congr_right fun _ => and_congr_right fun _ => and_congr_right fun hday => ?_
  rw [← hleap]
  split
  · cases isLeap year with
    | false => simp
    | true =>
      simp
      omega
  -- Of the other numbers only the last is none of a month, and then no day is left.
  all_goals simp_all
  omega

namespace Selection

variable {s s' : Selection} {d d' : Date} {first last first' last' : Int64}

/-! ## The day of a selection -/

/-- The numbers of a selection are a date. -/
def Holds (s : Selection) (d : Date) : Prop :=
  d.year = s.year.toInt ∧ d.month = s.month.toNat ∧ d.day = s.day.toNat

instance (s : Selection) (d : Date) : Decidable (s.Holds d) :=
  inferInstanceAs (Decidable (_ ∧ _))

theorem date_eq_ok_iff : s.date = .ok d ↔ s.Holds d := by
  rw [Holds, ← Date.of?_eq_some_iff]
  unfold date
  split
  · next e he => rw [he, Except.ok.injEq, Option.some.injEq]
  · next he => simp [he]

theorem exists_holds_iff :
    (∃ d, s.Holds d) ↔ IsGregorian s.year.toInt s.month.toNat s.day.toNat := by
  rw [← isDate_iff_isGregorian, ← Date.of?_isSome_iff, Option.isSome_iff_exists]
  exact exists_congr fun d => Date.of?_eq_some_iff.symm

/-- A moment of the day of a selection is given exactly when the selection is a date. -/
theorem exists_map_date_iff {second : Date → Int64} :
    (∃ t, s.date.map second = .ok t) ↔ IsGregorian s.year.toInt s.month.toNat s.day.toNat := by
  rw [← exists_holds_iff]
  constructor
  · rintro ⟨t, ht⟩
    cases hdate : s.date with
    | ok d => exact ⟨d, date_eq_ok_iff.1 hdate⟩
    | error e => simp [hdate, Except.map] at ht
  · rintro ⟨d, hd⟩
    exact ⟨second d, by rw [date_eq_ok_iff.2 hd]; rfl⟩

/-! ## The seconds of a selection -/

/-- The numbers of a selection are the day `d`, which lasts from the second `first` to the second
`last`. -/
structure Spans (s : Selection) (d : Date) (first last : Int64) : Prop where
  holds : s.Holds d
  first : s.firstSecond = .ok first
  last : s.lastSecond = .ok last

theorem Holds.spans (h : s.Holds d) :
    s.Spans d (Int64.ofInt d.firstSecond) (Int64.ofInt d.lastSecond) where
  holds := h
  first := by rw [firstSecond, date_eq_ok_iff.2 h]; rfl
  last := by rw [lastSecond, date_eq_ok_iff.2 h]; rfl

theorem Spans.first_toInt (h : s.Spans d first last) : first.toInt = d.firstSecond := by
  rw [← Except.ok.inj (h.holds.spans.first.symm.trans h.first), d.toInt_ofInt_firstSecond]

theorem Spans.last_toInt (h : s.Spans d first last) : last.toInt = d.lastSecond := by
  rw [← Except.ok.inj (h.holds.spans.last.symm.trans h.last), d.toInt_ofInt_lastSecond]

/-- A selection has a first and a last second exactly when it is a date. Its day lasts 86400
seconds, the next day begins one second later, later days begin later, and 1970-01-01 begins at 0.
The moments from the first second of one day to the last second of another are those at which a
clock shows a day from the one to the other. -/
theorem days_tile (s s' : Selection) :
    ((∃ first, s.firstSecond = .ok first) ↔
      IsGregorian s.year.toInt s.month.toNat s.day.toNat) ∧
    ((∃ last, s.lastSecond = .ok last) ↔
      IsGregorian s.year.toInt s.month.toNat s.day.toNat) ∧
    (IsGregorian s.year.toInt s.month.toNat s.day.toNat → ∃ d first last, s.Spans d first last) ∧
    ∀ {d d' first last first' last'}, s.Spans d first last → s'.Spans d' first' last' →
      last.toInt = first.toInt + 86399 ∧
      (d.next? = some d' → last.toInt + 1 = first'.toInt) ∧
      (d = .epoch → first = 0) ∧
      (d < d' ↔ first < first') ∧
      (∀ t : Int, first.toInt ≤ t ∧ t ≤ last'.toInt ↔
        ∃ c, Clock.ShownAt t c ∧ d ≤ c.day ∧ c.day ≤ d') := by
  refine ⟨exists_map_date_iff, exists_map_date_iff, fun h => ?_, fun h h' => ?_⟩
  · obtain ⟨d, hd⟩ := exists_holds_iff.2 h
    exact ⟨d, _, _, hd.spans⟩
  · rw [Int64.lt_iff_toInt_lt, ← Int64.toInt_inj, h.first_toInt, h.last_toInt, h'.first_toInt,
      h'.last_toInt]
    refine ⟨rfl, fun hnext => (Date.firstSecond_of_next? hnext).symm, ?_,
      Date.firstSecond_lt_iff.symm, fun t => Clock.between_iff⟩
    rintro rfl
    rfl

/-- The leap day of 2024 and the day after it. -/
theorem days_tile_leap : ∃ d d' last first',
    (⟨29, 2, 2024, true⟩ : Selection).Spans d 1709164800 last ∧
    (⟨1, 3, 2024, true⟩ : Selection).Spans d' first' 1709337599 ∧
    d.next? = some d' ∧ last.toInt + 1 = first'.toInt ∧ (1709164800 : Int64) < first' ∧
    ∃ c, Clock.ShownAt 1709337599 c ∧ d ≤ c.day ∧ c.day ≤ d' := by
  obtain ⟨-, -, -, hdays⟩ := days_tile ⟨29, 2, 2024, true⟩ ⟨1, 3, 2024, true⟩
  have hspans : (⟨29, 2, 2024, true⟩ : Selection).Spans ⟨2024, 2, 29, by decide⟩ 1709164800
      1709251199 := ⟨by decide, rfl, rfl⟩
  have hspans' : (⟨1, 3, 2024, true⟩ : Selection).Spans ⟨2024, 3, 1, by decide⟩ 1709251200
      1709337599 := ⟨by decide, rfl, rfl⟩
  obtain ⟨-, hnext, -, hlt, hclock⟩ := hdays hspans hspans'
  refine ⟨_, _, _, _, hspans, hspans', rfl, hnext rfl, hlt.1 ?_, (hclock _).1 (by decide)⟩
  exact Date.lt_iff.2 (by decide)

end Selection

end ForumSummary.Calendar
