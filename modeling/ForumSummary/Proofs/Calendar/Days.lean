import ForumSummary.Calendar.Range

/-!
# Days and their seconds

The calendar has fewer than a hundred million days on either side of 1970 (`natAbs_dayNumber_lt`),
so the seconds of a day fit a 64-bit word (`toInt_ofInt_firstSecond`, `toInt_ofInt_lastSecond`). A
day begins after the start of 1970 when it comes after the first day of 1970, and ends after it from
that first day on (`firstSecond_pos_iff`, `lastSecond_pos_iff`).
-/

namespace ForumSummary.Calendar

/-! ## The number of a day -/

theorem daysInMonth_le (year : Int) (month : Nat) : daysInMonth year month ≤ 31 := by
  unfold daysInMonth
  split
  · split <;> decide
  all_goals decide

theorem daysInMonth_eq_zero {year : Int} {month : Nat} (h : 12 < month) :
    daysInMonth year month = 0 := by
  unfold daysInMonth
  split <;> omega

theorem IsDate.month_le {year : Int} {month day : Nat} (h : IsDate year month day) :
    month ≤ 12 := by
  refine Nat.le_of_not_lt fun hmonth => ?_
  have hday : 1 ≤ daysInMonth year month := Nat.le_trans h.2.2.1 h.2.2.2
  rw [daysInMonth_eq_zero hmonth] at hday
  exact absurd hday (by decide)

theorem daysBeforeMonth_le (year : Int) (month : Nat) :
    daysBeforeMonth year month ≤ 31 * month := by
  induction month with
  | zero => exact Nat.le_refl 0
  | succ month ih =>
    have hmonth := daysInMonth_le year month
    rw [daysBeforeMonth]
    omega

namespace Date

variable (d : Date)

theorem natAbs_dayNumber_lt : d.dayNumber.natAbs < 100000000 := by
  obtain ⟨hfirst, hlast, -, hday⟩ := d.isDate
  have hdays := Nat.le_trans hday (daysInMonth_le d.year d.month)
  have hmonth := d.isDate.month_le
  have hbefore := daysBeforeMonth_le d.year d.month
  unfold firstYear at hfirst
  unfold lastYear at hlast
  simp only [dayNumber, daysBeforeYear]
  omega

/-! ## The seconds of a day -/

theorem toInt_ofInt_firstSecond : (Int64.ofInt d.firstSecond).toInt = d.firstSecond := by
  have h := d.natAbs_dayNumber_lt
  apply Int64.toInt_ofInt_of_le <;> simp only [firstSecond, secondsPerDay] <;> omega

theorem toInt_ofInt_lastSecond : (Int64.ofInt d.lastSecond).toInt = d.lastSecond := by
  have h := d.natAbs_dayNumber_lt
  apply Int64.toInt_ofInt_of_le <;> simp only [lastSecond, firstSecond, secondsPerDay] <;> omega

theorem firstSecond_pos_iff : 0 < d.firstSecond ↔ 0 < d.dayNumber := by
  simp only [firstSecond, secondsPerDay]
  omega

theorem lastSecond_pos_iff : 0 < d.lastSecond ↔ 0 ≤ d.dayNumber := by
  simp only [lastSecond, firstSecond, secondsPerDay]
  omega

end Date

end ForumSummary.Calendar
