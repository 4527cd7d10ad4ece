import ForumSummary.Proofs.Calendar.Days
import Mathlib.Data.Int.Init
import Mathlib.Data.Prod.Lex
import Mathlib.Order.Cover
import Mathlib.Order.Monotone.Basic

/-!
# Days in order

Dates are ordered by year, then by month, then by day. `dayNumber` follows this order
(`lt_iff_dayNumber_lt`), grows by one from a day to the next (`dayNumber_of_next?`), and leaves no
number out between two dates (`exists_dayNumber_eq`). So the number of one day fixes the numbers of
all: one day is right after another exactly when its number is one more (`next?_eq_some_iff`).
-/

namespace ForumSummary.Calendar

/-! ## Years and months -/

theorem isLeap_iff {year : Int} :
    isLeap year = true ↔ year % 4 = 0 ∧ (year % 100 ≠ 0 ∨ year % 400 = 0) := by
  simp [isLeap]

/-- A year is as long as its twelve months. -/
theorem daysBeforeYear_add_one (year : Int) :
    daysBeforeYear (year + 1) = daysBeforeYear year + daysBeforeMonth year 13 := by
  simp only [daysBeforeYear, daysBeforeMonth, daysInMonth]
  split
  · next h => rw [isLeap_iff] at h; omega
  · next h => rw [isLeap_iff] at h; omega

theorem daysBeforeYear_mono {year year' : Int} (h : year ≤ year') :
    daysBeforeYear year ≤ daysBeforeYear year' := by
  simp only [daysBeforeYear]
  omega

theorem daysBeforeMonth_mono (year : Int) : Monotone (daysBeforeMonth year) :=
  monotone_nat_of_le_succ fun _ => Nat.le_add_right _ _

theorem daysInMonth_pos (year : Int) {month : Nat} (h : 1 ≤ month) (h' : month ≤ 12) :
    1 ≤ daysInMonth year month := by
  unfold daysInMonth
  split
  · split <;> decide
  all_goals grind

namespace Date

variable {d d' : Date}

/-! ## The order -/

/-- Year, month and day, in the order in which they count. -/
def key (d : Date) : ℤ ×ₗ ℕ ×ₗ ℕ :=
  toLex (d.year, toLex (d.month, d.day))

theorem key_injective : Function.Injective key := by
  intro d d' h
  obtain ⟨hyear, h⟩ := Prod.mk.inj h
  obtain ⟨hmonth, hday⟩ := Prod.mk.inj h
  cases d
  congr

/-- Dates are ordered by year, then by month, then by day. -/
instance : LinearOrder Date :=
  LinearOrder.lift' key key_injective

theorem lt_iff : d < d' ↔
    d.year < d'.year ∨ d.year = d'.year ∧
      (d.month < d'.month ∨ d.month = d'.month ∧ d.day < d'.day) :=
  Prod.Lex.toLex_lt_toLex.trans <| or_congr_right <| and_congr_right fun _ =>
    Prod.Lex.toLex_lt_toLex

/-- A day is in its month. -/
theorem day_le_daysBeforeMonth_add_one (d : Date) :
    daysBeforeMonth d.year d.month + d.day ≤ daysBeforeMonth d.year (d.month + 1) :=
  Nat.add_le_add_left d.isDate.2.2.2 _

/-- A day is in its year. -/
theorem day_le_daysBeforeMonth_end (d : Date) :
    daysBeforeMonth d.year d.month + d.day ≤ daysBeforeMonth d.year 13 :=
  d.day_le_daysBeforeMonth_add_one.trans
    (daysBeforeMonth_mono _ (Nat.succ_le_succ d.isDate.month_le))

/-- Later days have greater numbers. -/
theorem dayNumber_lt_dayNumber (h : d < d') : d.dayNumber < d'.dayNumber := by
  have hday := d.isDate.2.2.1
  have hday' := d'.isDate.2.2.1
  simp only [dayNumber]
  obtain hyear | ⟨hyear, hmonth | ⟨hmonth, h⟩⟩ := lt_iff.1 h
  · have hend := d.day_le_daysBeforeMonth_end
    have hnext := daysBeforeYear_add_one d.year
    have hmono := daysBeforeYear_mono (Int.add_one_le_of_lt hyear)
    omega
  · have hend := d.day_le_daysBeforeMonth_add_one
    have hmono := daysBeforeMonth_mono d.year (Nat.add_one_le_of_lt hmonth)
    rw [← hyear]
    omega
  · rw [← hyear, ← hmonth]
    omega

theorem lt_iff_dayNumber_lt : d < d' ↔ d.dayNumber < d'.dayNumber := by
  refine ⟨dayNumber_lt_dayNumber, fun h => ?_⟩
  obtain hlt | rfl | hgt := lt_trichotomy d d'
  · exact hlt
  · exact absurd h (Int.lt_irrefl _)
  · exact absurd h (Int.lt_asymm (dayNumber_lt_dayNumber hgt))

theorem le_iff_dayNumber_le : d ≤ d' ↔ d.dayNumber ≤ d'.dayNumber := by
  rw [← not_lt, lt_iff_dayNumber_lt, Int.not_lt]

theorem dayNumber_injective : Function.Injective dayNumber := fun _ _ h =>
  le_antisymm (le_iff_dayNumber_le.2 (Int.le_of_eq h)) (le_iff_dayNumber_le.2 (Int.le_of_eq h.symm))

/-! ## The next day -/

theorem of?_eq_some_iff {year : Int} {month day : Nat} :
    of? year month day = some d ↔ d.year = year ∧ d.month = month ∧ d.day = day := by
  unfold of?
  constructor
  · intro h
    split at h
    · cases h
      exact ⟨rfl, rfl, rfl⟩
    · cases h
  · rintro ⟨rfl, rfl, rfl⟩
    exact dif_pos d.isDate

theorem of?_eq_none_iff {year : Int} {month day : Nat} :
    of? year month day = none ↔ ¬ IsDate year month day := by
  rw [← of?_isSome_iff, Option.not_isSome_iff_eq_none]

/-- The next day: the next one of the month, else the first of the next month, else the first of the
next year. -/
def next? (d : Date) : Option Date :=
  of? d.year d.month (d.day + 1) <|> of? d.year (d.month + 1) 1 <|> of? (d.year + 1) 1 1

/-- A day that is not the last of its month is followed by another one of the month. -/
theorem day_eq_of_not_isDate (h : ¬ IsDate d.year d.month (d.day + 1)) :
    d.day = daysInMonth d.year d.month := by
  obtain ⟨hfirst, hlast, -, hday⟩ := d.isDate
  refine Nat.le_antisymm hday (Nat.le_of_not_lt fun hlt => h ?_)
  exact ⟨hfirst, hlast, Nat.le_add_left 1 _, hlt⟩

/-- Every month but the twelfth is followed by another one of the year. -/
theorem month_eq_of_not_isDate (h : ¬ IsDate d.year (d.month + 1) 1) : d.month = 12 := by
  refine Nat.le_antisymm d.isDate.month_le (Nat.le_of_not_lt fun hlt => h ?_)
  exact ⟨d.isDate.1, d.isDate.2.1, Nat.le_refl 1, daysInMonth_pos _ (Nat.le_add_left 1 _) hlt⟩

theorem dayNumber_of_next? (h : d.next? = some d') : d'.dayNumber = d.dayNumber + 1 := by
  have hday := d.isDate.2.2.1
  simp only [next?, Option.orElse_eq_orElse, Option.orElse_eq_or, Option.or_eq_some_iff,
    of?_eq_some_iff, of?_eq_none_iff] at h
  simp only [dayNumber]
  obtain ⟨hyear, hmonth, hday'⟩ | ⟨hlast, ⟨hyear, hmonth, hday'⟩ |
    ⟨hlast', hyear, hmonth, hday'⟩⟩ := h
  · rw [hyear, hmonth, hday']
    omega
  · rw [hyear, hmonth, hday', daysBeforeMonth, ← day_eq_of_not_isDate hlast]
    omega
  · rw [hyear, hmonth, hday', daysBeforeYear_add_one, daysBeforeMonth,
      ← month_eq_of_not_isDate hlast', ← day_eq_of_not_isDate hlast]
    simp only [daysBeforeMonth, daysInMonth]
    omega

/-- Only the last day of the calendar has no next day. -/
theorem exists_next?_of_lt (h : d < d') : ∃ e, d.next? = some e := by
  refine Option.ne_none_iff_exists'.1 fun hnone => ?_
  simp only [next?, Option.orElse_eq_orElse, Option.orElse_eq_or, Option.or_eq_none_iff,
    of?_eq_none_iff] at hnone
  obtain ⟨hday, hmonth, hyear⟩ := hnone
  have hday := day_eq_of_not_isDate hday
  have hmonth := month_eq_of_not_isDate hmonth
  have hmonth' := d'.isDate.month_le
  have hday' := d'.isDate.2.2.2
  obtain hlt | ⟨heq, hlt | ⟨heq', hlt⟩⟩ := lt_iff.1 h
  · refine hyear ⟨?_, ?_, Nat.le_refl 1, daysInMonth_pos _ (by decide) (by decide)⟩
    · exact d.isDate.1.trans (Int.le_add_one (Int.le_refl _))
    · exact (Int.add_one_le_of_lt hlt).trans d'.isDate.2.1
  · omega
  · rw [← heq, ← heq'] at hday'
    omega

/-- One day is the next of another exactly when its number is one more. -/
theorem next?_eq_some_iff : d.next? = some d' ↔ d'.dayNumber = d.dayNumber + 1 := by
  refine ⟨dayNumber_of_next?, fun h => ?_⟩
  have hlt : d < d' := lt_iff_dayNumber_lt.2 (by omega)
  obtain ⟨e, he⟩ := exists_next?_of_lt hlt
  rw [he, Option.some.injEq]
  exact dayNumber_injective ((dayNumber_of_next? he).trans h.symm)

/-- The next day is later, and no day is between the two. -/
theorem next?_eq_some_iff_covBy : d.next? = some d' ↔ d ⋖ d' := by
  constructor
  · intro h
    have hnumber := dayNumber_of_next? h
    refine ⟨lt_iff_dayNumber_lt.2 (by omega), fun e hlt hlt' => ?_⟩
    rw [lt_iff_dayNumber_lt] at hlt hlt'
    omega
  · intro h
    obtain ⟨e, he⟩ := exists_next?_of_lt h.lt
    have hnumber := dayNumber_of_next? he
    have hlt := lt_iff_dayNumber_lt.1 h.lt
    have hde : d < e := lt_iff_dayNumber_lt.2 (by omega)
    have hle : e ≤ d' := le_iff_dayNumber_le.2 (by omega)
    rwa [← hle.eq_of_not_lt (h.2 hde)]

/-- Every number between those of two days is the number of a day. -/
theorem exists_dayNumber_eq {n : Int} (h : d.dayNumber ≤ n) (h' : n ≤ d'.dayNumber) :
    ∃ e : Date, e.dayNumber = n := by
  induction n, h using Int.leInduction with
  | base => exact ⟨d, rfl⟩
  | succ n hn ih =>
    obtain ⟨e, he⟩ := ih (by omega)
    have hlt : e < d' := lt_iff_dayNumber_lt.2 (by omega)
    obtain ⟨e', hnext⟩ := exists_next?_of_lt hlt
    exact ⟨e', (dayNumber_of_next? hnext).trans (congrArg (· + 1) he)⟩

/-! ## The seconds of days in order -/

theorem firstSecond_lt_iff : d.firstSecond < d'.firstSecond ↔ d < d' := by
  rw [lt_iff_dayNumber_lt]
  simp only [firstSecond, secondsPerDay]
  omega

/-- The next day begins when a day is over. -/
theorem firstSecond_of_next? (h : d.next? = some d') : d'.firstSecond = d.lastSecond + 1 := by
  have hnumber := dayNumber_of_next? h
  simp only [lastSecond, firstSecond, secondsPerDay]
  omega

end Date

end ForumSummary.Calendar
