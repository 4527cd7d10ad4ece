import ForumSummary.Proofs.Calendar.Order

/-!
# The clock

A clock shows a day and a second of that day. From each second it goes to the next one of the day,
and from the last one of a day to the first one of the next day (`Clock.Tick`). It shows the start
of 1970 at moment 0, which fixes what it shows before and after (`Clock.ShownAt`): a day is shown
from its first second to its last one (`Clock.shownAt_iff`). So the moments from the first second of
one day to the last second of another are those at which a day from the one to the other is shown
(`Clock.between_iff`).
-/

namespace ForumSummary.Calendar

/-- 1970-01-01. -/
def Date.epoch : Date :=
  ⟨1970, 1, 1, by decide⟩

/-- What a clock shows: a day, and how many of its seconds are over. -/
structure Clock where
  day : Date
  second : Nat
  second_lt : second < 86400

namespace Clock

/-- A clock goes on by one second. -/
inductive Tick (c c' : Clock) : Prop where
  | withinDay (day : c'.day = c.day) (second : c'.second = c.second + 1)
  | midnight (day : c.day.next? = some c'.day) (last : c.second = 86399) (first : c'.second = 0)

/-- A clock that shows the start of 1970 at moment 0 shows `c` at moment `t`, in seconds. -/
inductive ShownAt : Int → Clock → Prop where
  | start : ShownAt 0 ⟨.epoch, 0, by decide⟩
  | later {t : Int} {c c' : Clock} (h : ShownAt t c) (tick : Tick c c') : ShownAt (t + 1) c'
  | earlier {t : Int} {c c' : Clock} (h : ShownAt t c') (tick : Tick c c') : ShownAt (t - 1) c

variable {c c' : Clock} {t : Int} {d d' : Date}

/-- The seconds from the start of 1970 to what a clock shows. -/
def moment (c : Clock) : Int :=
  c.day.firstSecond + c.second

theorem moment_eq (c : Clock) : c.moment = c.day.dayNumber * 86400 + c.second :=
  rfl

theorem moment_injective : Function.Injective moment := by
  intro c c' h
  have hc := c.second_lt
  have hc' := c'.second_lt
  rw [moment_eq, moment_eq] at h
  have hday : c.day = c'.day := Date.dayNumber_injective (by omega)
  have hsecond : c.second = c'.second := by rw [hday] at h; omega
  cases c
  congr

/-- One tick is one second. -/
theorem tick_iff : Tick c c' ↔ c'.moment = c.moment + 1 := by
  rw [moment_eq, moment_eq]
  constructor
  · rintro (⟨hday, hsecond⟩ | ⟨hday, hlast, hfirst⟩)
    · rw [hday]
      omega
    · rw [Date.dayNumber_of_next? hday]
      omega
  · intro h
    have hc := c.second_lt
    have hc' := c'.second_lt
    by_cases hlast : c.second = 86399
    · exact .midnight (Date.next?_eq_some_iff.2 (by omega)) hlast (by omega)
    · have hday : c'.day = c.day := Date.dayNumber_injective (by omega)
      exact .withinDay hday (by rw [hday] at h; omega)

/-- Every moment between two that a clock shows is shown by a clock. -/
theorem exists_moment_eq (h : c.moment ≤ t) (h' : t ≤ c'.moment) : ∃ e : Clock, e.moment = t := by
  have hc := c.second_lt
  have hc' := c'.second_lt
  rw [moment_eq] at h h'
  obtain ⟨d, hd⟩ := Date.exists_dayNumber_eq (n := t / 86400)
    (by omega : c.day.dayNumber ≤ _) (by omega : _ ≤ c'.day.dayNumber)
  refine ⟨⟨d, (t % 86400).toNat, by omega⟩, ?_⟩
  rw [moment_eq, hd]
  simp only
  omega

/-- What is shown at a moment is that moment. -/
theorem ShownAt.moment_eq (h : ShownAt t c) : c.moment = t := by
  induction h with
  | start => decide
  | later _ tick ih => rw [tick_iff.1 tick, ih]
  | earlier _ tick ih => rw [tick_iff] at tick; omega

/-- From the start of 1970, every moment is reached second by second, forwards or backwards. -/
theorem shownAt_of_moment_eq (h : c.moment = t) : ShownAt t c := by
  induction t using Int.inductionOn' (b := 0) generalizing c with
  | zero =>
    rw [moment_injective (h.trans ShownAt.start.moment_eq.symm)]
    exact .start
  | succ t hstart ih =>
    have hstart := ShownAt.start.moment_eq.trans_le hstart
    obtain ⟨e, rfl⟩ := exists_moment_eq hstart (by omega : t ≤ c.moment)
    exact .later (ih rfl) (tick_iff.2 h)
  | pred t hstart ih =>
    have hstart := hstart.trans_eq ShownAt.start.moment_eq.symm
    obtain ⟨e, rfl⟩ := exists_moment_eq (by omega : c.moment ≤ t) hstart
    exact .earlier (ih rfl) (tick_iff.2 (by omega))

theorem shownAt_iff : ShownAt t c ↔ c.moment = t :=
  ⟨ShownAt.moment_eq, shownAt_of_moment_eq⟩

/-- From the first second of one day to the last second of another, a clock shows the days from the
one to the other. -/
theorem between_iff :
    d.firstSecond ≤ t ∧ t ≤ d'.lastSecond ↔ ∃ c, ShownAt t c ∧ d ≤ c.day ∧ c.day ≤ d' := by
  simp only [shownAt_iff, Date.le_iff_dayNumber_le]
  constructor
  · rintro ⟨hfirst, hlast⟩
    have hstart : (⟨d, 0, by decide⟩ : Clock).moment ≤ t := (Int.add_zero _).trans_le hfirst
    have hstop : t ≤ (⟨d', 86399, by decide⟩ : Clock).moment := hlast
    obtain ⟨e, rfl⟩ := exists_moment_eq hstart hstop
    have he := e.second_lt
    simp only [Date.lastSecond, Date.firstSecond, Date.secondsPerDay, moment] at hfirst hlast
    exact ⟨e, rfl, by omega, by omega⟩
  · rintro ⟨e, rfl, hd, hd'⟩
    have he := e.second_lt
    simp only [Date.lastSecond, Date.firstSecond, Date.secondsPerDay, moment]
    omega

end Clock

end ForumSummary.Calendar
