import ForumSummary.Page

/-!
# Report requests

A request says what a caller wants to see; the limits say how many rows a page may have. A request
that gives no page size, or 0, gets the default size, and no page is greater than the maximum.
-/

namespace ForumSummary.Report

/-- What a caller wants to see. -/
structure Request where
  courseId : Int64 := 0
  /-- A positive id narrows the report to one forum. -/
  forumId : Int64 := 0
  /-- Groups by id; an empty list stands for all. -/
  groups : List Int64 := []
  dateFrom : Option Int64 := none
  dateTo : Option Int64 := none
  page : UInt32 := 0
  perPage : Option UInt32 := none
  order : SortOrder := {}
  deriving DecidableEq, Repr

namespace Request

/-- A moment that bounds a report; one that is not positive bounds nothing. -/
def bound (moment : Option Int64) : Option Int64 :=
  moment.filter (0 < ·)

/-- The moment from which posts are counted. -/
def lowerBound (r : Request) : Option Int64 :=
  bound r.dateFrom

/-- The moment up to which posts are counted. -/
def upperBound (r : Request) : Option Int64 :=
  bound r.dateTo

end Request

/-- The greatest page size unless it is configured. -/
def defaultMaxPageSize : UInt32 := 500

/-- The time limit of a statement in seconds unless it is configured. -/
def defaultTimeoutSeconds : UInt64 := 10

/-- The default and the maximum of page sizes, neither of them zero. -/
structure Limits where
  defaultSize : UInt32
  maxSize : UInt32
  defaultSize_pos : 0 < defaultSize
  maxSize_pos : 0 < maxSize

namespace Limits

theorem max_one_pos (n : UInt32) : 0 < max n 1 := by
  simp only [Max.max]
  split
  · exact UInt32.lt_iff_toNat_lt.mpr (by decide)
  · next h =>
    simp only [UInt32.lt_iff_toNat_lt, UInt32.le_iff_toNat_le] at h ⊢
    simp at h ⊢
    omega

/-- Limits from configured numbers; zero is raised to one. -/
def ofNumbers (defaultSize maxSize : UInt32) : Limits :=
  ⟨max defaultSize 1, max maxSize 1, max_one_pos _, max_one_pos _⟩

/-- The page size that a request gets. -/
def pageSize (l : Limits) (r : Request) : UInt32 :=
  min ((r.perPage.filter (0 < ·)).getD l.defaultSize) l.maxSize

/-- The window of rows that a request gets. -/
def pageRequest (l : Limits) (r : Request) : PageRequest :=
  (PageRequest.forPage (max r.page 1) (l.pageSize r)).sortedBy r.order

end Limits

/-- How reports are made: the limits of pages, and the time limit of a statement in milliseconds. -/
structure Settings where
  limits : Limits
  timeout : Nat

end ForumSummary.Report
