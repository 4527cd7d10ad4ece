import ForumSummary.Row
import ForumSummary.SortOrder

/-!
# Pages of a report

A page request is a window of rows and an order. Pages are numbered from 1; page `p` of size `s`
starts at row `(p - 1) · s`. Numbers of pages are 32-bit words and stop at the greatest one. A page
carries its rows, the total number of rows, and what follows from the two about other pages.
-/

namespace ForumSummary

/-- The number of rows of a page unless something else is asked for. -/
def defaultPageSize : UInt32 := 25

/-- A number, or the greatest 32-bit word when it is greater. -/
def clampToUInt32 (n : Nat) : UInt32 :=
  UInt32.ofNat (min n (UInt32.size - 1))

theorem toNat_clampToUInt32 (n : Nat) : (clampToUInt32 n).toNat = min n (UInt32.size - 1) := by
  simp only [clampToUInt32, UInt32.toNat_ofNat', UInt32.size]
  omega

/-- A window of rows and their order. -/
structure PageRequest where
  size : UInt32 := defaultPageSize
  start : UInt64 := 0
  order : SortOrder := {}
  deriving DecidableEq, Repr

namespace PageRequest

/-- The window of a page number; page 0 is taken as page 1. The product of two 32-bit words fits a
64-bit word. -/
def forPage (page size : UInt32) : PageRequest :=
  { size, start := UInt64.ofNat ((page.toNat - 1) * size.toNat) }

/-- The same window in another order. -/
def sortedBy (r : PageRequest) (order : SortOrder) : PageRequest :=
  { r with order }

/-- The number of the page on which the window starts. -/
def pageNumber (r : PageRequest) : UInt32 :=
  if r.size = 0 then 1 else clampToUInt32 (r.start.toNat / r.size.toNat + 1)

theorem toNat_start_forPage (page size : UInt32) :
    (forPage page size).start.toNat = (page.toNat - 1) * size.toNat := by
  have hp := page.toNat_lt
  have hs := size.toNat_lt
  have : (page.toNat - 1) * size.toNat ≤ 4294967295 * 4294967295 :=
    Nat.mul_le_mul (by omega) (by omega)
  simp only [forPage, UInt64.toNat_ofNat']
  omega

end PageRequest

/-- A page of rows with its place among the pages. -/
structure SummaryPage where
  rows : List Row
  /-- The number of rows on all pages. -/
  total : UInt64
  page : UInt32
  perPage : UInt32
  totalPages : UInt32
  hasNext : Bool
  hasPrev : Bool
  deriving DecidableEq, Repr

namespace SummaryPage

/-- The number of pages that rows fill; pages without rows count as one page. -/
def pageCount (total : UInt64) (perPage : UInt32) : UInt32 :=
  if perPage = 0 then 1
  else clampToUInt32 ((total.toNat + perPage.toNat - 1) / perPage.toNat)

/-- The page of the given rows, in answer to a request. -/
def ofRows (rows : List Row) (total : UInt64) (request : PageRequest) : SummaryPage :=
  let page := request.pageNumber
  let totalPages := pageCount total request.size
  { rows, total, page, perPage := request.size, totalPages
    hasNext := page < totalPages
    hasPrev := 1 < page }

/-- The members of a page's object. -/
def members (p : SummaryPage) : List (String × Json) := [
  ("rows", .ofList Row.toJson p.rows),
  ("total", .ofUInt64 p.total),
  ("page", .ofUInt32 p.page),
  ("per_page", .ofUInt32 p.perPage),
  ("total_pages", .ofUInt32 p.totalPages),
  ("has_next", .bool p.hasNext),
  ("has_prev", .bool p.hasPrev)]

/-- A page as JSON. -/
def toJson (p : SummaryPage) : Json :=
  .object p.members

open Json.Decoder in
/-- The fields of a page. -/
def record : Json.Record SummaryPage :=
  SummaryPage.mk <$> .required "rows" (list Row.decode) <*> .required "total" uint64
    <*> .required "page" uint32 <*> .required "per_page" uint32
    <*> .required "total_pages" uint32 <*> .required "has_next" boolean
    <*> .required "has_prev" boolean

/-- Reads a page. -/
def decode : Json.Decoder SummaryPage :=
  record.decode "struct SummaryPage"

end SummaryPage

end ForumSummary
