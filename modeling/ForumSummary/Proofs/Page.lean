import ForumSummary.Page

/-!
# The numbers of a page

A page tells on which page its window starts, how many pages the rows fill, and whether there are
pages after it and before it (`IsNumbered`). All of this follows from the request and the total, so
a page is determined by them and its rows (`eq_ofRows_iff`).
-/

namespace ForumSummary.SummaryPage

/-- The numbers on a page are those of a request and of the page's own total. A request for no rows
has one page. Any other window starts on some page, and the rows fill a number of pages, the last
one perhaps in part. Numbers of pages stop at the greatest 32-bit word. -/
structure IsNumbered (p : SummaryPage) (request : PageRequest) : Prop where
  perPage : p.perPage = request.size
  page : p.page.toNat =
    if request.size = 0 then 1
    else min (request.start.toNat / request.size.toNat + 1) (UInt32.size - 1)
  totalPages : p.totalPages.toNat =
    if request.size = 0 then 1
    else min ((p.total.toNat + request.size.toNat - 1) / request.size.toNat) (UInt32.size - 1)
  hasNext : p.hasNext = true ↔ p.page.toNat < p.totalPages.toNat
  hasPrev : p.hasPrev = true ↔ 1 < p.page.toNat

variable {p p' : SummaryPage} {rows : List Row} {total : UInt64} {request : PageRequest}

theorem isNumbered_ofRows : (ofRows rows total request).IsNumbered request where
  perPage := rfl
  page := by
    show request.pageNumber.toNat = _
    unfold PageRequest.pageNumber
    split
    · rfl
    · exact toNat_clampToUInt32 _
  totalPages := by
    show (pageCount total request.size).toNat = _
    unfold pageCount
    split
    · rfl
    · exact toNat_clampToUInt32 _
  hasNext := decide_eq_true_iff.trans UInt32.lt_iff_toNat_lt
  hasPrev := decide_eq_true_iff.trans UInt32.lt_iff_toNat_lt

/-- Pages with the same rows and total are the same when both have the numbers of a request. -/
theorem IsNumbered.unique (h : p.IsNumbered request) (h' : p'.IsNumbered request)
    (hrows : p.rows = p'.rows) (htotal : p.total = p'.total) : p = p' := by
  have hperPage : p.perPage = p'.perPage := h.perPage.trans h'.perPage.symm
  have hpage : p.page = p'.page := UInt32.toNat_inj.1 (h.page.trans h'.page.symm)
  have hpages : p.totalPages = p'.totalPages := by
    rw [← UInt32.toNat_inj, h.totalPages, h'.totalPages, htotal]
  have hnext : p.hasNext = p'.hasNext := by
    rw [Bool.eq_iff_iff, h.hasNext, h'.hasNext, hpage, hpages]
  have hprev : p.hasPrev = p'.hasPrev := by
    rw [Bool.eq_iff_iff, h.hasPrev, h'.hasPrev, hpage]
  cases p
  cases p'
  simp_all only

/-- The page of some rows is the one that has these rows, their total, and the numbers of the
request. -/
theorem eq_ofRows_iff : p = ofRows rows total request ↔
    p.rows = rows ∧ p.total = total ∧ p.IsNumbered request := by
  constructor
  · rintro rfl
    exact ⟨rfl, rfl, isNumbered_ofRows⟩
  · rintro ⟨rfl, rfl, h⟩
    exact h.unique isNumbered_ofRows rfl rfl

end ForumSummary.SummaryPage
