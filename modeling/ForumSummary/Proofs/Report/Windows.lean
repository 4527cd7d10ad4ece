import ForumSummary.Proofs.Query.Calls
import ForumSummary.Proofs.Query.Parameters
import ForumSummary.Proofs.Report.Walk

/-!
# Windows that can be bound

The values of a query are words that the server takes, all but the start of a window, which may be
too great for it (`Query.bind_pageStatement_cases`). How far a window can start depends on the
greatest page size: the last page of this size is the last of all windows
(`Limits.start_pageRequest_le`). So a page size of at most 2³¹ + 1 keeps every window within the
reach of the server, and no greater one does (`windows_bind`).
-/

namespace ForumSummary

/-! ## Statements that are bound -/

namespace Query

variable (q : Query) (order : SortOrder) (window : PageRequest)

theorem fits_bigInts (ns : List Int64) : ∀ l ∈ ns.map Sql.Literal.bigInt, l.Fits :=
  List.forall_mem_map.2 fun _ _ => trivial

theorem fits_sourcePieces : ∀ l ∈ q.sourcePieces.values, l.Fits := by
  rw [values_sourcePieces]
  refine List.forall_mem_cons.2 ⟨trivial, List.forall_mem_append.2 ⟨fits_bigInts _, ?_⟩⟩
  exact List.forall_mem_cons.2 ⟨trivial, fits_bigInts _⟩

theorem exists_bind_countStatement : ∃ c, q.countStatement.bind = .ok c := by
  rcases q.countStatement.bind_cases with ⟨-, h⟩ | ⟨⟨l, hl, hfits⟩, -⟩
  · exact h
  · rw [values_countStatement] at hl
    exact absurd (q.fits_sourcePieces l hl) hfits

theorem fits_rowStatement : ∀ l ∈ (q.rowStatement order).values, l.Fits := by
  rw [values_rowStatement]
  refine List.forall_mem_append.2 ⟨List.forall_mem_append.2 ⟨fits_bigInts _, ?_⟩,
    q.fits_sourcePieces⟩
  intro l hl
  simp only [List.mem_cons, List.not_mem_nil, or_false] at hl
  rcases hl with rfl | rfl | rfl | rfl
  all_goals trivial

theorem exists_bind_rowStatement : ∃ b, (q.rowStatement order).bind = .ok b := by
  rcases (q.rowStatement order).bind_cases with ⟨-, h⟩ | ⟨⟨l, hl, hfits⟩, -⟩
  · exact h
  · exact absurd (q.fits_rowStatement order l hl) hfits

/-- Of the values of a page's statement, only the start of the window may not fit. -/
theorem fits_pageStatement_iff : (∀ l ∈ (q.pageStatement window).values, l.Fits) ↔
    window.start.toNat ≤ Int64.maxValue.toInt := by
  have hsize : Sql.Literal.Fits (.bigUnsigned window.size.toUInt64) := by
    have hlt := window.size.toNat_lt
    have hmax : Int64.maxValue.toInt = 2 ^ 63 - 1 := rfl
    rw [Sql.Literal.Fits, UInt32.toNat_toUInt64]
    omega
  rw [values_pageStatement, List.forall_mem_append, List.forall_mem_cons, List.forall_mem_singleton]
  constructor
  · rintro ⟨-, -, hstart⟩
    exact hstart
  · intro hstart
    exact ⟨q.fits_rowStatement _, hsize, hstart⟩

/-- A page's statement is bound unless its window starts too far behind. -/
theorem bind_pageStatement_cases :
    (window.start.toNat ≤ Int64.maxValue.toInt ∧ ∃ b, (q.pageStatement window).bind = .ok b) ∨
      Int64.maxValue.toInt < window.start.toNat ∧
        (q.pageStatement window).bind = .error .tooLarge := by
  rcases (q.pageStatement window).bind_cases with ⟨hfits, hb⟩ | ⟨⟨l, hl, hfits⟩, he⟩
  · exact .inl ⟨(q.fits_pageStatement_iff window).1 hfits, hb⟩
  · refine .inr ⟨Int.lt_of_not_ge fun hstart => ?_, he⟩
    exact hfits ((q.fits_pageStatement_iff window).2 hstart l hl)

theorem bind_pageStatement_eq_error_iff {e : Sql.BindError} :
    (q.pageStatement window).bind = .error e ↔
      Int64.maxValue.toInt < window.start.toNat ∧ e = .tooLarge := by
  rcases q.bind_pageStatement_cases window with ⟨hstart, b, hb⟩ | ⟨hstart, he⟩
  · rw [hb]
    exact iff_of_false nofun fun h => Int.not_lt.2 hstart h.1
  · rw [he]
    exact ⟨fun h => ⟨hstart, (Except.error.inj h).symm⟩, fun h => h.2 ▸ rfl⟩

/-- The calls with a window that cannot be bound. -/
theorem page_of_far (timeout : Nat) (store : Store)
    (h : Int64.maxValue.toInt < window.start.toNat) :
    q.page timeout window store = ⟨.error (.internal (.binding .tooLarge)), []⟩ ∧
      q.fetchPage timeout window store = ⟨.error (.internal (.binding .tooLarge)), []⟩ := by
  have hwindow := (q.bind_pageStatement_eq_error_iff window).2 ⟨h, rfl⟩
  obtain ⟨c, hc⟩ := q.exists_bind_countStatement
  have hpage : (Call.page window).statements q = .error .tooLarge := by
    rw [Call.statements, hc, hwindow]
    rfl
  have hfetch : (Call.fetchPage window).statements q = .error .tooLarge := by
    rw [Call.statements, hwindow]
    rfl
  constructor
  · show (Call.page window).perform q timeout store = _
    exact Call.perform_of_unbound hpage
  · show (Call.fetchPage window).perform q timeout store = _
    exact Call.perform_of_unbound hfetch

/-- The calls without a window never fail for a value. -/
theorem binding_ne_of_unwindowed (timeout : Nat) (store : Store) (e : Sql.BindError) :
    (q.countRows timeout store).result ≠ .error (.internal (.binding e)) ∧
      (q.fetchAll timeout order store).result ≠ .error (.internal (.binding e)) := by
  let P (e : ReportError) : Prop := ∀ b, e ≠ .internal (.binding b)
  have hserver : ∀ step cause, P (.internal (.server step cause)) := fun _ _ _ => nofun
  have hnegative : P (.internal .negativeTotal) := fun _ => nofun
  obtain ⟨c, hc⟩ := q.exists_bind_countStatement
  obtain ⟨b, hb⟩ := q.exists_bind_rowStatement order
  constructor
  · intro h
    exact Call.failsOnly_perform_of_bound hserver hnegative timeout (Call.statements_countRows hc)
      store _ h e rfl
  · intro h
    exact Call.failsOnly_perform_of_bound hserver hnegative timeout (Call.statements_fetchAll hb)
      store _ h e rfl

end Query

namespace Report

/-! ## The windows of requests -/

namespace Limits

variable (l : Limits)

/-- No window starts behind the start of the last page of the greatest size. -/
theorem start_pageRequest_le (r : Request) :
    (l.pageRequest r).start.toNat ≤ (UInt32.size - 2) * l.maxSize.toNat := by
  have hpage := r.page.toNat_lt
  rw [toNat_start_pageRequest]
  refine Nat.mul_le_mul ?_ (l.pageSize_le r)
  rw [UInt32.size]
  omega

/-- The request for the last page of the greatest size. -/
def lastRequest : Request where
  page := 4294967295
  perPage := some l.maxSize

theorem start_lastRequest :
    (l.pageRequest l.lastRequest).start.toNat = (UInt32.size - 2) * l.maxSize.toNat := by
  have hsize : l.pageSize l.lastRequest = l.maxSize := by
    have hasked : l.lastRequest.perPage.filter (0 < ·) = some l.maxSize :=
      Option.filter_eq_some_iff.2 ⟨rfl, decide_eq_true l.maxSize_pos⟩
    rw [← UInt32.toNat_inj, pageSize, toNat_min, hasked]
    exact Nat.min_self _
  rw [toNat_start_pageRequest, hsize]
  rfl

/-- All windows start within a bound when the last one does. -/
theorem forall_start_le_iff {bound : Nat} : (∀ r, (l.pageRequest r).start.toNat ≤ bound) ↔
    (UInt32.size - 2) * l.maxSize.toNat ≤ bound := by
  constructor
  · intro h
    rw [← start_lastRequest]
    exact h l.lastRequest
  · intro h r
    exact (l.start_pageRequest_le r).trans h

end Limits

/-- When the statements of a query can be bound. The windows of all requests can be bound when and
only when the greatest page size is at most 2³¹ + 1. A page's statement cannot be bound when and
only when its window starts behind the greatest BIGINT; then nothing is sent for the page. The
statements for the count and for all rows can always be bound. -/
theorem windows_bind (q : Query) (order : SortOrder) (timeout : Nat) (store : Store) :
    (∀ defaultSize maxSize : UInt32,
      (∀ request, ∃ b, (q.pageStatement
        ((Limits.ofNumbers defaultSize maxSize).pageRequest request)).bind = .ok b) ↔
          max maxSize.toNat 1 ≤ 2147483649) ∧
    (∀ (window : PageRequest) (e : Sql.BindError), (q.pageStatement window).bind = .error e ↔
      Int64.maxValue.toInt < window.start.toNat ∧ e = .tooLarge) ∧
    (∀ window : PageRequest, Int64.maxValue.toInt < window.start.toNat →
      q.page timeout window store = ⟨.error (.internal (.binding .tooLarge)), []⟩ ∧
      q.fetchPage timeout window store = ⟨.error (.internal (.binding .tooLarge)), []⟩) ∧
    (ReportError.internal (.binding .tooLarge)).message =
      "unsigned parameter does not fit in BIGINT" ∧
    (∃ c, q.countStatement.bind = .ok c) ∧ (∃ b, (q.rowStatement order).bind = .ok b) ∧
    ∀ e, (q.countRows timeout store).result ≠ .error (.internal (.binding e)) ∧
      (q.fetchAll timeout order store).result ≠ .error (.internal (.binding e)) := by
  refine ⟨fun defaultSize maxSize => ?_, fun window e => q.bind_pageStatement_eq_error_iff window,
    fun window => q.page_of_far window timeout store, rfl, q.exists_bind_countStatement,
    q.exists_bind_rowStatement order, q.binding_ne_of_unwindowed order timeout store⟩
  let limits := Limits.ofNumbers defaultSize maxSize
  have hmax : limits.maxSize.toNat = max maxSize.toNat 1 := toNat_max maxSize 1
  have hbound : (∀ request, ∃ b, (q.pageStatement (limits.pageRequest request)).bind = .ok b) ↔
      ∀ request, (limits.pageRequest request).start.toNat ≤ 2 ^ 63 - 1 := by
    refine forall_congr' fun request => ?_
    have hlast : Int64.maxValue.toInt = 2 ^ 63 - 1 := rfl
    rcases q.bind_pageStatement_cases (limits.pageRequest request) with ⟨hstart, hb⟩ | ⟨hstart, he⟩
    · exact iff_of_true hb (by omega)
    · rw [he]
      exact iff_of_false nofun (by omega)
  rw [hbound, limits.forall_start_le_iff, hmax, UInt32.size]
  omega

/-- With a greatest page size of 2³¹ + 2, the last page is out of reach. -/
theorem windows_bind_sample :
    let window := (Limits.ofNumbers 25 2147483650).pageRequest
      { page := 4294967295, perPage := some 2147483650 }
    Int64.maxValue.toInt < window.start.toNat ∧
      ((Query.ofCourse 9).page 10000 window .sample).sent = [] ∧
      ¬ (∀ request, ∃ b, ((Query.ofCourse 9).pageStatement
        ((Limits.ofNumbers 25 2147483650).pageRequest request)).bind = .ok b) ∧
      ∀ request, ∃ b, ((Query.ofCourse 9).pageStatement
        ((Limits.ofNumbers 25 2147483649).pageRequest request)).bind = .ok b := by
  intro window
  have hfar : Int64.maxValue.toInt < window.start.toNat := by decide
  obtain ⟨hall, -, hpage, -⟩ := windows_bind (Query.ofCourse 9) {} 10000 .sample
  refine ⟨hfar, congrArg Run.sent (hpage window hfar).1, fun h => ?_, ?_⟩
  · exact absurd ((hall 25 2147483650).1 h) (by decide)
  · exact (hall 25 2147483649).2 (by decide)

end Report

end ForumSummary
