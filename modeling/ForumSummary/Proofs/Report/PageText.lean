import ForumSummary.Proofs.Json.Fields
import ForumSummary.Report.View

/-!
# Texts of pages

A row and a page are read back from the JSON that they are written as (`Row.decode_toJson`,
`SummaryPage.decode_toJson`). The text of a view is the text of a page too: no name stands twice in
its object, so the members that a view adds are passed over, and its page is read
(`Report.page_of_text`).
-/

namespace ForumSummary

open Json.Record (Reads)

/-! ## Rows -/

namespace Row

variable (r : Row)

theorem exact_toJson : r.toJson.Exact :=
  ⟨trivial, trivial, trivial, trivial, Json.exact_ofOption Json.exact_ofInt64 _, trivial, trivial,
    trivial⟩

theorem decode_toJson : decode r.toJson.outline = .ok r := by
  have hforum : Json.Decoder.optional Json.Decoder.int64
      (Json.ofOption .ofInt64 r.forumId).outline = .ok r.forumId :=
    Json.optional_outline Json.int64_outline (fun _ => nofun) _
  refine Json.Record.decode_of_reads _ (by simp) r.exact_toJson ?_
  exact (Reads.required rfl (Json.int64_outline _)).map Row.mk
    |>.seq (.required rfl rfl) |>.seq (.required rfl rfl) |>.seq (.required rfl rfl)
    |>.seq (.nullable rfl hforum)
    |>.seq (.required rfl (Json.int64_outline _)) |>.seq (.required rfl (Json.int64_outline _))

end Row

/-! ## Pages -/

namespace SummaryPage

variable (p : SummaryPage)

theorem exact_toJson : p.toJson.Exact :=
  ⟨Json.exact_ofList Row.exact_toJson _, trivial, trivial, trivial, trivial, trivial, trivial,
    trivial⟩

/-- A page is read wherever its members are found. -/
theorem reads_record {find : String → Option Json.Outline}
    (hfind : ∀ m ∈ p.members, find m.1 = some m.2.outline) : record.Reads find p := by
  simp only [members, List.forall_mem_cons] at hfind
  obtain ⟨hrows, htotal, hpage, hperPage, htotalPages, hnext, hprev, -⟩ := hfind
  have hlist : Json.Decoder.list Row.decode (Json.ofList Row.toJson p.rows).outline = .ok p.rows :=
    Json.list_outline fun row _ => row.decode_toJson
  exact (Reads.required hrows hlist).map SummaryPage.mk
    |>.seq (.required htotal (Json.uint64_outline _))
    |>.seq (.required hpage (Json.uint32_outline _))
    |>.seq (.required hperPage (Json.uint32_outline _))
    |>.seq (.required htotalPages (Json.uint32_outline _))
    |>.seq (.required hnext rfl) |>.seq (.required hprev rfl)

/-- A page is read from an object that repeats no name and has the members of the page. -/
theorem decode_of_subset {ms : List (String × Json)} (hnodup : (ms.map Prod.fst).Nodup)
    (hexact : Json.MembersExact ms) (hsub : p.members ⊆ ms) :
    decode (Json.object ms).outline = .ok p := by
  refine Json.Record.decode_of_reads _ hnodup hexact (p.reads_record fun m hm => ?_)
  rw [Json.lookup_of_mem hnodup (hsub hm)]
  rfl

theorem decode_toJson : decode p.toJson.outline = .ok p :=
  p.decode_of_subset (by simp [members]) p.exact_toJson (List.Subset.refl _)

end SummaryPage

/-! ## Views -/

namespace Report

/-- The members of a view's object: its own, and those of its page. -/
def View.members (v : View) : List (String × Json) :=
  [("title", .string v.title), ("course_id", .ofInt64 v.courseId),
    ("forum_id", .ofOption .ofInt64 v.forumId), ("filters", v.filtersJson)] ++ v.page.members

theorem GroupOption.exact_toJson (o : GroupOption) : o.toJson.Exact :=
  ⟨trivial, trivial, trivial, trivial⟩

namespace View

variable (v : View)

theorem nodup_members : (v.members.map Prod.fst).Nodup := by
  simp [members, SummaryPage.members]

theorem exact_filtersJson : v.filtersJson.Exact :=
  ⟨Json.exact_ofList GroupOption.exact_toJson _, Json.exact_ofList Json.exact_ofInt64 _,
    Json.exact_ofOption Json.exact_ofInt64 _, Json.exact_ofOption Json.exact_ofInt64 _, trivial⟩

theorem exact_toJson : v.toJson.Exact :=
  ⟨trivial, trivial, Json.exact_ofOption Json.exact_ofInt64 _, v.exact_filtersJson,
    v.page.exact_toJson⟩

end View

/-! ## Texts -/

/-- A page is read back from its text, whatever its rows and numbers are. The text of a view is an
object in which no name stands twice, and the page of the view is read from it. -/
theorem page_of_text :
    (∀ page : SummaryPage, SummaryPage.decode.ofText page.toJson.compactText = .ok page) ∧
    ∀ view : View,
      Json.ofText? view.toJson.compactText.toList = some (.object view.members) ∧
      (view.members.map Prod.fst).Nodup ∧
      SummaryPage.decode.ofText view.toJson.compactText = .ok view.page := by
  refine ⟨fun page => ?_, fun view => ⟨?_, view.nodup_members, ?_⟩⟩
  · exact (Json.Decoder.ofText_compact _ page.exact_toJson).trans page.decode_toJson
  · rw [Json.compactText, String.toList_ofList]
    exact Json.ofText?_of_written view.exact_toJson (Json.written_compact view.exact_toJson)
  · exact (Json.Decoder.ofText_compact _ view.exact_toJson).trans
      (view.page.decode_of_subset view.nodup_members view.exact_toJson
        (List.subset_append_right _ _))

end Report

end ForumSummary
