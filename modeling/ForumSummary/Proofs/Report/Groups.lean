import ForumSummary.Proofs.Query.Contributions
import ForumSummary.Report.Groups

/-!
# Which groups are selected

A request that names groups of the course selects these, in the order of the course; one that names
none of them, or asks for all groups, selects all (`select_cases`). So all groups are never selected
together with others. What is named depends on the set of requested ids alone (`named_congr`), and
this set may be replaced by what it selects (`select_select`). `ofRequest_selects` puts the facts
together, with the choices that are offered.
-/

namespace ForumSummary.Report.GroupSelection

variable {groups : List CourseGroup} {requested requested' : List Int64}

/-! ## The named groups -/

theorem named_of_not_mem (h : allGroups ∉ requested) :
    named groups requested = (groups.map (·.id)).filter (· ∈ requested) :=
  if_neg h

theorem mem_named_iff {id : Int64} : id ∈ named groups requested ↔
    allGroups ∉ requested ∧ id ∈ requested ∧ ∃ g ∈ groups, g.id = id := by
  unfold named
  split
  · next h => exact iff_of_false List.not_mem_nil fun hid => hid.1 h
  · next h =>
    simp only [List.mem_filter, List.mem_map, decide_eq_true_eq]
    exact ⟨fun hid => ⟨h, hid.2, hid.1⟩, fun hid => ⟨hid.2.2, hid.2.1⟩⟩

theorem allGroups_not_mem_named : allGroups ∉ named groups requested := by
  intro h
  obtain ⟨hnot, hmem, -⟩ := mem_named_iff.1 h
  exact hnot hmem

/-- No group is named when the request is empty, asks for all groups, or has no id of a group of the
course. -/
theorem named_eq_nil_iff : named groups requested = [] ↔
    requested = [] ∨ allGroups ∈ requested ∨ ∀ g ∈ groups, g.id ∉ requested := by
  rw [List.eq_nil_iff_forall_not_mem]
  constructor
  · intro h
    by_cases hall : allGroups ∈ requested
    · exact .inr (.inl hall)
    · exact .inr (.inr fun g hg hid => h g.id (mem_named_iff.2 ⟨hall, hid, g, hg, rfl⟩))
  · intro h id hid
    obtain ⟨hall, hmem, g, hg, rfl⟩ := mem_named_iff.1 hid
    rcases h with rfl | h | h
    · exact List.not_mem_nil hmem
    · exact hall h
    · exact h g hg hmem

/-- Two requests name the same groups when they agree on all groups and on each group of the course.
-/
theorem named_congr (hall : allGroups ∈ requested ↔ allGroups ∈ requested')
    (hids : ∀ g ∈ groups, g.id ∈ requested ↔ g.id ∈ requested') :
    named groups requested = named groups requested' := by
  unfold named
  split
  · next h => rw [if_pos (hall.1 h)]
  · next h =>
    rw [if_neg (mt hall.2 h)]
    refine List.filter_congr fun id hid => ?_
    obtain ⟨g, hg, rfl⟩ := List.mem_map.1 hid
    exact decide_eq_decide.2 (hids g hg)

/-- The named groups name themselves. -/
theorem named_named (groups : List CourseGroup) (requested : List Int64) :
    named groups (named groups requested) = named groups requested := by
  by_cases hall : allGroups ∈ requested
  · have hnil : named groups requested = [] := named_eq_nil_iff.2 (.inr (.inl hall))
    rw [hnil]
    exact named_eq_nil_iff.2 (.inl rfl)
  · refine named_congr (iff_of_false allGroups_not_mem_named hall) fun g hg => ?_
    rw [mem_named_iff]
    exact ⟨fun h => h.2.1, fun h => ⟨hall, h, g, hg, rfl⟩⟩

/-! ## The selection -/

/-- All groups are selected, or the named ones. -/
theorem select_cases (groups : List CourseGroup) (requested : List Int64) :
    named groups requested = [] ∧ select groups requested = [allGroups] ∨
      named groups requested ≠ [] ∧ select groups requested = named groups requested := by
  unfold select
  split
  · next h => exact .inl ⟨h, rfl⟩
  · next h => exact .inr ⟨h, rfl⟩

theorem select_ne_nil (groups : List CourseGroup) (requested : List Int64) :
    select groups requested ≠ [] := by
  rcases select_cases groups requested with ⟨-, hselect⟩ | ⟨hnamed, hselect⟩
  · rw [hselect]
    exact List.cons_ne_nil _ _
  · rwa [hselect]

theorem allGroups_mem_select_iff :
    allGroups ∈ select groups requested ↔ named groups requested = [] := by
  rcases select_cases groups requested with ⟨hnamed, hselect⟩ | ⟨hnamed, hselect⟩
  · rw [hselect]
    exact iff_of_true (List.mem_singleton_self _) hnamed
  · rw [hselect]
    exact iff_of_false allGroups_not_mem_named hnamed

/-- All groups are selected alone. -/
theorem select_eq_singleton_iff :
    select groups requested = [allGroups] ↔ allGroups ∈ select groups requested := by
  constructor
  · intro h
    rw [h]
    exact List.mem_singleton_self _
  · intro h
    rcases select_cases groups requested with ⟨-, hselect⟩ | ⟨hnamed, -⟩
    · exact hselect
    · exact absurd (allGroups_mem_select_iff.1 h) hnamed

theorem select_congr (h : named groups requested = named groups requested') :
    select groups requested = select groups requested' := by
  rw [select, select, h]

/-- A selection selects itself. -/
theorem select_select (groups : List CourseGroup) (requested : List Int64) :
    select groups (select groups requested) = select groups requested := by
  rcases select_cases groups requested with ⟨hnamed, hselect⟩ | ⟨-, hselect⟩
  · refine select_congr ?_
    rw [hselect, hnamed]
    exact named_eq_nil_iff.2 (.inr (.inl (List.mem_singleton_self _)))
  · rw [hselect]
    exact (select_congr (named_named groups requested)).trans hselect

/-- A choice is checked when and only when its group is selected. -/
theorem checked_iff_of_mem_options :
    ∀ o ∈ (ofRequest groups requested).options,
      o.checked = true ↔ o.id ∈ (ofRequest groups requested).selected := by
  refine List.forall_mem_cons.2 ⟨decide_eq_true_iff, List.forall_mem_map.2 fun g _ => ?_⟩
  exact decide_eq_true_iff

theorem ofRequest_congr (h : select groups requested = select groups requested') :
    ofRequest groups requested = ofRequest groups requested' := by
  rw [ofRequest, ofRequest, h]

/-- What a request selects. Something is selected: all groups alone, or the groups of the course
that were requested, in their order. All groups are selected when nothing is requested, all groups
are, or no group of the course is. The choices are all groups and then the groups of the course,
with those checked that are selected. Requests of the same ids select the same, and so does the
selection when it is requested. -/
theorem ofRequest_selects (groups : List CourseGroup) (requested : List Int64) :
    let s := ofRequest groups requested
    s.selected ≠ [] ∧
    (s.selected = [allGroups] ∨
      allGroups ∉ s.selected ∧ s.selected = (groups.map (·.id)).filter (· ∈ requested)) ∧
    (s.selected = [allGroups] ↔
      requested = [] ∨ allGroups ∈ requested ∨ ∀ g ∈ groups, g.id ∉ requested) ∧
    (s.isAllGroups = true ↔ s.selected = [allGroups]) ∧
    s.options.map (fun o => (o.id, o.name)) =
      (allGroups, "All groups") :: groups.map (fun g => (g.id, g.name)) ∧
    (∀ o ∈ s.options, o.checked = true ↔ o.id ∈ s.selected) ∧
    (∀ requested' : List Int64, (∀ id, id ∈ requested' ↔ id ∈ requested) →
      ofRequest groups requested' = s) ∧
    ofRequest groups s.selected = s := by
  intro s
  have hselected : s.selected = select groups requested := rfl
  refine ⟨select_ne_nil groups requested, ?_, ?_, ?_, ?_, checked_iff_of_mem_options,
    fun requested' h => ?_, ofRequest_congr (select_select groups requested)⟩
  · rcases select_cases groups requested with ⟨-, hselect⟩ | ⟨hnamed, hselect⟩
    · exact .inl hselect
    · have hall : allGroups ∉ requested := fun hall =>
        hnamed (named_eq_nil_iff.2 (.inr (.inl hall)))
      rw [hselected, hselect]
      exact .inr ⟨allGroups_not_mem_named, named_of_not_mem hall⟩
  · rw [hselected, select_eq_singleton_iff, allGroups_mem_select_iff, named_eq_nil_iff]
  · rw [hselected, select_eq_singleton_iff, isAllGroups, decide_eq_true_iff]
    rfl
  · simp [s, ofRequest]
  · exact ofRequest_congr (select_congr (named_congr (h _) fun g _ => h g.id))

/-- Groups of one id are all selected by it, whatever unknown ids stand beside it, and a group may
even have the id of all groups. -/
theorem ofRequest_selects_repeated :
    let groups : List CourseGroup := [⟨7, 1, "Red"⟩, ⟨0, 1, "Odd"⟩, ⟨5, 1, "Blue"⟩, ⟨7, 1, "Red"⟩]
    (∀ id : Int64, id ∈ [99, 7, 7] ↔ id ∈ [7, 99]) ∧
      (ofRequest groups [7, 99]).selected = [7, 7] ∧
      ofRequest groups [99, 7, 7] = ofRequest groups [7, 99] ∧
      ofRequest groups [7, 7] = ofRequest groups [7, 99] := by
  intro groups
  have hsame : ∀ id : Int64, id ∈ [99, 7, 7] ↔ id ∈ [7, 99] := by
    intro id
    simp only [List.mem_cons, List.not_mem_nil, or_false, or_self]
    exact or_comm
  obtain ⟨-, -, -, -, -, -, hset, hagain⟩ := ofRequest_selects groups [7, 99]
  exact ⟨hsame, rfl, hset _ hsame, hagain⟩

end ForumSummary.Report.GroupSelection
