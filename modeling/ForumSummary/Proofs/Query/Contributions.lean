import ForumSummary.Query.Statement

/-!
# What the filters of a query contribute

The filters of a query in terms of its four places (`filters_eq`), and with them the parts of its
statements: the conditions on posts (`postTests_eq`), those on users (`conditions_eq`), whether a
post is asked for (`requiresPost_iff`), the forum in the select list (`forumOutputs_eq`), and the
parameters (`params_eq`).
-/

namespace ForumSummary

namespace Filter

@[simp] theorem outputs_groups (ids : List Int64) :
    (contribution (.groups ids)).outputs = [] := by
  simp only [contribution]
  split <;> rfl

@[simp] theorem postTests_groups (ids : List Int64) :
    (contribution (.groups ids)).postTests = [] := by
  simp only [contribution]
  split <;> rfl

@[simp] theorem requiresPost_groups (ids : List Int64) :
    (contribution (.groups ids)).requiresPost = false := by
  simp only [contribution]
  split <;> rfl

/-- A filter by groups restricts the users to the members of its effective groups, if it has any. -/
theorem conditions_groups (ids : List Int64) : (contribution (.groups ids)).conditions =
    if effectiveGroups ids = [] then []
    else [.member (userColumn "id") (membersOf (effectiveGroups ids))] := by
  simp only [contribution]
  split
  · next h => rw [if_pos h]
  · next h => rw [if_neg h]

@[simp] theorem params_groups (ids : List Int64) :
    (contribution (.groups ids)).params = groupParams 0 (effectiveGroups ids) := by
  simp only [contribution]
  split
  · next h => rw [h]; rfl
  · rfl

end Filter

namespace Query

variable {q : Query}

/-- The filters of a query, place by place. -/
theorem filters_eq (q : Query) : q.filters = q.forum.toList.map .forum ++
    q.dateFrom.toList.map .dateFrom ++ q.dateTo.toList.map .dateTo ++
    q.groups.toList.map .groups := by
  rcases q with ⟨_, _ | _, _ | _, _ | _, _ | _⟩ <;> rfl

/-- What holds of all filters of a query holds of what is in its places. -/
theorem forall_mem_filters_iff {P : Filter → Prop} : (∀ f ∈ q.filters, P f) ↔
    (∀ id, q.forum = some id → P (.forum id)) ∧
    (∀ moment, q.dateFrom = some moment → P (.dateFrom moment)) ∧
    (∀ moment, q.dateTo = some moment → P (.dateTo moment)) ∧
    ∀ ids, q.groups = some ids → P (.groups ids) := by
  simp only [filters_eq, List.mem_append, List.mem_map, Option.mem_toList, or_imp, forall_and,
    forall_exists_index, and_imp, forall_apply_eq_imp_iff₂, and_assoc]

/-- The groups that restrict a report: those of the filter by groups, unless it holds the id 0,
which stands for all groups. -/
def groupIds (q : Query) : List Int64 :=
  if 0 ∈ q.groups.getD [] then [] else q.groups.getD []

theorem groupIds_eq (q : Query) : q.groupIds = q.groups.toList.flatMap Filter.effectiveGroups := by
  unfold groupIds
  cases q.groups with
  | none => rfl
  | some ids =>
    rw [Option.getD_some, Option.toList_some, List.flatMap_singleton]
    rfl

/-- What is asked of groups that restrict a report is asked of the groups of the filter, if there is
one and its groups are neither none nor all. -/
theorem forall_groupIds_iff {P : List Int64 → Prop} : (q.groupIds ≠ [] → P q.groupIds) ↔
    ∀ ids, q.groups = some ids → ids ≠ [] → allGroups ∉ ids → P ids := by
  unfold groupIds
  cases q.groups with
  | none => simp
  | some ids =>
    rw [Option.getD_some]
    by_cases hall : 0 ∈ ids
    · rw [if_pos hall]
      refine iff_of_true (fun h => absurd rfl h) ?_
      rintro _ ⟨⟩ - hnone
      exact absurd hall hnone
    · rw [if_neg hall]
      refine ⟨fun h => ?_, fun h hne => h ids rfl hne hall⟩
      rintro _ ⟨⟩ hne -
      exact h hne

/-- What the filters contribute, place by place. -/
theorem flatMap_contributions {β : Type} (q : Query) (part : Filter.Contribution → List β) :
    q.contributions.flatMap part =
      q.forum.toList.flatMap (fun id => part (Filter.forum id).contribution) ++
      q.dateFrom.toList.flatMap (fun moment => part (Filter.dateFrom moment).contribution) ++
      q.dateTo.toList.flatMap (fun moment => part (Filter.dateTo moment).contribution) ++
      q.groups.toList.flatMap fun ids => part (Filter.groups ids).contribution := by
  rw [contributions, List.flatMap_map, filters_eq]
  simp only [List.flatMap_append, List.flatMap_map]

/-- The conditions on the posts that count: the author, and one for each filter but groups. -/
theorem postTests_eq (q : Query) : q.postTests =
    .sameColumn (postColumn "user_id") (userColumn "id") ::
      (q.forum.toList.map (fun id => .compare (postColumn "forum_id") .equal (.bigInt id)) ++
        q.dateFrom.toList.map (fun t => .compare (postColumn "created") .atLeast (.bigInt t)) ++
        q.dateTo.toList.map fun t => .compare (postColumn "created") .atMost (.bigInt t)) := by
  rw [postTests, flatMap_contributions]
  simp only [Filter.postTests_groups]
  cases q.forum <;> cases q.dateFrom <;> cases q.dateTo <;> cases q.groups <;> rfl

/-- The conditions on the users that are listed: enrolment in the course, membership in a group that
is asked for, and a counted post where one is asked for. -/
theorem conditions_eq (q : Query) : q.conditions =
    .row (.compare (enrolmentColumn "course_id") .equal (.bigInt q.courseId)) ::
      ((if q.groupIds = [] then []
        else [.member (userColumn "id") (Filter.membersOf q.groupIds)]) ++
      if q.requiresPost then [.row (.isNotNull (postColumn "id"))] else []) := by
  rw [conditions, flatMap_contributions, groupIds_eq]
  simp only [Filter.conditions_groups]
  cases q.forum <;> cases q.dateFrom <;> cases q.dateTo <;> cases q.groups <;>
    simp [Filter.contribution]

theorem forall_mem_postTests_iff {P : Sql.RowTest → Prop} : (∀ t ∈ q.postTests, P t) ↔
    P (.sameColumn (postColumn "user_id") (userColumn "id")) ∧
    (∀ id, q.forum = some id → P (.compare (postColumn "forum_id") .equal (.bigInt id))) ∧
    (∀ moment, q.dateFrom = some moment →
      P (.compare (postColumn "created") .atLeast (.bigInt moment))) ∧
    ∀ moment, q.dateTo = some moment →
      P (.compare (postColumn "created") .atMost (.bigInt moment)) := by
  rw [postTests_eq]
  simp only [List.forall_mem_cons, List.forall_mem_append, List.forall_mem_map, Option.mem_toList,
    and_assoc]

theorem forall_mem_conditions_iff {P : Sql.Condition → Prop} : (∀ c ∈ q.conditions, P c) ↔
    P (.row (.compare (enrolmentColumn "course_id") .equal (.bigInt q.courseId))) ∧
    (q.groupIds ≠ [] → P (.member (userColumn "id") (Filter.membersOf q.groupIds))) ∧
    (q.requiresPost = true → P (.row (.isNotNull (postColumn "id")))) := by
  rw [conditions_eq, List.forall_mem_cons, List.forall_mem_append]
  by_cases hn : q.groupIds = [] <;> cases q.requiresPost <;> simp [hn]

/-- A counted post is asked for when a date filter is set. -/
theorem requiresPost_iff : q.requiresPost = true ↔ q.dateFrom ≠ none ∨ q.dateTo ≠ none := by
  have hfilters : q.requiresPost = true ↔
      ¬∀ f ∈ q.filters, f.contribution.requiresPost = false := by
    rw [requiresPost, contributions, List.any_map, List.any_eq_true]
    simp
  rw [hfilters, forall_mem_filters_iff]
  simp only [Filter.requiresPost_groups]
  simp only [Filter.contribution, implies_true, true_and, and_true, Bool.true_eq_false, imp_false,
    ← Option.eq_none_iff_forall_ne_some]
  exact Decidable.not_and_iff_or_not

/-- The forum in the select list is the filtered one, or null. -/
theorem forumOutputs_eq (q : Query) : q.forumOutputs =
    [⟨q.forum.elim .nullBigInt (.literal <| .bigInt ·), some "forum_id"⟩] := by
  rw [forumOutputs, flatMap_contributions]
  simp only [Filter.outputs_groups]
  cases q.forum <;> cases q.dateFrom <;> cases q.dateTo <;> cases q.groups <;> rfl

/-- The parameters: the course, and those of the filters, with one for each group that restricts the
report. -/
theorem params_eq (q : Query) : q.params =
    ("courseid", q.courseId) ::
      (q.forum.toList.map (("forumid", ·)) ++ q.dateFrom.toList.map (("datefrom", ·)) ++
        q.dateTo.toList.map (("dateto", ·)) ++ Filter.groupParams 0 q.groupIds) := by
  rw [params, flatMap_contributions, groupIds_eq]
  simp only [Filter.params_groups]
  cases q.forum <;> cases q.dateFrom <;> cases q.dateTo <;> cases q.groups <;>
    simp [Filter.contribution, Filter.groupParams]

end Query

end ForumSummary
