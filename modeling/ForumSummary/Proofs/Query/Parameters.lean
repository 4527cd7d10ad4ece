import ForumSummary.Proofs.Query.Text
import ForumSummary.Proofs.Sql.Placeholders
import Mathlib.Data.List.Nodup

/-!
# Parameters of a query's statements

No value of a query is in the texts of its statements: queries of the same shape (`Query.Shape`)
have the same texts, whatever their values (`parameterized_eq_of_shape_eq`). The values stand behind
the placeholders in a fixed order, and the named parameters of the query are the same values
(`numbered_values_params`).
-/

namespace ForumSummary.Query

open Sql Pieces

variable {q q' : Query} {c : Char} {order : SortOrder} {request : PageRequest}

/-! ## Texts of queries of one shape -/

/-- The shape of a query: which of the filters that take one value are set, and how many groups
restrict the report. -/
structure Shape where
  forum : Bool
  dateFrom : Bool
  dateTo : Bool
  groups : Nat
  deriving DecidableEq, Repr

/-- The shape of a query. -/
def shape (q : Query) : Shape where
  forum := q.forum.isSome
  dateFrom := q.dateFrom.isSome
  dateTo := q.dateTo.isSome
  groups := q.groupIds.length

theorem forall₂_map_toList {α β : Type} {R : β → β → Prop} {f : α → β} {o o' : Option α}
    (h : o.isSome = o'.isSome) (hR : ∀ a b, R (f a) (f b)) :
    List.Forall₂ R (o.toList.map f) (o'.toList.map f) := by
  cases o <;> cases o' <;> first
    | exact .nil
    | exact .cons (hR _ _) .nil
    | cases h

theorem alike_postTests (h : q.shape = q'.shape) :
    List.Forall₂ (fun t u => t.pieces.Alike u.pieces) q.postTests q'.postTests := by
  obtain ⟨hforum, hfrom, hto, -⟩ := Shape.mk.inj h
  rw [postTests_eq, postTests_eq]
  exact .cons (.refl _) (List.rel_append (List.rel_append
    (forall₂_map_toList hforum fun _ _ => rfl) (forall₂_map_toList hfrom fun _ _ => rfl))
    (forall₂_map_toList hto fun _ _ => rfl))

theorem requiresPost_eq_of_shape_eq (h : q.shape = q'.shape) :
    q.requiresPost = q'.requiresPost := by
  obtain ⟨-, hfrom, hto, -⟩ := Shape.mk.inj h
  rw [Bool.eq_iff_iff, requiresPost_iff, requiresPost_iff, ← Option.isSome_iff_ne_none,
    ← Option.isSome_iff_ne_none, ← Option.isSome_iff_ne_none, ← Option.isSome_iff_ne_none, hfrom,
    hto]

theorem alike_conditions (h : q.shape = q'.shape) :
    List.Forall₂ (fun d e => d.pieces.Alike e.pieces) q.conditions q'.conditions := by
  have hgroups : q.groupIds.length = q'.groupIds.length := congrArg Shape.groups h
  have hnil : q.groupIds = [] ↔ q'.groupIds = [] := by
    rw [← List.length_eq_zero_iff, hgroups, List.length_eq_zero_iff]
  have hmembers : (Condition.member (userColumn "id") (Filter.membersOf q.groupIds)).pieces.Alike
      (Condition.member (userColumn "id") (Filter.membersOf q'.groupIds)).pieces := by
    rw [pieces_membersOf, pieces_membersOf]
    exact .append (.refl _) (.append (.append (alike_places (by simpa using hgroups)) (.refl _))
      (.refl _))
  rw [conditions_eq, conditions_eq, requiresPost_eq_of_shape_eq h]
  refine .cons rfl (List.rel_append ?_ ?_)
  · by_cases hn : q.groupIds = []
    · rw [if_pos hn, if_pos (hnil.1 hn)]
      exact .nil
    · rw [if_neg hn, if_neg (mt hnil.2 hn)]
      exact .cons hmembers .nil
  · exact List.forall₂_same.2 fun _ _ => .refl _

theorem alike_sourcePieces (h : q.shape = q'.shape) : q.sourcePieces.Alike q'.sourcePieces := by
  have hposts : q.coursePosts.pieces.Alike q'.coursePosts.pieces := rfl
  have hjoin : (Join.left q.coursePosts "p" q.postTests).pieces.Alike
      (Join.left q'.coursePosts "p" q'.postTests).pieces :=
    .append (.append (.append (.refl _) hposts) (.refl _)) (alike_allTests (alike_postTests h))
  have hwhere : List.Forall₂ Alike (q.conditions.map Condition.pieces)
      (q'.conditions.map Condition.pieces) :=
    List.forall₂_map_left_iff.2 (List.forall₂_map_right_iff.2 (alike_conditions h))
  unfold sourcePieces Select.sourcePieces base
  exact .append (.append (.refl _) (.append (.refl _) (.append hjoin (.refl _))))
    (alike_clause hwhere)

theorem alike_rowStatement (h : q.shape = q'.shape) (order : SortOrder) :
    (q.rowStatement order).pieces.Alike (q'.rowStatement order).pieces := by
  have hforum : q.forum.isSome = q'.forum.isSome := congrArg Shape.forum h
  have hlist : (q.rowStatement order).listPieces.Alike (q'.rowStatement order).listPieces := by
    simp only [Select.listPieces, rowStatement, base, rowOutputs, forumOutputs_eq]
    cases hf : q.forum <;> cases hf' : q'.forum <;> rw [hf, hf'] at hforum <;> first
      | rfl
      | cases hforum
  rw [pieces_rowStatement, pieces_rowStatement]
  exact .append (.append hlist (alike_sourcePieces h)) (.refl _)

/-- Queries of the same shape have the same texts of statements, whatever their courses, forums,
moments and groups are. Of a window and its order, only the order is seen. -/
theorem parameterized_eq_of_shape_eq {request' : PageRequest} (h : q.shape = q'.shape)
    (horder : request.order = request'.order) :
    q.countStatement.parameterized = q'.countStatement.parameterized ∧
    (q.pageStatement request).parameterized = (q'.pageStatement request').parameterized ∧
    (q.rowStatement request.order).parameterized =
      (q'.rowStatement request'.order).parameterized := by
  have hcount : q.countStatement.pieces.Alike q'.countStatement.pieces := by
    rw [pieces_countStatement, pieces_countStatement]
    exact .append (.refl _) (alike_sourcePieces h)
  have hrows : (q.rowStatement request.order).pieces.Alike
      (q'.rowStatement request'.order).pieces := horder ▸ alike_rowStatement h request.order
  have hpage : (q.pageStatement request).pieces.Alike (q'.pageStatement request').pieces := by
    rw [pieces_pageStatement, pieces_pageStatement]
    exact .append hrows rfl
  exact ⟨hcount.parameterizedFrom_eq 1, hpage.parameterizedFrom_eq 1, hrows.parameterizedFrom_eq 1⟩

/-- A query without a filter by groups has the shape of one whose groups include all. -/
theorem parameterized_eq_sample :
    let q : Query := { courseId := 1, forum := some 5, dateTo := some 0 }
    let q' : Query :=
      { courseId := Int64.minValue, forum := some (-7), dateTo := some 99, groups := some [3, 0] }
    let request : PageRequest := { size := 10, start := 20, order := ⟨.postCount, .desc⟩ }
    let request' : PageRequest := { size := 25, order := ⟨.postCount, .desc⟩ }
    (q.shape = q'.shape ∧ request.order = request'.order) ∧
      q.countStatement.parameterized = q'.countStatement.parameterized ∧
      (q.pageStatement request).parameterized = (q'.pageStatement request').parameterized ∧
      (q.rowStatement request.order).parameterized =
        (q'.rowStatement request'.order).parameterized := by
  intro q q' request request'
  have hshape : q.shape = q'.shape := by decide
  have horder : request.order = request'.order := rfl
  exact ⟨⟨hshape, horder⟩, parameterized_eq_of_shape_eq hshape horder⟩

/-! ## Values -/

/-- The values of the filters that take one. -/
def bounds (q : Query) : List Int64 :=
  q.forum.toList ++ q.dateFrom.toList ++ q.dateTo.toList

theorem values_postTests (q : Query) :
    (allTests q.postTests).values = q.bounds.map .bigInt := by
  rw [values_allTests, postTests_eq, bounds]
  cases q.forum <;> cases q.dateFrom <;> cases q.dateTo <;> rfl

theorem values_conditions (q : Query) :
    (q.conditions.flatMap fun d => d.pieces.values) =
      .bigInt q.courseId :: q.groupIds.map .bigInt := by
  have hmembers : (Condition.member (userColumn "id")
      (Filter.membersOf q.groupIds)).pieces.values = q.groupIds.map .bigInt := by
    rw [pieces_membersOf, values_append, values_append, values_append, values_places]
    simp [restrictionPieces, fixed, Column.pieces, Table.pieces, values]
  have hrequired : ((if q.requiresPost then [Condition.row (.isNotNull (postColumn "id"))]
      else []).flatMap fun d => d.pieces.values) = [] := by
    cases q.requiresPost <;> rfl
  rw [conditions_eq, List.flatMap_cons, List.flatMap_append, hrequired, List.append_nil]
  by_cases hn : q.groupIds = []
  · rw [if_pos hn, hn]
    rfl
  · rw [if_neg hn, List.flatMap_singleton, hmembers]
    rfl

/-- The values of the tables, joins and conditions: the course of the posts, the filters on posts,
the course of the users, and their groups. -/
theorem values_sourcePieces (q : Query) : q.sourcePieces.values =
    .bigInt q.courseId ::
      (q.bounds.map .bigInt ++ .bigInt q.courseId :: q.groupIds.map .bigInt) := by
  have hjoin : (Join.left q.coursePosts "p" q.postTests).pieces.values =
      .bigInt q.courseId :: q.bounds.map .bigInt := by
    rw [Join.pieces, values_append, values_postTests]
    rfl
  unfold sourcePieces Select.sourcePieces base
  rw [values_append, values_clause, List.flatMap_map, values_conditions, values_append,
    List.flatMap_cons, List.flatMap_singleton, values_append, values_append, hjoin]
  rfl

theorem values_listPieces_rowStatement (q : Query) (order : SortOrder) :
    (q.rowStatement order).listPieces.values =
      q.forum.toList.map .bigInt ++ [.int 1, .int 0, .int 1, .int 0] := by
  simp only [Select.listPieces, rowStatement, base, rowOutputs, forumOutputs_eq]
  cases q.forum <;> rfl

theorem values_groupPieces_rowStatement (q : Query) (order : SortOrder) :
    (q.rowStatement order).groupPieces.values = [] := by
  have hsort : (sortTerms order).flatMap (fun t => t.pieces.values) = [] :=
    List.flatMap_eq_nil_iff.2 fun t _ => t.values_pieces
  unfold Select.groupPieces rowStatement
  rw [values_append, values_clause, values_clause, List.flatMap_map, List.flatMap_map, hsort]
  rfl

theorem values_countStatement (q : Query) : q.countStatement.values = q.sourcePieces.values := by
  rw [Select.values, pieces_countStatement, values_append]
  rfl

theorem values_rowStatement (q : Query) (order : SortOrder) :
    (q.rowStatement order).values =
      q.forum.toList.map .bigInt ++ [.int 1, .int 0, .int 1, .int 0] ++ q.sourcePieces.values := by
  rw [Select.values, pieces_rowStatement, values_append, values_append,
    values_listPieces_rowStatement, values_groupPieces_rowStatement, List.append_nil]

/-- The arguments of the count are the last of those for all rows. -/
theorem exists_arguments_rowStatement_eq {counting all : Bound}
    (hcounting : q.countStatement.bind = .ok counting)
    (hall : (q.rowStatement order).bind = .ok all) :
    ∃ selected, all.arguments = selected ++ counting.arguments := by
  obtain ⟨-, hcount⟩ := Select.bind_eq_ok_iff.1 hcounting
  obtain ⟨-, hrows⟩ := Select.bind_eq_ok_iff.1 hall
  rw [values_countStatement] at hcount
  rw [values_rowStatement, List.map_append] at hrows
  obtain ⟨selected, source, -, hsource, harguments⟩ := bind_append_eq_ok_iff.1 hrows
  obtain rfl := Except.ok.inj (hsource.symm.trans hcount)
  exact ⟨selected, harguments⟩

/-! ## Placeholders -/

/-- No part of a statement is written with dollar signs or digits. -/
theorem class_of_isMark (hc : IsMark c) :
    isSourceChar c = false ∧ isListChar c = false ∧ c ≠ 'g' := by
  rcases hc with rfl | hdigit
  · decide
  · have hdigits : ∀ d < 10, isSourceChar (Numeral.digitChar d) = false ∧
        isListChar (Numeral.digitChar d) = false ∧ Numeral.digitChar d ≠ 'g' := by
      decide
    obtain ⟨d, hd, rfl⟩ := Numeral.exists_eq_digitChar hdigit
    exact hdigits d hd

theorem lacks_sourcePieces_of_isMark (hc : IsMark c) : q.sourcePieces.Lacks c :=
  lacks_sourcePieces (class_of_isMark hc).1 fun hg => absurd hg (class_of_isMark hc).2.2

theorem lacks_rowStatement_of_isMark (hc : IsMark c) : (q.rowStatement order).pieces.Lacks c := by
  have hlist := (class_of_isMark hc).2.1
  rw [pieces_rowStatement]
  exact lacks_append.2 ⟨lacks_append.2 ⟨lacks_listPieces_rowStatement hlist,
    lacks_sourcePieces_of_isMark hc⟩, lacks_groupPieces_rowStatement hlist⟩

theorem numbered_countStatement (q : Query) : q.countStatement.Numbered := by
  refine Select.numbered_of_lacks fun c hc => ?_
  rw [pieces_countStatement]
  exact lacks_append.2 ⟨lacks_listPieces_countStatement (class_of_isMark hc).2.1,
    lacks_sourcePieces_of_isMark hc⟩

theorem numbered_rowStatement (q : Query) (order : SortOrder) :
    (q.rowStatement order).Numbered :=
  Select.numbered_of_lacks fun _ hc => lacks_rowStatement_of_isMark hc

theorem numbered_pageStatement (q : Query) (request : PageRequest) :
    (q.pageStatement request).Numbered := by
  refine Select.numbered_of_lacks fun c hc => ?_
  have hwindow : (q.pageStatement request).windowPieces.Lacks c := by
    simp (disch := decide) [Select.windowPieces, pageStatement, ne_of_class (class_of_isMark hc).1]
  rw [pieces_pageStatement]
  exact lacks_append.2 ⟨lacks_rowStatement_of_isMark hc, hwindow⟩

/-! ## Named parameters -/

theorem map_fst_groupParams (n : Nat) (ids : List Int64) :
    (Filter.groupParams n ids).map Prod.fst =
      (List.range' n ids.length).map fun i => "groupid" ++ Numeral.natText i := by
  induction ids generalizing n with
  | nil => rfl
  | cons id ids ih =>
    rw [Filter.groupParams, List.map_cons, ih, List.length_cons, List.range'_succ, List.map_cons]

/-- The parameters of groups are numbered from zero on, in the order of the list. -/
theorem groupParams_eq (n : Nat) (ids : List Int64) : Filter.groupParams n ids =
    (ids.zipIdx n).map fun (id, i) => ("groupid" ++ Numeral.natText i, id) := by
  induction ids generalizing n with
  | nil => rfl
  | cons id ids ih => rw [Filter.groupParams, List.zipIdx_cons, List.map_cons, ih]

theorem groupName_injective : Function.Injective fun i => "groupid" ++ Numeral.natText i := by
  intro i j h
  have htext : Numeral.natText i = Numeral.natText j := String.append_right_inj _ |>.1 h
  exact Numeral.natChars_injective (String.ofList_injective htext)

/-- No two parameters have the same name. -/
theorem nodup_params (q : Query) : (q.params.map Prod.fst).Nodup := by
  let names : List String := ["courseid", "forumid", "datefrom", "dateto"]
  let groups : List String :=
    (List.range' 0 q.groupIds.length).map fun i => "groupid" ++ Numeral.natText i
  have hsublist : (q.params.map Prod.fst).Sublist (names ++ groups) := by
    have hone (name : String) (value : Option Int64) :
        ((value.toList.map ((name, ·))).map Prod.fst).Sublist [name] := by
      cases value with
      | none => exact List.nil_sublist _
      | some v => exact .refl _
    rw [params_eq, List.map_cons, List.map_append, List.map_append, List.map_append,
      map_fst_groupParams]
    exact .cons_cons _ (.append (.append (.append (hone _ _) (hone _ _)) (hone _ _)) (.refl _))
  -- A group's name begins unlike the other names.
  have hprefix : ∀ name ∈ names, ¬ "groupid".toList <+: name.toList := by decide
  have hgroups : groups.Nodup := List.Nodup.map groupName_injective List.nodup_range'
  refine (List.nodup_append.2 ⟨by decide, hgroups, ?_⟩).sublist hsublist
  rintro name hname _ hgroup rfl
  obtain ⟨i, -, rfl⟩ := List.mem_map.1 hgroup
  refine hprefix _ hname ?_
  rw [String.toList_append]
  exact List.prefix_append _ _

/-! ## Placeholders, values and parameters -/

/-- The statements of a query carry its values in one order, and the placeholders in their texts are
numbered through in this order. Select lists begin with the forum, if there is one, and the numbers
that posts and replies are counted with; then come the course, the filters that take one value, the
course again, and the groups that restrict the report; a page ends with its window. The named
parameters are the same values, each under a name of its own. -/
theorem numbered_values_params (q : Query) (order : SortOrder) (request : PageRequest) :
    let source : List Literal := [.bigInt q.courseId] ++ q.forum.toList.map .bigInt ++
      q.dateFrom.toList.map .bigInt ++ q.dateTo.toList.map .bigInt ++ [.bigInt q.courseId] ++
      q.groupIds.map .bigInt
    let rows : List Literal :=
      q.forum.toList.map .bigInt ++ [.int 1, .int 0, .int 1, .int 0] ++ source
    (q.countStatement.Numbered ∧ q.countStatement.values = source) ∧
    ((q.rowStatement order).Numbered ∧ (q.rowStatement order).values = rows) ∧
    ((q.pageStatement request).Numbered ∧ (q.pageStatement request).values =
      rows ++ [.bigUnsigned request.size.toUInt64, .bigUnsigned request.start]) ∧
    q.params = [("courseid", q.courseId)] ++ q.forum.toList.map (("forumid", ·)) ++
      q.dateFrom.toList.map (("datefrom", ·)) ++ q.dateTo.toList.map (("dateto", ·)) ++
      q.groupIds.zipIdx.map (fun (id, i) => ("groupid" ++ Numeral.natText i, id)) ∧
    (q.params.map Prod.fst).Nodup := by
  intro source rows
  have hsource : q.sourcePieces.values = source := by
    rw [values_sourcePieces, bounds]
    simp [source]
  have hcount : q.countStatement.values = source := by
    rw [values_countStatement, hsource]
  have hrows (order : SortOrder) : (q.rowStatement order).values = rows := by
    rw [values_rowStatement, hsource]
  have hpage := values_pageStatement q request
  rw [hrows] at hpage
  have hparams := params_eq q
  rw [groupParams_eq] at hparams
  refine ⟨⟨numbered_countStatement q, hcount⟩, ⟨numbered_rowStatement q order, hrows order⟩,
    ⟨numbered_pageStatement q request, hpage⟩, ?_, nodup_params q⟩
  rw [hparams]
  simp

end ForumSummary.Query
