import ForumSummary.Proofs.Query.Contributions
import ForumSummary.Proofs.Sql.Binding
import ForumSummary.Proofs.Sql.Text

/-!
# The texts of a query's statements

All statements of a query have the same tables, joins and conditions (`Query.sourcePieces`), between
a select list and, in the statements for rows, groups and an order. The keywords that mark where
these parts begin are in no part before them, so they can be found in the text
(`exists_inlined_rowStatement_eq`). The statement for a page is the one for all rows with a window
behind it (`bind_pageStatement_iff`). A restriction to groups is in the text when and only when
groups restrict the report (`isInfix_countStatement_iff`, `isInfix_pageStatement_iff`).
-/

namespace ForumSummary.Query

open Sql Pieces

variable {q : Query} {c : Char} {order : SortOrder} {request : PageRequest}

/-- The tables, joins and conditions of all statements of a query. -/
def sourcePieces (q : Query) : Pieces Literal :=
  (q.base []).sourcePieces

theorem pieces_countStatement (q : Query) :
    q.countStatement.pieces = q.countStatement.listPieces ++ q.sourcePieces := by
  show _ ++ q.sourcePieces ++ [] ++ [] = _
  rw [List.append_nil, List.append_nil]

theorem pieces_rowStatement (q : Query) (order : SortOrder) : (q.rowStatement order).pieces =
    (q.rowStatement order).listPieces ++ q.sourcePieces ++ (q.rowStatement order).groupPieces :=
  List.append_nil _

theorem pieces_pageStatement (q : Query) (request : PageRequest) :
    (q.pageStatement request).pieces =
      (q.rowStatement request.order).pieces ++ (q.pageStatement request).windowPieces := by
  rw [pieces_rowStatement]
  rfl

/-! ## Marks in the text

A capital `F` is written by the `FROM` behind a select list and not before it, a capital `G` by the
`GROUP BY` behind the conditions and not before it, and a small `g` only by the tables of groups. -/

/-- What tables, joins and conditions are written with, but for the tables of groups: signs, and all
letters but `g`. -/
def isSourceChar (c : Char) : Bool :=
  c.isAlpha && c != 'G' && c != 'g' || [' ', '"', '(', ')', ',', '.', '<', '=', '>', '_'].contains c

/-- What select lists, groups and orders are written with: signs, and all letters but the capital
`F` and the small `g`. -/
def isListChar (c : Char) : Bool :=
  c.isAlpha && c != 'F' && c != 'g' || [' ', '"', '(', ')', ',', '.', ':', '_'].contains c

/-- A character outside a class is none of its characters. -/
theorem ne_of_class {p : Char → Bool} (hc : p c = false) (d : Char) (hd : p d = true) : c ≠ d := by
  rintro rfl
  exact Bool.noConfusion (hc.symm.trans hd)

theorem not_mem_of_class {p : Char → Bool} (hc : p c = false) {s : String}
    (hs : s.toList.all p = true) : c ∉ s.toList :=
  fun hmem => ne_of_class hc c (List.all_eq_true.1 hs c hmem) rfl

theorem lacks_postTests (hc : isSourceChar c = false) : ∀ t ∈ q.postTests, t.pieces.Lacks c := by
  rw [forall_mem_postTests_iff]
  simp (disch := decide) [postColumn, userColumn, Comparison.sign, ne_of_class hc]

theorem lacks_coursePosts (hc : isSourceChar c = false) : q.coursePosts.pieces.Lacks c := by
  have hcomma : c ∉ ", ".toList := not_mem_of_class hc (by decide)
  simp (disch := decide) [coursePosts, Subselect.pieces, Comparison.sign,
    lacks_joinWith_iff hcomma, ne_of_class hc]

theorem lacks_membersOf (hc : isSourceChar c = false) (hg : c ≠ 'g') (ids : List Int64) :
    (Filter.membersOf ids).pieces.Lacks c := by
  have hcomma : c ∉ ", ".toList := not_mem_of_class hc (by decide)
  have hlist : c ∉ " IN (, )".toList := not_mem_of_class hc (by decide)
  have hgroup : (membershipColumn "group_id").pieces.Lacks c := by
    simp (disch := decide) [membershipColumn, hg, ne_of_class hc]
  have huser : (membershipColumn "user_id").pieces.Lacks c := by
    simp (disch := decide) [membershipColumn, hg, ne_of_class hc]
  simp (disch := decide) [Filter.membersOf, Subselect.pieces, lacks_joinWith_iff hcomma, huser,
    RowTest.lacks_oneOf hgroup hlist, hg, ne_of_class hc]

theorem lacks_conditions (hc : isSourceChar c = false)
    (hgroups : c = 'g' → q.groupIds = []) : ∀ d ∈ q.conditions, d.pieces.Lacks c := by
  rw [forall_mem_conditions_iff]
  refine ⟨?_, fun hne => ?_, fun _ => ?_⟩
  · simp (disch := decide) [enrolmentColumn, Comparison.sign, ne_of_class hc]
  · have hg : c ≠ 'g' := fun hg => hne (hgroups hg)
    simp (disch := decide) [userColumn, lacks_membersOf hc hg, ne_of_class hc]
  · simp (disch := decide) [postColumn, ne_of_class hc]

/-- A character outside their class is in tables, joins and conditions only if it is a `g` and
groups restrict the report. -/
theorem lacks_sourcePieces (hc : isSourceChar c = false) (hgroups : c = 'g' → q.groupIds = []) :
    q.sourcePieces.Lacks c := by
  have hposts : q.coursePosts.pieces.Lacks c := lacks_coursePosts hc
  have hand : c ∉ " AND ".toList := not_mem_of_class hc (by decide)
  have htests : (allTests q.postTests).Lacks c := lacks_allTests hand (lacks_postTests hc)
  have hwhere : (clause " WHERE " " AND " (q.conditions.map Condition.pieces)).Lacks c :=
    lacks_clause (not_mem_of_class hc (by decide)) hand
      (List.forall_mem_map.2 (lacks_conditions hc hgroups))
  unfold sourcePieces Select.sourcePieces base
  simp only [lacks_append, hwhere, and_true]
  simp (disch := decide) [Join.pieces, userColumn, enrolmentColumn, hposts, htests, ne_of_class hc]

theorem lacks_listPieces_countStatement (hc : isListChar c = false) :
    q.countStatement.listPieces.Lacks c := by
  have hcomma : c ∉ ", ".toList := not_mem_of_class hc (by decide)
  simp (disch := decide) [Select.listPieces, countStatement, base, Output.pieces,
    Expression.pieces, userColumn, lacks_joinWith_iff hcomma, ne_of_class hc]

theorem lacks_listPieces_rowStatement (hc : isListChar c = false) :
    (q.rowStatement order).listPieces.Lacks c := by
  have hcomma : c ∉ ", ".toList := not_mem_of_class hc (by decide)
  have hand : c ∉ " AND ".toList := not_mem_of_class hc (by decide)
  simp only [Select.listPieces, rowStatement, base, rowOutputs, forumOutputs_eq]
  cases q.forum <;>
    simp (disch := decide) [Output.pieces, Expression.pieces, userColumn, postColumn, startedTests,
      repliedTests, allTests, lacks_joinWith_iff hcomma, lacks_joinWith_iff hand, ne_of_class hc]

theorem lacks_sortTerms (hc : isListChar c = false) :
    ∀ t ∈ sortTerms order, t.pieces.Lacks c := by
  rcases order with ⟨_ | _ | _ | _ | _ | _, _ | _⟩ <;>
    simp (disch := decide) [sortTerms, sortKeys, SortTerm.pieces, SortKey.pieces, userColumn,
      ne_of_class hc]

theorem lacks_groupPieces_rowStatement (hc : isListChar c = false) :
    (q.rowStatement order).groupPieces.Lacks c := by
  have hcomma : c ∉ ", ".toList := not_mem_of_class hc (by decide)
  refine lacks_append.2
    ⟨lacks_clause (not_mem_of_class hc (by decide)) hcomma ?_,
      lacks_clause (not_mem_of_class hc (by decide)) hcomma ?_⟩
  · simp (disch := decide) [rowStatement, userColumn, ne_of_class hc]
  · exact List.forall_mem_map.2 (lacks_sortTerms hc)

/-! ## Restrictions to groups -/

/-- The beginning of a restriction to groups, as pieces. -/
def restrictionPieces : Pieces Literal :=
  (userColumn "id").pieces ++ fixed " IN " ++ fixed "(SELECT " ++
    (membershipColumn "user_id").pieces ++ fixed " FROM " ++
    (⟨"group_member", "gm"⟩ : Table).pieces ++ fixed " WHERE " ++
    (membershipColumn "group_id").pieces ++ fixed " IN ("

theorem pieces_membersOf (ids : List Int64) :
    (Condition.member (userColumn "id") (Filter.membersOf ids)).pieces = restrictionPieces ++
      (joinWith ", " ((ids.map Literal.bigInt).map place) ++ fixed ")" ++ fixed ")") := by
  simp only [Condition.pieces, Subselect.pieces, Filter.membersOf, RowTest.pieces,
    restrictionPieces, List.append_assoc, List.map_cons, List.map_nil, joinWith, List.flatMap_nil,
    List.append_nil]

theorem bind_bigUnsigned_eq_ok_iff {n : UInt64} {a : Argument} :
    (Literal.bigUnsigned n).toValue.bind = .ok a ↔
      ∃ k : Int64, k.toInt = n.toNat ∧ a = .int8 (some k) := by
  have hmax : Int64.maxValue.toInt = 2 ^ 63 - 1 := rfl
  simp only [Literal.toValue, Value.bind]
  split
  · next h =>
    have hk : (Int64.ofNat n.toNat).toInt = n.toNat :=
      Int64.toInt_ofNat_of_lt (by omega)
    constructor
    · intro ha
      exact ⟨_, hk, (Except.ok.inj ha).symm⟩
    · rintro ⟨k, hk', rfl⟩
      rw [Int64.toInt_inj.1 (hk.trans hk'.symm)]
  · next h =>
    constructor
    · intro ha
      cases ha
    · rintro ⟨k, hk, -⟩
      have := k.toInt_lt
      omega

theorem values_pageStatement (q : Query) (request : PageRequest) :
    (q.pageStatement request).values = (q.rowStatement request.order).values ++
      [.bigUnsigned request.size.toUInt64, .bigUnsigned request.start] := by
  rw [Select.values, pieces_pageStatement, values_append]
  rfl

theorem parameterized_pageStatement (q : Query) (request : PageRequest) :
    (q.pageStatement request).parameterized = (q.rowStatement request.order).parameterized ++
      " LIMIT $" ++ Numeral.natText ((q.rowStatement request.order).values.length + 1) ++
      " OFFSET $" ++ Numeral.natText ((q.rowStatement request.order).values.length + 2) := by
  have hlimit : " LIMIT $" = " LIMIT " ++ "$" := rfl
  have hoffset : " OFFSET $" = " OFFSET " ++ "$" := rfl
  rw [Select.parameterized, pieces_pageStatement, parameterized, parameterizedFrom_append,
    Nat.add_comm 1, hlimit, hoffset]
  simp only [Select.windowPieces, pageStatement, fixed, place, List.cons_append, List.nil_append,
    parameterizedFrom, String.append_assoc, String.append_empty]
  rfl

/-- The statement for a page is the one for all rows with a window behind it, whose size and start
are the last two arguments. -/
theorem bind_pageStatement_iff {b : Bound} : (q.pageStatement request).bind = .ok b ↔
    ∃ (all : Bound) (size start : Int64), (q.rowStatement request.order).bind = .ok all ∧
      size.toInt = request.size.toNat ∧ start.toInt = request.start.toNat ∧
      b.text = all.text ++ " LIMIT $" ++ Numeral.natText (all.arguments.length + 1) ++
        " OFFSET $" ++ Numeral.natText (all.arguments.length + 2) ∧
      b.arguments = all.arguments ++ [.int8 (some size), .int8 (some start)] := by
  simp only [Select.bind_eq_ok_iff, parameterized_pageStatement, values_pageStatement,
    List.map_append, List.map_cons, List.map_nil, bind_append_eq_ok_iff, bind_cons_eq_ok_iff,
    bind_bigUnsigned_eq_ok_iff]
  constructor
  · rintro ⟨htext, as, _, has,
      ⟨_, _, ⟨size, hsize, rfl⟩, ⟨_, _, ⟨start, hstart, rfl⟩, hnil, rfl⟩, rfl⟩, hb⟩
    cases hnil
    refine ⟨⟨(q.rowStatement request.order).parameterized, as⟩, size, start, ⟨rfl, has⟩, ?_, hstart,
      ?_, hb⟩
    · simpa using hsize
    · rw [htext, length_of_bind has, List.length_map]
  · rintro ⟨all, size, start, ⟨hall, has⟩, hsize, hstart, htext, hb⟩
    refine ⟨?_, _, _, has, ⟨_, _, ⟨size, ?_, rfl⟩, ⟨_, _, ⟨start, hstart, rfl⟩, rfl, rfl⟩, rfl⟩, hb⟩
    · rw [htext, hall, length_of_bind has, List.length_map]
    · simpa using hsize

/-! ## Parts of the text -/

/-- The tables, joins and conditions of a query with their values written in. -/
def sourceText (q : Query) : String :=
  q.sourcePieces.inlined Literal.text

theorem inlined_countStatement (q : Query) :
    q.countStatement.inlined = "SELECT COUNT(DISTINCT \"u\".\"id\")" ++ q.sourceText := by
  rw [Select.inlined, pieces_countStatement, inlined_append]
  rfl

theorem not_isInfix_of_not_mem {s t : String} (hs : c ∈ s.toList) (ht : c ∉ t.toList) :
    ¬ s.toList <:+: t.toList :=
  fun h => ht (h.subset hs)

theorem isPrefix_sourceText (q : Query) : " FROM ".toList <+: q.sourceText.toList :=
  ⟨_, (String.toList_append ..).symm⟩

theorem not_isInfix_sourceText (q : Query) : ¬ " GROUP BY ".toList <:+: q.sourceText.toList := by
  have hlacks : q.sourcePieces.Lacks 'G' := lacks_sourcePieces (by decide) nofun
  have hG : 'G' ∉ q.sourceText.toList :=
    not_mem_inlined hlacks (Literal.not_mem_text (by decide))
  exact not_isInfix_of_not_mem (by decide) hG

/-- Between the select list of the statement for all rows and its groups stand the tables, joins and
conditions of the query. -/
theorem exists_inlined_rowStatement_eq (q : Query) (order : SortOrder) :
    ∃ list groups : String, (q.rowStatement order).inlined = list ++ q.sourceText ++ groups ∧
      ¬ " FROM ".toList <:+: list.toList ∧ " GROUP BY ".toList <+: groups.toList := by
  let statement := q.rowStatement order
  have hF : 'F' ∉ (statement.listPieces.inlined Literal.text).toList :=
    not_mem_inlined (lacks_listPieces_rowStatement (by decide)) (Literal.not_mem_text (by decide))
  refine ⟨statement.listPieces.inlined Literal.text, statement.groupPieces.inlined Literal.text, ?_,
    not_isInfix_of_not_mem (by decide) hF, ⟨_, (String.toList_append ..).symm⟩⟩
  rw [Select.inlined, pieces_rowStatement, inlined_append, inlined_append]
  rfl

theorem exists_inlined_pageStatement_eq (q : Query) (request : PageRequest) :
    ∃ limits : String,
      (q.pageStatement request).inlined = (q.rowStatement request.order).inlined ++ limits ∧
        " LIMIT ".toList <+: limits.toList := by
  refine ⟨(q.pageStatement request).windowPieces.inlined Literal.text, ?_,
    ⟨_, (String.toList_append ..).symm⟩⟩
  rw [Select.inlined, pieces_pageStatement, inlined_append]
  rfl

end ForumSummary.Query
