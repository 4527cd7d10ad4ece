import ForumSummary.Proofs.Json.Decoding
import ForumSummary.Proofs.Query.Runs
import ForumSummary.Query.Stored
import Mathlib.Data.List.Forall2

/-!
# Stored queries

A stored query is a course and filters under names of kinds; the last filter under a name is the one
that is kept (`Stored.Keeps`). Its texts write the members of objects in any order and may repeat
names (`Stored.Form`), and all of them are read back (`Stored.ofText_of_form`). It is a query
exactly when every filter that is kept stands under its own kind; otherwise the first kind that has
another's filter is reported (`toQuery_cases`).
-/

namespace ForumSummary

open Json (Written Blank)

namespace Filter

/-! ## Texts of filters -/

/-- A value writes a filter: the name of its kind and its value, in either order. -/
inductive Form (f : Filter) : Json → Prop where
  | kindFirst {name : String} (h : (name, f.kind) ∈ Kind.names) :
    Form f (.object [("kind", .string name), ("value", f.valueJson)])
  | valueFirst {name : String} (h : (name, f.kind) ∈ Kind.names) :
    Form f (.object [("value", f.valueJson), ("kind", .string name)])

theorem decode_kind_outline {k : Kind} {name : String} (h : (name, k) ∈ Kind.names) :
    Kind.decode (Json.string name).outline = .ok k := by
  obtain rfl := Kind.mem_names_iff.1 h
  cases k <;> rfl

theorem decodeValue_outline (f : Filter) : decodeValue f.kind f.valueJson.outline = .ok f := by
  cases f with
  | groups ids =>
    simp only [kind, valueJson, decodeValue, Json.list_outline fun id _ => Json.int64_outline id]
    rfl
  | forum | dateFrom | dateTo =>
    simp only [kind, valueJson, decodeValue, Json.int64_outline]
    rfl

theorem exact_valueJson (f : Filter) : f.valueJson.Exact := by
  cases f with
  | groups ids => exact Json.exact_ofList Json.exact_ofInt64 ids
  | forum | dateFrom | dateTo => trivial

theorem depth_valueJson (f : Filter) : f.valueJson.outline.depth ≤ 1 := by
  cases f with
  | groups ids =>
    have hitems : Json.Outline.itemsDepth (Json.outlines (ids.map Json.ofInt64)) = 0 := by
      induction ids with
      | nil => rfl
      | cons id ids ih =>
        rw [List.map_cons, Json.outlines, Json.Outline.itemsDepth, ih]
        rfl
    exact Nat.le_of_eq (congrArg (· + 1) hitems)
  | forum | dateFrom | dateTo => exact Nat.zero_le 1

/-- A filter is read from each of its forms. -/
theorem decode_outline {f : Filter} {v : Json} (h : f.Form v) {level : Nat} (hlevel : level ≤ 125) :
    decode level v.outline = .ok f := by
  have hwhole : Json.Decoder.readWholeValue (level + 1) f.valueJson.outline = .ok () :=
    Json.readWholeValue_outline (exact_valueJson f) (by have := depth_valueJson f; omega)
  cases h with
  | kindFirst h =>
    have hkind := decode_kind_outline h
    simp only [Json.outline] at hkind
    simp only [Json.outline, Json.memberOutlines, decode, decodeMembers, hkind, Json.under_ok,
      Json.ok_bind, decodeValue_outline]
    rfl
  | valueFirst h =>
    have hkind := decode_kind_outline h
    simp only [Json.outline] at hkind
    simp only [Json.outline, Json.memberOutlines, decode, decodeMembers, hwhole, hkind,
      Json.under_ok, Json.ok_bind, decodeValue_outline]
    rfl

end Filter

namespace Query.Stored

variable {s : Stored} {kind : Filter.Kind} {f : Filter}

/-! ## Texts of stored queries -/

/-- Members write the entries of a stored query, one after the other. -/
def EntriesForm (entries : List (Filter.Kind × Filter)) (members : List (String × Json)) : Prop :=
  List.Forall₂ (fun e m => (m.1, e.1) ∈ Filter.Kind.names ∧ e.2.Form m.2) entries members

/-- A value writes a stored query: its course and its filters, in either order. The filters may be
left out when there are none. -/
inductive Form (s : Stored) : Json → Prop where
  | courseFirst {members : List (String × Json)} (h : EntriesForm s.entries members) :
    Form s (.object [("course_id", .ofInt64 s.courseId), ("filters", .object members)])
  | filtersFirst {members : List (String × Json)} (h : EntriesForm s.entries members) :
    Form s (.object [("filters", .object members), ("course_id", .ofInt64 s.courseId)])
  | withoutFilters (h : s.entries = []) :
    Form s (.object [("course_id", .ofInt64 s.courseId)])

theorem choose_name (kind : Filter.Kind) :
    Json.Decoder.choose Filter.Kind.byName kind.name = .ok kind := by
  cases kind <;> rfl

theorem decodeEntries_outline {entries : List (Filter.Kind × Filter)}
    {members : List (String × Json)} (h : EntriesForm entries members) :
    decodeEntries 1 (Json.object members).outline = .ok entries := by
  have hmembers : decodeMembers 2 (Json.memberOutlines members) = .ok entries := by
    induction h with
    | nil => rfl
    | @cons e m entries members hm _ ih =>
      obtain ⟨name, v⟩ := m
      obtain ⟨hname, hform⟩ := hm
      obtain rfl := Filter.Kind.mem_names_iff.1 hname
      have hfilter : Filter.decode 2 v.outline = .ok e.2 :=
        Filter.decode_outline hform (by decide)
      simp only [Json.memberOutlines, decodeMembers, choose_name, Json.ok_bind, hfilter,
        Json.under_ok, ih]
      rfl
  simp only [Json.outline, decodeEntries, hmembers, Json.ok_bind]
  rfl

/-- The course of a stored query passes its check. -/
theorem check_courseId (courseId : Int64) :
    ∃ slot, record.slots.find? (·.name = "course_id") = some slot ∧
      slot.check (Json.ofInt64 courseId).outline = .ok () := by
  refine ⟨_, rfl, ?_⟩
  show (Json.Decoder.int64 (Json.ofInt64 courseId).outline).map _ = .ok ()
  rw [Json.int64_outline]
  rfl

/-- The filters of a stored query pass their check. -/
theorem check_filters {entries : List (Filter.Kind × Filter)} {members : List (String × Json)}
    (h : EntriesForm entries members) :
    ∃ slot, record.slots.find? (·.name = "filters") = some slot ∧
      slot.check (Json.object members).outline = .ok () := by
  refine ⟨_, rfl, ?_⟩
  show (decodeEntries 1 (Json.object members).outline).map _ = .ok ()
  rw [decodeEntries_outline h]
  rfl

/-- A stored query is built from its course and its filters, if there are any. -/
theorem build_record {find : String → Option Json.Outline} {filters : Option Json.Outline}
    {courseId : Int64} {entries : List (Filter.Kind × Filter)}
    (hcourse : find "course_id" = some (Json.ofInt64 courseId).outline)
    (hfilters : find "filters" = filters)
    (hentries : filters.elim (.ok []) (decodeEntries 1) = .ok entries) :
    record.build find = .ok ⟨courseId, entries⟩ := by
  simp only [record, Json.Record.required, Json.Record.defaulted, Json.Record.single, Functor.map,
    Seq.seq, hcourse, hfilters, Json.int64_outline]
  cases filters with
  | none =>
    cases hentries
    rfl
  | some o =>
    simp only [Option.elim] at hentries
    simp only [hentries]
    rfl

/-- A stored query is read from each of its forms. -/
theorem decode_outline {v : Json} (h : s.Form v) : decode v.outline = .ok s := by
  cases h with
  | courseFirst h =>
    refine (Json.Record.decode_outline (by simp) ?_).trans
      (build_record rfl rfl (decodeEntries_outline h))
    rw [List.forall_mem_cons, List.forall_mem_singleton]
    exact ⟨check_courseId s.courseId, check_filters h⟩
  | filtersFirst h =>
    refine (Json.Record.decode_outline (by simp) ?_).trans
      (build_record rfl rfl (decodeEntries_outline h))
    rw [List.forall_mem_cons, List.forall_mem_singleton]
    exact ⟨check_filters h, check_courseId s.courseId⟩
  | withoutFilters h =>
    refine (Json.Record.decode_outline (by simp) ?_).trans
      (build_record rfl rfl (congrArg Except.ok h.symm))
    rw [List.forall_mem_singleton]
    exact check_courseId s.courseId

/-- A stored query is read from every text of its forms, with blanks wherever JSON allows them. -/
theorem ofText_of_form {v : Json} {a cs b : List Char} (h : s.Form v) (ha : Blank a)
    (hv : v.Written cs) (hb : Blank b) :
    Json.Decoder.ofText decode (String.ofList (a ++ (cs ++ b))) = .ok s :=
  (Json.Decoder.ofText_of_written decode ha hv hb).trans (decode_outline h)

/-! ## The filters that are kept -/

/-- A filter is the last entry under a kind. -/
def Keeps (s : Stored) (kind : Filter.Kind) (f : Filter) : Prop :=
  ∃ before after, s.entries = before ++ (kind, f) :: after ∧ ∀ e ∈ after, e.1 ≠ kind

/-- The first kind, in order, under which a filter of another kind is kept. -/
def FirstMismatch (s : Stored) (kind : Filter.Kind) (f : Filter) : Prop :=
  s.Keeps kind f ∧ f.kind ≠ kind ∧
    ∃ before after, [.forum, .dateFrom, .dateTo, .groups] = before ++ kind :: after ∧
      ∀ k ∈ before, ∀ g, s.Keeps k g → g.kind = k

theorem kept_eq_some_iff : s.kept kind = some f ↔ s.Keeps kind f := by
  unfold kept Keeps
  rw [List.lookup_eq_some_iff]
  constructor
  · rintro ⟨after, before, hentries, hafter⟩
    refine ⟨before.reverse, after.reverse, ?_, fun e he => ?_⟩
    · rw [← List.reverse_reverse s.entries, hentries]
      simp
    · have hne := hafter e (List.mem_reverse.1 he)
      exact fun h => by simp [h] at hne
  · rintro ⟨before, after, hentries, hafter⟩
    refine ⟨after.reverse, before.reverse, ?_, fun e he => ?_⟩
    · rw [hentries]
      simp
    · have hne := hafter e (List.mem_reverse.1 he)
      exact bne_iff_ne.2 hne.symm

/-- Under a kind, what is wrong is a filter of another kind. -/
theorem mismatchAt?_eq_some_iff {p : Filter.Kind × Filter} :
    s.mismatchAt? kind = some p ↔ s.Keeps kind p.2 ∧ p.2.kind ≠ kind ∧ p.1 = kind := by
  obtain ⟨k, g⟩ := p
  unfold mismatchAt?
  rw [← kept_eq_some_iff]
  cases s.kept kind with
  | none => exact iff_of_false nofun fun h => nomatch h.1
  | some f =>
    by_cases hf : f.kind = kind
    · simp only [if_pos hf]
      refine iff_of_false nofun fun h => h.2.1 ?_
      rwa [← Option.some.inj h.1]
    · simp only [if_neg hf, Option.some.injEq, Prod.mk.injEq]
      constructor
      · rintro ⟨rfl, rfl⟩
        exact ⟨rfl, hf, rfl⟩
      · rintro ⟨rfl, -, rfl⟩
        exact ⟨rfl, rfl⟩

/-- Under a kind, nothing is wrong if a filter of this kind is kept or none. -/
theorem mismatchAt?_eq_none_iff :
    s.mismatchAt? kind = none ↔ ∀ f, s.Keeps kind f → f.kind = kind := by
  rw [Option.eq_none_iff_forall_ne_some]
  constructor
  · intro h f hf
    by_contra hne
    exact h (kind, f) (mismatchAt?_eq_some_iff.2 ⟨hf, hne, rfl⟩)
  · intro h p hp
    obtain ⟨hf, hne, -⟩ := mismatchAt?_eq_some_iff.1 hp
    exact hne (h p.2 hf)

/-- The mismatch that is reported is the first one. -/
theorem mismatch?_eq_some_iff : s.mismatch? = some (kind, f) ↔ s.FirstMismatch kind f := by
  unfold mismatch? FirstMismatch
  rw [List.findSome?_eq_some_iff]
  simp only [mismatchAt?_eq_some_iff, mismatchAt?_eq_none_iff]
  constructor
  · rintro ⟨before, k, after, hall, ⟨hkept, hne, rfl⟩, hbefore⟩
    exact ⟨hkept, hne, before, after, hall, hbefore⟩
  · rintro ⟨hkept, hne, before, after, hall, hbefore⟩
    exact ⟨before, kind, after, hall, ⟨hkept, hne, rfl⟩, hbefore⟩

/-- Nothing is reported when every filter that is kept stands under its own kind. -/
theorem mismatch?_eq_none_iff :
    s.mismatch? = none ↔ ∀ kind f, s.Keeps kind f → f.kind = kind := by
  unfold mismatch?
  rw [List.findSome?_eq_none_iff]
  simp only [mismatchAt?_eq_none_iff]
  exact ⟨fun h kind => h kind (Filter.Kind.mem_all kind), fun h kind _ => h kind⟩

end Query.Stored

namespace Query

variable {s : Stored} {kind : Filter.Kind} {f : Filter}

/-! ## Stored queries as queries -/

/-- Filters of different kinds that are set one after the other stand in their places. -/
theorem filter_foldl_set {kept : Filter.Kind → Option Filter}
    (hkept : ∀ k f, kept k = some f → f.kind = k) {kinds : List Filter.Kind}
    (hnodup : kinds.Nodup) (q : Query) (kind : Filter.Kind) :
    ((kinds.filterMap kept).foldl Query.set q).filter kind =
      if kind ∈ kinds then (kept kind).or (q.filter kind) else q.filter kind := by
  induction kinds generalizing q with
  | nil => rfl
  | cons k kinds ih =>
    obtain ⟨hk, hrest⟩ := List.nodup_cons.1 hnodup
    cases hf : kept k with
    | none =>
      rw [List.filterMap_cons_none hf, ih hrest]
      by_cases hkind : kind = k
      · subst hkind
        rw [if_neg hk, if_pos List.mem_cons_self, hf, Option.none_or]
      · simp only [List.mem_cons, hkind, false_or]
    | some f =>
      obtain rfl := hkept k f hf
      rw [List.filterMap_cons_some hf, List.foldl_cons, ih hrest]
      by_cases hkind : kind = f.kind
      · subst hkind
        rw [if_neg hk, if_pos List.mem_cons_self, hf, filter_set_self, Option.some_or]
      · simp only [List.mem_cons, hkind, false_or, filter_set_of_ne q hkind]

theorem courseId_foldl_set (fs : List Filter) (q : Query) :
    (fs.foldl Query.set q).courseId = q.courseId := by
  induction fs generalizing q with
  | nil => rfl
  | cons f fs ih => rw [List.foldl_cons, ih, courseId_set]

/-- A stored query is a query with the filters that are kept, or has a first mismatch. -/
theorem Stored.toQuery_cases (s : Stored) :
    (∃ q, s.toQuery = .ok q ∧ q.courseId = s.courseId ∧
      (∀ kind f, q.filter kind = some f ↔ s.Keeps kind f) ∧
      ∀ kind f, s.Keeps kind f → f.kind = kind) ∨
    ∃ kind f, s.FirstMismatch kind f ∧ s.toQuery = .error (.mismatchedFilterKey kind f.kind) := by
  cases hs : s.mismatch? with
  | some p =>
    obtain ⟨kind, f⟩ := p
    refine .inr ⟨kind, f, mismatch?_eq_some_iff.1 hs, ?_⟩
    rw [toQuery, hs]
  | none =>
    have hkinds := mismatch?_eq_none_iff.1 hs
    refine .inl ⟨_, by rw [toQuery, hs], courseId_foldl_set _ _, fun kind f => ?_, hkinds⟩
    rw [filter_foldl_set (fun k f hf => hkinds k f (kept_eq_some_iff.1 hf)) (by decide),
      if_pos (Filter.Kind.mem_all kind), ← kept_eq_some_iff]
    have hnew : (ofCourse s.courseId).filter kind = none := by cases kind <;> rfl
    rw [hnew, Option.or_none]

-- The order of the kinds decides, not that of the text, and a later entry replaces an earlier one.
example : Stored.toQuery ⟨1, [(.groups, .forum 3), (.forum, .forum 4), (.forum, .dateTo 5)]⟩ =
    .error (.mismatchedFilterKey .forum .dateTo) := by
  rfl

/-! ## Texts -/

variable {text : String} {q : Query}

/-- What a text that decodes as a stored query gives: the query, or why it is none. -/
theorem ofText_of_stored (h : Json.Decoder.ofText Stored.decode text = .ok s) :
    ofText text = s.toQuery.mapError fun e => .data [] (.rejected e.message) := by
  obtain ⟨o, hread, hdecode⟩ := Json.Decoder.ofText_eq_ok_iff.1 h
  have hquery : ofText text = decode o := Json.Decoder.ofText_of_complete hread
  rw [hquery, decode, hdecode, Json.ok_bind]
  cases s.toQuery <;> rfl

/-- A text that is accepted decodes as a stored query. -/
theorem exists_stored_of_ofText (h : ofText text = .ok q) :
    ∃ s, Json.Decoder.ofText Stored.decode text = .ok s ∧ s.toQuery = .ok q := by
  obtain ⟨o, hread, hdecode⟩ := Json.Decoder.ofText_eq_ok_iff.1 h
  unfold decode at hdecode
  cases hs : Stored.decode o with
  | error e =>
    rw [hs] at hdecode
    exact nomatch hdecode
  | ok s =>
    rw [hs, Json.ok_bind] at hdecode
    refine ⟨s, Json.Decoder.ofText_eq_ok_iff.2 ⟨o, hread, hs⟩, ?_⟩
    cases hq : s.toQuery with
    | error e =>
      rw [hq] at hdecode
      exact nomatch hdecode
    | ok q' =>
      rw [hq] at hdecode
      cases hdecode
      rfl

/-! ## Queries as stored queries -/

/-- What the text of a query holds: the filters under their own kinds, in order. -/
def stored (q : Query) : Stored :=
  ⟨q.courseId, q.filters.map fun f => (f.kind, f)⟩

theorem form_toJson (q : Query) : q.stored.Form q.toJson := by
  refine .courseFirst ?_
  unfold Stored.EntriesForm stored
  rw [List.forall₂_map_left_iff, List.forall₂_map_right_iff, List.forall₂_same]
  have hname : ∀ kind : Filter.Kind, (kind.name, kind) ∈ Filter.Kind.names := fun kind =>
    Filter.Kind.mem_names_iff.2 rfl
  exact fun f _ => ⟨hname f.kind, .kindFirst (hname f.kind)⟩

theorem exact_toJson (q : Query) : q.toJson.Exact := by
  have hfilters : ∀ fs : List Filter,
      Json.MembersExact (fs.map fun f => (f.kind.name, f.toJson)) := by
    intro fs
    induction fs with
    | nil => trivial
    | cons f fs ih => exact ⟨⟨trivial, f.exact_valueJson, trivial⟩, ih⟩
  exact ⟨trivial, hfilters q.filters, trivial⟩

theorem keeps_stored_iff : q.stored.Keeps kind f ↔ q.filter kind = some f := by
  have hkept : q.stored.kept kind = q.filter kind := by
    rcases q with ⟨_, _ | _, _ | _, _ | _, _ | _⟩ <;> cases kind <;> rfl
  rw [← Stored.kept_eq_some_iff, hkept]

theorem toQuery_stored (q : Query) : q.stored.toQuery = .ok q := by
  rcases q.stored.toQuery_cases with ⟨q', hok, hcourse, hfilter, -⟩ | ⟨kind, f, hfirst, -⟩
  · have hq : q' = q := by
      refine eq_of_filter_eq hcourse fun kind => Option.ext fun f => ?_
      rw [hfilter, keeps_stored_iff]
    rw [hok, hq]
  · exact absurd (kind_of_filter (keeps_stored_iff.1 hfirst.1)) hfirst.2.1

/-- A query is read back from its text. -/
theorem ofText_compactText (q : Query) : ofText q.toJson.compactText = .ok q := by
  have hstored : Json.Decoder.ofText Stored.decode q.toJson.compactText = .ok q.stored := by
    have h := Stored.ofText_of_form q.form_toJson Json.blank_nil
      (Json.written_compact q.exact_toJson) Json.blank_nil
    rwa [List.nil_append, List.append_nil] at h
  rw [ofText_of_stored hstored, toQuery_stored]
  rfl

/-! ## The stored format -/

/-- The stored format of queries. The text of a query that a run of steps left is read back as this
query. What is accepted is what successful additions leave on its course, holds every filter under
its own kind, and holds the filters that its text keeps. Every text of a stored query decodes,
whatever the order of its members, with the filters in text order. A text that decodes is accepted
exactly when every filter that is kept, the last one under its kind, is of this kind; otherwise the
first kind in order that keeps another's filter is reported, and the kind of this filter. -/
theorem ofText_stored_iff :
    (∀ courseId steps, let q := (ofCourse courseId).run steps
      ofText q.toJson.compactText = .ok q) ∧
    (∀ text q, ofText text = .ok q →
      (∃ steps, (∀ s ∈ steps, ∃ kind values, s = Step.add kind values ∧ s.succeeds = true) ∧
        (ofCourse q.courseId).run steps = q) ∧
      (∀ kind f, q.filter kind = some f → f.kind = kind) ∧
      ∃ s : Stored, Json.Decoder.ofText Stored.decode text = .ok s ∧ q.courseId = s.courseId ∧
        ∀ kind f, q.filter kind = some f ↔ s.Keeps kind f) ∧
    (∀ (s : Stored) v a cs b, s.Form v → Blank a → v.Written cs → Blank b →
      Json.Decoder.ofText Stored.decode (String.ofList (a ++ (cs ++ b))) = .ok s) ∧
    ∀ text s, Json.Decoder.ofText Stored.decode text = .ok s →
      ((∃ q, ofText text = .ok q) ↔ ∀ kind f, s.Keeps kind f → f.kind = kind) ∧
      ∀ failure, ofText text = .error failure ↔ ∃ kind f key own, s.FirstMismatch kind f ∧
        (key, kind) ∈ Filter.Kind.names ∧ (own, f.kind) ∈ Filter.Kind.names ∧
        failure = .data [] (.rejected
          ("filter '" ++ own ++ "' stored under key '" ++ key ++ "'")) := by
  refine ⟨fun courseId steps => ofText_compactText _, fun text q h => ?_,
    fun s v a cs b hform ha hv hb => Stored.ofText_of_form hform ha hv hb, fun text s h => ?_⟩
  · obtain ⟨s, hstored, hquery⟩ := exists_stored_of_ofText h
    refine ⟨q.exists_run_eq, fun kind f => kind_of_filter, s, hstored, ?_⟩
    rcases s.toQuery_cases with ⟨q', hok, hcourse, hfilter, -⟩ | ⟨kind, f, -, herror⟩
    · obtain rfl : q' = q := Except.ok.inj (hok.symm.trans hquery)
      exact ⟨hcourse, hfilter⟩
    · exact nomatch herror.symm.trans hquery
  · rw [ofText_of_stored h]
    rcases s.toQuery_cases with ⟨q, hok, -, -, hkinds⟩ | ⟨kind, f, hfirst, herror⟩
    · rw [hok]
      refine ⟨iff_of_true ⟨q, rfl⟩ hkinds, fun failure => iff_of_false nofun ?_⟩
      rintro ⟨kind, f, -, -, ⟨hkeeps, hne, -⟩, -⟩
      exact hne (hkinds kind f hkeeps)
    · rw [herror]
      refine ⟨iff_of_false nofun fun h => hfirst.2.1 (h kind f hfirst.1), fun failure => ?_⟩
      constructor
      · rintro ⟨⟩
        exact ⟨kind, f, kind.name, f.kind.name, hfirst, Filter.Kind.mem_names_iff.2 rfl,
          Filter.Kind.mem_names_iff.2 rfl, rfl⟩
      · rintro ⟨kind', f', key, own, hfirst', hkey, hown, rfl⟩
        obtain rfl := Filter.Kind.mem_names_iff.1 hkey
        obtain rfl := Filter.Kind.mem_names_iff.1 hown
        -- There is one first mismatch only.
        have heq := (Stored.mismatch?_eq_some_iff.2 hfirst).symm.trans
          (Stored.mismatch?_eq_some_iff.2 hfirst')
        cases heq
        rfl

end Query

end ForumSummary
