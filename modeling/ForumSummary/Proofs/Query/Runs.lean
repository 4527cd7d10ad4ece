import ForumSummary.Proofs.Names
import ForumSummary.Query.Statement
import Mathlib.Data.List.Induction

/-!
# Runs of changes to a query

A query is changed in steps: filters are set by kind or by name, in place or while the query is
built, and they are removed. What is in a query after any run of steps is said by the steps alone.
In each kind's place stands what the last successful step on that kind left
(`values_filter_run`), and a step fails for reasons that do not depend on the query
(`perform_snd_eq_failed_iff`). So the kinds do not interfere, and how steps on different kinds are
interleaved does not matter (`run_eq_of_changes_eq`).
-/

namespace ForumSummary

/-- A filter is known by its kind and its values. -/
theorem Filter.eq_of_kind_of_values {f g : Filter} (hk : f.kind = g.kind)
    (hv : f.values = g.values) : f = g := by
  have hg := ofValues_kind_values g
  rw [← hk, ← hv, ofValues_kind_values] at hg
  exact Except.ok.inj hg

/-- Values make a filter of their kind, unless the kind takes exactly one and is given none or
several. -/
theorem Filter.ofValues_cases (kind : Kind) (values : List Int64) :
    (∃ f : Filter, ofValues kind values = .ok f ∧ f.kind = kind ∧ f.values = values ∧
      (kind = .groups ∨ values.length = 1)) ∨
    (ofValues kind values = .error (.invalidFilterArity kind values.length) ∧ kind ≠ .groups ∧
      values.length ≠ 1) := by
  cases kind with
  | groups => exact .inl ⟨.groups values, rfl, rfl, rfl, .inl rfl⟩
  | forum | dateFrom | dateTo =>
    rcases values with _ | ⟨v, _ | ⟨w, rest⟩⟩
    · exact .inr ⟨rfl, nofun, nofun⟩
    · exact .inl ⟨_, rfl, rfl, rfl, .inr rfl⟩
    · refine .inr ⟨rfl, nofun, fun hone => ?_⟩
      exact absurd (Nat.succ.inj hone) (Nat.succ_ne_zero _)

namespace Query

/-- A change to a query. -/
inductive Step where
  | add (kind : Filter.Kind) (values : List Int64)
  | addNamed (name : String) (values : List Int64)
  | withFilter (kind : Filter.Kind) (values : List Int64)
  | remove (kind : Filter.Kind)
  deriving DecidableEq, Repr

/-- What a step returns: nothing, the filter that it took away, or an error. -/
inductive StepResult where
  | changed
  | removed (f : Option Filter)
  | failed (e : ReportError)

/-- The query after a filter was set or not, and the result. Where it was not, the query stays. -/
def settle (q : Query) : Except ReportError Query → Query × StepResult
  | .ok q' => (q', .changed)
  | .error e => (q, .failed e)

/-- Performs a step. -/
def perform (q : Query) : Step → Query × StepResult
  | .add kind values => q.settle (q.add kind values)
  | .addNamed name values => q.settle (q.addNamed name values)
  | .withFilter kind values => q.settle (q.add kind values)
  | .remove kind => (q.remove kind, .removed (q.filter kind))

/-- The query after a run of steps. -/
def run (q : Query) (steps : List Step) : Query :=
  steps.foldl (fun q s => (q.perform s).1) q

theorem run_concat (q : Query) (steps : List Step) (s : Step) :
    q.run (steps ++ [s]) = ((q.run steps).perform s).1 := by
  unfold run
  rw [List.foldl_append]
  rfl

/-! ## What a step says -/

namespace Step

/-- The kind that a step is about, unless its name is not that of a kind. -/
def kind? : Step → Option Filter.Kind
  | .add kind _ => some kind
  | .addNamed name _ => Filter.Kind.names.lookup name
  | .withFilter kind _ => some kind
  | .remove kind => some kind

/-- The values that a step sets. A removal sets none. -/
def values? : Step → Option (List Int64)
  | .add _ values => some values
  | .addNamed _ values => some values
  | .withFilter _ values => some values
  | .remove _ => none

/-- A step can be performed: it is about a kind, and what it sets are values for that kind. Any
values are for groups, for other kinds it is exactly one. -/
def succeeds (s : Step) : Bool :=
  match s.kind?, s.values? with
  | none, _ => false
  | some _, none => true
  | some kind, some values => kind = .groups || values.length = 1

/-- The errors of a step: the name is not that of a kind, or the kind takes one value and was given
none or more. -/
inductive FailsWith : Step → ReportError → Prop where
  | unknown {name : String} {values : List Int64} (h : ∀ kind, (name, kind) ∉ Filter.Kind.names) :
    FailsWith (.addNamed name values) (.unknownFilterKind name)
  | arity {s : Step} {kind : Filter.Kind} {values : List Int64} (hkind : s.kind? = some kind)
    (hvalues : s.values? = some values) (hgroups : kind ≠ .groups) (hone : values.length ≠ 1) :
    FailsWith s (.invalidFilterArity kind values.length)

end Step

/-- What the successful steps of a run on a kind set, one after the other. -/
def changes (kind : Filter.Kind) (steps : List Step) : List (Option (List Int64)) :=
  (steps.filter fun s => s.kind? = some kind ∧ s.succeeds).map Step.values?

/-! ## What a step does -/

variable {q : Query} {s : Step} {kind : Filter.Kind}

/-- Setting a filter succeeds and puts it in its place, or fails and changes nothing. -/
theorem settle_add_cases (q : Query) (hkind : s.kind? = some kind) {values : List Int64}
    (hvalues : s.values? = some values) :
    (∃ f : Filter, f.kind = kind ∧ f.values = values ∧ s.succeeds = true ∧
      q.settle (q.add kind values) = (q.set f, .changed)) ∨
    ∃ e, s.FailsWith e ∧ s.succeeds = false ∧ q.settle (q.add kind values) = (q, .failed e) := by
  unfold Step.succeeds add
  rw [hkind, hvalues]
  rcases Filter.ofValues_cases kind values with ⟨f, hok, hf, hv, hsome⟩ | ⟨herror, hgroups, hone⟩
  · rw [hok]
    refine .inl ⟨f, hf, hv, ?_, rfl⟩
    rw [Bool.or_eq_true, decide_eq_true_iff, decide_eq_true_iff]
    exact hsome
  · rw [herror]
    refine .inr ⟨_, .arity hkind hvalues hgroups hone, ?_, rfl⟩
    rw [Bool.or_eq_false_iff, decide_eq_false_iff_not, decide_eq_false_iff_not]
    exact ⟨hgroups, hone⟩

/-- What a step can do: clear a place, put a filter in the place of its kind, or fail and leave the
query as it is. -/
theorem perform_cases (q : Query) (s : Step) :
    (∃ kind, s = .remove kind ∧ q.perform s = (q.remove kind, .removed (q.filter kind))) ∨
    (∃ f : Filter, s.kind? = some f.kind ∧ s.values? = some f.values ∧ s.succeeds = true ∧
      q.perform s = (q.set f, .changed)) ∨
    ∃ e, s.FailsWith e ∧ s.succeeds = false ∧ q.perform s = (q, .failed e) := by
  -- Three of the four steps set a filter once the kind is known.
  have hset : ∀ kind values, s.kind? = some kind → s.values? = some values →
      q.perform s = q.settle (q.add kind values) →
      (∃ f : Filter, s.kind? = some f.kind ∧ s.values? = some f.values ∧ s.succeeds = true ∧
        q.perform s = (q.set f, .changed)) ∨
      ∃ e, s.FailsWith e ∧ s.succeeds = false ∧ q.perform s = (q, .failed e) := by
    intro kind values hkind hvalues hperform
    rw [hperform]
    rcases settle_add_cases q hkind hvalues with ⟨f, rfl, rfl, h⟩ | h
    · exact .inl ⟨f, hkind, hvalues, h⟩
    · exact .inr h
  cases s with
  | add kind values => exact .inr (hset kind values rfl rfl rfl)
  | withFilter kind values => exact .inr (hset kind values rfl rfl rfl)
  | remove kind => exact .inl ⟨kind, rfl, rfl⟩
  | addNamed name values =>
    have hlookup := Filter.Kind.lookup_names name
    cases hname : Filter.Kind.ofName? name with
    | some kind =>
      refine .inr (hset kind values (hlookup.trans hname) rfl ?_)
      rw [perform, addNamed, hname]
    | none =>
      refine .inr (.inr ⟨.unknownFilterKind name, .unknown fun kind hkind => ?_, ?_, ?_⟩)
      · rw [Filter.Kind.mem_names_iff.1 hkind, Filter.Kind.ofName?_name] at hname
        cases hname
      · rw [Step.succeeds, Step.kind?, hlookup, hname]
      · rw [perform, addNamed, hname]
        rfl

theorem Step.FailsWith.succeeds_eq_false {e : ReportError} (h : s.FailsWith e) :
    s.succeeds = false := by
  cases h with
  | @unknown name values h =>
    have hname : Filter.Kind.names.lookup name = none := by
      cases hname : Filter.Kind.names.lookup name with
      | none => rfl
      | some kind => exact absurd (Filter.Kind.mem_names_of_lookup hname) (h kind)
    rw [Step.succeeds, Step.kind?, hname]
  | arity hkind hvalues hgroups hone =>
    rw [Step.succeeds, hkind, hvalues]
    exact Bool.or_eq_false_iff.2 ⟨decide_eq_false hgroups, decide_eq_false hone⟩

/-- A step has one error at most. -/
theorem Step.FailsWith.det {e e' : ReportError} (h : s.FailsWith e) (h' : s.FailsWith e') :
    e = e' := by
  cases h with
  | unknown h =>
    cases h' with
    | unknown => rfl
    | arity hkind => exact absurd (Filter.Kind.mem_names_of_lookup hkind) (h _)
  | arity hkind hvalues =>
    cases h' with
    | unknown h => exact absurd (Filter.Kind.mem_names_of_lookup hkind) (h _)
    | arity hkind' hvalues' =>
      obtain rfl := Option.some.inj (hkind.symm.trans hkind')
      obtain rfl := Option.some.inj (hvalues.symm.trans hvalues')
      rfl

/-- Whether a step fails, and how, is said by the step alone. -/
theorem perform_snd_eq_failed_iff {e : ReportError} :
    (q.perform s).2 = .failed e ↔ s.FailsWith e := by
  rcases perform_cases q s with ⟨kind, rfl, hp⟩ | ⟨f, -, -, hok, hp⟩ | ⟨e', hfails, -, hp⟩
  · rw [hp]
    refine iff_of_false nofun fun h => ?_
    exact absurd h.succeeds_eq_false nofun
  · rw [hp]
    refine iff_of_false nofun fun h => ?_
    exact absurd (hok.symm.trans h.succeeds_eq_false) nofun
  · rw [hp]
    constructor
    · intro h
      obtain rfl := StepResult.failed.inj h
      exact hfails
    · intro h
      rw [h.det hfails]

/-- A step that fails changes nothing. -/
theorem perform_fst_of_failed {e : ReportError} (h : (q.perform s).2 = .failed e) :
    (q.perform s).1 = q := by
  rcases perform_cases q s with ⟨kind, -, hp⟩ | ⟨f, -, -, -, hp⟩ | ⟨e', -, -, hp⟩
  · rw [hp] at h
    cases h
  · rw [hp] at h
    cases h
  · rw [hp]

theorem courseId_perform (q : Query) (s : Step) : (q.perform s).1.courseId = q.courseId := by
  rcases perform_cases q s with ⟨kind, -, hp⟩ | ⟨f, -, -, -, hp⟩ | ⟨e, -, -, hp⟩
  · rw [hp, courseId_remove]
  · rw [hp, courseId_set]
  · rw [hp]

/-- A step that succeeds leaves its values in the place of its kind, and no step touches another
place. -/
theorem values_filter_perform (q : Query) (s : Step) (kind : Filter.Kind) :
    ((q.perform s).1.filter kind).map Filter.values =
      if s.kind? = some kind ∧ s.succeeds = true then s.values?
      else (q.filter kind).map Filter.values := by
  rcases perform_cases q s with ⟨kind', rfl, hp⟩ | ⟨f, hkind, hvalues, hok, hp⟩ | ⟨e, -, hfail, hp⟩
  · rw [hp]
    by_cases h : kind = kind'
    · subst h
      rw [filter_remove_self, if_pos ⟨rfl, rfl⟩]
      rfl
    · rw [filter_remove_of_ne q h, if_neg fun hs => h (Option.some.inj hs.1).symm]
  · rw [hp, hkind, hvalues]
    by_cases h : kind = f.kind
    · subst h
      rw [filter_set_self, if_pos ⟨rfl, hok⟩]
      rfl
    · rw [filter_set_of_ne q h, if_neg fun hs => h (Option.some.inj hs.1).symm]
  · rw [hp, if_neg fun hs => Bool.noConfusion (hfail.symm.trans hs.2)]

/-! ## What a run leaves -/

theorem changes_concat (kind : Filter.Kind) (steps : List Step) (s : Step) :
    changes kind (steps ++ [s]) = changes kind steps ++
      if s.kind? = some kind ∧ s.succeeds = true then [s.values?] else [] := by
  unfold changes
  rw [List.filter_append, List.map_append, List.filter_cons, List.filter_nil]
  by_cases h : s.kind? = some kind ∧ s.succeeds = true
  · rw [if_pos h, if_pos (decide_eq_true h)]
    rfl
  · rw [if_neg h, if_neg (by simpa using h)]
    rfl

theorem courseId_run (q : Query) (steps : List Step) : (q.run steps).courseId = q.courseId := by
  induction steps using List.reverseRecOn with
  | nil => rfl
  | append_singleton steps s ih => rw [run_concat, courseId_perform, ih]

/-- The last write wins: a place holds what the last successful step on its kind left there. -/
theorem values_filter_run (courseId : Int64) (steps : List Step) (kind : Filter.Kind) :
    (((ofCourse courseId).run steps).filter kind).map Filter.values =
      (changes kind steps).getLast?.join := by
  -- From the end of the run: its last step either is the last change of the kind or leaves it.
  induction steps using List.reverseRecOn with
  | nil => cases kind <;> rfl
  | append_singleton steps s ih =>
    rw [run_concat, values_filter_perform, changes_concat]
    split
    · rw [List.getLast?_concat]
      rfl
    · rw [List.append_nil, ih]

/-- A query is known by its course and by what is in its places. -/
theorem eq_of_filter_eq {q q' : Query} (hcourse : q.courseId = q'.courseId)
    (hfilter : ∀ kind, q.filter kind = q'.filter kind) : q = q' := by
  have hforum := hfilter .forum
  have hfrom := hfilter .dateFrom
  have hto := hfilter .dateTo
  have hgroups := hfilter .groups
  simp only [filter] at hforum hfrom hto hgroups
  rw [Query.mk.injEq]
  exact ⟨hcourse, Option.map_injective (fun _ _ => Filter.forum.inj) hforum,
    Option.map_injective (fun _ _ => Filter.dateFrom.inj) hfrom,
    Option.map_injective (fun _ _ => Filter.dateTo.inj) hto,
    Option.map_injective (fun _ _ => Filter.groups.inj) hgroups⟩

/-- How successful steps on different kinds are interleaved does not matter. -/
theorem run_eq_of_changes_eq {courseId : Int64} {steps steps' : List Step}
    (h : ∀ kind, changes kind steps' = changes kind steps) :
    (ofCourse courseId).run steps' = (ofCourse courseId).run steps := by
  refine eq_of_filter_eq ((courseId_run _ _).trans (courseId_run _ _).symm) fun kind => ?_
  have hvalues : (((ofCourse courseId).run steps').filter kind).map Filter.values =
      (((ofCourse courseId).run steps).filter kind).map Filter.values := by
    rw [values_filter_run, values_filter_run, h]
  cases hf' : ((ofCourse courseId).run steps').filter kind with
  | none =>
    rw [hf'] at hvalues
    exact (Option.map_eq_none_iff.1 hvalues.symm).symm
  | some f' =>
    rw [hf'] at hvalues
    obtain ⟨f, hf, hv⟩ := Option.map_eq_some_iff.1 hvalues.symm
    rw [hf]
    have hkind : f'.kind = f.kind := (kind_of_filter hf').trans (kind_of_filter hf).symm
    rw [Filter.eq_of_kind_of_values hkind hv.symm]

/-- Every query is what a run of additions leaves, each of which succeeds. -/
theorem exists_run_eq (q : Query) : ∃ steps,
    (∀ s ∈ steps, ∃ kind values, s = Step.add kind values ∧ s.succeeds = true) ∧
      (ofCourse q.courseId).run steps = q := by
  refine ⟨q.filters.map fun f => .add f.kind f.values, fun s hs => ?_, ?_⟩
  · obtain ⟨f, -, rfl⟩ := List.mem_map.1 hs
    refine ⟨f.kind, f.values, rfl, ?_⟩
    cases f <;> rfl
  · rcases q with ⟨_, _ | _, _ | _, _ | _, _ | _⟩ <;> rfl

/-! ## The filters in order -/

theorem mem_filters_iff {f : Filter} : f ∈ q.filters ↔ q.filter f.kind = some f := by
  unfold filters
  rw [List.mem_filterMap]
  constructor
  · rintro ⟨kind, -, hf⟩
    rw [kind_of_filter hf, hf]
  · intro hf
    exact ⟨f.kind, Filter.Kind.mem_all _, hf⟩

/-- The filters stand in the order of their kinds, one of a kind. -/
theorem kinds_filters_sublist (q : Query) :
    (q.filters.map Filter.kind).Sublist [.forum, .dateFrom, .dateTo, .groups] := by
  have hkinds : ∀ kinds : List Filter.Kind,
      ((kinds.filterMap q.filter).map Filter.kind).Sublist kinds := by
    intro kinds
    induction kinds with
    | nil => exact .slnil
    | cons kind kinds ih =>
      rw [List.filterMap_cons]
      split
      · exact ih.cons kind
      · next f hf =>
        rw [List.map_cons, kind_of_filter hf]
        exact ih.cons_cons kind
  exact hkinds _

/-! ## Runs -/

/-- A step succeeds or has an error. -/
theorem succeeds_eq_false_iff : s.succeeds = false ↔ ∃ e, (q.perform s).2 = .failed e := by
  constructor
  · intro h
    rcases perform_cases q s with ⟨kind, rfl, -⟩ | ⟨f, -, -, hok, -⟩ | ⟨e, -, -, hp⟩
    · exact absurd h nofun
    · exact absurd (hok.symm.trans h) nofun
    · exact ⟨e, congrArg Prod.snd hp⟩
  · rintro ⟨e, h⟩
    exact (perform_snd_eq_failed_iff.1 h).succeeds_eq_false

/-- The query that a run of steps on a course leaves, whatever steps there are. The course stays,
each place holds a filter of its kind, and the filters are listed in order. A place holds what the
last successful step on its kind left there. A further step fails exactly for an unknown name or a
wrong number of values, and then changes nothing; a removal returns what was there. A run of which
the successful steps on each kind set the same values one after the other leaves the same query,
with the same parameters and statements. -/
theorem run_ofCourse (courseId : Int64) (steps : List Step) :
    let q := (ofCourse courseId).run steps
    q.courseId = courseId ∧
    (∀ kind f, q.filter kind = some f → f.kind = kind) ∧
    (∀ f, f ∈ q.filters ↔ q.filter f.kind = some f) ∧
    (q.filters.map Filter.kind).Sublist [.forum, .dateFrom, .dateTo, .groups] ∧
    (∀ kind, (q.filter kind).map Filter.values = (changes kind steps).getLast?.join) ∧
    (∀ s e, (q.perform s).2 = .failed e ↔ s.FailsWith e) ∧
    (∀ s, s.succeeds = false ↔ ∃ e, (q.perform s).2 = .failed e) ∧
    (∀ s e, (q.perform s).2 = .failed e → (q.perform s).1 = q) ∧
    (∀ kind, (q.perform (.remove kind)).2 = .removed (q.filter kind)) ∧
    ∀ steps', (∀ kind, changes kind steps' = changes kind steps) →
      let q' := (ofCourse courseId).run steps'
      q' = q ∧ q'.params = q.params ∧
      (q'.countStatement.parameterized = q.countStatement.parameterized ∧
        q'.countStatement.values = q.countStatement.values) ∧
      (∀ request,
        (q'.pageStatement request).parameterized = (q.pageStatement request).parameterized ∧
        (q'.pageStatement request).values = (q.pageStatement request).values) ∧
      ∀ order,
        (q'.rowStatement order).parameterized = (q.rowStatement order).parameterized ∧
        (q'.rowStatement order).values = (q.rowStatement order).values := by
  intro q
  refine ⟨courseId_run _ _, fun kind f => kind_of_filter, fun f => mem_filters_iff,
    kinds_filters_sublist q, values_filter_run courseId steps,
    fun s e => perform_snd_eq_failed_iff, fun s => succeeds_eq_false_iff,
    fun s e => perform_fst_of_failed, fun kind => rfl, ?_⟩
  intro steps' h q'
  have hq : q' = q := run_eq_of_changes_eq h
  rw [hq]
  exact ⟨rfl, rfl, ⟨rfl, rfl⟩, fun request => ⟨rfl, rfl⟩, fun order => ⟨rfl, rfl⟩⟩

end Query

end ForumSummary
