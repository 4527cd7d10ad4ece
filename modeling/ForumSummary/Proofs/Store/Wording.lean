import ForumSummary.Proofs.Store.Answers

/-!
# The wording of refusals

A server refuses in words of its own, and a session acts on the refusal and not on the words. On two
stores that refuse the same (`Store.SameButTexts`) it sends the same statements, and ends with the
same value or with errors that differ in these words only (`Session.IgnoresTexts`). Sessions are put
together from parts that do so.
-/

namespace ForumSummary

/-! ## The same but for texts -/

/-- Two errors differ in nothing but the words in which a server refused. -/
inductive ReportError.SameButTexts : ReportError → ReportError → Prop where
  | refl (e : ReportError) : SameButTexts e e
  | refused (step : Fault.Step) (text text' : String) :
    SameButTexts (.internal (.server step (.refused text)))
      (.internal (.server step (.refused text')))

/-- Two answers are the same rows, or are failures both. -/
inductive Reply.SameButTexts : Reply → Reply → Prop where
  | rows (rows : List (List Cell)) : SameButTexts (.rows rows) (.rows rows)
  | failure (text text' : String) : SameButTexts (.failure text) (.failure text')

/-- Two stores are identical except for the texts of their failures. -/
structure Store.SameButTexts (store store' : Store) : Prop where
  /-- Either both refuse to be connected to or none does. -/
  isSome_refusal : store.refusal.isSome = store'.refusal.isSome
  reply : ∀ s, (store.reply s).SameButTexts (store'.reply s)

/-- Two runs sent the same, and ended with the same value or in errors that differ in nothing but
texts. -/
inductive Run.SameButTexts {α : Type} : Run α → Run α → Prop where
  | ok (a : α) (sent : List Statement) : SameButTexts ⟨.ok a, sent⟩ ⟨.ok a, sent⟩
  | error {e e' : ReportError} (h : e.SameButTexts e') (sent : List Statement) :
    SameButTexts ⟨.error e, sent⟩ ⟨.error e', sent⟩

namespace Store.SameButTexts

variable {store store' : Store}

theorem open_of_open (h : store.SameButTexts store') (hopen : store.refusal = none) :
    store'.refusal = none := by
  have hnone := h.isSome_refusal
  rwa [hopen, Option.isSome_none, eq_comm, Option.isSome_eq_false_iff,
    Option.isNone_iff_eq_none] at hnone

theorem refused_of_refused (h : store.SameButTexts store') {text : String}
    (hrefusal : store.refusal = some text) : ∃ text', store'.refusal = some text' := by
  have hsome := h.isSome_refusal
  rwa [hrefusal, Option.isSome_some, eq_comm, Option.isSome_iff_exists] at hsome

end Store.SameButTexts

/-! ## Sessions -/

namespace Session

variable {α β : Type}

/-- What a session does on a store does not depend on the texts of the store's failures. -/
def IgnoresTexts (session : Session α) : Prop :=
  ∀ ⦃store store' : Store⦄, store.SameButTexts store' →
    (session store).SameButTexts (session store')

namespace IgnoresTexts

variable {session : Session α} {next : α → Session β}

protected theorem pure (a : α) : IgnoresTexts (pure a : Session α) :=
  fun _ _ _ => .ok a []

theorem ofExcept (r : Except ReportError α) : IgnoresTexts (Session.ofExcept r) := by
  intro store store' _
  cases r with
  | ok a => exact .ok a []
  | error e => exact .error (.refl e) []

theorem fail (e : ReportError) : IgnoresTexts (Session.fail e : Session α) :=
  ofExcept (.error e)

theorem orFail (e : ReportError) (a : Option α) : IgnoresTexts (Session.orFail e a) := by
  cases a with
  | none => exact fail e
  | some a => exact .pure a

protected theorem bind (hs : IgnoresTexts session) (hn : ∀ a, IgnoresTexts (next a)) :
    IgnoresTexts (session >>= next) := by
  intro store store' h
  have hrun := hs h
  generalize hleft : session store = run at hrun
  generalize hright : session store' = run' at hrun
  cases hrun with
  | error he sent =>
    rw [bind_of_error hleft, bind_of_error hright]
    exact .error he sent
  | ok a sent =>
    rw [bind_of_ok hleft, bind_of_ok hright]
    have hnext := hn a h
    generalize next a store = run at hnext
    generalize next a store' = run' at hnext
    cases hnext with
    | ok b more => exact .ok b (sent ++ more)
    | error he more => exact .error he (sent ++ more)

theorem ask (step : Fault.Step) (s : Statement) (read : List (List Cell) → Option α) :
    IgnoresTexts (Session.ask step s read) := by
  intro store store' h
  cases hleft : store.refusal with
  | some text =>
    obtain ⟨text', hright⟩ := h.refused_of_refused hleft
    rw [ask_of_refused hleft, ask_of_refused hright]
    exact .error (.refused step text text') []
  | none =>
    have hright := h.open_of_open hleft
    have hreply := h.reply s
    generalize hr : store.reply s = reply at hreply
    generalize hr' : store'.reply s = reply' at hreply
    cases hreply with
    | failure text text' =>
      rw [ask_of_failure hleft hr, ask_of_failure hright hr']
      exact .error (.refused step text text') [s]
    | rows answer =>
      cases hread : read answer with
      | none =>
        rw [ask_of_unreadable hleft hr hread, ask_of_unreadable hright hr' hread]
        exact .error (.refl _) [s]
      | some a =>
        rw [ask_of_read hleft hr hread, ask_of_read hright hr' hread]
        exact .ok a [s]

/-- A sign of life is answered or it is not. -/
theorem ping : IgnoresTexts Session.ping := by
  intro store store' h
  unfold Session.ping
  cases hleft : store.refusal with
  | some text =>
    obtain ⟨text', hright⟩ := h.refused_of_refused hleft
    rw [hright]
    exact .ok false []
  | none =>
    rw [h.open_of_open hleft]
    have hreply := h.reply .ping
    generalize store.reply .ping = reply at hreply
    generalize store'.reply .ping = reply' at hreply
    cases hreply with
    | failure => exact .ok false [.ping]
    | rows => exact .ok true [.ping]

theorem count (b : Sql.Bound) : IgnoresTexts (Session.count b) := by
  refine (ask _ _ _).bind fun n => ?_
  split
  · exact fail _
  · exact .pure _

theorem rows (b : Sql.Bound) : IgnoresTexts (Session.rows b) :=
  ask _ _ _

theorem bound (s : Sql.Select) : IgnoresTexts (Session.bound s) :=
  ofExcept _

theorem inTransaction (timeout : Nat) (step : Fault.Step) (hs : IgnoresTexts session) :
    IgnoresTexts (Session.inTransaction timeout step session) :=
  (ask _ _ _).bind fun _ => (ask _ _ _).bind fun _ => hs.bind fun _ =>
    (ask _ _ _).bind fun _ => .pure _

end IgnoresTexts

end Session

end ForumSummary
