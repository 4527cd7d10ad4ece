import ForumSummary.Proofs.Store.Answers

/-!
# Runs that follow a script

A session that asks for the same statements on every store has a script. On an open store its run
follows the script (`Follows`): statement after statement is sent and answered up to the end, or the
run fails at the first statement without a readable answer, which is the last one that is sent.
Sessions that follow scripts compose (`Follows.bind`), so a session that follows a script does so
between the start and the commit of a transaction (`inTransaction_follows`).
-/

namespace ForumSummary

/-- The statements of a transaction. -/
def Statement.transaction (timeout : Nat) (body : List Statement) : List Statement :=
  [.beginTransaction, .setTimeout timeout] ++ body ++ [.commit]

theorem Statement.mem_transaction_singleton_iff {timeout : Nat} {s t : Statement} :
    s ∈ transaction timeout [t] ↔
      s = .beginTransaction ∨ s = .setTimeout timeout ∨ s = t ∨ s = .commit := by
  simp [transaction]

theorem Statement.map_text_transaction (timeout : Nat) (body : List Statement) :
    (transaction timeout body).map text =
      ["BEGIN", "SET LOCAL statement_timeout = " ++ Numeral.natText timeout] ++ body.map text ++
        ["COMMIT"] := by
  rw [transaction, List.map_append, List.map_append]
  rfl

/-- A run goes through a script to its end, with a result that is `right`, or fails at a statement
that the store does not answer. -/
inductive Follows {α : Type} (store : Store) (right : α → Prop) (script : List Statement) :
    Run α → Prop
  | done {a} (answered : ∀ s ∈ script, store.Answers s) (ha : right a) :
    Follows store right script ⟨.ok a, script⟩
  | stopped {before s after e} (split : script = before ++ s :: after)
    (answered : ∀ t ∈ before, store.Answers t) (refused : ¬ store.Answers s) :
    Follows store right script ⟨.error e, before ++ [s]⟩

namespace Follows

variable {α β : Type} {store : Store} {right : α → Prop} {script : List Statement} {run : Run α}

theorem mono {right' : α → Prop} (h : Follows store right script run)
    (hr : ∀ a, right a → right' a) : Follows store right' script run := by
  cases h with
  | done answered ha => exact .done answered (hr _ ha)
  | stopped split answered refused => exact .stopped split answered refused

/-- One session after another follows one script after the other. -/
theorem bind {session : Session α} {next : α → Session β} {right' : β → Prop}
    {script' : List Statement} (h : Follows store right script (session store))
    (hn : ∀ a, right a → Follows store right' script' (next a store)) :
    Follows store right' (script ++ script') ((session >>= next) store) := by
  generalize hrun : session store = run at h
  cases h with
  | stopped split answered refused =>
    rw [Session.bind_of_error hrun]
    exact .stopped (by rw [split, List.append_assoc, List.cons_append]) answered refused
  | @done a answered ha =>
    rw [Session.bind_of_ok hrun]
    have h' := hn a ha
    generalize next a store = run' at h'
    cases h' with
    | done answered' hb =>
      exact .done (List.forall_mem_append.2 ⟨answered, answered'⟩) hb
    | @stopped before s after e split answered' refused =>
      have hsent : script ++ (before ++ [s]) = script ++ before ++ [s] :=
        (List.append_assoc ..).symm
      exact hsent ▸ .stopped (by rw [split, List.append_assoc])
        (List.forall_mem_append.2 ⟨answered, answered'⟩) refused

theorem refused {s : Statement} {e : ReportError} (h : ¬ store.Answers s) :
    Follows store right [s] ⟨.error e, [s]⟩ :=
  @stopped _ _ _ _ [] s [] e rfl (by simp) h

theorem pure {a : α} (ha : right a) : Follows store right [] ((pure a : Session α) store) :=
  .done (by simp) ha

/-! ## What a run that follows a script has sent -/

theorem sent_isPrefix (h : Follows store right script run) : run.sent <+: script := by
  cases h with
  | done => exact List.prefix_refl script
  | @stopped before s after e split =>
    exact ⟨after, by rw [split, List.append_assoc, List.singleton_append]⟩

/-- A run of a script fails at the statement it sends last. -/
theorem stopped_of_error {e : ReportError} (h : Follows store right script run)
    (he : run.result = .error e) :
    ∃ before last, run.sent = before ++ [last] ∧ (∀ s ∈ before, store.Answers s) ∧
      ¬ store.Answers last := by
  cases h with
  | done => cases he
  | stopped split answered refused => exact ⟨_, _, rfl, answered, refused⟩

/-- A run of a script whose statements are all answered goes through to the end. -/
theorem eq_of_forall_answers (h : Follows store right script run)
    (hall : ∀ s ∈ script, store.Answers s) : ∃ a, right a ∧ run = ⟨.ok a, script⟩ := by
  cases h with
  | done _ ha => exact ⟨_, ha, rfl⟩
  | @stopped before s after e split _ refused =>
    refine absurd (hall s ?_) refused
    rw [split]
    exact List.mem_append_right before (List.mem_cons_self ..)

/-- A run of a script succeeds when and only when the store answers all of it. -/
theorem isOk_iff_forall_answers (h : Follows store right script run) :
    (∃ a, run.result = .ok a) ↔ ∀ s ∈ script, store.Answers s := by
  constructor
  · rintro ⟨a, ha⟩
    cases h with
    | done answered => exact answered
    | stopped => cases ha
  · intro hall
    obtain ⟨a, -, hrun⟩ := h.eq_of_forall_answers hall
    exact ⟨a, congrArg Run.result hrun⟩

/-- A run of a script succeeds when and only when the store answers all that it sent. -/
theorem isOk_iff_forall_sent (h : Follows store right script run) :
    (∃ a, run.result = .ok a) ↔ ∀ s ∈ run.sent, store.Answers s := by
  cases h with
  | done answered => exact iff_of_true ⟨_, rfl⟩ answered
  | @stopped before s after e split _ refused =>
    refine iff_of_false (fun ⟨_, ha⟩ => by cases ha) fun hall => refused (hall s ?_)
    exact List.mem_append_right before (List.mem_singleton_self s)

section
variable {timeout : Nat} {body : List Statement}

/-- A transaction that fails is not committed, or its commit is not answered. -/
theorem commit_not_sent_or_not_answers {e : ReportError}
    (h : Follows store right (Statement.transaction timeout body) run) (hbody : .commit ∉ body)
    (he : run.result = .error e) : .commit ∉ run.sent ∨ ¬ store.Answers .commit := by
  cases h with
  | done => cases he
  | @stopped before s after e split answered refused =>
    rw [Statement.transaction] at split
    rcases List.eq_nil_or_concat after with rfl | ⟨more, t, rfl⟩
    · obtain ⟨-, hs⟩ := List.append_inj' split rfl
      cases hs
      exact .inr refused
    · -- the commit is behind the statement that failed
      rw [List.concat_eq_append, ← List.cons_append, ← List.append_assoc] at split
      obtain ⟨hinit, -⟩ := List.append_inj' split rfl
      refine .inl fun hmem => ?_
      have hsent : .commit ∈ before ++ s :: more := by
        rw [List.append_cons]
        exact List.mem_append_left more hmem
      rw [← hinit] at hsent
      exact hbody (by simpa using hsent)

/-- A transaction succeeds when and only when all of it was sent and its commit was answered. -/
theorem isOk_iff_transaction (h : Follows store right (Statement.transaction timeout body) run) :
    (∃ a, run.result = .ok a) ↔
      run.sent = Statement.transaction timeout body ∧ store.Answers .commit := by
  cases h with
  | done answered ha => simp [answered .commit (by simp [Statement.transaction])]
  | @stopped before s after e split answered refused =>
    simp only [reduceCtorEq, exists_false, false_iff, not_and]
    intro hsent
    rw [Statement.transaction] at hsent
    obtain ⟨-, hs⟩ := List.append_inj' hsent rfl
    cases hs
    exact refused

end

theorem right_of_ok {a : α} (h : Follows store right script run) (ha : run.result = .ok a) :
    right a := by
  cases h with
  | done _ hr => cases ha; exact hr
  | stopped => cases ha

end Follows

namespace Session

variable {α : Type} {store : Store}

/-! ## The sessions of a transaction -/

/-- A session that sends one statement follows the script of that statement, when it reads the
answers that are readable and no others. -/
theorem ask_follows {step : Fault.Step} {s : Statement} {read : List (List Cell) → Option α}
    {right : α → Prop} (hopen : store.refusal = none)
    (hsome : ∀ answer a, store.reply s = .rows answer → read answer = some a →
      store.Answers s ∧ right a)
    (hnone : ∀ answer, store.reply s = .rows answer → read answer = none → ¬ store.Answers s) :
    Follows store right [s] (ask step s read store) := by
  cases hreply : store.reply s with
  | failure text =>
    rw [ask_of_failure hopen hreply]
    refine .refused fun h => ?_
    obtain ⟨answer, hr⟩ := h.reply
    cases hr.symm.trans hreply
  | rows answer =>
    cases hread : read answer with
    | none =>
      rw [ask_of_unreadable hopen hreply hread]
      exact .refused (hnone answer hreply hread)
    | some a =>
      rw [ask_of_read hopen hreply hread]
      obtain ⟨ha, hright⟩ := hsome answer a hreply hread
      exact .done (by simpa using ha) hright

/-- A statement whose rows do not matter needs any answer. -/
theorem send_follows {step : Fault.Step} {s : Statement} (hopen : store.refusal = none)
    (hs : store.Answers s ↔ ∃ answer, store.reply s = .rows answer) :
    Follows store (fun _ => True) [s] (send step s store) :=
  ask_follows hopen (fun answer _ hreply _ => ⟨hs.2 ⟨answer, hreply⟩, trivial⟩)
    fun _ _ hnone => nomatch hnone

theorem rows_follows (b : Sql.Bound) (hopen : store.refusal = none) :
    Follows store (store.Lists b) [.rows b] (rows b store) := by
  refine ask_follows hopen (fun answer as hreply has => ?_) fun answer hreply hnone => ?_
  · have hlists : store.Lists b as := Store.lists_iff.2 ⟨answer, hreply, has⟩
    exact ⟨⟨as, hlists⟩, hlists⟩
  · rintro ⟨as, has⟩
    obtain ⟨answer', hreply', hread⟩ := Store.lists_iff.1 has
    cases hreply.symm.trans hreply'
    cases hnone.symm.trans hread

theorem readNumber_eq_some_iff {answer : List (List Cell)} {n : Int64} :
    readNumber answer = some n ↔ ∃ more others, answer = (.integer n :: more) :: others := by
  constructor
  · intro h
    unfold readNumber at h
    split at h
    · cases h
      exact ⟨_, _, rfl⟩
    · cases h
  · rintro ⟨more, others, rfl⟩
    rfl

theorem toNat_ofNat_toNat {n : Int64} (h : ¬ n < 0) :
    ((UInt64.ofNat n.toInt.toNat).toNat : Int) = n.toInt := by
  have h0 : 0 ≤ n.toInt := by simpa [Int64.lt_iff_toInt_lt] using h
  have hlt := n.toInt_lt
  simp only [UInt64.toNat_ofNat']
  omega

/-- A count sends one statement, and fails at it when the number is negative, too. -/
theorem count_follows (b : Sql.Bound) (hopen : store.refusal = none) :
    Follows store (store.Counts b) [.count b] (count b store) := by
  by_cases h : ∃ total, store.Counts b total
  · obtain ⟨total, n, more, others, hreply, hn⟩ := h
    have hnonneg : ¬ n < 0 := by
      simp [Int64.lt_iff_toInt_lt, hn]
    have hcounts : store.Counts b (UInt64.ofNat n.toInt.toNat) :=
      ⟨n, more, others, hreply, (toNat_ofNat_toNat hnonneg).symm⟩
    rw [count, bind_of_ok (ask_of_read hopen hreply (readNumber_eq_some_iff.2 ⟨_, _, rfl⟩)),
      if_neg hnonneg]
    exact .done (by simpa using ⟨_, hcounts⟩) hcounts
  · suffices hs : ∃ e, count b store = ⟨.error e, [.count b]⟩ by
      obtain ⟨e, he⟩ := hs
      rw [he]
      exact .refused h
    cases hreply : store.reply (.count b) with
    | failure text => exact ⟨_, bind_of_error (ask_of_failure hopen hreply)⟩
    | rows answer =>
      cases hread : readNumber answer with
      | none => exact ⟨_, bind_of_error (ask_of_unreadable hopen hreply hread)⟩
      | some n =>
        obtain ⟨more, others, rfl⟩ := readNumber_eq_some_iff.1 hread
        have hneg : n < 0 := by
          by_contra hnonneg
          exact h ⟨_, n, more, others, hreply, (toNat_ofNat_toNat hnonneg).symm⟩
        refine ⟨.internal .negativeTotal, ?_⟩
        rw [count, bind_of_ok (ask_of_read hopen hreply hread), if_pos hneg]
        rfl

/-! ## Transactions -/

variable {timeout : Nat} {step : Fault.Step} {body : Session α}

/-- A session that follows a script does so between the start and the commit of a transaction. -/
theorem inTransaction_follows {right : α → Prop} {script : List Statement}
    (hopen : store.refusal = none) (h : Follows store right script (body store)) :
    Follows store right (Statement.transaction timeout script)
      (inTransaction timeout step body store) := by
  have hbegin : Follows store (fun _ => True) _ (send .beginTransaction .beginTransaction store) :=
    send_follows hopen Iff.rfl
  have htimeout : Follows store (fun _ => True) _ (send .setTimeout (.setTimeout timeout) store) :=
    send_follows hopen Iff.rfl
  have hcommit : Follows store (fun _ => True) _ (send step .commit store) :=
    send_follows hopen Iff.rfl
  exact hbegin.bind fun _ _ => htimeout.bind fun _ _ => h.bind fun _ ha =>
    hcommit.bind fun _ _ => .pure ha

/-- Without a connection nothing of a transaction is sent. -/
theorem inTransaction_of_refused {text : String} (h : store.refusal = some text) :
    inTransaction timeout step body store =
      ⟨.error (.internal (.server .beginTransaction (.refused text))), []⟩ :=
  bind_of_error (ask_of_refused h)

end Session

end ForumSummary
