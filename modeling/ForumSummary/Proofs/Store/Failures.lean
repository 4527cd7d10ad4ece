import ForumSummary.Store.Transaction

/-!
# How sessions end

Which errors a session can end with, whatever the store (`Session.FailsOnly`), and what was sent and
found by the parts of a session that succeeds (`bind_eq_ok_iff`, `sent_bind_of_ok`).
-/

namespace ForumSummary

/-- The error is a fault of the infrastructure. -/
def ReportError.IsFault (e : ReportError) : Prop :=
  ∃ fault, e = .internal fault

theorem ReportError.isFault_internal (fault : Fault) : IsFault (.internal fault) :=
  ⟨fault, rfl⟩

namespace Session

variable {α β : Type}

/-! ## Sessions that succeed -/

section
variable {session : Session α} {next : α → Session β} {store : Store}

theorem bind_eq_ok_iff {b : β} : ((session >>= next) store).result = .ok b ↔
    ∃ a, (session store).result = .ok a ∧ (next a store).result = .ok b := by
  rw [bind_apply]
  rcases session store with ⟨_ | a, sent⟩
  · exact ⟨nofun, fun ⟨_, h, _⟩ => nomatch h⟩
  · exact ⟨fun h => ⟨a, rfl, h⟩, fun ⟨_, ha, h⟩ => by cases ha; exact h⟩

theorem bind_eq_error_iff {e : ReportError} : ((session >>= next) store).result = .error e ↔
    (session store).result = .error e ∨
      ∃ a, (session store).result = .ok a ∧ (next a store).result = .error e := by
  rw [bind_apply]
  rcases session store with ⟨e' | a, sent⟩
  · refine ⟨fun h => .inl (by cases h; rfl), ?_⟩
    rintro (h | ⟨_, h, _⟩)
    · cases h
      rfl
    · cases h
  · refine ⟨fun h => .inr ⟨a, rfl, h⟩, ?_⟩
    rintro (h | ⟨_, ha, h⟩)
    · cases h
    · cases ha
      exact h

theorem sent_bind_of_ok {a : α} (h : (session store).result = .ok a) :
    ((session >>= next) store).sent = (session store).sent ++ (next a store).sent := by
  have hrun : session store = ⟨.ok a, (session store).sent⟩ := by rw [← h]
  rw [bind_of_ok hrun]

end

/-! ## Sessions that fail -/

/-- Every error that a session ends with, on whatever store, meets a condition. -/
def FailsOnly (P : ReportError → Prop) (session : Session α) : Prop :=
  ∀ store e, (session store).result = .error e → P e

variable {P : ReportError → Prop} {session : Session α} {next : α → Session β}

namespace FailsOnly

protected theorem pure (a : α) : FailsOnly P (pure a : Session α) :=
  fun _ _ h => nomatch h

theorem fail {e : ReportError} (h : P e) : FailsOnly P (Session.fail e : Session α) := by
  intro store e' he
  cases he
  exact h

protected theorem bind (hs : FailsOnly P session) (hn : ∀ a, FailsOnly P (next a)) :
    FailsOnly P (session >>= next) := by
  intro store e h
  rw [bind_apply] at h
  cases hrun : session store with
  | mk result sent =>
    rw [hrun] at h
    cases result with
    | error e' =>
      cases h
      exact hs store e (by rw [hrun])
    | ok a => exact hn a store e h

theorem orFail {e : ReportError} (h : P e) (a : Option α) : FailsOnly P (Session.orFail e a) := by
  cases a with
  | none => exact fail h
  | some a => exact .pure a

theorem ofExcept {r : Except ReportError α} (h : ∀ e, r = .error e → P e) :
    FailsOnly P (Session.ofExcept r) :=
  fun _ => h

section
variable (hserver : ∀ step cause, P (.internal (.server step cause)))
include hserver

theorem ask (step : Fault.Step) (s : Statement) (read : List (List Cell) → Option α) :
    FailsOnly P (Session.ask step s read) := by
  intro store e h
  unfold Session.ask at h
  split at h
  · cases h; exact hserver _ _
  · split at h
    · cases h; exact hserver _ _
    · split at h
      · cases h
      · cases h; exact hserver _ _

theorem count (hnegative : P (.internal .negativeTotal)) (b : Sql.Bound) :
    FailsOnly P (Session.count b) := by
  refine (ask hserver _ _ _).bind fun n => ?_
  split
  · exact fail hnegative
  · exact .pure _

theorem rows (b : Sql.Bound) : FailsOnly P (Session.rows b) :=
  ask hserver _ _ _

theorem inTransaction (timeout : Nat) (step : Fault.Step) (hs : FailsOnly P session) :
    FailsOnly P (Session.inTransaction timeout step session) :=
  (ask hserver _ _ _).bind fun _ => (ask hserver _ _ _).bind fun _ => hs.bind fun _ =>
    (ask hserver _ _ _).bind fun _ => .pure _

end

end FailsOnly

end Session

end ForumSummary
