import ForumSummary.Error
import ForumSummary.Store.Statement

/-!
# Sessions with a store

A store is a database as this library meets it: it may refuse to be connected to, and it answers
each statement with rows or with a failure. A session sends statements one after the other and stops
at the first fault. Its run on a store gives the result and the statements that were sent, in order,
the one that failed included. Where no connection opens, nothing is sent.
-/

namespace ForumSummary

/-- A value in a row that the database returns. -/
inductive Cell where
  | null
  | integer (n : Int64)
  | text (s : String)
  deriving DecidableEq, Repr

/-- The answer to a statement. -/
inductive Reply where
  | rows (rows : List (List Cell))
  | failure (text : String)
  deriving DecidableEq, Repr

/-- A database: why it refuses connections, if it does, and its answers. -/
structure Store where
  refusal : Option String
  reply : Statement → Reply

/-- The run of a session: its result, and what was sent. -/
structure Run (α : Type) where
  result : Except ReportError α
  sent : List Statement

/-- Work with a store. -/
def Session (α : Type) := Store → Run α

namespace Session

variable {α β : Type}

/-- The session that sends nothing and ends with a value. -/
protected def pure (a : α) : Session α :=
  fun _ => ⟨.ok a, []⟩

/-- One session, and then another that depends on its result. -/
protected def bind (s : Session α) (next : α → Session β) : Session β := fun store =>
  match s store with
  | ⟨.error e, sent⟩ => ⟨.error e, sent⟩
  | ⟨.ok a, sent⟩ => ⟨(next a store).result, sent ++ (next a store).sent⟩

instance : Monad Session where
  pure := Session.pure
  bind := Session.bind

/-- The session that sends nothing and fails. -/
def fail (e : ReportError) : Session α :=
  fun _ => ⟨.error e, []⟩

/-- A result that needs no store. -/
def ofExcept (r : Except ReportError α) : Session α :=
  fun _ => ⟨r, []⟩

/-- Sends a statement and reads the rows of the answer. -/
def ask (step : Fault.Step) (statement : Statement) (read : List (List Cell) → Option α) :
    Session α := fun store =>
  match store.refusal with
  | some text => ⟨.error (.internal (.server step (.refused text))), []⟩
  | none =>
    match store.reply statement with
    | .failure text => ⟨.error (.internal (.server step (.refused text))), [statement]⟩
    | .rows rows =>
      match read rows with
      | some a => ⟨.ok a, [statement]⟩
      | none => ⟨.error (.internal (.server step .unreadable)), [statement]⟩

/-- Sends a statement whose rows do not matter. -/
def send (step : Fault.Step) (statement : Statement) : Session Unit :=
  ask step statement fun _ => some ()

/-- Opens a connection and sends nothing. -/
def connect (step : Fault.Step) : Session Unit := fun store =>
  match store.refusal with
  | some text => ⟨.error (.internal (.server step (.refused text))), []⟩
  | none => ⟨.ok (), []⟩

/-- Sends a sign of life, and says whether it was answered. -/
def ping : Session Bool := fun store =>
  match store.refusal with
  | some _ => ⟨.ok false, []⟩
  | none =>
    match store.reply .ping with
    | .failure _ => ⟨.ok false, [.ping]⟩
    | .rows _ => ⟨.ok true, [.ping]⟩

/-! ## Laws -/

@[simp] theorem pure_apply (a : α) (store : Store) :
    (pure a : Session α) store = ⟨.ok a, []⟩ := rfl

theorem bind_apply (s : Session α) (next : α → Session β) (store : Store) :
    (s >>= next) store =
      match s store with
      | ⟨.error e, sent⟩ => ⟨.error e, sent⟩
      | ⟨.ok a, sent⟩ => ⟨(next a store).result, sent ++ (next a store).sent⟩ := rfl

theorem bind_of_ok {s : Session α} {next : α → Session β} {store : Store} {a : α}
    {sent : List Statement} (h : s store = ⟨.ok a, sent⟩) :
    (s >>= next) store = ⟨(next a store).result, sent ++ (next a store).sent⟩ := by
  rw [bind_apply, h]

theorem bind_of_error {s : Session α} {next : α → Session β} {store : Store} {e : ReportError}
    {sent : List Statement} (h : s store = ⟨.error e, sent⟩) :
    (s >>= next) store = ⟨.error e, sent⟩ := by
  rw [bind_apply, h]

protected theorem id_map (s : Session α) : id <$> s = s := by
  funext store
  show (s >>= fun a => pure a) store = s store
  rw [bind_apply]
  cases h : s store with
  | mk result sent => cases result <;> simp

protected theorem pure_bind (a : α) (next : α → Session β) : pure a >>= next = next a := by
  funext store
  rw [bind_apply, pure_apply]
  simp

protected theorem bind_assoc {γ : Type} (s : Session α) (f : α → Session β) (g : β → Session γ) :
    s >>= f >>= g = s >>= fun a => f a >>= g := by
  funext store
  simp only [bind_apply]
  cases s store with
  | mk result sent =>
    cases result with
    | error e => rfl
    | ok a =>
      simp only
      cases f a store with
      | mk result' sent' => cases result' <;> simp

instance : LawfulMonad Session :=
  LawfulMonad.mk' Session Session.id_map Session.pure_bind Session.bind_assoc

end Session

end ForumSummary
