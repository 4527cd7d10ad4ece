import ForumSummary.Proofs.Store.Cells

/-!
# Answers that can be read

What a store must answer for a session to go on. Every row of the answer to a statement for rows
starts with the cells of a report's row; a count is the first number of the first row, and is not
negative; of other statements of a transaction only their success matters.
-/

namespace ForumSummary

namespace Store

/-- The store answers a count with `total`. -/
def Counts (store : Store) (b : Sql.Bound) (total : UInt64) : Prop :=
  ∃ n more others,
    store.reply (.count b) = .rows ((.integer n :: more) :: others) ∧ n.toInt = total.toNat

/-- The store answers a statement for rows with `rows`, in this order and nothing else. -/
def Lists (store : Store) (b : Sql.Bound) (rows : List Row) : Prop :=
  ∃ answer, store.reply (.rows b) = .rows answer ∧
    List.Forall₂ (fun r cells => r.cells <+: cells) rows answer

/-- The store answers a statement of a report's transaction, and the answer can be read. -/
def Answers (store : Store) : Statement → Prop
  | .count b => ∃ total, store.Counts b total
  | .rows b => ∃ rows, store.Lists b rows
  | s => ∃ answer, store.reply s = .rows answer

variable {store : Store}

/-- The rows that a store lists are what its answer is read as. -/
theorem lists_iff {b : Sql.Bound} {rows : List Row} : store.Lists b rows ↔
    ∃ answer, store.reply (.rows b) = .rows answer ∧
      Session.readAll Row.ofCells? answer = some rows := by
  simp only [Lists, Session.readAll_eq_some_iff Row.reads_cells]

/-- An answer is read in one way. -/
theorem read_unique {α : Type} {s : Statement} {read : List (List Cell) → Option α} {a a' : α}
    (h : ∃ answer, store.reply s = .rows answer ∧ read answer = some a)
    (h' : ∃ answer, store.reply s = .rows answer ∧ read answer = some a') : a = a' := by
  obtain ⟨answer, hreply, hread⟩ := h
  obtain ⟨answer', hreply', hread'⟩ := h'
  cases hreply.symm.trans hreply'
  exact Option.some.inj (hread.symm.trans hread')

theorem Lists.unique {b : Sql.Bound} {rows rows' : List Row} (h : store.Lists b rows)
    (h' : store.Lists b rows') : rows = rows' :=
  read_unique (lists_iff.1 h) (lists_iff.1 h')

theorem Answers.reply {s : Statement} (h : store.Answers s) :
    ∃ answer, store.reply s = .rows answer := by
  cases s with
  | count b =>
    obtain ⟨_, _, _, _, hr, _⟩ := h
    exact ⟨_, hr⟩
  | rows b =>
    obtain ⟨_, answer, hr, _⟩ := h
    exact ⟨answer, hr⟩
  | _ => exact h

end Store

namespace Session

variable {store : Store}

/-! ## Statements that are sent to an open store -/

theorem connect_of_open (step : Fault.Step) (h : store.refusal = none) :
    connect step store = ⟨.ok (), []⟩ := by
  simp only [connect, h]

theorem connect_of_refused (step : Fault.Step) {text : String} (h : store.refusal = some text) :
    connect step store = ⟨.error (.internal (.server step (.refused text))), []⟩ := by
  simp only [connect, h]

section
variable {α : Type} {step : Fault.Step} {s : Statement} {read : List (List Cell) → Option α}

theorem ask_of_refused {text : String} (h : store.refusal = some text) :
    ask step s read store = ⟨.error (.internal (.server step (.refused text))), []⟩ := by
  simp only [ask, h]

theorem ask_of_failure {text : String} (hopen : store.refusal = none)
    (h : store.reply s = .failure text) :
    ask step s read store = ⟨.error (.internal (.server step (.refused text))), [s]⟩ := by
  simp only [ask, hopen, h]

theorem ask_of_read {answer : List (List Cell)} {a : α} (hopen : store.refusal = none)
    (h : store.reply s = .rows answer) (ha : read answer = some a) :
    ask step s read store = ⟨.ok a, [s]⟩ := by
  simp only [ask, hopen, h, ha]

theorem ask_of_unreadable {answer : List (List Cell)} (hopen : store.refusal = none)
    (h : store.reply s = .rows answer) (ha : read answer = none) :
    ask step s read store = ⟨.error (.internal (.server step .unreadable)), [s]⟩ := by
  simp only [ask, hopen, h, ha]

theorem sent_ask_of_open (step : Fault.Step) (s : Statement) (read : List (List Cell) → Option α)
    (hopen : store.refusal = none) : (ask step s read store).sent = [s] := by
  cases hreply : store.reply s with
  | failure text => rw [ask_of_failure hopen hreply]
  | rows answer =>
    cases hread : read answer with
    | none => rw [ask_of_unreadable hopen hreply hread]
    | some a => rw [ask_of_read hopen hreply hread]

/-- A statement is not sent, is not answered with what can be read, or is answered and read. -/
theorem ask_cases (step : Fault.Step) (s : Statement) (read : List (List Cell) → Option α)
    (store : Store) :
    (store.refusal ≠ none ∧ ∃ fault, ask step s read store = ⟨.error (.internal fault), []⟩) ∨
    (store.refusal = none ∧ (∀ answer, store.reply s = .rows answer → read answer = none) ∧
      ∃ fault, ask step s read store = ⟨.error (.internal fault), [s]⟩) ∨
    (store.refusal = none ∧ ∃ answer a, store.reply s = .rows answer ∧ read answer = some a ∧
      ask step s read store = ⟨.ok a, [s]⟩) := by
  cases hrefusal : store.refusal with
  | some text => exact .inl ⟨nofun, _, ask_of_refused hrefusal⟩
  | none =>
    cases hreply : store.reply s with
    | failure text =>
      refine .inr (.inl ⟨rfl, fun answer hanswer => ?_, _, ask_of_failure hrefusal hreply⟩)
      cases hanswer
    | rows answer =>
      cases hread : read answer with
      | none =>
        refine .inr (.inl ⟨rfl, fun answer' hanswer => ?_, _,
          ask_of_unreadable hrefusal hreply hread⟩)
        cases hanswer
        exact hread
      | some a =>
        exact .inr (.inr ⟨rfl, answer, a, rfl, hread, ask_of_read hrefusal hreply hread⟩)

/-- A statement that was sent and read had an answer. -/
theorem ask_eq_ok {a : α} (h : (ask step s read store).result = .ok a) :
    store.refusal = none ∧ (ask step s read store).sent = [s] ∧
      ∃ answer, store.reply s = .rows answer ∧ read answer = some a := by
  cases hrefusal : store.refusal with
  | some text => rw [ask_of_refused hrefusal] at h; cases h
  | none =>
    cases hreply : store.reply s with
    | failure text => rw [ask_of_failure hrefusal hreply] at h; cases h
    | rows answer =>
      cases hread : read answer with
      | none => rw [ask_of_unreadable hrefusal hreply hread] at h; cases h
      | some b =>
        rw [ask_of_read hrefusal hreply hread] at h ⊢
        cases h
        exact ⟨rfl, rfl, answer, rfl, hread⟩

end

end Session

end ForumSummary
