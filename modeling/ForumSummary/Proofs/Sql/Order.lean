import ForumSummary.Proofs.Sql.Semantics

/-!
# The order of an answer

The sort terms of a statement order its groups by a total preorder (`precedes_total`,
`precedes_trans`), so every statement has an answer (`Select.exists_answers`). Where no two groups
are tied, the order of the groups is determined (`Select.existsUnique_arranges`), and with it the
answer (`Select.answers_iff_of_unique`).
-/

namespace ForumSummary.Sql

variable {collation : Collation} {outputs : List Output} {db : Database} {s : Select}

/-! ## Values -/

theorem Datum.le_trans {a b c : Datum} (hab : a.le collation b = true)
    (hbc : b.le collation c = true) : a.le collation c = true := by
  cases a <;> cases b <;> cases c <;> simp only [Datum.le, decide_eq_true_eq] at * <;>
    first
    | trivial
    | contradiction
    | exact Int.le_trans hab hbc
    | exact collation.trans _ _ _ hab hbc

theorem Datum.le_total (a b : Datum) : a.le collation b = true ∨ b.le collation a = true := by
  cases a <;> cases b <;> simp only [Datum.le, decide_eq_true_eq, true_or, or_true] <;>
    first
    | exact Int.le_total _ _
    | exact Bool.or_eq_true_iff.1 (collation.total _ _)

/-- Only texts can be tied with each other and differ. -/
theorem Datum.eq_of_tied {a b : Datum} (ha : ∀ t, a ≠ .text t) (hab : a.le collation b = true)
    (hba : b.le collation a = true) : a = b := by
  cases a with
  | text t => exact absurd rfl (ha t)
  | null => cases b <;> simp_all [Datum.le]
  | integer m =>
    cases b with
    | null => simp [Datum.le] at hba
    | text t => simp [Datum.le] at hba
    | integer n =>
      simp only [Datum.le, decide_eq_true_eq] at hab hba
      rw [Int.le_antisymm hab hba]

/-! ## Sort terms -/

theorem SortTerm.le_trans {t : SortTerm} {g h k : Group} (hgh : t.le collation outputs g h = true)
    (hhk : t.le collation outputs h k = true) : t.le collation outputs g k = true := by
  unfold SortTerm.le at *
  split
  · next hd =>
    rw [if_pos hd] at hgh hhk
    exact Datum.le_trans hhk hgh
  · next hd =>
    rw [if_neg hd] at hgh hhk
    exact Datum.le_trans hgh hhk

theorem SortTerm.le_total (t : SortTerm) (g h : Group) :
    t.le collation outputs g h = true ∨ t.le collation outputs h g = true := by
  unfold SortTerm.le
  split <;> exact Datum.le_total _ _

/-- What it is to precede, with the first term in the lead. -/
theorem precedes_cons_iff {t : SortTerm} {ts : List SortTerm} {g h : Group} :
    precedes collation outputs (t :: ts) g h = true ↔ t.le collation outputs g h = true ∧
      (t.le collation outputs h g = true → precedes collation outputs ts g h = true) := by
  rw [precedes, Bool.and_eq_true, Bool.or_eq_true, Bool.not_eq_true']
  cases t.le collation outputs h g <;> simp

theorem precedes_trans {ts : List SortTerm} {g h k : Group}
    (hgh : precedes collation outputs ts g h = true)
    (hhk : precedes collation outputs ts h k = true) :
    precedes collation outputs ts g k = true := by
  induction ts with
  | nil => rfl
  | cons t ts ih =>
    rw [precedes_cons_iff] at hgh hhk ⊢
    refine ⟨SortTerm.le_trans hgh.1 hhk.1, fun hkg => ih ?_ ?_⟩
    · exact hgh.2 (SortTerm.le_trans hhk.1 hkg)
    · exact hhk.2 (SortTerm.le_trans hkg hgh.1)

theorem precedes_total (ts : List SortTerm) (g h : Group) :
    precedes collation outputs ts g h = true ∨ precedes collation outputs ts h g = true := by
  induction ts with
  | nil => exact .inl rfl
  | cons t ts ih =>
    rw [precedes_cons_iff, precedes_cons_iff]
    by_cases hgh : t.le collation outputs g h = true
    · by_cases hhg : t.le collation outputs h g = true
      · exact ih.imp (fun hp => ⟨hgh, fun _ => hp⟩) fun hp => ⟨hhg, fun _ => hp⟩
      · exact .inl ⟨hgh, fun h' => absurd h' hhg⟩
    · have hhg := (SortTerm.le_total t g h).resolve_left hgh
      exact .inr ⟨hhg, fun h' => absurd h' hgh⟩

/-- Groups that precede each other are tied by every term. -/
theorem tied_of_precedes {ts : List SortTerm} {g h : Group}
    (hgh : precedes collation outputs ts g h = true)
    (hhg : precedes collation outputs ts h g = true) :
    ∀ t ∈ ts, t.le collation outputs g h = true ∧ t.le collation outputs h g = true := by
  induction ts with
  | nil => exact fun _ ht => nomatch ht
  | cons t ts ih =>
    rw [precedes_cons_iff] at hgh hhg
    intro t' ht'
    rcases List.mem_cons.1 ht' with rfl | ht'
    · exact ⟨hgh.1, hhg.1⟩
    · exact ih (hgh.2 hhg.1) (hhg.2 hgh.1) t' ht'

/-! ## Arrangements and answers -/

/-- The groups of every statement can be put in order. -/
theorem Select.exists_arranges (collation : Collation) (db : Database) (s : Select) :
    ∃ gs, s.Arranges collation db gs := by
  obtain ⟨l, hl⟩ := Quot.exists_rep (s.groups db)
  have hsorted := @List.pairwise_mergeSort _ (precedes collation s.outputs s.orderBy)
    (fun _ _ _ => precedes_trans)
    (fun g h => Bool.or_eq_true_iff.2 (precedes_total s.orderBy g h)) l
  exact ⟨_, (Multiset.coe_eq_coe.2 (List.mergeSort_perm l _)).trans hl, hsorted⟩

/-- Every statement has an answer. -/
theorem Select.exists_answers (collation : Collation) (db : Database) (s : Select) :
    ∃ rows, s.Answers collation db rows := by
  obtain ⟨gs, hgs⟩ := s.exists_arranges collation db
  exact ⟨_, gs, hgs, rfl⟩

/-- No two groups of a statement are tied in its order. -/
def Select.Untied (collation : Collation) (db : Database) (s : Select) : Prop :=
  ∀ g ∈ s.groups db, ∀ h ∈ s.groups db, precedes collation s.outputs s.orderBy g h = true →
    precedes collation s.outputs s.orderBy h g = true → g = h

/-- Groups of which no two are tied stand in one order. -/
theorem Select.existsUnique_arranges (h : s.Untied collation db) :
    ∃! gs, s.Arranges collation db gs := by
  obtain ⟨gs, hgs⟩ := s.exists_arranges collation db
  refine ⟨gs, hgs, fun gs' hgs' => ?_⟩
  refine List.Perm.eq_of_pairwise (fun a b ha hb => h a ?_ b ?_) hgs'.2 hgs.2 ?_
  · rw [← hgs'.1]; exact ha
  · rw [← hgs.1]; exact hb
  · exact Multiset.coe_eq_coe.1 (hgs'.1.trans hgs.1.symm)

/-- A statement with one arrangement has one answer. -/
theorem Select.answers_iff_of_unique {gs : List Group} (hgs : s.Arranges collation db gs)
    (huniq : ∀ gs', s.Arranges collation db gs' → gs' = gs) {rows : List ResultRow} :
    s.Answers collation db rows ↔ rows = s.cut (gs.map (resultRow s.outputs)) := by
  constructor
  · rintro ⟨gs', hgs', rfl⟩
    rw [huniq gs' hgs']
  · rintro rfl
    exact ⟨gs, hgs, rfl⟩

end ForumSummary.Sql
