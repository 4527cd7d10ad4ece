import ForumSummary.Store.Transaction
import Mathlib.Data.List.Forall2

/-!
# Records as cells

What the rows of the database must hold. Each record is written as cells, one for each of its
columns, and null only where a column may be null. A row is read as the record whose cells it
starts with (`Cell.Reads`), so a row with a null or a value of another type in a column is not read.
-/

namespace ForumSummary

/-- A number that may be missing, as a cell. -/
def Cell.ofOption : Option Int64 → Cell
  | none => .null
  | some n => .integer n

theorem Cell.optionalInteger?_eq_some_iff {c : Cell} {n : Option Int64} :
    c.optionalInteger? = some n ↔ c = .ofOption n := by
  cases c <;> cases n <;> simp [optionalInteger?, ofOption]

/-- A row of the database is read as the record whose cells it starts with. -/
def Cell.Reads {α : Type} (ofCells? : List Cell → Option α) (cells : α → List Cell) : Prop :=
  ∀ row a, ofCells? row = some a ↔ cells a <+: row

/-- It is enough that what is written is read, and that nothing else is. -/
theorem Cell.Reads.of_cases {α : Type} {ofCells? : List Cell → Option α} {cells : α → List Cell}
    (hwritten : ∀ a rest, ofCells? (cells a ++ rest) = some a)
    (hcases : ∀ row, ofCells? row = none ∨ ∃ a rest, row = cells a ++ rest) :
    Cell.Reads ofCells? cells := by
  intro row a
  constructor
  · intro h
    obtain hnone | ⟨b, rest, rfl⟩ := hcases row
    · rw [hnone] at h
      cases h
    · rw [hwritten] at h
      cases h
      exact ⟨rest, rfl⟩
  · rintro ⟨rest, rfl⟩
    exact hwritten a rest

/-! ## Records of the learning platform -/

/-- The cells of a course. -/
def Course.cells (c : Course) : List Cell :=
  [.integer c.id, .text c.fullname, .text c.shortname]

theorem Course.reads_cells : Cell.Reads ofCells? cells := by
  refine .of_cases (fun _ _ => rfl) fun row => ?_
  unfold ofCells?
  split
  · exact .inr ⟨⟨_, _, _⟩, _, rfl⟩
  · exact .inl rfl

/-- The cells of a group of a course. -/
def CourseGroup.cells (g : CourseGroup) : List Cell :=
  [.integer g.id, .integer g.courseId, .text g.name]

theorem CourseGroup.reads_cells : Cell.Reads ofCells? cells := by
  refine .of_cases (fun _ _ => rfl) fun row => ?_
  unfold ofCells?
  split
  · exact .inr ⟨⟨_, _, _⟩, _, rfl⟩
  · exact .inl rfl

/-- The cells of a forum. -/
def Forum.cells (f : Forum) : List Cell :=
  [.integer f.id, .integer f.courseId, .text f.name]

theorem Forum.reads_cells : Cell.Reads ofCells? cells := by
  refine .of_cases (fun _ _ => rfl) fun row => ?_
  unfold ofCells?
  split
  · exact .inr ⟨⟨_, _, _⟩, _, rfl⟩
  · exact .inl rfl

/-- The cells of a discussion. -/
def Discussion.cells (d : Discussion) : List Cell :=
  [.integer d.id, .integer d.forumId, .integer d.userId, .text d.name, .integer d.modified]

theorem Discussion.reads_cells : Cell.Reads ofCells? cells := by
  refine .of_cases (fun _ _ => rfl) fun row => ?_
  unfold ofCells?
  split
  · exact .inr ⟨⟨_, _, _, _, _⟩, _, rfl⟩
  · exact .inl rfl

/-- The cells of a post. -/
def Post.cells (p : Post) : List Cell :=
  [.integer p.id, .integer p.discussionId, .ofOption p.parentId, .integer p.userId,
    .text p.subject, .text p.message, .integer p.created]

theorem Post.reads_cells : Cell.Reads ofCells? cells := by
  intro row p
  constructor
  · intro h
    unfold ofCells? at h
    split at h
    · obtain ⟨parentId, hparent, rfl⟩ := Option.map_eq_some_iff.1 h
      rw [Cell.optionalInteger?_eq_some_iff] at hparent
      subst hparent
      exact ⟨_, rfl⟩
    · cases h
  · rintro ⟨rest, rfl⟩
    have hparent := Cell.optionalInteger?_eq_some_iff.2 (rfl : Cell.ofOption p.parentId = _)
    simp [cells, ofCells?, hparent]

/-! ## Rows of reports -/

/-- The cells of a row of a report. -/
def Row.cells (r : Row) : List Cell :=
  [.integer r.userId, .text r.username, .text r.firstname, .text r.lastname,
    .ofOption r.forumId, .integer r.postCount, .integer r.replyCount]

theorem Row.reads_cells : Cell.Reads ofCells? cells := by
  intro row r
  constructor
  · intro h
    unfold ofCells? at h
    split at h
    · obtain ⟨forumId, hforum, rfl⟩ := Option.map_eq_some_iff.1 h
      rw [Cell.optionalInteger?_eq_some_iff] at hforum
      subst hforum
      exact ⟨_, rfl⟩
    · cases h
  · rintro ⟨rest, rfl⟩
    have hforum := Cell.optionalInteger?_eq_some_iff.2 (rfl : Cell.ofOption r.forumId = _)
    simp [cells, ofCells?, hforum]

/-! ## Answers of many rows -/

/-- The rows of an answer are read when and only when each is. -/
theorem Session.readAll_eq_some_iff {α : Type} {ofCells? : List Cell → Option α}
    {cells : α → List Cell} (hreads : Cell.Reads ofCells? cells) {answer : List (List Cell)}
    {as : List α} : readAll ofCells? answer = some as ↔
      List.Forall₂ (fun a row => cells a <+: row) as answer := by
  induction answer generalizing as with
  | nil => simp [readAll, eq_comm]
  | cons row answer ih =>
    simp only [readAll, List.mapM_cons, Option.bind_eq_bind, Option.bind_eq_some_iff,
      Option.pure_def, Option.some.injEq, List.forall₂_cons_right_iff] at ih ⊢
    constructor
    · rintro ⟨a, ha, more, hmore, rfl⟩
      exact ⟨a, more, (hreads row a).1 ha, ih.1 hmore, rfl⟩
    · rintro ⟨a, more, ha, hmore, rfl⟩
      exact ⟨a, (hreads row a).2 ha, more, ih.2 hmore, rfl⟩

end ForumSummary
