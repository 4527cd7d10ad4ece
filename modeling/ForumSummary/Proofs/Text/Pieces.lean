import ForumSummary.Text.Blank
import ForumSummary.Text.Split

/-!
# Pieces that are written between separators

Pieces without separators are cut out of the text that has separators between them (`split_join`),
and a text without separators ends at the first one behind it (`splitFirst_append`). A text without
blanks is trimmed to itself (`trim_eq_self`), and blanks around any text are trimmed away
(`trim_surrounded`).
-/

namespace ForumSummary.Text

section
variable {separator : Char} {piece : List Char} (h : separator ∉ piece)
include h

theorem splitFirst_of_not_mem : splitFirst separator piece = (piece, none) := by
  induction piece with
  | nil => rfl
  | cons c r ih =>
    rw [List.mem_cons, not_or] at h
    rw [splitFirst, if_neg (Ne.symm h.1), ih h.2]

theorem splitFirst_append (rest : List Char) :
    splitFirst separator (piece ++ separator :: rest) = (piece, some rest) := by
  induction piece with
  | nil => exact if_pos rfl
  | cons c r ih =>
    rw [List.mem_cons, not_or] at h
    rw [List.cons_append, splitFirst, if_neg (Ne.symm h.1), ih h.2]

theorem split_of_not_mem : split separator piece = [piece] := by
  induction piece with
  | nil => rfl
  | cons c r ih =>
    rw [List.mem_cons, not_or] at h
    rw [split, if_neg (Ne.symm h.1), ih h.2]

theorem split_append (rest : List Char) :
    split separator (piece ++ separator :: rest) = piece :: split separator rest := by
  induction piece with
  | nil => exact if_pos rfl
  | cons c r ih =>
    rw [List.mem_cons, not_or] at h
    rw [List.cons_append, split, if_neg (Ne.symm h.1), ih h.2]

end

/-- Pieces without separators are the pieces of their text. -/
theorem split_join {separator : Char} {pieces : List (List Char)} (hne : pieces ≠ [])
    (h : ∀ piece ∈ pieces, separator ∉ piece) :
    split separator (join separator pieces) = pieces := by
  induction pieces with
  | nil => exact absurd rfl hne
  | cons piece more ih =>
    obtain ⟨hpiece, hmore⟩ := List.forall_mem_cons.1 h
    cases more with
    | nil => exact split_of_not_mem hpiece
    | cons next others =>
      show split separator (piece ++ separator :: join separator (next :: others)) = _
      rw [split_append hpiece, ih (List.cons_ne_nil _ _) hmore]

/-- What holds of the separator and of the pieces holds of the whole text. -/
theorem forall_mem_join {separator : Char} {P : Char → Prop} (hseparator : P separator)
    {pieces : List (List Char)} (h : ∀ piece ∈ pieces, ∀ c ∈ piece, P c) :
    ∀ c ∈ join separator pieces, P c := by
  induction pieces with
  | nil => exact nofun
  | cons piece more ih =>
    obtain ⟨hpiece, hmore⟩ := List.forall_mem_cons.1 h
    cases more with
    | nil => exact hpiece
    | cons next others =>
      exact List.forall_mem_append.2 ⟨hpiece, List.forall_mem_cons.2 ⟨hseparator, ih hmore⟩⟩

theorem join_ne_nil {separator : Char} {piece : List Char} (more : List (List Char))
    (h : piece ≠ []) : join separator (piece :: more) ≠ [] := by
  cases more with
  | nil => exact h
  | cons next others => exact List.append_ne_nil_of_left_ne_nil h _

theorem trim_eq_self {cs : List Char} (h : ∀ c ∈ cs, isBlank c = false) : trim cs = cs := by
  rw [trim, trimStart_eq_self fun c hc => h c (List.mem_of_mem_head? hc),
    trimEnd_eq_self fun c hc => h c (List.mem_of_mem_getLast? hc)]

/-! ## Blanks around a text -/

/-- A text holds nothing but blanks. -/
def AllBlank (cs : List Char) : Prop :=
  ∀ c ∈ cs, isBlank c = true

instance (cs : List Char) : Decidable (AllBlank cs) :=
  decidable_of_iff (cs.all isBlank = true) List.all_eq_true

theorem trimEnd_append_blank {after : List Char} (h : AllBlank after) (cs : List Char) :
    trimEnd (cs ++ after) = trimEnd cs := by
  rw [trimEnd, List.reverse_append,
    List.dropWhile_append_of_pos fun c hc => h c (List.mem_reverse.1 hc), trimEnd]

theorem trim_append_blank {after : List Char} (h : AllBlank after) (cs : List Char) :
    trim (cs ++ after) = trim cs := by
  induction cs with
  | nil =>
    have htrim := @trim_blank_append after [] h
    rwa [List.append_nil] at htrim
  | cons c r ih =>
    by_cases hc : isBlank c = true
    · have hfirst : AllBlank [c] := List.forall_mem_singleton.2 hc
      exact (@trim_blank_append [c] (r ++ after) hfirst).trans
        (ih.trans (@trim_blank_append [c] r hfirst).symm)
    · -- The first character stays, so the blanks are at the end of what is left.
      have hstart (s : List Char) : trimStart (c :: s) = c :: s := List.dropWhile_cons_of_neg hc
      rw [List.cons_append, trim, trim, hstart, hstart, ← List.cons_append, trimEnd_append_blank h]

theorem trim_surrounded {before after : List Char} (hbefore : AllBlank before)
    (hafter : AllBlank after) (cs : List Char) : trim (before ++ cs ++ after) = trim cs := by
  rw [trim_append_blank hafter, trim_blank_append hbefore]

/-- A text is what it is trimmed to, with blanks around it. -/
theorem exists_eq_append_trim (cs : List Char) :
    ∃ before after, AllBlank before ∧ AllBlank after ∧ cs = before ++ trim cs ++ after := by
  refine ⟨cs.takeWhile isBlank, ((trimStart cs).reverse.takeWhile isBlank).reverse,
    fun c hc => List.all_eq_true.1 List.all_takeWhile c hc,
    fun c hc => List.all_eq_true.1 List.all_takeWhile c (List.mem_reverse.1 hc), ?_⟩
  have hend : trim cs ++ ((trimStart cs).reverse.takeWhile isBlank).reverse = trimStart cs := by
    rw [trim, trimEnd, ← List.reverse_append, List.takeWhile_append_dropWhile, List.reverse_reverse]
  rw [List.append_assoc, hend, trimStart, List.takeWhile_append_dropWhile]

theorem trim_eq_nil_iff {cs : List Char} : trim cs = [] ↔ AllBlank cs := by
  constructor
  · intro h
    obtain ⟨before, after, hbefore, hafter, hcs⟩ := exists_eq_append_trim cs
    rw [h, List.append_nil] at hcs
    rw [hcs]
    exact List.forall_mem_append.2 ⟨hbefore, hafter⟩
  · intro h
    have htrim := trim_append_blank h []
    rwa [List.nil_append] at htrim

/-! ## Pieces of a longer text -/

variable {separator : Char}

/-- A text without separators in front of another makes its first piece longer. -/
theorem split_append_left {before : List Char} (h : separator ∉ before) {cs piece : List Char}
    {more : List (List Char)} (hcs : split separator cs = piece :: more) :
    split separator (before ++ cs) = (before ++ piece) :: more := by
  induction before with
  | nil => exact hcs
  | cons c r ih =>
    rw [List.mem_cons, not_or] at h
    rw [List.cons_append, split, if_neg (Ne.symm h.1), ih h.2, List.cons_append]

theorem join_cons_of_ne_nil (piece : List Char) {more : List (List Char)} (h : more ≠ []) :
    join separator (piece :: more) = piece ++ separator :: join separator more := by
  obtain ⟨next, others, rfl⟩ := List.exists_cons_of_ne_nil h
  rfl

theorem join_concat_append (front : List (List Char)) (piece after : List Char) :
    join separator (front ++ [piece ++ after]) = join separator (front ++ [piece]) ++ after := by
  have hne (last : List Char) (more : List (List Char)) : more ++ [last] ≠ [] :=
    List.append_ne_nil_of_right_ne_nil _ (List.cons_ne_nil _ _)
  induction front with
  | nil => rfl
  | cons first more ih =>
    rw [List.cons_append, List.cons_append, join_cons_of_ne_nil first (hne _ more),
      join_cons_of_ne_nil first (hne _ more), ih, List.append_assoc, List.cons_append]

/-- A text without separators behind another makes its last piece longer. -/
theorem split_append_right {after : List Char} (h : separator ∉ after) {cs piece : List Char}
    {front : List (List Char)} (hcs : split separator cs = front ++ [piece]) :
    split separator (cs ++ after) = front ++ [piece ++ after] := by
  have hsplit : ∀ p ∈ front ++ [piece], separator ∉ p := by
    intro p hp
    rw [← hcs] at hp
    exact not_mem_of_mem_split hp
  obtain ⟨hfront, hpiece⟩ := List.forall_mem_append.1 hsplit
  have hlast : separator ∉ piece ++ after := fun hmem =>
    (List.mem_append.1 hmem).elim (hpiece piece List.mem_cons_self) h
  have hjoin : join separator (front ++ [piece ++ after]) = cs ++ after := by
    rw [join_concat_append, ← hcs, join_split]
  rw [← hjoin]
  exact split_join (List.append_ne_nil_of_right_ne_nil _ (List.cons_ne_nil _ _))
    (List.forall_mem_append.2 ⟨hfront, List.forall_mem_singleton.2 hlast⟩)

end ForumSummary.Text
