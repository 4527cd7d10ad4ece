/-!
# Pieces of a text

`split` cuts a text at every separator. The pieces hold no separator, there is one more of them than
separators, and with separators between them they are the text again.
-/

namespace ForumSummary.Text

/-- The pieces of a text between separators; there is always at least one. -/
def split (separator : Char) : List Char → List (List Char)
  | [] => [[]]
  | c :: r =>
    if c = separator then [] :: split separator r
    else
      match split separator r with
      | [] => [[c]]
      | piece :: more => (c :: piece) :: more

/-- The part before the first separator, and the part after it if there is one. -/
def splitFirst (separator : Char) : List Char → List Char × Option (List Char)
  | [] => ([], none)
  | c :: r =>
    if c = separator then ([], some r)
    else
      let (before, after) := splitFirst separator r
      (c :: before, after)

/-- Pieces with a separator between neighbours. -/
def join (separator : Char) : List (List Char) → List Char
  | [] => []
  | [piece] => piece
  | piece :: more => piece ++ separator :: join separator more

/-! ## Laws -/

theorem split_ne_nil (separator : Char) (cs : List Char) : split separator cs ≠ [] := by
  cases cs with
  | nil => simp [split]
  | cons c r =>
    simp only [split]
    split
    · simp
    · split <;> simp

theorem join_split (separator : Char) (cs : List Char) :
    join separator (split separator cs) = cs := by
  induction cs with
  | nil => rfl
  | cons c r ih =>
    simp only [split]
    split
    · next h =>
      have := split_ne_nil separator r
      cases hs : split separator r with
      | nil => contradiction
      | cons piece more => simp [join, ← hs, ih, h]
    · cases hs : split separator r with
      | nil => exact absurd hs (split_ne_nil separator r)
      | cons piece more =>
        rw [hs] at ih
        cases more with
        | nil => simpa [join] using ih
        | cons next rest => simpa [join] using ih

theorem not_mem_of_mem_split {separator : Char} {cs piece : List Char}
    (h : piece ∈ split separator cs) : separator ∉ piece := by
  induction cs generalizing piece with
  | nil => simp_all [split]
  | cons c r ih =>
    simp only [split] at h
    split at h
    · rcases List.mem_cons.1 h with rfl | h
      · simp
      · exact ih h
    · next hc =>
      cases hs : split separator r with
      | nil => exact absurd hs (split_ne_nil separator r)
      | cons first more =>
        rw [hs] at h ih
        simp only [List.mem_cons] at h
        rcases h with rfl | h
        · simp only [List.mem_cons, not_or]
          exact ⟨fun e => hc e.symm, ih (List.mem_cons_self)⟩
        · exact ih (List.mem_cons_of_mem _ h)

end ForumSummary.Text
