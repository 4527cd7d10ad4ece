import ForumSummary.Export.Csv

/-!
# Reading comma-separated values

A reader of comma-separated values (RFC 4180). It goes through a text once, character by character
(`Reader.step`). Commas end fields; a line feed, a carriage return or both in this order end a
record. A field that begins with a quote goes up to its closing quote, and two quotes inside it
stand for one; in other fields there is no quote, and nothing but a separator follows a closing
quote. An empty line is a record of one empty field.

What is written is read back: a table comes out of its text as it went in, record by record and
field by field, whatever its fields hold (`read_records`).
-/

namespace ForumSummary.Export.Csv

/-- Where a reader stands. -/
inductive Place where
  /-- Before a field. -/
  | start
  /-- Behind a carriage return that ended a record; a line feed belongs to the same line end. -/
  | lineEnd
  /-- In a field without quotes. -/
  | bare
  /-- Between the quotes of a field. -/
  | quoted
  /-- Behind a quote in a quoted field, which closes the field or is the first of two. -/
  | quote
  deriving DecidableEq, Repr

/-- What was read so far: whole records, whole fields of the record that has begun, and characters
of the field that has begun. -/
structure Reader where
  done : List (List (List Char)) := []
  record : List (List Char) := []
  chars : List Char := []
  place : Place := .start
  deriving DecidableEq, Repr

namespace Reader

/-- Adds a character to the field. -/
def take (r : Reader) (c : Char) (place : Place) : Reader :=
  { r with chars := r.chars ++ [c], place }

/-- Ends the field. -/
def endField (r : Reader) : Reader :=
  { r with record := r.record ++ [r.chars], chars := [], place := .start }

/-- Ends the record with the field. -/
def endRecord (r : Reader) (place : Place) : Reader :=
  { done := r.done ++ [r.record ++ [r.chars]], place }

/-- Ends the field at a separator. -/
def separate? (r : Reader) (c : Char) : Option Reader :=
  if c = ',' then some r.endField
  else if c = '\n' then some (r.endRecord .start)
  else if c = '\r' then some (r.endRecord .lineEnd)
  else none

/-- Reads a character of a field without quotes, or the separator behind it. -/
def stepBare (r : Reader) (c : Char) : Option Reader :=
  if c = '"' then none else some ((r.separate? c).getD (r.take c .bare))

/-- Reads the first character of a field, or the separator behind an empty one. -/
def stepStart (r : Reader) (c : Char) : Option Reader :=
  if c = '"' then some { r with place := .quoted } else r.stepBare c

/-- Reads a character. -/
def step (r : Reader) (c : Char) : Option Reader :=
  match r.place with
  | .start => r.stepStart c
  | .lineEnd => if c = '\n' then some { r with place := .start } else r.stepStart c
  | .bare => r.stepBare c
  | .quoted => some (if c = '"' then { r with place := .quote } else r.take c .quoted)
  | .quote => if c = '"' then some (r.take c .quoted) else r.separate? c

/-- Reads on through a text. -/
def run (r : Reader) (text : List Char) : Option Reader :=
  text.foldlM step r

/-- The records at the end of a text. A record that has begun ends with the text, unless a quote is
still open. -/
def finish (r : Reader) : Option (List (List (List Char))) :=
  if r.place = .quoted then none
  else if r.record = [] ∧ (r.place = .start ∨ r.place = .lineEnd) then some r.done
  else some (r.endRecord .start).done

end Reader

/-- The records of a text; none when its quotes are not those of comma-separated values. -/
def read (text : List Char) : Option (List (List (List Char))) :=
  (Reader.run {} text).bind Reader.finish

/-- All three line ends, an empty line, and a last record without a line end. -/
example : read "a,\"b\"\"\r\n\"\r\n\r,c\n,".toList =
    some [[['a'], ['b', '"', '\r', '\n']], [[]], [[], ['c']], [[], []]] := by
  decide

namespace Reader

variable {r : Reader} {c : Char} {cs : List Char}

theorem run_cons {r' : Reader} (h : r.step c = some r') (cs : List Char) :
    r.run (c :: cs) = r'.run cs := by
  rw [run, List.foldlM_cons, h]
  rfl

theorem run_singleton (r : Reader) (c : Char) : r.run [c] = r.step c := by
  simp [run]

theorem run_append {r' : Reader} (h : r.run cs = some r') (ds : List Char) :
    r.run (cs ++ ds) = r'.run ds := by
  unfold run at h ⊢
  rw [List.foldlM_append, h]
  rfl

/-! ## Fields -/

/-- A comma, or a character that ends a line. -/
def IsSeparator (c : Char) : Prop :=
  c = ',' ∨ c = '\n' ∨ c = '\r'

/-- Behind a separator it is not seen whether the field had quotes. -/
theorem separate?_place (hc : IsSeparator c) (place : Place) :
    { r with place }.separate? c = r.separate? c := by
  rcases hc with rfl | rfl | rfl <;> rfl

theorem step_take (hplace : r.place = .start ∨ r.place = .bare) (hc : isSpecial c = false) :
    r.step c = some (r.take c .bare) := by
  simp only [isSpecial, Bool.or_eq_false_iff, beq_eq_false_iff_ne] at hc
  obtain ⟨⟨⟨hcomma, hquote⟩, hfeed⟩, hreturn⟩ := hc
  rcases hplace with h | h <;>
    simp [step, h, stepStart, stepBare, separate?, hcomma, hquote, hfeed, hreturn]

theorem step_separator (hplace : r.place ≠ .quoted) (hline : r.place ≠ .lineEnd)
    (hc : IsSeparator c) : r.step c = r.separate? c := by
  unfold step
  rcases hc with rfl | rfl | rfl <;> cases h : r.place <;> first
    | rfl
    | exact absurd h hplace
    | exact absurd h hline

/-- A field without quotes is read up to the separator behind it, from its beginning or from any
place inside it. -/
theorem run_bare (hplace : r.place = .start ∨ r.place = .bare)
    (hcs : ∀ d ∈ cs, isSpecial d = false) (hc : IsSeparator c) :
    r.run (cs ++ [c]) = { r with chars := r.chars ++ cs }.separate? c := by
  induction cs generalizing r with
  | nil =>
    have hstep : r.step c = r.separate? c :=
      step_separator (by rintro h; simp [h] at hplace) (by rintro h; simp [h] at hplace) hc
    rw [List.nil_append, run_singleton, hstep, List.append_nil]
  | cons d cs ih =>
    rw [List.forall_mem_cons] at hcs
    rw [List.cons_append, run_cons (step_take hplace hcs.1), ih (.inr rfl) hcs.2,
      ← separate?_place hc r.place]
    simp [take]

/-- What stands between quotes is read up to the closing one, with doubled quotes undone. -/
theorem run_quoted (hplace : r.place = .quoted) :
    r.run (doubleQuotes cs ++ ['"']) =
      some { r with chars := r.chars ++ cs, place := .quote } := by
  induction cs generalizing r with
  | nil =>
    rw [List.append_nil]
    show r.run ['"'] = _
    simp [run_singleton, step, hplace]
  | cons d cs ih =>
    have hread : r.run (if d = '"' then ['"', '"'] else [d]) = some (r.take d .quoted) := by
      by_cases hd : d = '"'
      · subst hd
        simp [run, step, hplace, take]
      · simp [run, step, hplace, hd]
    rw [doubleQuotes, List.flatMap_cons, List.append_assoc, run_append hread, ← doubleQuotes,
      ih rfl]
    simp [take]

/-- A field is read as what was written, whatever separator stands behind it. -/
theorem run_field (hplace : r.place = .start) (hchars : r.chars = []) (hc : IsSeparator c) :
    r.run (field cs ++ [c]) = { r with chars := cs }.separate? c := by
  unfold field
  split
  · have hopen : r.step '"' = some { r with place := .quoted } := by
      simp [step, hplace, stepStart]
    rw [List.cons_append, List.cons_append, run_cons hopen, run_append (run_quoted rfl),
      run_singleton, step_separator (by simp) (by simp) hc, ← separate?_place hc r.place, hchars,
      List.nil_append]
  · next h =>
    have hplain : ∀ d ∈ cs, isSpecial d = false := by simpa using h
    rw [run_bare (.inl hplace) hplain hc, hchars, List.nil_append]

/-! ## Records -/

/-- A record of one field or more is read up to its line end. -/
theorem run_fields {row : List (List Char)} (hrow : row ≠ []) (hplace : r.place = .start)
    (hchars : r.chars = []) :
    r.run (fields row ++ ['\n']) = some { done := r.done ++ [r.record ++ row] } := by
  induction row generalizing r with
  | nil => exact absurd rfl hrow
  | cons cs row ih =>
    cases row with
    | nil => exact run_field hplace hchars (.inr (.inl rfl))
    | cons ds row =>
      have hfirst : r.run (field cs ++ [',']) = some { r with chars := cs }.endField :=
        run_field hplace hchars (.inl rfl)
      have hsplit : fields (cs :: ds :: row) ++ ['\n'] =
          (field cs ++ [',']) ++ (fields (ds :: row) ++ ['\n']) := by
        simp [fields]
      rw [hsplit, run_append hfirst, ih (List.cons_ne_nil _ _) rfl rfl]
      simp [endField]

theorem run_records {table : List (List (List Char))} (htable : ∀ row ∈ table, row ≠ [])
    (done : List (List (List Char))) :
    run { done } (records table) = some { done := done ++ table } := by
  induction table generalizing done with
  | nil =>
    rw [List.append_nil]
    rfl
  | cons row table ih =>
    rw [List.forall_mem_cons] at htable
    have hrow : run { done } (fields row ++ ['\n']) = some { done := done ++ [row] } :=
      run_fields htable.1 rfl rfl
    rw [records, List.flatMap_cons, run_append hrow, ← records, ih htable.2]
    simp

end Reader

/-- A table is read back from its text, if every record has a field. -/
theorem read_records {table : List (List (List Char))} (htable : ∀ row ∈ table, row ≠ []) :
    read (records table) = some table := by
  unfold read
  rw [Reader.run_records htable]
  rfl

end ForumSummary.Export.Csv
