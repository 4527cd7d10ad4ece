import ForumSummary.Proofs.Sql.Text
import Mathlib.Data.List.Forall2

/-!
# Placeholders and values

The text with placeholders says nothing about the values: pieces that differ in their values only
(`Pieces.Alike`) have the same text (`Pieces.Alike.parameterizedFrom_eq`). The placeholders of a
text are what stands behind its dollar signs (`placeholders`); those of pieces are numbered through,
one for each value (`Pieces.placeholders_parameterizedFrom`).
-/

namespace ForumSummary.Sql

/-! ## Pieces that differ in values only -/

namespace Pieces

variable {α : Type} {ps ps' qs qs' : Pieces α}

/-- Pieces have the same fixed texts, and places for values in the same positions. -/
def Alike (ps qs : Pieces α) : Prop :=
  mapValues (fun _ => ()) ps = mapValues (fun _ => ()) qs

theorem mapValues_append {β : Type} (f : α → β) (ps qs : Pieces α) :
    mapValues f (ps ++ qs) = mapValues f ps ++ mapValues f qs := by
  induction ps with
  | nil => rfl
  | cons p ps ih => cases p <;> simp [mapValues, ih]

theorem Alike.refl (ps : Pieces α) : Alike ps ps :=
  rfl

theorem Alike.append (h : Alike ps ps') (h' : Alike qs qs') : Alike (ps ++ qs) (ps' ++ qs') := by
  unfold Alike at h h' ⊢
  rw [mapValues_append, mapValues_append, h, h']

theorem Alike.text_cons (s : String) (h : Alike ps qs) : Alike (.text s :: ps) (.text s :: qs) :=
  congrArg (Piece.text s :: ·) h

theorem Alike.joinWith {separator : String} {pss qss : List (Pieces α)}
    (h : List.Forall₂ Alike pss qss) :
    Alike (joinWith separator pss) (joinWith separator qss) := by
  induction h with
  | nil => exact .refl _
  | @cons ps qs pss qss hhead htail ih =>
    cases htail with
    | nil => exact hhead
    | cons => exact hhead.append (ih.text_cons separator)

/-- The text with placeholders is the same whatever the values are. -/
theorem Alike.parameterizedFrom_eq (h : Alike ps qs) (n : Nat) :
    parameterizedFrom n ps = parameterizedFrom n qs := by
  rw [← parameterizedFrom_mapValues (fun _ => ()) n ps, h, parameterizedFrom_mapValues]

end Pieces

/-- Conditions on single rows that differ in values only, one by one. -/
theorem alike_allTests {ts us : List RowTest}
    (h : List.Forall₂ (fun t u => t.pieces.Alike u.pieces) ts us) :
    (allTests ts).Alike (allTests us) :=
  .joinWith (List.forall₂_map_left_iff.2 (List.forall₂_map_right_iff.2 h))

theorem alike_clause {keyword separator : String} {entries entries' : List (Pieces Literal)}
    (h : List.Forall₂ Pieces.Alike entries entries') :
    (clause keyword separator entries).Alike (clause keyword separator entries') := by
  cases h with
  | nil => exact .refl _
  | cons hhead htail => exact .text_cons keyword (.joinWith (.cons hhead htail))

/-- Lists of values are alike when they are of the same length. -/
theorem alike_places {vs ws : List Literal} (h : vs.length = ws.length) :
    (Pieces.joinWith ", " (vs.map place)).Alike (Pieces.joinWith ", " (ws.map place)) := by
  refine .joinWith ?_
  rw [List.forall₂_map_left_iff, List.forall₂_map_right_iff, List.forall₂_iff_get]
  exact ⟨h, fun _ _ _ => rfl⟩

/-! ## Values -/

section
variable {α : Type}

theorem Pieces.values_joinWith (separator : String) (pss : List (Pieces α)) :
    values (joinWith separator pss) = pss.flatMap values := by
  induction pss with
  | nil => rfl
  | cons ps pss ih =>
    cases pss with
    | nil => rw [joinWith, List.flatMap_singleton]
    | cons qs rest =>
      rw [joinWith, values_append, values, ih, ← List.flatMap_cons]
      exact List.cons_ne_nil qs rest

theorem values_allTests (ts : List RowTest) :
    (allTests ts).values = ts.flatMap fun t => t.pieces.values := by
  rw [allTests, Pieces.values_joinWith, List.flatMap_map]

theorem values_clause (keyword separator : String) (entries : List (Pieces Literal)) :
    (clause keyword separator entries).values = entries.flatMap Pieces.values := by
  cases entries with
  | nil => rfl
  | cons ps more => exact Pieces.values_joinWith separator (ps :: more)

theorem values_places (vs : List Literal) :
    (Pieces.joinWith ", " (vs.map place)).values = vs := by
  rw [Pieces.values_joinWith, List.flatMap_map]
  exact List.flatMap_singleton' vs

theorem SortTerm.values_pieces (t : SortTerm) : t.pieces.values = [] := by
  rcases t with ⟨_ | _, _⟩ <;> rfl

end

/-! ## The placeholders of a text -/

/-- The placeholders of a text, from left to right: the digits behind each dollar sign. -/
def placeholders : List Char → List (List Char)
  | [] => []
  | c :: r =>
    if c = '$' then r.takeWhile (fun d => (Numeral.digit? d).isSome) :: placeholders r
    else placeholders r

example : placeholders "x = $1 AND y IN ($2, $13)$".toList =
    [['1'], ['2'], ['1', '3'], []] := by
  decide

/-- A text without dollar signs has no placeholders of its own. -/
theorem placeholders_append {cs : List Char} (h : '$' ∉ cs) (ds : List Char) :
    placeholders (cs ++ ds) = placeholders ds := by
  induction cs with
  | nil => rfl
  | cons c cs ih =>
    rw [List.mem_cons, not_or] at h
    rw [List.cons_append, placeholders, if_neg (Ne.symm h.1), ih h.2]

namespace Pieces

variable {α : Type} {ps : Pieces α}

/-- A dollar sign or a digit, the characters of placeholders. -/
def IsMark (c : Char) : Prop :=
  c = '$' ∨ (Numeral.digit? c).isSome = true

/-- No digit stands at the front of a text whose fixed parts have none. -/
theorem takeWhile_parameterizedFrom (h : ∀ c, IsMark c → ps.Lacks c) (n : Nat) :
    (parameterizedFrom n ps).toList.takeWhile (fun d => (Numeral.digit? d).isSome) = [] := by
  induction ps with
  | nil => rfl
  | cons p ps ih =>
    cases p with
    | value v => simp [parameterizedFrom, Numeral.digit?]
    | text s =>
      have hps : ∀ c, IsMark c → Lacks c ps := fun c hc => (lacks_text_cons.1 (h c hc)).2
      rw [parameterizedFrom, String.toList_append]
      cases hs : s.toList with
      | nil => exact ih hps
      | cons c cs =>
        have hc : ¬ (Numeral.digit? c).isSome = true := fun hdigit =>
          (lacks_text_cons.1 (h c (.inr hdigit))).1 (hs ▸ List.mem_cons_self)
        rw [List.cons_append]
        exact List.takeWhile_cons_of_neg hc

/-- The placeholders of pieces are numbered from left to right, one for each value, when no fixed
text has dollar signs or digits. -/
theorem placeholders_parameterizedFrom (h : ∀ c, IsMark c → ps.Lacks c) (n : Nat) :
    placeholders (parameterizedFrom n ps).toList =
      (List.range' n ps.values.length).map Numeral.natChars := by
  induction ps generalizing n with
  | nil => rfl
  | cons p ps ih =>
    cases p with
    | text s =>
      have hps : ∀ c, IsMark c → Lacks c ps := fun c hc => (lacks_text_cons.1 (h c hc)).2
      have hdollar : '$' ∉ s.toList := (lacks_text_cons.1 (h '$' (.inl rfl))).1
      rw [parameterizedFrom, String.toList_append, placeholders_append hdollar, ih hps, values]
    | value v =>
      have hps : ∀ c, IsMark c → Lacks c ps := fun c hc => lacks_value_cons.1 (h c hc)
      have hdollar : '$' ∉ Numeral.natChars n := fun hmem =>
        absurd (Numeral.isSome_digit?_of_mem_natChars '$' hmem) (by decide)
      have htext : (parameterizedFrom n (.value v :: ps)).toList =
          '$' :: (Numeral.natChars n ++ (parameterizedFrom (n + 1) ps).toList) := by
        simp [parameterizedFrom, Numeral.natText]
      -- The digits of a placeholder end where its number ends: no digit follows.
      have hdigits : (Numeral.natChars n ++ (parameterizedFrom (n + 1) ps).toList).takeWhile
          (fun d => (Numeral.digit? d).isSome) = Numeral.natChars n := by
        rw [List.takeWhile_append_of_pos Numeral.isSome_digit?_of_mem_natChars,
          takeWhile_parameterizedFrom hps, List.append_nil]
      rw [htext, placeholders, if_pos rfl, hdigits, placeholders_append hdollar, ih hps, values,
        List.length_cons, List.range'_succ, List.map_cons]

end Pieces

/-- The placeholders of a statement's text are `$1` to `$n`, once each and from left to right, where
`n` is the number of its values. -/
def Select.Numbered (s : Select) : Prop :=
  placeholders s.parameterized.toList = (List.range' 1 s.values.length).map Numeral.natChars

theorem Select.numbered_of_lacks {s : Select} (h : ∀ c, Pieces.IsMark c → s.pieces.Lacks c) :
    s.Numbered :=
  Pieces.placeholders_parameterizedFrom h 1

end ForumSummary.Sql
