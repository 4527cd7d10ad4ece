import ForumSummary.Proofs.Except
import ForumSummary.Sql.Bound

/-!
# Binding

What it takes for a statement to be bound, and what the bound statement consists of.
-/

namespace ForumSummary

namespace Sql

theorem bind_cons_eq_ok_iff {v : Value} {vs : List Value} {arguments : List Argument} :
    bind (v :: vs) = .ok arguments ↔
      ∃ a more, v.bind = .ok a ∧ bind vs = .ok more ∧ arguments = a :: more := by
  simp only [bind, Except.bind_eq_ok_iff]
  constructor
  · rintro ⟨a, ha, more, hmore, h⟩
    exact ⟨a, more, ha, hmore, (Except.ok.inj h).symm⟩
  · rintro ⟨a, more, ha, hmore, rfl⟩
    exact ⟨a, ha, more, hmore, rfl⟩

/-- Lists of values are bound one after the other. -/
theorem bind_append_eq_ok_iff {vs ws : List Value} {arguments : List Argument} :
    bind (vs ++ ws) = .ok arguments ↔
      ∃ as bs, bind vs = .ok as ∧ bind ws = .ok bs ∧ arguments = as ++ bs := by
  induction vs generalizing arguments with
  | nil =>
    constructor
    · exact fun h => ⟨[], arguments, rfl, h, rfl⟩
    · rintro ⟨as, bs, has, hbs, rfl⟩
      cases has
      exact hbs
  | cons v vs ih =>
    simp only [List.cons_append, bind_cons_eq_ok_iff, ih]
    constructor
    · rintro ⟨a, _, ha, ⟨as, bs, has, hbs, rfl⟩, rfl⟩
      exact ⟨a :: as, bs, ⟨a, as, ha, has, rfl⟩, hbs, rfl⟩
    · rintro ⟨_, bs, ⟨a, as, ha, has, rfl⟩, hbs, rfl⟩
      exact ⟨a, as ++ bs, ha, ⟨as, bs, has, hbs, rfl⟩, rfl⟩

/-- There is one argument for each value. -/
theorem length_of_bind {vs : List Value} {arguments : List Argument}
    (h : bind vs = .ok arguments) : arguments.length = vs.length := by
  induction vs generalizing arguments with
  | nil => cases h; rfl
  | cons v vs ih =>
    obtain ⟨a, more, -, hmore, rfl⟩ := bind_cons_eq_ok_iff.1 h
    rw [List.length_cons, List.length_cons, ih hmore]

/-! ## Literals -/

/-- A literal has an argument: an unsigned number may not be greater than the greatest BIGINT. -/
def Literal.Fits : Literal → Prop
  | .int _ | .bigInt _ => True
  | .bigUnsigned n => n.toNat ≤ Int64.maxValue.toInt

theorem Literal.bind_toValue_cases (l : Literal) :
    (l.Fits ∧ ∃ a, l.toValue.bind = .ok a) ∨ ¬ l.Fits ∧ l.toValue.bind = .error .tooLarge := by
  cases l with
  | int n => exact .inl ⟨trivial, _, rfl⟩
  | bigInt n => exact .inl ⟨trivial, _, rfl⟩
  | bigUnsigned n =>
    simp only [toValue, Value.bind, Fits]
    split
    · next h => exact .inl ⟨h, _, rfl⟩
    · next h => exact .inr ⟨h, rfl⟩

/-- Literals are bound when all of them fit. -/
theorem bind_literals_cases (ls : List Literal) :
    ((∀ l ∈ ls, l.Fits) ∧ ∃ arguments, bind (ls.map Literal.toValue) = .ok arguments) ∨
      (∃ l ∈ ls, ¬ l.Fits) ∧ bind (ls.map Literal.toValue) = .error .tooLarge := by
  induction ls with
  | nil => exact .inl ⟨nofun, [], rfl⟩
  | cons l ls ih =>
    rw [List.map_cons, bind]
    rcases l.bind_toValue_cases with ⟨hl, a, ha⟩ | ⟨hl, he⟩
    · rw [ha]
      rcases ih with ⟨hls, more, hmore⟩ | ⟨⟨l', hl', hfits⟩, he⟩
      · rw [hmore]
        exact .inl ⟨List.forall_mem_cons.2 ⟨hl, hls⟩, a :: more, rfl⟩
      · rw [he]
        exact .inr ⟨⟨l', List.mem_cons_of_mem l hl', hfits⟩, rfl⟩
    · rw [he]
      exact .inr ⟨⟨l, List.mem_cons_self, hl⟩, rfl⟩

/-- A bound statement is the text with placeholders and the arguments for the values. -/
theorem Select.bind_eq_ok_iff {s : Select} {b : Bound} :
    s.bind = .ok b ↔
      b.text = s.parameterized ∧ Sql.bind (s.values.map Literal.toValue) = .ok b.arguments := by
  have htext : (s.pieces.mapValues Literal.toValue).parameterized = s.parameterized :=
    Pieces.parameterizedFrom_mapValues Literal.toValue 1 s.pieces
  simp only [bind, Pieces.bind, Except.map_eq_ok_iff, Pieces.values_mapValues, htext]
  constructor
  · rintro ⟨arguments, h, rfl⟩
    exact ⟨rfl, h⟩
  · rintro ⟨ht, h⟩
    exact ⟨b.arguments, h, by rw [← ht]⟩

/-- A statement is bound when all of its literals fit. -/
theorem Select.bind_cases (s : Select) :
    ((∀ l ∈ s.values, l.Fits) ∧ ∃ b, s.bind = .ok b) ∨
      (∃ l ∈ s.values, ¬ l.Fits) ∧ s.bind = .error .tooLarge := by
  simp only [bind, Pieces.bind, Pieces.values_mapValues]
  rcases bind_literals_cases s.values with ⟨hfits, arguments, h⟩ | ⟨hfits, h⟩
  · exact .inl ⟨hfits, by rw [← Select.values, h]; exact ⟨_, rfl⟩⟩
  · exact .inr ⟨hfits, by rw [← Select.values, h]; rfl⟩

end Sql

end ForumSummary
