import ForumSummary.Proofs.Sql.Semantics

/-!
# Groups of rows

What the groups of a list of rows are: one for each combination of values that the grouping columns
take (`mem_grouped_iff`, `card_grouped`), and, where the rows are the rows of some things that the
grouping columns tell apart, one for each thing that has a row (`grouped_bind`).
-/

namespace ForumSummary.Sql

/-- The grouping columns of a group hold what they hold in its rows. -/
theorem keyColumns_map {cs : List Column} {c : Column} (h : c ∈ cs) (e : Env) :
    keyColumns cs (cs.map e) c = e c := by
  unfold keyColumns
  induction cs with
  | nil => exact nomatch h
  | cons c' cs ih =>
    rw [List.map_cons, List.zip_cons_cons, List.lookup_cons]
    cases hc : c == c' with
    | true =>
      obtain rfl := eq_of_beq hc
      rfl
    | false =>
      rcases List.mem_cons.1 h with rfl | h
      · exact absurd hc (by simp)
      · exact ih h

/-- A group is that of one of the rows. -/
theorem mem_grouped_iff {cs : List Column} {rows : Multiset Env} {g : Group} :
    g ∈ grouped cs rows ↔ ∃ e ∈ rows,
      g = ⟨keyColumns cs (cs.map e), rows.filter fun e' => cs.map e' = cs.map e⟩ := by
  unfold grouped
  rw [Multiset.mem_map]
  constructor
  · rintro ⟨key, hkey, rfl⟩
    obtain ⟨e, he, rfl⟩ := Multiset.mem_map.1 (Multiset.mem_dedup.1 hkey)
    exact ⟨e, he, rfl⟩
  · rintro ⟨e, he, rfl⟩
    exact ⟨cs.map e, Multiset.mem_dedup.2 (Multiset.mem_map_of_mem _ he), rfl⟩

theorem card_grouped (cs : List Column) (rows : Multiset Env) :
    (grouped cs rows).card = (rows.map fun e => cs.map e).dedup.card :=
  Multiset.card_map _ _

/-- Two ways of naming rows apart that agree name equally many. -/
theorem card_dedup_map_eq {α β γ : Type} [DecidableEq β] [DecidableEq γ] {f : α → β} {g : α → γ}
    {s : Multiset α} (h : ∀ a ∈ s, ∀ b ∈ s, f a = f b ↔ g a = g b) :
    (s.map f).dedup.card = (s.map g).dedup.card := by
  induction s using Multiset.induction_on with
  | empty => rfl
  | cons a s ih =>
    have hs := ih fun b hb c hc => h b (Multiset.mem_cons_of_mem hb) c (Multiset.mem_cons_of_mem hc)
    have hmem : f a ∈ s.map f ↔ g a ∈ s.map g := by
      rw [Multiset.mem_map, Multiset.mem_map]
      constructor
      · rintro ⟨b, hb, hba⟩
        exact ⟨b, hb, (h b (Multiset.mem_cons_of_mem hb) a (Multiset.mem_cons_self a s)).1 hba⟩
      · rintro ⟨b, hb, hba⟩
        exact ⟨b, hb, (h b (Multiset.mem_cons_of_mem hb) a (Multiset.mem_cons_self a s)).2 hba⟩
    rw [Multiset.map_cons, Multiset.map_cons]
    by_cases ha : f a ∈ s.map f
    · rw [Multiset.dedup_cons_of_mem ha, Multiset.dedup_cons_of_mem (hmem.1 ha), hs]
    · rw [Multiset.dedup_cons_of_notMem ha, Multiset.dedup_cons_of_notMem (ha ∘ hmem.2),
        Multiset.card_cons, Multiset.card_cons, hs]

section
variable {α : Type} {cs : List Column} {key : α → List Datum} {rowsOf : α → Multiset Env}
  {things : Multiset α}

/-- The rows with the values of one thing are the rows of that thing. -/
theorem filter_bind_key (hkey : (things.map key).Nodup)
    (hrows : ∀ a ∈ things, ∀ e ∈ rowsOf a, cs.map e = key a) {a : α} (ha : a ∈ things) :
    ((things.bind rowsOf).filter fun e => cs.map e = key a) = rowsOf a := by
  obtain ⟨others, rfl⟩ := Multiset.exists_cons_of_mem ha
  rw [Multiset.map_cons, Multiset.nodup_cons] at hkey
  rw [Multiset.cons_bind, Multiset.filter_add, Multiset.filter_bind]
  have hself : (rowsOf a).filter (fun e => cs.map e = key a) = rowsOf a :=
    Multiset.filter_eq_self.2 (hrows a ha)
  have hothers : (others.bind fun b => (rowsOf b).filter fun e => cs.map e = key a) = 0 := by
    rw [Multiset.bind_congr (g := fun _ => 0), Multiset.bind_zero]
    intro b hb
    rw [Multiset.filter_eq_nil]
    intro e he hea
    rw [hrows b (Multiset.mem_cons_of_mem hb) e he] at hea
    exact hkey.1 (hea ▸ Multiset.mem_map_of_mem key hb)
  rw [hself, hothers, add_zero]

/-- The groups of the rows of some things that the grouping columns tell apart are the rows of each
thing that has a row. -/
theorem grouped_bind (hkey : (things.map key).Nodup)
    (hrows : ∀ a ∈ things, ∀ e ∈ rowsOf a, cs.map e = key a) :
    grouped cs (things.bind rowsOf) =
      (things.filter fun a => (rowsOf a).card ≠ 0).map fun a =>
        ⟨keyColumns cs (key a), rowsOf a⟩ := by
  -- The keys that occur are those of the things with a row, each once.
  have hkeys : ((things.bind rowsOf).map fun e => cs.map e).dedup =
      (things.filter fun a => (rowsOf a).card ≠ 0).map key := by
    refine (Multiset.Nodup.ext (Multiset.nodup_dedup _) (Multiset.nodup_of_le
      (Multiset.map_le_map (Multiset.filter_le _ _)) hkey)).2 fun k => ?_
    simp only [Multiset.mem_dedup, Multiset.mem_map, Multiset.mem_bind, Multiset.mem_filter]
    constructor
    · rintro ⟨e, ⟨a, ha, he⟩, rfl⟩
      refine ⟨a, ⟨ha, fun hcard => ?_⟩, (hrows a ha e he).symm⟩
      rw [Multiset.card_eq_zero.1 hcard] at he
      exact absurd he (Multiset.notMem_zero e)
    · rintro ⟨a, ⟨ha, hcard⟩, rfl⟩
      obtain ⟨e, he⟩ := Multiset.card_pos_iff_exists_mem.1 (Nat.pos_of_ne_zero hcard)
      exact ⟨e, ⟨a, ha, he⟩, hrows a ha e he⟩
  unfold grouped
  rw [hkeys, Multiset.map_map]
  refine Multiset.map_congr rfl fun a ha => ?_
  rw [Function.comp_apply, filter_bind_key hkey hrows (Multiset.mem_of_mem_filter ha)]

end

end ForumSummary.Sql
