import ForumSummary.Proofs.Sql.Semantics
import Mathlib.Algebra.BigOperators.Group.Multiset.Basic

/-!
# Joins

What is in a join, and what joins make of tables that are given by things of some type: the rows of
a join are then given by pairs of things (`InnerJoin.apply_map`), and a left join of a row by the
things that meet its tests (`Subselect.joinLeft_map`). A join that follows a reference to a unique
key meets each thing at most once (`map_fst_filter_product`).
-/

namespace ForumSummary.Sql

/-! ## Pairs of things -/

section
variable {α β γ δ κ : Type}

instance decidableExistsMem (s : Multiset α) (P : α → Prop) [DecidablePred P] :
    Decidable (∃ a ∈ s, P a) :=
  Multiset.decidableExistsMultiset

theorem map_product_map (f : α → γ) (g : β → δ) (s : Multiset α) (t : Multiset β) :
    s.map f ×ˢ t.map g = (s ×ˢ t).map fun x => (f x.1, g x.2) := by
  induction s using Multiset.induction_on with
  | empty => rfl
  | cons a s ih =>
    rw [Multiset.map_cons, Multiset.cons_product, Multiset.cons_product, Multiset.map_add, ih,
      Multiset.map_map, Multiset.map_map]
    rfl

/-- What is made of selected pairs can be made for each second thing in turn. -/
theorem bind_filter_product (s : Multiset α) (t : Multiset β) (P : α × β → Prop) [DecidablePred P]
    (f : α × β → Multiset γ) :
    ((s ×ˢ t).filter P).bind f =
      t.bind fun b => (s.filter fun a => P (a, b)).bind fun a => f (a, b) := by
  have hproduct : (s ×ˢ t) = s.bind fun a => t.map (Prod.mk a) := rfl
  simp only [Multiset.bind_filter]
  rw [hproduct, Multiset.bind_assoc, Multiset.bind_bind]
  simp only [Multiset.bind_map]

/-- At most one thing has a given value of a unique key. -/
theorem filter_eq_singleton {t : Multiset β} {key : β → κ} (hkey : (t.map key).Nodup)
    {P : β → Prop} [DecidablePred P] {k : κ} (hP : ∀ b, P b → key b = k) {b : β} (hb : b ∈ t)
    (hPb : P b) : t.filter P = {b} := by
  obtain ⟨others, rfl⟩ := Multiset.exists_cons_of_mem hb
  rw [Multiset.map_cons, Multiset.nodup_cons] at hkey
  have hothers : others.filter P = 0 := by
    refine Multiset.filter_eq_nil.2 fun b' hb' hPb' => hkey.1 ?_
    rw [hP b hPb, ← hP b' hPb']
    exact Multiset.mem_map_of_mem key hb'
  rw [Multiset.filter_cons_of_pos _ hPb, hothers]
  rfl

/-- Following a reference to a unique key keeps the things whose reference leads somewhere. -/
theorem map_fst_filter_product {s : Multiset α} {t : Multiset β} {key : β → κ} {r : α → κ}
    {P : α × β → Prop} [DecidablePred P] (hkey : (t.map key).Nodup)
    (hP : ∀ x, P x → key x.2 = r x.1) :
    ((s ×ˢ t).filter P).map Prod.fst = s.filter fun a => ∃ b ∈ t, P (a, b) := by
  induction s using Multiset.induction_on with
  | empty => rfl
  | cons a s ih =>
    rw [Multiset.cons_product, Multiset.filter_add, Multiset.map_add, ih, Multiset.filter_map,
      Multiset.map_map]
    by_cases h : ∃ b ∈ t, P (a, b)
    · obtain ⟨b, hb, hPb⟩ := h
      have hfilter : t.filter (P ∘ Prod.mk a) = {b} :=
        filter_eq_singleton (k := r a) hkey (fun b' hb' => hP (a, b') hb') hb hPb
      rw [hfilter, Multiset.filter_cons_of_pos (p := fun a => ∃ b ∈ t, P (a, b)) s ⟨b, hb, hPb⟩]
      rfl
    · have hfilter : t.filter (P ∘ Prod.mk a) = 0 :=
        Multiset.filter_eq_nil.2 fun b hb hPb => h ⟨b, hb, hPb⟩
      rw [hfilter, Multiset.filter_cons_of_neg (p := fun a => ∃ b ∈ t, P (a, b)) s h]
      exact zero_add _

/-- A sum of ones counts. -/
theorem sum_map_one_eq_card (s : Multiset α) (P : α → Prop) [DecidablePred P] :
    (s.map fun a => if P a then (1 : Int) else 0).sum = (s.filter P).card := by
  induction s using Multiset.induction_on with
  | empty => rfl
  | cons a s ih =>
    rw [Multiset.map_cons, Multiset.sum_cons, ih]
    by_cases h : P a
    · rw [if_pos h, Multiset.filter_cons_of_pos _ h, Multiset.card_cons]
      omega
    · rw [if_neg h, Multiset.filter_cons_of_neg _ h, zero_add]

end

/-! ## What is in a join -/

section
variable {db : Database} {rows : Multiset Env} {e e' : Env}

theorem Table.mem_cross_iff {t : Table} :
    e ∈ t.cross db rows ↔ ∃ e₀ ∈ rows, ∃ r ∈ db t.name, e = e₀.join t.label r := by
  unfold Table.cross
  rw [Multiset.mem_map]
  constructor
  · rintro ⟨⟨e₀, r⟩, hp, rfl⟩
    obtain ⟨he₀, hr⟩ := Multiset.mem_product.1 hp
    exact ⟨e₀, he₀, r, hr, rfl⟩
  · rintro ⟨e₀, he₀, r, hr, rfl⟩
    exact ⟨(e₀, r), Multiset.mem_product.2 ⟨he₀, hr⟩, rfl⟩

theorem InnerJoin.mem_apply_iff {j : InnerJoin} :
    e ∈ j.apply db rows ↔
      (∃ e₀ ∈ rows, ∃ r ∈ db j.table.name, e = e₀.join j.table.label r) ∧ j.on.truth e = .yes := by
  unfold InnerJoin.apply
  rw [Multiset.mem_filter, Table.mem_cross_iff]

/-- A left join changes a row in the columns of its label only. -/
theorem Subselect.exists_of_mem_joinLeft {sub : Subselect} {label : String} {on : List RowTest}
    (h : e' ∈ sub.joinLeft db label on e) : ∃ r, e' = e.join label r := by
  unfold Subselect.joinLeft orAlone at h
  split at h
  · exact ⟨_, Multiset.mem_singleton.1 h⟩
  · obtain ⟨r, -, rfl⟩ := Multiset.mem_map.1 (Multiset.mem_of_mem_filter h)
    exact ⟨r, rfl⟩

theorem card_orAlone_ne_zero {α : Type} (alone : α) (s : Multiset α) :
    (orAlone alone s).card ≠ 0 := by
  unfold orAlone
  split
  · exact Nat.one_ne_zero
  · assumption

end

/-! ## Joins of given things -/

section
variable {α β : Type} {db : Database} {things : Multiset α} {others : Multiset β} {row : α → Env}
  {record : β → Record}

theorem Table.cross_singleton (t : Table) (e : Env) (h : db t.name = others.map record) :
    t.cross db {e} = others.map fun b => e.join t.label (record b) := by
  have hpairs : ({e} : Multiset Env) ×ˢ others.map record =
      others.map fun b => (e, record b) := by
    rw [← Multiset.cons_zero, Multiset.cons_product, Multiset.zero_product, add_zero,
      Multiset.map_map]
    rfl
  unfold Table.cross
  rw [h, hpairs, Multiset.map_map]
  rfl

/-- A join of given things is given by the pairs that meet its condition. -/
theorem InnerJoin.apply_map {j : InnerJoin} (h : db j.table.name = others.map record)
    {P : α × β → Prop} [DecidablePred P]
    (hP : ∀ a b, j.on.truth ((row a).join j.table.label (record b)) = .yes ↔ P (a, b)) :
    j.apply db (things.map row) =
      ((things ×ˢ others).filter P).map fun x => (row x.1).join j.table.label (record x.2) := by
  unfold InnerJoin.apply Table.cross
  rw [h, map_product_map, Multiset.map_map, Multiset.filter_map]
  congr 1
  exact Multiset.filter_congr fun x _ => hP x.1 x.2

/-- A left join with given things is given by those that meet its tests. -/
theorem Subselect.joinLeft_map {sub : Subselect} (h : sub.records db = others.map record)
    {label : String} {on : List RowTest} {e : Env} {P : β → Prop} [DecidablePred P]
    (hP : ∀ b, RowTest.truthAll (e.join label (record b)) on = .yes ↔ P b) :
    sub.joinLeft db label on e = orAlone (e.join label fun _ => .null)
      ((others.filter P).map fun b => e.join label (record b)) := by
  unfold Subselect.joinLeft
  rw [h, Multiset.map_map, Multiset.filter_map]
  congr 2
  exact Multiset.filter_congr fun b _ => hP b

end

end ForumSummary.Sql
