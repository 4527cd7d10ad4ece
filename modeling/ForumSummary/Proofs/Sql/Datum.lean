import ForumSummary.Sql.Statement
import Mathlib.Data.Multiset.Filter

/-!
# Data and truth values

What the tables of a database hold (`Datum`), and what a condition on it comes to (`Truth`). A null
is a value that is not known. A comparison with it is neither true nor false but unknown, and the
unknown is carried through conjunctions and disjunctions; a clause that selects rows keeps those
for which its condition is true. The lemmas here say when that is the case.
-/

namespace ForumSummary.Sql

/-- A value in a table. -/
inductive Datum where
  | null
  | integer (n : Int)
  | text (s : String)
  deriving DecidableEq, Repr

/-- What a condition comes to. -/
inductive Truth where
  | yes
  | no
  | unknown
  deriving DecidableEq, Repr

namespace Truth

/-- The truth value of a condition that is known to hold or not to hold. -/
def ofBool : Bool → Truth
  | true => yes
  | false => no

/-- A conjunction. One part that is false decides it, and else one that is unknown. -/
def all (ts : List Truth) : Truth :=
  if no ∈ ts then no else if unknown ∈ ts then unknown else yes

/-- A disjunction. One part that is true decides it, and else one that is unknown. -/
def any (ts : Multiset Truth) : Truth :=
  if yes ∈ ts then yes else if unknown ∈ ts then unknown else no

@[simp] theorem ofBool_eq_yes_iff {b : Bool} : ofBool b = yes ↔ b = true := by
  cases b <;> decide

/-- A conjunction is true when every part is. -/
@[simp] theorem all_eq_yes_iff {ts : List Truth} : all ts = yes ↔ ∀ t ∈ ts, t = yes := by
  unfold all
  constructor
  · intro h t ht
    split at h
    · cases h
    · split at h
      · cases h
      · next hno hun =>
        cases t with
        | yes => rfl
        | no => exact absurd ht hno
        | unknown => exact absurd ht hun
  · intro h
    have hno : no ∉ ts := fun hm => Truth.noConfusion (h _ hm)
    have hun : unknown ∉ ts := fun hm => Truth.noConfusion (h _ hm)
    rw [if_neg hno, if_neg hun]

/-- A disjunction is true when some part is. -/
@[simp] theorem any_eq_yes_iff {ts : Multiset Truth} : any ts = yes ↔ yes ∈ ts := by
  unfold any
  constructor
  · intro h
    split at h
    · assumption
    · split at h <;> cases h
  · intro h
    rw [if_pos h]

end Truth

/-! ## Comparisons -/

/-- Whether a comparison of two numbers holds. -/
def Comparison.holds : Comparison → Int → Int → Bool
  | .equal, m, n => m = n
  | .atLeast, m, n => n ≤ m
  | .atMost, m, n => m ≤ n

namespace Datum

/-- Whether two values are equal. -/
def same (a b : Datum) : Truth :=
  if a = null ∨ b = null then .unknown else .ofBool (a = b)

/-- Whether a value compares with a number. A text never does. -/
def compare (op : Comparison) (n : Int) : Datum → Truth
  | null => .unknown
  | integer m => .ofBool (op.holds m n)
  | text _ => .no

/-- Two values are known to be equal when they are one value and not null. -/
theorem same_eq_yes_iff {a b : Datum} : a.same b = .yes ↔ a = b ∧ a ≠ null := by
  unfold same
  split
  · next h =>
    constructor
    · intro hc
      cases hc
    · rintro ⟨rfl, ha⟩
      exact absurd (h.elim id id) ha
  · next h =>
    rw [Truth.ofBool_eq_yes_iff, decide_eq_true_iff]
    exact ⟨fun hab => ⟨hab, fun ha => h (.inl ha)⟩, fun hab => hab.1⟩

end Datum

end ForumSummary.Sql
