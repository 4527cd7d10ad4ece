import ForumSummary.CommandLine.Config
import ForumSummary.Proofs.Except
import ForumSummary.Proofs.Text.Signed

/-!
# Environments that configure the program

The address of the database must be set, and the variables that hold numbers must denote numbers of
their size where they are set (`Configures`). Any other environment is refused
(`exists_ofEnvironment_iff`).
-/

namespace ForumSummary.CommandLine

open Numeral

variable {env : Environment}

/-- A text denotes a number of at most the given bits, without a minus sign. -/
def DenotesWord (bits : Nat) (text : String) : Prop :=
  ∃ n : Nat, Denotes text.toList n ∧ text.toList.head? ≠ some '-' ∧ n < 2 ^ bits

/-- The variables that hold numbers, and the bits that the numbers have. -/
def numberVariables : List (String × Nat) :=
  [("PORT", 16), ("DATABASE_MAX_CONNECTIONS", 32), ("REPORT_DEFAULT_PER_PAGE", 32),
    ("REPORT_MAX_PER_PAGE", 32), ("REPORT_STATEMENT_TIMEOUT_SECS", 64)]

/-- An environment configures the program: the address of the database is set, and so are numbers,
where they are. -/
structure Configures (env : Environment) : Prop where
  address : env "DATABASE_URL" ≠ none
  numbers : ∀ v ∈ numberVariables, ∀ text, env v.1 = some text → DenotesWord v.2 text

/-- Only a minus sign makes a number negative. -/
theorem exists_nat_of_denotes {cs : List Char} {n : Int} (h : Denotes cs n)
    (hhead : cs.head? ≠ some '-') : ∃ m : Nat, n = m := by
  cases h with
  | unsigned | plus => exact ⟨_, rfl⟩
  | minus => exact absurd rfl hhead

theorem exists_map_readBetween_iff {α : Type} {ofInt : Int → α} {bits : Nat} {text : String} :
    (∃ a, (readBetween 0 (2 ^ bits - 1) text.toList).map ofInt = .ok a) ↔
      DenotesWord bits text := by
  have hpos : (0 : Int) < 2 ^ bits := by positivity
  have hread {n : Int} := @readBetween_zero_eq_ok_iff text.toList n (2 ^ bits - 1) (by omega)
  have hlt (n : Nat) : (n : Int) ≤ 2 ^ bits - 1 ↔ n < 2 ^ bits := by
    rw [Int.le_sub_one_iff]
    exact_mod_cast Iff.rfl
  constructor
  · rintro ⟨a, ha⟩
    obtain ⟨n, hn, -⟩ := Except.map_eq_ok_iff.1 ha
    obtain ⟨hdenotes, hhead, hle⟩ := hread.1 hn
    obtain ⟨m, rfl⟩ := exists_nat_of_denotes hdenotes hhead
    exact ⟨m, hdenotes, hhead, (hlt m).1 hle⟩
  · rintro ⟨n, hdenotes, hhead, hle⟩
    exact ⟨_, Except.map_eq_ok_iff.2 ⟨n, hread.2 ⟨hdenotes, hhead, (hlt n).2 hle⟩, rfl⟩⟩

namespace Config

/-- A number is read when its variable is not set or denotes one. -/
theorem exists_number_iff {α : Type} {name : String} {bits : Nat}
    {read : List Char → Except Numeral.Error α} {default : α}
    (hread : ∀ text : String, (∃ a, read text.toList = .ok a) ↔ DenotesWord bits text) :
    (∃ a, number env name bits read default = .ok a) ↔
      ∀ text, env name = some text → DenotesWord bits text := by
  unfold number
  cases env name with
  | none => exact iff_of_true ⟨default, rfl⟩ nofun
  | some text =>
    have herror : (∃ a, (read text.toList).mapError (fun _ => ConfigError.invalid name bits) =
        .ok a) ↔ ∃ a, read text.toList = .ok a := by
      cases read text.toList with
      | error e => exact iff_of_false nofun nofun
      | ok a => exact iff_of_true ⟨a, rfl⟩ ⟨a, rfl⟩
    rw [herror, hread]
    exact ⟨fun h text' htext' => Option.some.inj htext' ▸ h, fun h => h text rfl⟩

/-- An environment is read when and only when it configures the program. -/
theorem exists_ofEnvironment_iff :
    (∃ c, ofEnvironment env = .ok c) ↔ Configures env := by
  have hword16 (text : String) : (∃ a, readUInt16 text.toList = .ok a) ↔ DenotesWord 16 text :=
    @exists_map_readBetween_iff _ _ 16 text
  have hword32 (text : String) : (∃ a, readUInt32 text.toList = .ok a) ↔ DenotesWord 32 text :=
    @exists_map_readBetween_iff _ _ 32 text
  have hword64 (text : String) : (∃ a, readUInt64 text.toList = .ok a) ↔ DenotesWord 64 text :=
    @exists_map_readBetween_iff _ _ 64 text
  constructor
  · rintro ⟨c, h⟩
    unfold ofEnvironment at h
    obtain ⟨listenOn, hlisten, h⟩ := Except.bind_eq_ok_iff.1 h
    cases hurl : env "DATABASE_URL" with
    | none =>
      rw [hurl] at h
      cases h
    | some url =>
      simp only [hurl, pure_bind] at h
      obtain ⟨connections, hconnections, h⟩ := Except.bind_eq_ok_iff.1 h
      obtain ⟨usual, husual, h⟩ := Except.bind_eq_ok_iff.1 h
      obtain ⟨greatest, hgreatest, h⟩ := Except.bind_eq_ok_iff.1 h
      obtain ⟨seconds, hseconds, -⟩ := Except.bind_eq_ok_iff.1 h
      refine ⟨by rw [hurl]; exact Option.some_ne_none url, ?_⟩
      simp only [numberVariables, List.forall_mem_cons]
      exact ⟨(exists_number_iff hword16).1 ⟨_, hlisten⟩,
        (exists_number_iff hword32).1 ⟨_, hconnections⟩,
        (exists_number_iff hword32).1 ⟨_, husual⟩, (exists_number_iff hword32).1 ⟨_, hgreatest⟩,
        (exists_number_iff hword64).1 ⟨_, hseconds⟩, nofun⟩
  · rintro ⟨haddress, hnumbers⟩
    simp only [numberVariables, List.forall_mem_cons] at hnumbers
    obtain ⟨hlisten, hconnections, husual, hgreatest, hseconds, -⟩ := hnumbers
    obtain ⟨url, hurl⟩ := Option.ne_none_iff_exists'.1 haddress
    obtain ⟨listenOn, hlisten⟩ := (exists_number_iff hword16).2 hlisten
    obtain ⟨connections, hconnections⟩ := (exists_number_iff hword32).2 hconnections
    obtain ⟨usual, husual⟩ := (exists_number_iff hword32).2 husual
    obtain ⟨greatest, hgreatest⟩ := (exists_number_iff hword32).2 hgreatest
    obtain ⟨seconds, hseconds⟩ := (exists_number_iff hword64).2 hseconds
    unfold ofEnvironment
    rw [hlisten, hconnections, husual, hgreatest, hseconds, hurl]
    exact ⟨_, rfl⟩

end Config

end ForumSummary.CommandLine
