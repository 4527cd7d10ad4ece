import ForumSummary.CommandLine.Arguments
import ForumSummary.Proofs.Text.Numeral
import ForumSummary.Proofs.Text.Pieces

/-!
# Options are read as they are written

An option with its value behind an equals sign is one argument, whatever the value is
(`ofText_optionText`). So the options of an export are put one after the other, as they are written,
until one of them is refused (`ofExportOptions_map_optionText`).
-/

namespace ForumSummary.CommandLine

/-- An option as it is written in one argument: its name and its value. -/
def optionText (option : String × String) : String :=
  "--" ++ option.1 ++ "=" ++ option.2

theorem Token.ofText_optionText {option : String × String} (h : '=' ∉ option.1.toList) :
    Token.ofText (optionText option) = .long option.1 (some option.2) := by
  have hchars : (optionText option).toList =
      '-' :: '-' :: (option.1.toList ++ '=' :: option.2.toList) := by
    simp [optionText]
  have hsplit := Text.splitFirst_append h option.2.toList
  -- Something follows the two minus signs, so they do not end the options.
  cases hrest : option.1.toList ++ '=' :: option.2.toList with
  | nil => exact absurd hrest (List.append_ne_nil_of_right_ne_nil _ (List.cons_ne_nil _ _))
  | cons c r =>
    rw [hrest] at hchars hsplit
    simp only [Token.ofText, hchars, hsplit, Option.map_some, String.ofList_toList]

namespace ExportOptions

/-- Takes in an option that is given as a pair. -/
def putPair (o : ExportOptions) (option : String × String) : Option ExportOptions :=
  o.put option.1 option.2

theorem integer?_text (n : Int64) : integer? (Numeral.text n.toInt) = some n := by
  rw [integer?, Numeral.readInt64_text]
  rfl

/-- Options for groups are collected. -/
theorem foldlM_groups (ids : List Int64) (o : ExportOptions) :
    (ids.map fun id => ("group", Numeral.text id.toInt)).foldlM putPair o =
      some { o with groups := o.groups ++ ids } := by
  induction ids generalizing o with
  | nil => simp
  | cons id more ih =>
    have hput : o.putPair ("group", Numeral.text id.toInt) =
        some { o with groups := o.groups ++ [id] } := by
      simp [putPair, put, integer?_text]
    rw [List.map_cons, List.foldlM_cons, hput]
    exact (ih _).trans (by simp)

end ExportOptions

namespace Invocation

open ExportOptions (putPair)

theorem ofExportOptions_cons {option : String × String} (h : '=' ∉ option.1.toList)
    (o : ExportOptions) (rest : List String) :
    ofExportOptions o (optionText option :: rest) =
      (o.putPair option).bind (ofExportOptions · rest) := by
  rw [ofExportOptions.eq_def]
  simp only [Token.ofText_optionText h]
  rfl

/-- The options of an export are put in the order in which they are written. -/
theorem ofExportOptions_map_optionText {options : List (String × String)}
    (h : ∀ option ∈ options, '=' ∉ option.1.toList) (o : ExportOptions) :
    ofExportOptions o (options.map optionText) =
      (options.foldlM putPair o).map fun o => .run (.exportReport o) := by
  induction options generalizing o with
  | nil => rfl
  | cons option more ih =>
    obtain ⟨hoption, hmore⟩ := List.forall_mem_cons.1 h
    rw [List.map_cons, ofExportOptions_cons hoption, List.foldlM_cons]
    cases o.putPair option with
    | none => rfl
    | some o' => exact ih hmore o'

end Invocation

end ForumSummary.CommandLine
