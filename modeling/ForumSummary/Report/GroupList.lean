import ForumSummary.Error
import ForumSummary.Text.Blank
import ForumSummary.Text.Split

/-!
# Lists of groups

A list of groups is written as ids between commas. Blanks around an id do not matter, and pieces
without an id are passed over. One piece that is no id spoils the whole list.
-/

namespace ForumSummary.Report

/-- The pieces of a list that are not blank, without the blanks around them. -/
def groupPieces (text : List Char) : List (List Char) :=
  ((Text.split ',' text).map Text.trim).filter (!·.isEmpty)

/-- Reads a list of group ids. -/
def groupsOfText (text : String) : Except ReportError (List Int64) :=
  match (groupPieces text.toList).mapM Numeral.readInt64 with
  | .ok ids => .ok ids
  | .error _ => .error (.invalidGroupList text)

end ForumSummary.Report
