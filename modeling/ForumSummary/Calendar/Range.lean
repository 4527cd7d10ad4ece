import ForumSummary.Calendar.Selection

/-!
# Ranges of moments

Two selections become a range of moments: from the first second of one day to the last second of the
other. A side that is not used is 0, and so is one that is no date, which also gets a warning. A
range that runs backwards gets a warning of its own; a side that is not positive sets no bound.
-/

namespace ForumSummary.Calendar

/-- Why a range must not be used: its text, and which input it is about. -/
inductive Warning where
  | invalidFrom (e : ReportError)
  | invalidTo (e : ReportError)
  | backwards

namespace Warning

/-- The input that a warning is about. -/
def item : Warning → String
  | .invalidFrom _ => "datefrom"
  | .invalidTo _ => "dateto"
  | .backwards => "dates"

/-- The code of a warning. -/
def code : Warning → String
  | .invalidFrom _ | .invalidTo _ => "invaliddate"
  | .backwards => "invaliddaterange"

/-- The wording of a warning. -/
def message : Warning → String
  | .invalidFrom e => "The 'From' date is invalid: " ++ e.message ++ "."
  | .invalidTo e => "The 'To' date is invalid: " ++ e.message ++ "."
  | .backwards => "The 'From' date must be before the 'To' date."

/-- A warning as JSON. -/
def toJson (w : Warning) : Json :=
  .object [
    ("item", .string w.item),
    ("warningcode", .string w.code),
    ("message", .string w.message)]

end Warning

/-- A range of moments, and the warnings against it. -/
structure Range where
  start : Int64
  stop : Int64
  warnings : List Warning

namespace Range

/-- The range may be used. -/
def isValid (r : Range) : Bool :=
  r.warnings.isEmpty

/-- The moment of a side: 0 when it is not used or is no date, with a warning in the second case. -/
def side (moment : Selection → Except ReportError Int64) (warning : ReportError → Warning)
    (selection : Option Selection) : Int64 × List Warning :=
  match selection.filter (·.enabled) with
  | none => (0, [])
  | some s =>
    match moment s with
    | .ok t => (t, [])
    | .error e => (0, [warning e])

/-- The range that two selections stand for. -/
def ofSelections (s : Selections) : Range :=
  let (start, fromWarnings) := side Selection.firstSecond .invalidFrom s.dateFrom
  let (stop, toWarnings) := side Selection.lastSecond .invalidTo s.dateTo
  let backwards := if 0 < start ∧ 0 < stop ∧ stop < start then [Warning.backwards] else []
  { start, stop, warnings := fromWarnings ++ toWarnings ++ backwards }

/-- A range as JSON. -/
def toJson (r : Range) : Json :=
  .object [
    ("timestampfrom", .ofInt64 r.start),
    ("timestampto", .ofInt64 r.stop),
    ("warnings", .ofList Warning.toJson r.warnings)]

end Range

end ForumSummary.Calendar
