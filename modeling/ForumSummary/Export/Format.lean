import ForumSummary.SortOrder

/-!
# Download formats

A table is downloaded as comma-separated values or as JSON. Names of formats are read without regard
to ASCII case.
-/

namespace ForumSummary.Export

/-- The form of a download. -/
inductive Format where
  | csv
  | json
  deriving DecidableEq, Repr

namespace Format

/-- Both formats. -/
def all : List Format :=
  [.csv, .json]

/-- The name of a format, which is also the extension of its files. -/
def name : Format → String
  | .csv => "csv"
  | .json => "json"

/-- The content type of a format. -/
def contentType : Format → String
  | .csv => "text/csv; charset=utf-8"
  | .json => "application/json"

/-- Reads the name of a format in any case. -/
def ofText (s : String) : Except ReportError Format :=
  match all.find? (·.name = lowerAscii s) with
  | some f => .ok f
  | none => .error (.invalidExportFormat s)

/-- Reads a format from JSON. -/
def decode : Json.Decoder Format :=
  Json.Decoder.variant (all.map fun f => (f.name, f))

theorem ofText_name (f : Format) : ofText f.name = .ok f := by
  cases f <;> rfl

end Format

end ForumSummary.Export
