import ForumSummary.Export.Format
import ForumSummary.Report.Request
import ForumSummary.Text.Split

/-!
# Arguments of the program

The program runs one of three commands, or tells its usage or its version. Options are written
`--name value` or `--name=value`; a value in an argument of its own does not begin with a minus
sign, unless it is nothing else. Only groups may be given more than once. After `--` nothing may
follow. Arguments are read from the left, so a call for help counts when nothing wrong stands before
it.
-/

namespace ForumSummary.CommandLine

/-- The options of an export, as far as they are given. -/
structure ExportOptions where
  course : Option Int64 := none
  forum : Option Int64 := none
  groups : List Int64 := []
  dateFrom : Option Int64 := none
  dateTo : Option Int64 := none
  sort : Option String := none
  direction : Option String := none
  format : Option String := none
  deriving DecidableEq, Repr

/-- A command. -/
inductive Command where
  | serve
  | migrate
  | exportReport (o : ExportOptions)
  deriving DecidableEq, Repr

/-- What arguments ask for. -/
inductive Invocation where
  | help
  | version
  | run (c : Command)
  deriving DecidableEq, Repr

/-- The forms of an argument. -/
inductive Token where
  /-- Two minus signs alone. -/
  | endOfOptions
  /-- Two minus signs and a name, with the text after an equals sign if there is one. -/
  | long (name : String) (value : Option String)
  /-- A minus sign and letters, of which the first decides. -/
  | short (first : Char)
  /-- Any other text. -/
  | word (text : String)
  deriving DecidableEq, Repr

/-- The form of an argument. -/
def Token.ofText (text : String) : Token :=
  match text.toList with
  | ['-', '-'] => .endOfOptions
  | '-' :: '-' :: r =>
    let (name, value) := Text.splitFirst '=' r
    .long (String.ofList name) (value.map String.ofList)
  | '-' :: c :: _ => .short c
  | _ => .word text

namespace ExportOptions

/-- Reads an integer. -/
def integer? (text : String) : Option Int64 :=
  (Numeral.readInt64 text.toList).toOption

/-- Fills an option that is still empty. -/
def fill {α : Type} (current : Option α) (value : Option α) : Option (Option α) :=
  match current with
  | some _ => none
  | none => value.map some

/-- Takes in an option; none when its name is unknown, its value does not read, or it comes again.
-/
def put (o : ExportOptions) (name value : String) : Option ExportOptions :=
  match name with
  | "course" => do return { o with course := ← fill o.course (integer? value) }
  | "forum" => do return { o with forum := ← fill o.forum (integer? value) }
  | "group" => do return { o with groups := o.groups ++ [← integer? value] }
  | "from" => do return { o with dateFrom := ← fill o.dateFrom (integer? value) }
  | "to" => do return { o with dateTo := ← fill o.dateTo (integer? value) }
  | "sort" => do return { o with sort := ← fill o.sort (some value) }
  | "dir" => do return { o with direction := ← fill o.direction (some value) }
  | "format" => do return { o with format := ← fill o.format (some value) }
  | _ => none

/-- The request and the format of the options. -/
def toRequest (o : ExportOptions) : Except ReportError (Report.Request × Export.Format) := do
  let column ← SortColumn.ofText (o.sort.getD SortColumn.fullname.name)
  let direction ← SortDirection.ofText (o.direction.getD SortDirection.asc.name)
  let format ← Export.Format.ofText (o.format.getD Export.Format.csv.name)
  let request : Report.Request := {
    courseId := o.course.getD 0
    forumId := o.forum.getD 0
    groups := o.groups
    dateFrom := o.dateFrom
    dateTo := o.dateTo
    order := ⟨column, direction⟩ }
  return (request, format)

end ExportOptions

namespace Invocation

/-- Reads the options of an export; none for a mistake in usage. -/
def ofExportOptions (o : ExportOptions) : List String → Option Invocation
  | [] => some (.run (.exportReport o))
  | argument :: rest =>
    match Token.ofText argument, rest with
    | .endOfOptions, [] => some (.run (.exportReport o))
    | .long "help" none, _ => some .help
    | .short 'h', _ => some .help
    | .long name (some value), rest => (o.put name value).bind (ofExportOptions · rest)
    | .long name none, value :: rest =>
      match Token.ofText value with
      | .word _ => (o.put name value).bind (ofExportOptions · rest)
      | _ => none
    | _, _ => none

/-- Reads the arguments of a command without options. -/
def withoutOptions (c : Command) : List String → Option Invocation
  | [] => some (.run c)
  | argument :: rest =>
    match Token.ofText argument with
    | .endOfOptions => if rest.isEmpty then some (.run c) else none
    | .long "help" none => some .help
    | .short 'h' => some .help
    | _ => none

/-- Reads what help is asked about: nothing, or one command. -/
def ofHelpTopics : List String → Option Invocation
  | [] => some .help
  | [topic] => if topic ∈ ["serve", "migrate", "export", "help"] then some .help else none
  | _ => none

/-- Reads the arguments of the program; none for a mistake in usage. -/
def ofArguments : List String → Option Invocation
  | [] => some (.run .serve)
  | argument :: rest =>
    match Token.ofText argument with
    | .endOfOptions => if rest.isEmpty then some (.run .serve) else none
    | .long "help" none => some .help
    | .long "version" none => some .version
    | .short 'h' => some .help
    | .short 'V' => some .version
    | .word "serve" => withoutOptions .serve rest
    | .word "migrate" => withoutOptions .migrate rest
    | .word "export" => ofExportOptions {} rest
    | .word "help" => ofHelpTopics rest
    | _ => none

end Invocation

end ForumSummary.CommandLine
