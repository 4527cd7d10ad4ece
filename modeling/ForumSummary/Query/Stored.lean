import ForumSummary.Query.Basic

/-!
# Queries as JSON

A query is written as its course and an object of filters by kind. What is read back (`Stored`) is
any list of filters under names of kinds. It is accepted as a query when every filter that is kept,
the last one under each name, is of the kind that it stands under.
-/

namespace ForumSummary.Query

/-- A query as JSON: the filters stand under the names of their kinds, in order. -/
def toJson (q : Query) : Json :=
  .object [
    ("course_id", .ofInt64 q.courseId),
    ("filters", .object (q.filters.map fun f => (f.kind.name, f.toJson)))]

/-- What a JSON text holds for a query: a course, and filters under names of kinds. -/
structure Stored where
  courseId : Int64
  entries : List (Filter.Kind × Filter)
  deriving DecidableEq, Repr

namespace Stored

/-- The filter that is kept under a kind: the last one. -/
def kept (s : Stored) (kind : Filter.Kind) : Option Filter :=
  s.entries.reverse.lookup kind

/-- A kind and the filter of another kind that is kept under it, if one is. -/
def mismatchAt? (s : Stored) (kind : Filter.Kind) : Option (Filter.Kind × Filter) :=
  match s.kept kind with
  | some f => if f.kind = kind then none else some (kind, f)
  | none => none

/-- The first kind, in order, under which a filter of another kind is kept, and that filter. -/
def mismatch? (s : Stored) : Option (Filter.Kind × Filter) :=
  Filter.Kind.all.findSome? s.mismatchAt?

/-- The query with the kept filters. -/
def toQuery (s : Stored) : Except ReportError Query :=
  match s.mismatch? with
  | some (k, f) => .error (.mismatchedFilterKey k f.kind)
  | none => .ok ((Filter.Kind.all.filterMap s.kept).foldl Query.set (ofCourse s.courseId))

open Json (Outline Failure) in
/-- Reads filters under names of kinds, in text order. -/
def decodeMembers (level : Nat) :
    List (Option String × Outline) → Except Failure (List (Filter.Kind × Filter))
  | [] => .ok []
  | (some name, o) :: more => do
    let kind ← Json.Decoder.choose Filter.Kind.byName name
    let f ← Json.under (.member name) (Filter.decode level o)
    return (kind, f) :: (← decodeMembers level more)
  | (none, _) :: _ => .error .malformed

/-- Reads an object of filters inside `level` containers. -/
def decodeEntries (level : Nat) : Json.Decoder (List (Filter.Kind × Filter))
  | .object members closed => do
    let entries ← decodeMembers (level + 1) members
    Json.ensureClosed closed
    return entries
  | o => Json.wrongType "a map" o

/-- The fields of a stored query. -/
def record : Json.Record Stored :=
  Stored.mk <$> .required "course_id" Json.Decoder.int64
    <*> .defaulted "filters" [] (decodeEntries 1)

/-- Reads a stored query. -/
def decode : Json.Decoder Stored :=
  record.decode "struct StoredQuery"

end Stored

/-- Reads a query. -/
def decode : Json.Decoder Query := fun o => do
  let stored ← Stored.decode o
  match stored.toQuery with
  | .ok q => return q
  | .error e => Json.fail (.rejected e.message)

/-- Reads a query from a JSON text. -/
def ofText (text : String) : Except Json.Failure Query :=
  decode.ofText text

end ForumSummary.Query
