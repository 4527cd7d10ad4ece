import ForumSummary.Error
import ForumSummary.Json.Record
import ForumSummary.Sql.Statement

/-!
# Filters

A filter narrows a report to one forum, to posts from or up to a moment, or to the members of
groups. `contribution` says what a filter adds to a statement: entries of the select list,
conditions on the posts that are counted, conditions on the users that are listed, and named
parameters.
-/

namespace ForumSummary

/-- A restriction of a report. Moments are in seconds since 1970. A list of groups that is empty or
holds `allGroups` restricts nothing. -/
inductive Filter where
  | forum (id : Int64)
  | dateFrom (moment : Int64)
  | dateTo (moment : Int64)
  | groups (ids : List Int64)
  deriving DecidableEq, Repr

/-- The group id that stands for all groups. -/
def allGroups : Int64 := 0

/-! ## Names in the report's statements -/

/-- A column of the enrolments. -/
def enrolmentColumn (name : String) : Sql.Column := ⟨"e", name⟩

/-- A column of the enrolled users. -/
def userColumn (name : String) : Sql.Column := ⟨"u", name⟩

/-- A column of the posts of the course. -/
def postColumn (name : String) : Sql.Column := ⟨"p", name⟩

/-- A column of the group memberships. -/
def membershipColumn (name : String) : Sql.Column := ⟨"gm", name⟩

namespace Filter

/-- The kind of a filter. -/
def kind : Filter → Kind
  | .forum _ => .forum
  | .dateFrom _ => .dateFrom
  | .dateTo _ => .dateTo
  | .groups _ => .groups

/-- The filter of a kind with the given values. All kinds but groups take exactly one. -/
def ofValues (kind : Kind) (values : List Int64) : Except ReportError Filter :=
  match kind, values with
  | .forum, [v] => .ok (.forum v)
  | .dateFrom, [v] => .ok (.dateFrom v)
  | .dateTo, [v] => .ok (.dateTo v)
  | .groups, vs => .ok (.groups vs)
  | kind, vs => .error (.invalidFilterArity kind vs.length)

/-- The values of a filter. -/
def values : Filter → List Int64
  | .forum v => [v]
  | .dateFrom v => [v]
  | .dateTo v => [v]
  | .groups vs => vs

theorem ofValues_kind_values (f : Filter) : ofValues f.kind f.values = .ok f := by
  cases f <;> rfl

theorem kind_of_ofValues {k : Kind} {vs : List Int64} {f : Filter} (h : ofValues k vs = .ok f) :
    f.kind = k := by
  unfold ofValues at h
  split at h <;> cases h <;> rfl

/-! ## What a filter adds to a statement -/

/-- What a filter adds to a statement. -/
structure Contribution where
  /-- Entries of the select list. -/
  outputs : List Sql.Output := []
  /-- Conditions on the posts that are counted. -/
  postTests : List Sql.RowTest := []
  /-- Conditions on the users that are listed. -/
  conditions : List Sql.Condition := []
  /-- Only users with a counted post are listed. -/
  requiresPost : Bool := false
  /-- Parameters by name. -/
  params : List (String × Int64) := []
  deriving DecidableEq, Repr

/-- The group ids that restrict a report: none when the list is empty or holds `allGroups`. -/
def effectiveGroups (ids : List Int64) : List Int64 :=
  if allGroups ∈ ids then [] else ids

/-- The members of any of some groups. -/
def membersOf (ids : List Int64) : Sql.Subselect where
  columns := [membershipColumn "user_id"]
  source := ⟨"group_member", "gm"⟩
  joins := []
  condition := .oneOf (membershipColumn "group_id") (ids.map .bigInt)

/-- Parameters for group ids, numbered from `n` on. -/
def groupParams (n : Nat) : List Int64 → List (String × Int64)
  | [] => []
  | id :: ids => ("groupid" ++ Numeral.natText n, id) :: groupParams (n + 1) ids

/-- What a filter adds to a statement. -/
def contribution : Filter → Contribution
  | .forum id =>
    { outputs := [⟨.literal (.bigInt id), some "forum_id"⟩]
      postTests := [.compare (postColumn "forum_id") .equal (.bigInt id)]
      params := [("forumid", id)] }
  | .dateFrom moment =>
    { postTests := [.compare (postColumn "created") .atLeast (.bigInt moment)]
      requiresPost := true
      params := [("datefrom", moment)] }
  | .dateTo moment =>
    { postTests := [.compare (postColumn "created") .atMost (.bigInt moment)]
      requiresPost := true
      params := [("dateto", moment)] }
  | .groups ids =>
    match effectiveGroups ids with
    | [] => {}
    | effective =>
      { conditions := [.member (userColumn "id") (membersOf effective)]
        params := groupParams 0 effective }

/-! ## JSON -/

/-- The value of a filter as JSON. -/
def valueJson : Filter → Json
  | .forum v => .ofInt64 v
  | .dateFrom v => .ofInt64 v
  | .dateTo v => .ofInt64 v
  | .groups vs => .ofList .ofInt64 vs

/-- A filter as JSON: its kind and its value. -/
def toJson (f : Filter) : Json :=
  .object [("kind", f.kind.toJson), ("value", f.valueJson)]

/-- Reads the value of a filter of the given kind. -/
def decodeValue (kind : Kind) : Json.Decoder Filter := fun o =>
  match kind with
  | .forum => (Json.Decoder.int64 o).map .forum
  | .dateFrom => (Json.Decoder.int64 o).map .dateFrom
  | .dateTo => (Json.Decoder.int64 o).map .dateTo
  | .groups => (Json.Decoder.list Json.Decoder.int64 o).map .groups

/-- The description of a filter in messages. -/
def title : String :=
  "adjacently tagged enum Filter"

/-- What has been read of a filter's object: nothing, the kind, the value before its kind, or all.
-/
inductive Progress where
  | nothing
  | kind (k : Kind)
  | value (o : Json.Outline)
  | all (f : Filter)

open Json (Outline Failure) in
/-- Reads the members of a filter's object in text order; `level` containers are around them. A
value that stands before the kind is read whole and looked at when the kind is known. -/
def decodeMembers (level : Nat) (closed : Bool) :
    Progress → List (Option String × Outline) → Except Failure Filter
  | progress, [] => do
    Json.ensureClosed closed
    match progress with
    | .nothing => Json.fail (.missingField "kind")
    | .kind _ => Json.fail (.missingField "value")
    | .value _ => Json.fail (.missingField "kind")
    | .all f => return f
  | progress, (some "kind", o) :: more =>
    match progress with
    | .nothing => do
      let k ← Json.under (.member "kind") (Kind.decode o)
      decodeMembers level closed (.kind k) more
    | .value v => do
      let k ← Json.under (.member "kind") (Kind.decode o)
      let f ← Json.under (.member "value") (decodeValue k v)
      decodeMembers level closed (.all f) more
    | _ => Json.fail (.duplicateField "kind")
  | progress, (some "value", o) :: more =>
    match progress with
    | .nothing => do
      Json.Decoder.readWholeValue level o
      decodeMembers level closed (.value o) more
    | .kind k => do
      let f ← Json.under (.member "value") (decodeValue k o)
      decodeMembers level closed (.all f) more
    | _ => Json.fail (.duplicateField "value")
  | progress, (some _, o) :: more => do
    Json.Decoder.skipValue o
    decodeMembers level closed progress more
  | _, (none, _) :: _ => .error .malformed

open Json (Outline Failure) in
/-- Reads a filter from an array of the name of its kind and its value. -/
def decodeItems (closed : Bool) : List Outline → Except Failure Filter
  | [] => do
    Json.ensureClosed closed
    Json.fail (.tooShort 0 title)
  | [k] => do
    let _ ← Json.under (.item 0) (Kind.decodeName k)
    Json.ensureClosed closed
    Json.fail (.tooShort 1 title)
  | k :: v :: more => do
    let kind ← Json.under (.item 0) (Kind.decodeName k)
    let f ← Json.under (.item 1) (decodeValue kind v)
    Json.ensureClosed (closed && more.isEmpty)
    return f

/-- Reads a filter inside `level` containers. -/
def decode (level : Nat) : Json.Decoder Filter
  | .object members closed => decodeMembers (level + 1) closed .nothing members
  | .array items closed => decodeItems closed items
  | o => Json.wrongType title o

end Filter

end ForumSummary
