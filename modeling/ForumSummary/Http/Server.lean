import ForumSummary.Calendar.Range
import ForumSummary.Http.MediaType
import ForumSummary.Http.Response
import ForumSummary.Report.View

/-!
# Routes

Four routes answer: a sign of life, the summary as a page or a download, the conversion of selected
dates, and the download of a discussion. A path that is none of theirs is not found, and one with
the wrong method is not allowed; both answers have no content. What GET answers, HEAD answers
without the body.
-/

namespace ForumSummary.Http

/-- A route. -/
inductive Route where
  | health
  | summary
  | timestamps
  | discussion (forum : String)
  deriving DecidableEq, Repr

namespace Route

/-- The route of a path. -/
def ofPath? (path : List (List Char)) : Option Route :=
  match path.map String.ofList with
  | ["", "health"] => some .health
  | ["", "forum", "report", "summary"] => some .summary
  | ["", "forum", "report", "summary", "timestamps"] => some .timestamps
  | ["", "forum", forum, "export"] => some (.discussion forum)
  | _ => none

/-- A route is for requests that change nothing, or for requests with a body. -/
def isRead : Route → Bool
  | .timestamps => false
  | _ => true

end Route

/-- The sign of life. -/
def health : Session Response := do
  if ← Session.ping then
    return .json .ok (.object [("status", .string "healthy"), ("postgres", .bool true)])
  else
    return .json .unavailable (.object [("status", .string "unhealthy"), ("postgres", .bool false)])

/-- The summary for parameters that have been read. -/
def summaryOf (settings : Report.Settings) (parameters : SummaryParameters) : Session Response := do
  match ← Session.ofExcept parameters.toRequest with
  | (request, some format) =>
    let rows ← Report.exportRows settings request
    return .download Report.summaryFileName format (.ofRows rows)
  | (request, none) =>
    let view ← Report.View.make settings request
    return .json .ok view.toJson

/-- The summary for the query of a target. -/
def summary (settings : Report.Settings) (query : List Char) : Session Response :=
  match SummaryParameters.ofPairs (formPairs query) with
  | .error e => pure (.plain .badRequest e.message)
  | .ok parameters => summaryOf settings parameters

/-- The id in a path, or the reason why there is none. -/
def forumId (segment : String) : Except String Int64 :=
  match segmentText? segment.toList with
  | none => .error "Invalid URL: Invalid UTF-8 in `forum_id`"
  | some text =>
    match Numeral.readInt64 text with
    | .ok id => .ok id
    | .error _ =>
      .error ("Invalid URL: Cannot parse " ++ Json.ticked (String.ofList text) ++ " to a `i64`")

/-- The download of a discussion. The path is read before the query. -/
def discussion (segment : String) (query : List Char) : Session Response :=
  match forumId segment with
  | .error message => pure (.plain .badRequest message)
  | .ok id =>
    match formatOfPairs (formPairs query) with
    | .error e => pure (.plain .badRequest e.message)
    | .ok text => do
      let format ← Session.ofExcept (discussionFormat text)
      let dataset ← Report.exportDiscussion id
      return .download Report.discussionFileName format dataset

/-- The response to a body that does not read. -/
def bodyRefused : Json.Failure → Response
  | .malformed => .plain .badRequest "Failed to parse the request body as JSON"
  | .data path cause =>
    let place := if path.isEmpty then "" else Json.pathText path ++ ": "
    .plain .unprocessable
      ("Failed to deserialize the JSON body into the target type: " ++ place ++ cause.message)

/-- The conversion of selected dates. -/
def timestamps (contentType : Option String) (body : String) : Response :=
  if (contentType.bind MediaType.ofText?).any MediaType.isJson then
    match Calendar.Selections.ofText body with
    | .ok selections => .json .ok (Calendar.Range.ofSelections selections).toJson
    | .error e => bodyRefused e
  else
    .plain .unsupportedMediaType "Expected request with `Content-Type: application/json`"

/-- The session of a route that changes nothing. -/
def readRoute (settings : Report.Settings) (query : List Char) : Route → Session Response
  | .health => health
  | .summary => summary settings query
  | .discussion forum => discussion forum query
  | .timestamps => pure (.empty .methodNotAllowed)

/-- Answers a request. -/
def answer (settings : Report.Settings) (store : Store) (request : Request) : Exchange :=
  let target := Target.ofText request.target
  match Route.ofPath? target.path with
  | none => ⟨.empty .notFound, []⟩
  | some route =>
    if route.isRead then
      let exchange := Exchange.of (readRoute settings target.query route) store
      if request.method = "GET" then exchange
      else if request.method = "HEAD" then ⟨exchange.response.withoutBody, exchange.sent⟩
      else ⟨.empty .methodNotAllowed, []⟩
    else if request.method = "POST" then ⟨timestamps request.contentType request.body, []⟩
    else ⟨.empty .methodNotAllowed, []⟩

end ForumSummary.Http
