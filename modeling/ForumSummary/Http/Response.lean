import ForumSummary.Export.Dataset
import ForumSummary.Report.Download
import ForumSummary.Http.Parameters

/-!
# Requests and responses

A response to a failure says what is wrong with the request, or that a record does not exist. A
fault of the infrastructure and a mistake in this library are told by the same words, whatever they
are.
-/

namespace ForumSummary.Http

/-- A request, as far as routes look at it. -/
structure Request where
  method : String
  target : String
  contentType : Option String
  body : String
  deriving DecidableEq, Repr

/-- The outcomes of a request. -/
inductive Status where
  | ok
  | badRequest
  | notFound
  | methodNotAllowed
  | unsupportedMediaType
  | unprocessable
  | internalError
  | unavailable
  deriving DecidableEq, Repr

/-- The number of an outcome. -/
def Status.code : Status → Nat
  | .ok => 200
  | .badRequest => 400
  | .notFound => 404
  | .methodNotAllowed => 405
  | .unsupportedMediaType => 415
  | .unprocessable => 422
  | .internalError => 500
  | .unavailable => 503

/-- A response. -/
structure Response where
  status : Status
  contentType : Option String
  disposition : Option String
  body : String
  deriving DecidableEq, Repr

namespace Response

/-- A response without content. -/
def empty (status : Status) : Response :=
  ⟨status, none, none, ""⟩

/-- A response in plain text. -/
def plain (status : Status) (body : String) : Response :=
  ⟨status, some "text/plain; charset=utf-8", none, body⟩

/-- A JSON value as a response. -/
def json (status : Status) (v : Json) : Response :=
  ⟨status, some "application/json", none, v.compactText⟩

/-- A table as a file. -/
def download (name : String) (format : Export.Format) (d : Export.Dataset) : Response where
  status := .ok
  contentType := some format.contentType
  disposition := some ("attachment; filename=\"" ++ name ++ "." ++ format.name ++ "\"")
  body := d.render format

/-- The response to a failed report. -/
def ofError (e : ReportError) : Response :=
  if e.isNotFound then plain .notFound e.message
  else if e.isContractViolation then plain .internalError "internal server error"
  else
    match e with
    | .internal _ => plain .internalError "internal server error"
    | e => plain .badRequest ("bad request: " ++ e.message)

/-- The same response without its body. -/
def withoutBody (r : Response) : Response :=
  { r with body := "" }

end Response

/-- A response, and the statements that were sent for it. -/
structure Exchange where
  response : Response
  sent : List Statement

/-- The exchange of a session that ends with a response. -/
def Exchange.of (s : Session Response) (store : Store) : Exchange :=
  let run := s store
  match run.result with
  | .ok r => ⟨r, run.sent⟩
  | .error e => ⟨.ofError e, run.sent⟩

end ForumSummary.Http
