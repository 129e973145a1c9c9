/-
Ontograph.Graph.Remote — a graph store behind HTTP.

Every statement is a transaction of its own, posted to the commit address of a
database. The reply is a record of results and errors; the first error wins,
and of the results only the first counts.
-/
import Ontograph.Graph.Session
import Ontograph.Json.Printer
import Ontograph.Text.Base64

namespace Ontograph

structure GraphSettings where
  url : String
  database : String := "neo4j"
  user : String
  password : String
  timeoutSeconds : Nat := 30
  maxRetries : Nat := 3
  retryDelayMs : Nat := 500
  deriving DecidableEq, Repr

namespace GraphSettings

def commitUrl (s : GraphSettings) : String :=
  Http.baseAddress s.url ++ "/db/" ++ s.database ++ "/tx/commit"

def message (s : GraphSettings) (query : String) (params : Json) : Http.Message where
  url := s.commitUrl
  authorization := some ("Basic " ++ Base64.encode (s.user ++ ":" ++ s.password))
  body := (Json.object [("statements",
    .array [.object [("statement", .string query), ("parameters", params)]])]).compact

end GraphSettings

namespace GraphReply

structure Result where
  columns : List String
  rows : List (List Json)

/-- How deeply a value in a row may be nested: it stands six levels deep in the reply. -/
def valueDepth : Nat := Json.depthLimit - 6

def rowOfShape? (j : Json.Shape) : Option (List Json) := do
  Json.required (← j.record? ["row"]) "row" (Json.listOf (Json.Shape.settle valueDepth))

def resultOfShape? (j : Json.Shape) : Option Result := do
  let r ← j.record? ["columns", "data"]
  pure {
    columns := ← Json.required r "columns" (Json.listOf Json.Shape.string?)
    rows := ← Json.defaulted r "data" [] (Json.listOf rowOfShape?) }

def errorOfShape? (j : Json.Shape) : Option (String × String) := do
  let r ← j.record? ["code", "message"]
  pure (← Json.required r "code" Json.Shape.string?, ← Json.required r "message" Json.Shape.string?)

def ofText? (body : String) : Option (List Result × List (String × String)) := do
  let r ← (← Json.read body).record? ["results", "errors"]
  pure (← Json.defaulted r "results" [] (Json.listOf resultOfShape?),
    ← Json.defaulted r "errors" [] (Json.listOf errorOfShape?))

/-- A row as a record; it has as many values as there are columns. -/
def record (columns : List String) (row : List Json) : Except GraphError Record :=
  if row.length = columns.length then .ok (Fields.ofList (columns.zip row))
  else
    .error (.malformedResponse
      ("expected " ++ toString columns.length ++ " columns, got " ++ toString row.length))

def outcome : Http.Reply → Except GraphError (List Record)
  | .dropped => .error .http
  | .answered status body =>
    if Http.isSuccess status then
      match ofText? body with
      | none => .error .http
      | some (_, (code, message) :: _) => .error (.query code message)
      | some ([], []) => .ok []
      | some (result :: _, []) => result.rows.mapM (record result.columns)
    else .error (.status status body)

end GraphReply

namespace GraphSession

def remoteName : String := "neo4j-http"

def remote [Monad m] (transport : Http.Transport m) (s : GraphSettings) : GraphSession m where
  run query params :=
    Http.attempt GraphError.isTransient
      (do pure (GraphReply.outcome (← Http.send transport (s.message query params)))) s.maxRetries

def healthQuery : String :=
  "CALL dbms.components() YIELD name, versions, edition " ++
    "RETURN name, versions[0] AS version, edition"

/-- The text of a column, or a question mark. -/
def column (r : Record) (key : String) : String := ((Fields.get? key r).bind Json.string?).getD "?"

def healthCheck [Monad m] (session : GraphSession m) : m (Except GraphError String) := do
  match ← session.run healthQuery (.object []) with
  | .error e => pure (.error e)
  | .ok [] => pure (.error (.malformedResponse "no components reported"))
  | .ok (r :: _) =>
    pure (.ok (column r "name" ++ " " ++ column r "version" ++ " (" ++ column r "edition" ++ ")"))

end GraphSession

end Ontograph
