/-
Ontograph.Completion.Backend — texts that answer a prompt.
-/
import Ontograph.Http.Exchange
import Ontograph.Json.Printer

namespace Ontograph

inductive CompletionError where
  | http
  | api (code : Nat) (message : String)
  | retryExhausted (attempts : Nat)
  deriving DecidableEq, Repr

namespace CompletionError

/-- A failure in words, without what the carrier of the request says of the cause where no reply
could be read. -/
def message : CompletionError → String
  | http => "HTTP request failed"
  | api code text => "API error (" ++ toString code ++ "): " ++ text
  | retryExhausted attempts => "All " ++ toString attempts ++ " retry attempts failed"

def isTransient : CompletionError → Bool
  | http => true
  | api code _ => Http.isPassing code
  | retryExhausted _ => false

end CompletionError

structure CompletionBackend (m : Type → Type) where
  name : String
  complete : String → m (Except CompletionError String)

structure CompletionSettings where
  url : String := "http://localhost:11434"
  model : String := "llama3.1"
  jsonMode : Bool := true
  temperature : Single := .zero
  timeoutSeconds : Nat := 120
  maxRetries : Nat := 2
  retryDelayMs : Nat := 1000
  deriving DecidableEq, Repr

namespace CompletionSettings

def message (s : CompletionSettings) (prompt : String) : Http.Message where
  url := Http.baseAddress s.url ++ "/api/generate"
  body := (Json.object ([("model", .string s.model), ("prompt", .string prompt),
    ("stream", .bool false)] ++ (if s.jsonMode then [("format", .string "json")] else []) ++
    [("options", .object [("temperature", Json.ofSingle s.temperature)])])).compact

/-- The text in a reply's body, which may be missing. -/
def responseOfText? (body : String) : Option String := do
  Json.defaulted (← (← Json.read body).record? ["response"]) "response" "" Json.Shape.string?

def outcome : Http.Reply → Except CompletionError String
  | .dropped => .error .http
  | .answered status body =>
    if Http.isSuccess status then
      match responseOfText? body with
      | none => .error .http
      | some text => .ok text
    else .error (.api status (Http.failureMessage body))

end CompletionSettings

def CompletionBackend.remote [Monad m] (transport : Http.Transport m) (s : CompletionSettings) :
    CompletionBackend m where
  name := "ollama"
  complete prompt := do
    match ← Http.attempt CompletionError.isTransient
        (do pure (CompletionSettings.outcome (← Http.send transport (s.message prompt)))) s.maxRetries with
    | .ok text => pure (.ok text)
    | .error e => pure (.error (if e.isTransient then .retryExhausted s.maxRetries else e))

end Ontograph
