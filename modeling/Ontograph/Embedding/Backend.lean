/-
Ontograph.Embedding.Backend — vectors for texts.

A backend turns a text into a vector, finds that none is available, or fails.
The strict backend over HTTP passes its failures on; the lenient one counts
every failure as unavailable, so that work goes on without a vector.
-/
import Ontograph.Http.Exchange
import Ontograph.Json.Printer
import Ontograph.Cypher.Schema

namespace Ontograph

abbrev Embedding := List Single

inductive EmbeddingError where
  | http
  | api (code : Nat) (message : String)
  | invalidDimensions (expected actual : Nat)
  | missingEmbedding
  | retryExhausted (attempts : Nat)
  | unknownBackend (name : String)
  deriving DecidableEq, Repr

namespace EmbeddingError

/-- A failure in words, without what the carrier of the request says of the cause where no reply
could be read. -/
def message : EmbeddingError → String
  | http => "HTTP request failed"
  | api code text => "API error (" ++ toString code ++ "): " ++ text
  | invalidDimensions expected actual =>
    "Invalid response: expected " ++ toString expected ++ " dimensions, got " ++ toString actual
  | missingEmbedding => "Missing embedding in response"
  | retryExhausted attempts => "All " ++ toString attempts ++ " retry attempts failed"
  | unknownBackend name => "Unknown embedding backend '" ++ name ++ "'"

def isTransient : EmbeddingError → Bool
  | http => true
  | api code _ => Http.isPassing code
  | invalidDimensions _ _ | missingEmbedding | retryExhausted _ | unknownBackend _ => false

end EmbeddingError

structure EmbeddingBackend (m : Type → Type) where
  name : String
  dimensions : Nat
  embed : String → m (Except EmbeddingError (Option Embedding))

structure EmbeddingSettings where
  url : String := "http://localhost:11434"
  model : String := "all-minilm"
  dimensions : Nat := Cypher.vectorDimensions
  timeoutSeconds : Nat := 60
  maxRetries : Nat := 3
  retryDelayMs : Nat := 1000
  deriving DecidableEq, Repr

namespace EmbeddingSettings

def message (s : EmbeddingSettings) (text : String) : Http.Message where
  url := Http.baseAddress s.url ++ "/api/embeddings"
  body := (Json.object [("model", .string s.model), ("prompt", .string text)]).compact

/-- The vector in a reply's body, which may be missing or null. -/
def vectorOfText? (body : String) : Option (Option Embedding) := do
  let r ← (← Json.read body).record? ["embedding"]
  Json.defaulted r "embedding" none (Json.nullable (Json.listOf Json.Shape.single?))

def outcome (s : EmbeddingSettings) : Http.Reply → Except EmbeddingError Embedding
  | .dropped => .error .http
  | .answered status body =>
    if Http.isSuccess status then
      match vectorOfText? body with
      | none => .error .http
      | some none | some (some []) => .error .missingEmbedding
      | some (some vector) =>
        if vector.length = s.dimensions then .ok vector
        else .error (.invalidDimensions s.dimensions vector.length)
    else .error (.api status (Http.failureMessage body))

def fetch [Monad m] (transport : Http.Transport m) (s : EmbeddingSettings) (text : String) :
    m (Except EmbeddingError Embedding) := do
  match ← Http.attempt EmbeddingError.isTransient
      (do pure (s.outcome (← Http.send transport (s.message text)))) s.maxRetries with
  | .ok vector => pure (.ok vector)
  | .error e => pure (.error (if e.isTransient then .retryExhausted s.maxRetries else e))

end EmbeddingSettings

namespace EmbeddingBackend

def strict [Monad m] (transport : Http.Transport m) (s : EmbeddingSettings) :
    EmbeddingBackend m where
  name := "ollama"
  dimensions := s.dimensions
  embed text := do
    match ← s.fetch transport text with
    | .ok vector => pure (.ok (some vector))
    | .error e => pure (.error e)

/-- The backend that counts every failure as unavailable. -/
def lenient [Monad m] (transport : Http.Transport m) (s : EmbeddingSettings) :
    EmbeddingBackend m where
  name := "ollama-fallback"
  dimensions := s.dimensions
  embed text := do
    match ← s.fetch transport text with
    | .ok vector => pure (.ok (some vector))
    | .error _ => pure (.ok none)

def ofName [Monad m] (transport : Http.Transport m) (name : String) (s : EmbeddingSettings) :
    Except EmbeddingError (EmbeddingBackend m) :=
  if name = "ollama" then .ok (strict transport s)
  else if name = "ollama-fallback" then .ok (lenient transport s)
  else .error (.unknownBackend name)

end EmbeddingBackend

end Ontograph
