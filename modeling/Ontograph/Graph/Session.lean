/-
Ontograph.Graph.Session — what the library asks of a graph store.

A session runs one parameterised statement and answers with records, or with
one of four errors.
-/
import Ontograph.Http.Exchange

namespace Ontograph

abbrev Record := Fields

inductive GraphError where
  | http
  | status (code : Nat) (message : String)
  | query (code message : String)
  | malformedResponse (message : String)
  deriving DecidableEq, Repr

namespace GraphError

/-- A failure in words. Where no reply could be read, what the carrier of the request says of the
cause is left out; elsewhere it would stand behind a colon. -/
def message : GraphError → String
  | http => "HTTP request failed"
  | status code text => "Graph store returned HTTP " ++ toString code ++ ": " ++ text
  | query code text => "Query failed (" ++ code ++ "): " ++ text
  | malformedResponse text => "Malformed graph store response: " ++ text

/-- Whether the same statement may succeed later. -/
def isTransient : GraphError → Bool
  | http => true
  | status code _ => Http.isPassing code
  | query code _ => "Neo.TransientError".toList.isPrefixOf code.toList
  | malformedResponse _ => false

end GraphError

structure GraphSession (m : Type → Type) where
  run : String → Json → m (Except GraphError (List Record))

end Ontograph
