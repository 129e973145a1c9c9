/-
Ontograph.Http.Exchange — requests, replies and repeated attempts.

A transport takes a request to a reply, in whatever monad its effects live.
Nothing here knows a network: a transport may be a script. What has no address
is not sent. An attempt that fails in a way that may pass is repeated a
limited number of times; any other outcome is final.
-/
import Ontograph.Http.Address
import Ontograph.Json.Record

namespace Ontograph.Http

structure Message where
  url : String
  authorization : Option String := none
  body : String
  deriving DecidableEq, Repr

structure Request where
  address : Address
  authorization : Option String := none
  body : String
  deriving DecidableEq, Repr

/-- What comes back: nothing at all, or a status with a body. -/
inductive Reply where
  | dropped
  | answered (status : Nat) (body : String)
  deriving DecidableEq, Repr

/-- The reply that a server's answer amounts to. A status of other than three digits is none, and an
interim status is followed by nothing; a switch of protocols, an empty answer and an answer that
nothing has changed have no body. -/
def Reply.received (status : Nat) (body : String) : Reply :=
  if status < 100 || 1000 ≤ status then dropped
  else if [101, 204, 304].contains status then answered status ""
  else if status < 200 then dropped
  else answered status body

abbrev Transport (m : Type → Type) := Request → m Reply

/-- The reply to a message; one whose address cannot be read gets none. -/
def send [Monad m] (transport : Transport m) (message : Message) : m Reply :=
  match Address.ofText? message.url with
  | none => pure .dropped
  | some address =>
    transport { address, authorization := message.authorization, body := message.body }

def isSuccess (status : Nat) : Bool := 200 ≤ status && status < 300

/-- Whether a status may pass: too many requests, or a fault of the server. -/
def isPassing (status : Nat) : Bool := status = 429 || 500 ≤ status

def baseAddress (url : String) : String :=
  String.ofList (url.toList.reverse.dropWhile (· = '/')).reverse

/-- The outcome of an action that is repeated, at most `retries` times, while it fails in a way
that may pass. -/
def attempt [Monad m] (passing : ε → Bool) (action : m (Except ε α)) : Nat → m (Except ε α)
  | 0 => action
  | retries + 1 => do
    match ← action with
    | .ok a => pure (.ok a)
    | .error e => if passing e then attempt passing action retries else pure (.error e)

/-- The message in the body of a failed reply: the `error` text of a record, or the body itself. -/
def failureMessage (body : String) : String :=
  let stated := (Json.read body).bind fun j => do
    Json.required (← j.record? ["error"]) "error" Json.Shape.string?
  stated.getD body

end Ontograph.Http
