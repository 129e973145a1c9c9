/-
Ontograph.Http.Address — addresses of services, as requests use them.

An address is written as `http://host:number/path?query#fragment`. Reading it
is forgiving: blanks around it and line breaks inside it do not count, a
backslash counts as a slash, and characters that may not be sent as they are
become percent escapes of their bytes. The segments `.` and `..` of a path are
resolved, and the fragment is not part of a request. `ofText?` has no answer
for a text whose host or number cannot be read.
-/

namespace Ontograph.Http

/-- Where a request goes. The number behind the host is absent when it is the usual
one of the scheme. -/
structure Address where
  secure : Bool
  host : String
  portNumber : Option Nat
  path : String
  query : Option String
  deriving DecidableEq, Repr

namespace Address

/-! ## Percent escapes -/

def hexDigit (n : Nat) : Char := if n < 10 then Char.ofNat (48 + n) else Char.ofNat (55 + n)

def escapeByte (b : UInt8) : List Char := ['%', hexDigit (b.toNat / 16), hexDigit (b.toNat % 16)]

/-- A character as it is sent: itself, or the escapes of its bytes. -/
def escape (kept : Char → Bool) (c : Char) : List Char :=
  if kept c then [c] else (String.singleton c).toUTF8.toList.flatMap escapeByte

def isPrintable (c : Char) : Bool := 0x20 < c.toNat && c.toNat < 0x7F

def isPathChar (c : Char) : Bool :=
  isPrintable c && !(['"', '#', '<', '>', '?', '\x60', '\x7b', '\x7d'].contains c)

def isQueryChar (c : Char) : Bool := isPrintable c && !(['"', '#', '\'', '<', '>'].contains c)

/-! ## Paths -/

def isSlash (c : Char) : Bool := c = '/' || c = '\\'

/-- The segments between the slashes of a text; there is at least one. -/
def segments : List Char → List (List Char)
  | [] => [[]]
  | c :: rest =>
    if isSlash c then [] :: segments rest
    else
      match segments rest with
      | [] => [[c]]
      | segment :: more => (c :: segment) :: more

def plainDots : List Char → List Char
  | '%' :: '2' :: 'e' :: rest | '%' :: '2' :: 'E' :: rest => '.' :: plainDots rest
  | c :: rest => c :: plainDots rest
  | [] => []

/-- The segments with those resolved that stand for the place itself or for the place above it;
`above` holds the segments before them, last first. -/
def resolve (above : List (List Char)) : List (List Char) → List (List Char)
  | [] => above.reverse
  | [segment] =>
    match plainDots segment with
    | ['.', '.'] => (above.drop 1).reverse ++ [[]]
    | ['.'] => above.reverse ++ [[]]
    | _ => above.reverse ++ [segment]
  | segment :: next :: rest =>
    match plainDots segment with
    | ['.', '.'] => resolve (above.drop 1) (next :: rest)
    | ['.'] => resolve above (next :: rest)
    | _ => resolve (segment :: above) (next :: rest)

def pathOf (cs : List Char) : String :=
  let relative := match cs with
    | c :: rest => if isSlash c then rest else cs
    | [] => []
  String.ofList ((resolve [] (segments relative)).flatMap fun segment =>
    '/' :: segment.flatMap (escape isPathChar))

/-! ## Hosts and their numbers -/

def isHostChar (c : Char) : Bool :=
  0x20 < c.toNat && c.toNat ≠ 0x7F &&
    !(['#', '/', ':', '<', '>', '?', '@', '[', '\\', ']', '^', '|', '%'].contains c)

/-- A host at the front of a text, and what follows: a name, or an address in brackets. -/
def host? : List Char → Option (List Char × List Char)
  | '[' :: rest =>
    match rest.span (· ≠ ']') with
    | (inner, ']' :: rest) =>
      if !inner.isEmpty && inner.all fun c => c.isDigit || ('a' ≤ c.toLower && c.toLower ≤ 'f') ||
          c = ':' || c = '.'
      then some ('[' :: inner ++ [']'], rest) else none
    | _ => none
  | cs =>
    let name := cs.takeWhile (· ≠ ':')
    if !name.isEmpty && name.all isHostChar then some (name, cs.drop name.length) else none

def portNumber? : List Char → Option (Option Nat)
  | [] | [':'] => some none
  | ':' :: digits =>
    if digits.all Char.isDigit then
      let n := digits.foldl (fun n c => 10 * n + (c.toNat - '0'.toNat)) 0
      if n < Nat.pow 2 16 then some (some n) else none
    else none
  | _ => none

/-- Whether a scheme is the one that is sent in secret. -/
def secure? (scheme : List Char) : Option Bool :=
  match String.ofList (scheme.map Char.toLower) with
  | "http" => some false
  | "https" => some true
  | _ => none

/-! ## Addresses -/

/-- Whether a character around an address does not count. -/
def isMargin (c : Char) : Bool := c.toNat ≤ 0x20

def significant (cs : List Char) : List Char :=
  ((cs.dropWhile isMargin).reverse.dropWhile isMargin).reverse.filter fun c =>
    !(['\t', '\n', '\r'].contains c)

def ofText? (s : String) : Option Address :=
  match (significant s.toList).span (· ≠ ':') with
  | (scheme, ':' :: rest) => do
    let secure ← secure? scheme
    let rest := rest.dropWhile isSlash
    let isEnd := fun c => isSlash c || c = '?' || c = '#'
    let authority := rest.takeWhile (!isEnd ·)
    let target := (rest.drop authority.length).takeWhile (· ≠ '#')
    let (host, behind) ← host? (authority.reverse.takeWhile (· ≠ '@')).reverse
    let number ← portNumber? behind
    pure {
      secure
      host := String.ofList (host.map Char.toLower)
      portNumber := number.filter (· ≠ if secure then 443 else 80)
      path := pathOf (target.takeWhile (· ≠ '?'))
      query := match target.dropWhile (· ≠ '?') with
        | _ :: query => some (String.ofList (query.flatMap (escape isQueryChar)))
        | [] => none }
  | _ => none

def target (a : Address) : String :=
  match a.query with
  | none => a.path
  | some query => a.path ++ "?" ++ query

end Address

end Ontograph.Http
