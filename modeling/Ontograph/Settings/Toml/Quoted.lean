/-
Ontograph.Settings.Toml.Quoted — texts between quotes.

Double quotes allow escapes, single quotes do not. Three quotes of either kind
open a text that may run over several lines: a line feed directly behind them
does not belong to it, and a backslash at the end of a line takes out the line
break and the blanks that follow. Every function takes the text behind the
opening quotes and returns the content with what follows the closing quotes.
-/
import Ontograph.Json.Parser

namespace Ontograph.Toml

def isTextChar (c : Char) : Bool := c = '\t' || (0x20 ≤ c.toNat && c.toNat ≠ 0x7F)

def unescape? : Char → Option Char
  | 'b' => some '\x08'
  | 't' => some '\t'
  | 'n' => some '\n'
  | 'f' => some '\x0c'
  | 'r' => some '\r'
  | '"' => some '"'
  | '\\' => some '\\'
  | _ => none

/-- The character with a code point, which may be no surrogate. -/
def charOf? (n : Nat) : Option Char := if h : n.isValidChar then some (Char.ofNatAux n h) else none

def hexChar? (ds : List Char) : Option Char := do
  charOf? ((← ds.mapM Json.hexValue?).foldl (fun n d => 16 * n + d) 0)

def basic? : List Char → Option (List Char × List Char)
  | [] => none
  | '"' :: rest => some ([], rest)
  | '\\' :: 'u' :: a :: b :: c :: d :: rest => do
    let x ← hexChar? [a, b, c, d]
    (basic? rest).map fun (cs, rest) => (x :: cs, rest)
  | '\\' :: 'U' :: a :: b :: c :: d :: e :: f :: g :: h :: rest => do
    let x ← hexChar? [a, b, c, d, e, f, g, h]
    (basic? rest).map fun (cs, rest) => (x :: cs, rest)
  | '\\' :: c :: rest => do
    let x ← unescape? c
    (basic? rest).map fun (cs, rest) => (x :: cs, rest)
  | c :: rest =>
    if isTextChar c && c ≠ '\\' then (basic? rest).map fun (cs, rest) => (c :: cs, rest) else none

def literal? : List Char → Option (List Char × List Char)
  | [] => none
  | '\'' :: rest => some ([], rest)
  | c :: rest =>
    if isTextChar c then (literal? rest).map fun (cs, rest) => (c :: cs, rest) else none

def afterBreak : List Char → List Char
  | '\n' :: rest => rest
  | '\r' :: '\n' :: rest => rest
  | rest => rest

/-- Whether blanks and then a line break come next. -/
def endsLine (cs : List Char) : Bool :=
  match cs.dropWhile fun c => c = ' ' || c = '\t' with
  | '\n' :: _ | '\r' :: '\n' :: _ => true
  | _ => false

/-- What closes a text of several lines: three quotes, and up to two more before them that belong
to the text. -/
def closing? (quote : Char) (cs : List Char) : Option (List Char × List Char) :=
  let quotes := cs.takeWhile (· = quote)
  if quotes.length < 3 then none
  else
    let own := min (quotes.length - 3) 2
    some (quotes.take own, cs.drop (own + 3))

/-- A text between three double quotes; `skipping` tells that a line break with its blanks is being
taken out. -/
def basicLines? (skipping : Bool) : List Char → Option (List Char × List Char)
  | [] => none
  | '\r' :: '\n' :: rest =>
    if skipping then basicLines? true rest
    else (basicLines? false rest).map fun (cs, rest) => ('\n' :: cs, rest)
  | '\\' :: 'u' :: a :: b :: c :: d :: rest => do
    let x ← hexChar? [a, b, c, d]
    (basicLines? false rest).map fun (cs, rest) => (x :: cs, rest)
  | '\\' :: 'U' :: a :: b :: c :: d :: e :: f :: g :: h :: rest => do
    let x ← hexChar? [a, b, c, d, e, f, g, h]
    (basicLines? false rest).map fun (cs, rest) => (x :: cs, rest)
  | '\\' :: c :: rest =>
    if endsLine (c :: rest) then basicLines? true (c :: rest)
    else do
      let x ← unescape? c
      (basicLines? false rest).map fun (cs, rest) => (x :: cs, rest)
  | c :: rest =>
    if skipping && (c = ' ' || c = '\t' || c = '\n') then basicLines? true rest
    else
      match closing? '"' (c :: rest) with
      | some result => some result
      | none =>
        if (isTextChar c && c ≠ '\\') || c = '\n' then
          (basicLines? false rest).map fun (cs, rest) => (c :: cs, rest)
        else none

def literalLines? : List Char → Option (List Char × List Char)
  | [] => none
  | '\r' :: '\n' :: rest => (literalLines? rest).map fun (cs, rest) => ('\n' :: cs, rest)
  | c :: rest =>
    match closing? '\'' (c :: rest) with
    | some result => some result
    | none =>
      if isTextChar c || c = '\n' then
        (literalLines? rest).map fun (cs, rest) => (c :: cs, rest)
      else none

def quoted? : List Char → Option (List Char × List Char)
  | '"' :: '"' :: '"' :: rest => basicLines? false (afterBreak rest)
  | '"' :: rest => basic? rest
  | '\'' :: '\'' :: '\'' :: rest => literalLines? (afterBreak rest)
  | '\'' :: rest => literal? rest
  | _ => none

end Ontograph.Toml
