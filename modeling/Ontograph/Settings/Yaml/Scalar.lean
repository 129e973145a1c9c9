/-
Ontograph.Settings.Yaml.Scalar — the texts of a YAML document, and what they
stand for.

A text stands without quotes, in quotes of either kind or in a block of lines.
Between the lines of the first two a line break counts as a blank, and of
several line breaks all but one count as what they are. Only a text without
quotes can stand for anything but itself.
-/
import Ontograph.Settings.Toml.Quoted
import Ontograph.Settings.Yaml.Cursor

namespace Ontograph.Yaml

/-! ## Values -/

inductive Tag where
  | absent
  | core (suffix : String)
  | other
  deriving DecidableEq

def based? (base : Nat) (cs : List Char) : Option Int := do
  let (negative, digits) := Literal.sign cs
  let values ← digits.mapM Json.hexValue?
  if digits.isEmpty || !values.all (· < base) then none
  else
    let n : Nat := values.foldl (fun n d => base * n + d) 0
    some (if negative then -(n : Int) else n)

def integer? (text : String) : Option Int :=
  match text.toList with
  | '0' :: 'x' :: digits => (based? 16 digits).filter Literal.fitsSigned
  | '0' :: 'o' :: digits => (based? 8 digits).filter Literal.fitsSigned
  | '+' :: rest => Literal.signed64? (String.ofList rest)
  | _ => Literal.signed64? text

def real? (text : String) : Option Double :=
  if text.toList.any Char.isDigit then Literal.real? text else none

/-- The words for infinity and for what is no number, for which no setting stands. -/
def isUnreadable (text : String) : Bool :=
  [".inf", ".Inf", ".INF", "+.inf", "+.Inf", "+.INF", "-.inf", "-.Inf", "-.INF", ".nan", ".NaN",
    ".NAN"].contains text

def plain? (text : String) : Option Setting :=
  if ["", "~", "null"].contains text then some .nothing
  else if text = "true" then some (.truth true)
  else if text = "false" then some (.truth false)
  else if isUnreadable text then none
  else
    some ((((integer? text).map Setting.integer).or ((real? text).map Setting.real)).getD
      (.text text))

def tagged? (tag : Tag) (text : String) : Option Setting :=
  match tag with
  | .absent => plain? text
  | .core "bool" =>
    some (if text = "true" then .truth true else if text = "false" then .truth false else .nothing)
  | .core "int" => some (((Literal.signed64? text).map Setting.integer).getD .nothing)
  | .core "float" =>
    if isUnreadable text then none else some (((real? text).map Setting.real).getD .nothing)
  | .core "null" => some .nothing
  | .core _ | .other => some (.text text)

/-! ## Texts without quotes -/

/-- Whether a text without quotes goes on with the first character of a text; `inner` tells that
it stands in brackets. -/
def goesOn (inner : Bool) : List Char → Bool
  | [] => false
  | ':' :: rest => !(isGap rest.head? || (inner && (rest.head?.map isFlowMark).getD false))
  | c :: _ => !isGap (some c) && !(inner && isFlowMark c)

def isPlainStart (inner : Bool) : List Char → Bool
  | [] => false
  | c :: rest =>
    if c = '-' || c = '?' || c = ':' then
      !isGap rest.head? && !(inner && (rest.head?.map isFlowMark).getD false)
    else !isGap (some c) && !isFlowMark c &&
      !(['#', '&', '*', '!', '|', '>', '\'', '"', '%', '@', '\x60'].contains c)

def word (inner : Bool) : List Char → List Char
  | [] => []
  | c :: rest => if goesOn inner (c :: rest) then c :: word inner rest else []

/-- A text without quotes from a word on. It goes on over the ends of lines, unless it has to stand
on one line, as long as the lines are indented by more than `n` columns. -/
def plainText? (inner oneLine : Bool) (n : Int) : Nat → Cursor → Option (List Char × Cursor)
  | 0, _ => none
  | fuel + 1, c =>
    let first := word inner c.rest
    let behind := c.skip first.length
    let blanks := behind.rest.takeWhile isSpace
    let dashed := inner && match first with
      | ['-'] => (behind.head?.map isFlowMark).getD false
      | _ => false
    if first.isEmpty || dashed then none
    else
      match behind.rest.drop blanks.length with
      | '\n' :: _ =>
        if oneLine then some (first, behind)
        else do
          let (count, c) ← (behind.skip blanks.length).breaks? n (behind.rest.length + 1)
          if c.isOver || c.head? = some '#' || !goesOn inner c.rest ||
              (!inner && c.column ≤ n) then
            some (first, c)
          else
            let (more, c) ← plainText? inner oneLine n fuel c
            let joint := if count = 1 then [' '] else List.replicate (count - 1) '\n'
            some (first ++ joint ++ more, c)
      | rest =>
        if rest.head? = some '#' || !goesOn inner rest then some (first, behind)
        else do
          let (more, c) ← plainText? inner oneLine n fuel (behind.skip blanks.length)
          some (first ++ blanks ++ more, c)

/-! ## Texts in quotes -/

def escape? : List Char → Option (Char × Nat)
  | 'x' :: a :: b :: _ => do pure (← Toml.hexChar? [a, b], 3)
  | 'u' :: a :: b :: c :: d :: _ => do pure (← Toml.hexChar? [a, b, c, d], 5)
  | 'U' :: a :: b :: c :: d :: e :: f :: g :: h :: _ => do
    pure (← Toml.hexChar? [a, b, c, d, e, f, g, h], 9)
  | c :: _ =>
    let plain : List (Char × Char) :=
      [('0', '\x00'), ('a', '\x07'), ('b', '\x08'), ('t', '\t'), ('\t', '\t'), ('n', '\n'),
       ('v', '\x0b'), ('f', '\x0c'), ('r', '\r'), ('e', '\x1b'), (' ', ' '), ('"', '"'), ('/', '/'),
       ('\\', '\\'), ('N', '\u0085'), ('_', '\u00a0'), ('L', '\u2028'), ('P', '\u2029')]
    (plain.lookup c).map (·, 1)
  | [] => none

/-- The rest of a text in quotes, and the place behind its closing quote. Lines behind the first are
indented by more than `n` columns. -/
def quotedText? (quote : Char) (n : Int) : Nat → Cursor → Option (List Char × Cursor)
  | 0, _ => none
  | fuel + 1, c =>
    match c.rest with
    | [] => none
    | x :: rest =>
      if quote = '\'' && x = '\'' && rest.head? = some '\'' then do
        let (more, c) ← quotedText? quote n fuel (c.skip 2)
        some ('\'' :: more, c)
      else if x = quote then some ([], c.skip 1)
      else if quote = '"' && x = '\\' then
        if rest.head? = some '\n' then do
          let (count, c) ← (c.skip 1).breaks? n (rest.length + 1)
          if c.isOver || c.column ≤ n then none
          else
            let (more, c) ← quotedText? quote n fuel c
            some (List.replicate (count - 1) '\n' ++ more, c)
        else do
          let (escaped, length) ← escape? rest
          let (more, c) ← quotedText? quote n fuel (c.skip (length + 1))
          some (escaped :: more, c)
      else if isSpace x || x = '\n' then do
        let blanks := c.rest.takeWhile isSpace
        let behind := c.skip blanks.length
        if behind.head? = some '\n' then
          let (count, c) ← behind.breaks? n (behind.rest.length + 1)
          if c.isOver || c.column ≤ n then none
          else
            let (more, c) ← quotedText? quote n fuel c
            some ((if count = 1 then [' '] else List.replicate (count - 1) '\n') ++ more, c)
        else
          let (more, c) ← quotedText? quote n fuel behind
          some (blanks ++ more, c)
      else do
        let (more, c) ← quotedText? quote n fuel (c.skip 1)
        some (x :: more, c)

def quoted? (n : Int) (c : Cursor) : Option (List Char × Cursor) :=
  match c.rest with
  | '"' :: _ => quotedText? '"' n (c.rest.length + 1) (c.skip 1)
  | '\'' :: _ => quotedText? '\'' n (c.rest.length + 1) (c.skip 1)
  | _ => none

/-! ## Blocks of lines -/

inductive Chomping where
  | strip
  | clip
  | keep
  deriving DecidableEq

/-- How a block is to be read, behind its first character: its chomping, and by how many columns it
is indented, if that is said. -/
def blockHeader? (cs : List Char) : Option (Chomping × Nat × List Char) :=
  let chomping? := fun c : Char => if c = '+' then some Chomping.keep
    else if c = '-' then some Chomping.strip else none
  let digit? := fun c : Char => if '1' ≤ c ∧ c ≤ '9' then some (c.toNat - 48) else none
  let found : Chomping × Nat × List Char :=
    match cs with
    | a :: b :: rest =>
      match chomping? a, digit? b, digit? a, chomping? b with
      | some chomping, some n, _, _ => (chomping, n, rest)
      | _, _, some n, some chomping => (chomping, n, rest)
      | some chomping, none, _, _ => (chomping, 0, b :: rest)
      | _, _, some n, none => (.clip, n, b :: rest)
      | none, _, none, _ => (.clip, 0, cs)
    | [a] => ((chomping? a).getD .clip, (digit? a).getD 0,
        if (chomping? a).isSome || (digit? a).isSome then [] else [a])
    | [] => (.clip, 0, [])
  let (chomping, indentation, rest) := found
  match rest.dropWhile isSpace with
  | '#' :: more =>
    if rest.head? = some '#' then none
    else some (chomping, indentation, more.dropWhile (· ≠ '\n'))
  | [] => some (chomping, indentation, [])
  | '\n' :: more => some (chomping, indentation, '\n' :: more)
  | _ => none

/-- The indentation of a block that does not say it: that of its first line with content or of a
longer line of blanks before it, and more than `n` columns. -/
def detected (n : Int) : Nat → List Char → Nat
  | 0, _ => (n + 1).toNat
  | fuel + 1, cs =>
    let blanks := cs.takeWhile (· = ' ')
    match cs.drop blanks.length with
    | '\n' :: rest => max blanks.length (detected n fuel rest)
    | _ => max blanks.length (n + 1).toNat

/-- The lines of a block: its content so far, whether a line is complete, how many empty lines
follow it, and whether it began with a blank. -/
structure Block where
  content : List Char := []
  started : Bool := false
  broken : Bool := false
  empty : Nat := 0
  blank : Bool := false

def Block.add (folded : Bool) (b : Block) (line : List Char) : Block :=
  let blank := (line.head?.map isSpace).getD false
  let breaks := List.replicate b.empty '\n'
  let joint :=
    if folded && b.broken && !b.blank && !blank then if b.empty = 0 then [' '] else breaks
    else if b.broken then '\n' :: breaks
    else breaks
  { content := b.content ++ joint ++ line, started := true, blank }

/-- The content of a block; `complete` tells that the document ends in the middle of a line of it,
and `atEnd` that it ends with the block. -/
def Block.text (b : Block) (chomping : Chomping) (complete atEnd : Bool) : List Char :=
  if atEnd && !b.started then
    match chomping with
    | .strip => []
    | .clip => ['\n']
    | .keep => if b.empty = 0 then ['\n'] else List.replicate b.empty '\n'
  else if chomping = .strip then b.content
  else
    b.content ++ (if b.broken then ['\n'] else []) ++ (if complete then ['\n'] else []) ++
      (if chomping = .keep then List.replicate b.empty '\n' else [])

def blockLines (folded : Bool) (chomping : Chomping) (indentation : Nat) :
    Nat → Block → Cursor → List Char × Cursor
  | 0, b, c => (b.text chomping false false, c)
  | fuel + 1, b, c =>
    let blanks := min indentation (c.rest.takeWhile (· = ' ')).length
    let here := { c with rest := c.rest.drop blanks, column := blanks }
    match here.rest with
    | [] => (b.text chomping (max indentation 1 ≤ blanks) true, here)
    | '\n' :: _ =>
      blockLines folded chomping indentation fuel { b with empty := b.empty + 1 } here.next
    | _ =>
      if blanks < indentation || here.isMarker then (b.text chomping false false, here)
      else
        let line := here.rest.takeWhile (· ≠ '\n')
        let b := b.add folded line
        let stop := here.skip line.length
        if stop.rest.isEmpty then (b.text chomping true true, stop)
        else blockLines folded chomping indentation fuel { b with broken := true } stop.next

def block? (folded : Bool) (n : Int) (c : Cursor) : Option (List Char × Cursor) := do
  let (chomping, said, rest) ← blockHeader? c.rest
  match rest with
  | [] => pure ([], c.skip c.rest.length)
  | _ :: lines =>
    if lines.head? = some '\t' then none
    else
      let indentation :=
        if said = 0 then detected n (lines.length + 1) lines else (max n 0).toNat + said
      let start := { c with rest := lines, column := 0, fresh := true }
      let first := ((lines.dropWhile fun c => c = ' ' || c = '\n').length)
      let (text, stop) := blockLines folded chomping indentation (lines.length + 1) {} start
      if stop.rest.length = first && stop.column < indentation && n < stop.column && first ≠ 0 then
        none
      else pure (text, stop)

end Ontograph.Yaml
