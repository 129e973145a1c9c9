/-
Ontograph.Settings.Toml.Document — a document as settings.

A document is a sequence of lines: a header in one or two pairs of brackets,
or a key with a value, each with blanks and a comment around it. Only arrays
and texts in three quotes run over several lines.
-/
import Ontograph.Settings.Toml.Quoted
import Ontograph.Settings.Toml.Table
import Ontograph.Settings.Toml.Time

namespace Ontograph.Toml

/-! ## Blanks and comments -/

def isSpace (c : Char) : Bool := c = ' ' || c = '\t'

def skipSpace (cs : List Char) : List Char := cs.dropWhile isSpace

def lineBreak? : List Char → Option (List Char)
  | [] => some []
  | '\n' :: rest => some rest
  | '\r' :: '\n' :: rest => some rest
  | _ => none

def endOfLine? (cs : List Char) : Option (List Char) :=
  match skipSpace cs with
  | '#' :: rest => lineBreak? (rest.dropWhile isTextChar)
  | rest => lineBreak? rest

def skipLines : Nat → List Char → List Char
  | 0, cs => cs
  | fuel + 1, cs =>
    match skipSpace cs with
    | [] => []
    | rest =>
      match endOfLine? rest with
      | some next => skipLines fuel next
      | none => rest

/-! ## Keys -/

def isKeyChar (c : Char) : Bool := c.isAlphanum || c = '_' || c = '-'

def keyPart? : List Char → Option (String × List Char)
  | '"' :: rest => (basic? rest).map fun (cs, rest) => (String.ofList cs, rest)
  | '\'' :: rest => (literal? rest).map fun (cs, rest) => (String.ofList cs, rest)
  | cs =>
    if (cs.takeWhile isKeyChar).isEmpty then none
    else some (String.ofList (cs.takeWhile isKeyChar), cs.dropWhile isKeyChar)

/-- A key of at most so many parts at the front of a text: points stand between the parts, and
blanks around all. -/
def keyOfParts? : Nat → List Char → Option (List String × List Char)
  | 0, _ => none
  | parts + 1, cs => do
    let (part, rest) ← keyPart? (skipSpace cs)
    match skipSpace rest with
    | '.' :: rest =>
      let (more, rest) ← keyOfParts? parts rest
      pure (part :: more, rest)
    | rest => pure ([part], rest)

/-- How deeply tables may be nested by a key, and arrays and inline tables by a value. -/
def nestingLimit : Nat := 79

def key? (cs : List Char) : Option (List String × List Char) := keyOfParts? nestingLimit cs

/-! ## Values -/

mutual

def value? : Nat → Nat → List Char → Option (Setting × List Char)
  | 0, _, _ => none
  | fuel + 1, depth, cs =>
    match depth, cs with
    | depth + 1, '[' :: rest => (items? fuel depth rest).map fun (items, rest) => (.list items, rest)
    | depth + 1, '\x7b' :: rest =>
      match skipSpace rest with
      | '\x7d' :: rest => some (.table [], rest)
      | rest => do
        let (lines, rest) ← pairs? fuel depth rest
        pure (.table (← settingsOf? lines), rest)
    | _, '"' :: _ | _, '\'' :: _ =>
      (quoted? cs).map fun (content, rest) => (.text (String.ofList content), rest)
    | _, _ => (scalar? (scalarSpan cs).1).map (·, (scalarSpan cs).2)

/-- The items of an array up to its closing bracket; a comma may stand behind the last. -/
def items? : Nat → Nat → List Char → Option (List Setting × List Char)
  | 0, _, _ => none
  | fuel + 1, depth, cs =>
    match skipLines cs.length cs with
    | ']' :: rest => some ([], rest)
    | front =>
      match value? fuel depth front with
      | none => none
      | some (item, rest) =>
        match skipLines rest.length rest with
        | ']' :: rest => some ([item], rest)
        | ',' :: rest => (items? fuel depth rest).map fun (items, rest) => (item :: items, rest)
        | _ => none

def pairs? : Nat → Nat → List Char → Option (List Line × List Char)
  | 0, _, _ => none
  | fuel + 1, depth, cs =>
    match key? cs with
    | some (keys, '=' :: rest) =>
      match value? fuel depth (skipSpace rest) with
      | none => none
      | some (value, rest) =>
        match skipSpace rest with
        | '\x7d' :: rest => some ([.entry keys value], rest)
        | ',' :: rest =>
          (pairs? fuel depth rest).map fun (lines, rest) => (.entry keys value :: lines, rest)
        | _ => none
    | _ => none

end

/-! ## Lines -/

def line? (cs : List Char) : Option (Line × List Char) :=
  match cs with
  | '[' :: '[' :: rest => do
    match ← key? rest with
    | (keys, ']' :: ']' :: rest) => some (.itemHeader keys, rest)
    | _ => none
  | '[' :: rest => do
    match ← key? rest with
    | (keys, ']' :: rest) => some (.header keys, rest)
    | _ => none
  | cs => do
    match ← key? cs with
    | (keys, '=' :: rest) =>
      let (value, rest) ← value? (2 * rest.length + 2) nestingLimit (skipSpace rest)
      some (.entry keys value, rest)
    | _ => none

def lines? : Nat → List Char → Option (List Line)
  | 0, _ => none
  | fuel + 1, cs =>
    match skipLines cs.length cs with
    | [] => some []
    | front => do
      let (line, rest) ← line? front
      let rest ← endOfLine? rest
      pure (line :: (← lines? fuel rest))

/-- The settings of a document; a byte order mark may stand before it. -/
def ofText? (s : String) : Option SettingTable := do
  let cs := match s.toList with
    | '\ufeff' :: rest => rest
    | cs => cs
  match ← withTimes? (.table (← settingsOf? (← lines? (cs.length + 1) cs))) with
  | .table entries => some entries
  | _ => none

end Ontograph.Toml
