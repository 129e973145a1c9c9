/-
Ontograph.Settings.Ron — RON documents as settings.

A document holds one value: a literal, a list in brackets, a table in braces,
or a structure in parentheses, which is a list if its parts have no names. A
name before a structure says nothing, and one on its own stands for nothing.
Comments stand wherever blanks do, and a comma may follow the last part.
-/
import Ontograph.Settings.Toml.Quoted
import Ontograph.Settings.Setting

namespace Ontograph.Ron

/-! ## Blanks and comments -/

def isSpace (c : Char) : Bool := c = ' ' || c = '\t' || c = '\n' || c = '\r'

def blockComment? (depth : Nat) : List Char → Option (List Char)
  | '*' :: '/' :: rest =>
    match depth with
    | 0 => some rest
    | depth + 1 => blockComment? depth rest
  | '/' :: '*' :: rest => blockComment? (depth + 1) rest
  | _ :: rest => blockComment? depth rest
  | [] => none

def skip? : Nat → List Char → Option (List Char)
  | 0, _ => none
  | fuel + 1, cs =>
    match cs.dropWhile isSpace with
    | '/' :: '/' :: rest => skip? fuel (rest.dropWhile (· ≠ '\n'))
    | '/' :: '*' :: rest => (blockComment? 0 rest).bind (skip? fuel)
    | '/' :: _ => none
    | rest => some rest

def space? (cs : List Char) : Option (List Char) := skip? (cs.length + 1) cs

/-! ## Names -/

def isNameStart (c : Char) : Bool := c.isAlpha || c = '_'

def isNameChar (c : Char) : Bool := c.isAlphanum || c = '_'

def isMarkedChar (c : Char) : Bool := isNameChar c || c = '.' || c = '+' || c = '-'

/-- A name at the front of a text, and the rest: as it stands, or marked with `r#`. -/
def name? : List Char → Option (List Char × List Char)
  | 'r' :: '"' :: _ => none
  | 'r' :: '#' :: rest =>
    let name := rest.takeWhile isMarkedChar
    if name.isEmpty then none else some (name, rest.drop name.length)
  | cs =>
    let name := cs.takeWhile isNameChar
    if (cs.head?.map isNameStart).getD false && name = cs.takeWhile isMarkedChar then
      some (name, cs.drop name.length)
    else none

def word? (word : List Char) (cs : List Char) : Option (List Char) :=
  (word.isPrefixOf? cs).filter fun rest => !(rest.head?.map isMarkedChar).getD false

/-! ## Texts -/

def escape? : List Char → Option (Char × List Char)
  | 'n' :: rest => some ('\n', rest)
  | 'r' :: rest => some ('\r', rest)
  | 't' :: rest => some ('\t', rest)
  | '0' :: rest => some ('\x00', rest)
  | '\\' :: rest => some ('\\', rest)
  | '\'' :: rest => some ('\'', rest)
  | '"' :: rest => some ('"', rest)
  | 'x' :: a :: b :: rest => do pure (← Toml.hexChar? [a, b], rest)
  | 'u' :: '\x7b' :: rest =>
    let digits := rest.takeWhile (· ≠ '\x7d')
    if digits.isEmpty || 6 < digits.length then none
    else do pure (← Toml.hexChar? digits, rest.drop (digits.length + 1))
  | _ => none

/-- The content of a text behind its opening quote, and what follows its closing quote. -/
def quoted? : Nat → List Char → Option (List Char × List Char)
  | 0, _ => none
  | _, [] => none
  | fuel + 1, c :: rest =>
    if c = '"' then some ([], rest)
    else do
      let (x, rest) ← if c = '\\' then escape? rest else some (c, rest)
      let (content, rest) ← quoted? fuel rest
      pure (x :: content, rest)

/-- The content of a text without escapes up to a quote and as many hashes as opened it. -/
def raw? (hashes : Nat) : List Char → Option (List Char × List Char)
  | [] => none
  | c :: rest =>
    if c = '"' && rest.take hashes = List.replicate hashes '#' then some ([], rest.drop hashes)
    else (raw? hashes rest).map fun (content, rest) => (c :: content, rest)

def text? : List Char → Option (List Char × List Char)
  | '"' :: rest => quoted? (rest.length + 1) rest
  | 'r' :: rest =>
    let hashes := (rest.takeWhile (· = '#')).length
    match rest.drop hashes with
    | '"' :: rest => raw? hashes rest
    | _ => none
  | '\'' :: '\\' :: rest => do
    let (x, rest) ← escape? rest
    match rest with
    | '\'' :: rest => pure ([x], rest)
    | _ => none
  | '\'' :: c :: '\'' :: rest => if c = '\'' then none else some ([c], rest)
  | _ => none

/-! ## Numbers -/

def isNumberChar (c : Char) : Bool := c.isAlphanum || c = '_' || c = '.' || c = '+' || c = '-'

def natural? (base : Nat) (cs : List Char) : Option Int :=
  let digits := cs.filter (· ≠ '_')
  if cs.isEmpty || cs.head? = some '_' then none
  else do
    let values ← digits.mapM Json.hexValue?
    if values.all (· < base) then some (values.foldl (fun n d => base * n + d) 0 : Nat) else none

def magnitude? : List Char → Option Int
  | '0' :: 'x' :: rest => natural? 16 rest
  | '0' :: 'o' :: rest => natural? 8 rest
  | '0' :: 'b' :: rest => natural? 2 rest
  | cs => natural? 10 cs

def integer? : List Char → Option Int
  | '-' :: rest => ((magnitude? rest).map (- ·)).filter Literal.fitsSigned
  | '+' :: rest => (magnitude? rest).filter Literal.fitsSigned
  | cs => (magnitude? cs).filter Literal.fitsUnsigned

def real? (cs : List Char) : Option Double :=
  let negative := cs.head? = some '-'
  let body := if negative || cs.head? = some '+' then cs.drop 1 else cs
  if body = "inf".toList then some ⟨negative, Width.double.infinity⟩
  else if body = "NaN".toList then some .nan
  else if body.any fun c => c.isDigit || c = '.' then
    if cs.any (fun c => c.isAlpha && c ≠ 'e' && c ≠ 'E' || c = '_') then none
    else Literal.real? (String.ofList cs)
  else none

def number? (cs : List Char) : Option Setting :=
  match integer? cs with
  | some i => some (if Literal.fitsSigned i then .integer i else .real (Binary.ofInt i))
  | none => (real? cs).map .real

/-! ## Values -/

def nestingLimit : Nat := 64

/-- The text behind a closing character, or behind a comma, and whether it was the former. -/
def continued? (close : Char) (cs : List Char) : Option (Bool × List Char) := do
  match ← space? cs with
  | c :: rest =>
    if c = close then some (true, rest) else if c = ',' then some (false, rest) else none
  | [] => none

def isNamed (cs : List Char) : Bool :=
  match name? cs with
  | some (_, rest) => (space? rest).bind List.head? == some ':'
  | none => false

mutual

def value? : Nat → Nat → List Char → Option (Setting × List Char)
  | 0, _, _ => none
  | fuel + 1, depth, cs =>
    match word? "true".toList cs, word? "false".toList cs, word? "None".toList cs with
    | some rest, _, _ => some (.truth true, rest)
    | _, some rest, _ => some (.truth false, rest)
    | _, _, some rest => some (.nothing, rest)
    | _, _, _ =>
      match word? "Some".toList cs, word? "inf".toList cs, word? "NaN".toList cs with
      | some rest, _, _ => optional? fuel depth rest
      | _, some rest, _ => some (.real .infinite, rest)
      | _, _, some rest => some (.real .nan, rest)
      | _, _, _ =>
        match name? cs with
        | some (_, rest) => do structure? fuel depth (← space? rest)
        | none =>
          match cs, depth with
          | '(' :: ')' :: rest, _ => some (.nothing, rest)
          | '(' :: _, _ => structure? fuel depth cs
          | '[' :: rest, depth + 1 =>
            (items? fuel depth ']' rest).map fun (items, rest) => (.list items, rest)
          | '\x7b' :: rest, depth + 1 =>
            (entries? fuel depth '\x7d' rest).map fun (entries, rest) => (.table entries, rest)
          | c :: _, _ =>
            if c.isDigit || c = '+' || c = '-' || c = '.' then
              (number? (cs.takeWhile isNumberChar)).map (·, cs.dropWhile isNumberChar)
            else (text? cs).map fun (content, rest) => (.text (String.ofList content), rest)
          | [], _ => none

def optional? : Nat → Nat → List Char → Option (Setting × List Char)
  | 0, _, _ => none
  | fuel + 1, depth, cs => do
    match ← space? cs, depth with
    | '(' :: rest, depth + 1 =>
      let (value, rest) ← value? fuel depth (← space? rest)
      match ← continued? ')' rest with
      | (true, rest) => pure (value, rest)
      | (false, rest) =>
        match ← space? rest with
        | ')' :: rest => pure (value, rest)
        | _ => none
    | _, _ => none

/-- A structure behind its name: a table if its first part has a name, and nothing without
parentheses. -/
def structure? : Nat → Nat → List Char → Option (Setting × List Char)
  | 0, _, _ => none
  | fuel + 1, depth, cs =>
    match cs, depth with
    | '(' :: rest, depth + 1 => do
      let inner ← space? rest
      if isNamed inner then
        (entries? fuel depth ')' inner).map fun (entries, rest) => (.table entries, rest)
      else (items? fuel depth ')' inner).map fun (items, rest) => (.list items, rest)
    | '(' :: _, 0 => none
    | _, _ => some (.nothing, cs)

def items? : Nat → Nat → Char → List Char → Option (List Setting × List Char)
  | 0, _, _, _ => none
  | fuel + 1, depth, close, cs => do
    match ← space? cs with
    | [] => none
    | c :: rest =>
      if c = close then pure ([], rest)
      else
        let (item, rest) ← value? fuel depth (c :: rest)
        match ← continued? close rest with
        | (true, rest) => pure ([item], rest)
        | (false, rest) =>
          let (items, rest) ← items? fuel depth close rest
          pure (item :: items, rest)

/-- The entries up to a closing character; a later entry of a name counts. In parentheses a name
stands as it is, in braces it is a text. -/
def entries? : Nat → Nat → Char → List Char → Option (SettingTable × List Char)
  | 0, _, _, _ => none
  | fuel + 1, depth, close, cs => do
    match ← space? cs with
    | [] => none
    | c :: rest =>
      if c = close then pure ([], rest)
      else
        let (key, behind) ← if close = ')' then name? (c :: rest) else text? (c :: rest)
        match ← space? behind with
        | ':' :: rest =>
          let (value, rest) ← value? fuel depth (← space? rest)
          let entry := (String.ofList key, value)
          match ← continued? close rest with
          | (true, rest) => pure ([entry], rest)
          | (false, rest) =>
            let (entries, rest) ← entries? fuel depth close rest
            pure (if entries.any (·.1 = entry.1) then entries else entry :: entries, rest)
        | _ => none

end

/-! ## Documents -/

/-- The extensions that a document may ask for; none of them changes what is read here. -/
def extensions : List (List Char) :=
  ["unwrap_newtypes".toList, "implicit_some".toList, "unwrap_variant_newtypes".toList]

def extensionNames? : Nat → List Char → Option (List Char)
  | 0, _ => none
  | fuel + 1, cs => do
    let (name, rest) ← name? (← space? cs)
    if extensions.contains name then
      match ← continued? ')' rest with
      | (true, rest) => pure rest
      | (false, rest) =>
        match ← space? rest with
        | ')' :: rest => pure rest
        | rest => extensionNames? fuel rest
    else none

def body? : Nat → List Char → Option (List Char)
  | 0, _ => none
  | fuel + 1, cs => do
    match ← space? cs with
    | '#' :: rest =>
      match ← space? rest with
      | '!' :: rest =>
        match ← space? rest with
        | '[' :: rest =>
          let rest ← space? rest
          let rest ← word? "enable".toList rest
          match ← space? rest with
          | '(' :: rest =>
            let rest ← extensionNames? rest.length rest
            match ← space? rest with
            | ']' :: rest => body? fuel rest
            | _ => none
          | _ => none
        | _ => none
      | _ => none
    | rest => pure rest

def ofText? (s : String) : Option SettingTable := do
  let cs ← body? (s.toList.length + 1) s.toList
  match ← value? (2 * cs.length + 2) nestingLimit cs with
  | (.table entries, rest) => if (← space? rest).isEmpty then some entries else none
  | _ => none

end Ontograph.Ron
