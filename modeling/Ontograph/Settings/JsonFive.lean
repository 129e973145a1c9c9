/-
Ontograph.Settings.JsonFive — JSON5 documents as settings.

JSON5 is JSON as people like to write it: with comments, names without quotes,
texts in quotes of either kind, commas behind the last item and numbers in
more than one spelling. An integer has to fit sixty-four bits, one in
hexadecimal digits thirty-two and no sign, and there is no word for a number
that is not finite.
-/
import Ontograph.Json.Parser
import Ontograph.Settings.Setting
import Ontograph.Text.Alphanumeric

namespace Ontograph.JsonFive

/-! ## Blanks and comments -/

def isBreak (c : Char) : Bool := c = '\n' || c = '\r' || c = '\u2028' || c = '\u2029'

def isSpace (c : Char) : Bool := (Text.isBlank c && c ≠ '\u0085') || c = '\ufeff'

def blockComment? : List Char → Option (List Char)
  | '*' :: '/' :: rest => some rest
  | _ :: rest => blockComment? rest
  | [] => none

def skip? : Nat → List Char → Option (List Char)
  | 0, _ => none
  | fuel + 1, cs =>
    match cs.dropWhile isSpace with
    | '/' :: '/' :: rest => skip? fuel (rest.dropWhile (!isBreak ·))
    | '/' :: '*' :: rest => (blockComment? rest).bind (skip? fuel)
    | rest => some rest

def space? (cs : List Char) : Option (List Char) := skip? (cs.length + 1) cs

/-! ## Texts and names -/

/-- The characters of a code point, which may be no half of a surrogate pair. -/
def charOf? (n : Nat) : Option Char := if n.isValidChar then some (Char.ofNat n) else none

/-- The character that a character behind a backslash stands for, if it is not the mark of a code
point. -/
def unescape? (c : Char) : Option Char :=
  match c with
  | 'b' => some '\x08'
  | 'f' => some '\x0c'
  | 'n' => some '\n'
  | 'r' => some '\r'
  | 't' => some '\t'
  | 'v' => some '\x0b'
  | '0' => some '\x00'
  | c => if c.isDigit || c = 'x' || c = 'u' then none else some c

def quoted? (quote : Char) : List Char → Option (List Char × List Char)
  | [] => none
  | '\\' :: '\r' :: '\n' :: rest => quoted? quote rest
  | '\\' :: 'x' :: a :: b :: rest => do
    let x ← charOf? (← Json.unit? '0' '0' a b)
    (quoted? quote rest).map fun (content, rest) => (x :: content, rest)
  | '\\' :: 'u' :: a :: b :: c :: d :: '\\' :: 'u' :: e :: f :: g :: h :: rest => do
    let high ← Json.unit? a b c d
    if 0xD800 ≤ high ∧ high < 0xDC00 then
      let low ← Json.unit? e f g h
      if 0xDC00 ≤ low ∧ low < 0xE000 then
        let x := Char.ofNat (0x10000 + (high - 0xD800) * 0x400 + (low - 0xDC00))
        (quoted? quote rest).map fun (content, rest) => (x :: content, rest)
      else none
    else
      let x ← charOf? high
      (quoted? quote ('\\' :: 'u' :: e :: f :: g :: h :: rest)).map fun (content, rest) =>
        (x :: content, rest)
  | '\\' :: 'u' :: a :: b :: c :: d :: rest => do
    let x ← charOf? (← Json.unit? a b c d)
    (quoted? quote rest).map fun (content, rest) => (x :: content, rest)
  | '\\' :: c :: rest =>
    if isBreak c then quoted? quote rest
    else do
      let x ← unescape? c
      (quoted? quote rest).map fun (content, rest) => (x :: content, rest)
  | c :: rest =>
    if c = quote then some ([], rest)
    else if isBreak c || c = '\\' then none
    else (quoted? quote rest).map fun (content, rest) => (c :: content, rest)

def isNameStart (c : Char) : Bool :=
  c.isAlpha || c = '$' || c = '_' || (0x80 ≤ c.toNat && Text.isAlphanumeric c)

def isNameChar (c : Char) : Bool :=
  isNameStart c || c.isDigit || c = '\u200c' || c = '\u200d'

/-- The rest of a name without quotes, and what follows; `first` tells that it is still to begin. -/
def name? (first : Bool) : List Char → Option (List Char × List Char)
  | '\\' :: 'u' :: a :: b :: c :: d :: rest => do
    let x ← charOf? (← Json.unit? a b c d)
    (name? false rest).map fun (name, rest) => (x :: name, rest)
  | c :: rest =>
    if isNameStart c || (!first && isNameChar c) then
      (name? false rest).map fun (name, rest) => (c :: name, rest)
    else if first then none
    else some ([], c :: rest)
  | [] => if first then none else some ([], [])

def key? : List Char → Option (List Char × List Char)
  | '"' :: rest => quoted? '"' rest
  | '\'' :: rest => quoted? '\'' rest
  | cs => name? true cs

/-! ## Numbers -/

/-- The setting of a number without its sign; `sign` is put before it. -/
def unsigned? (sign : List Char) (cs : List Char) : Option (Setting × List Char) :=
  let isMark := fun c => c = 'e' || c = 'E'
  let whole := cs.takeWhile Char.isDigit
  let behindWhole := cs.drop whole.length
  let fraction := match behindWhole with
    | '.' :: rest => '.' :: rest.takeWhile Char.isDigit
    | _ => []
  let behindFraction := behindWhole.drop fraction.length
  let exponent := match behindFraction with
    | mark :: rest =>
      let sign := rest.takeWhile fun c => c = '+' || c = '-'
      let digits := (rest.drop sign.length).takeWhile Char.isDigit
      if isMark mark && sign.length ≤ 1 && !digits.isEmpty then mark :: (sign ++ digits) else []
    | [] => []
  let rest := behindFraction.drop exponent.length
  if whole.head? = some '0' && whole.length ≠ 1 then none
  else if whole.isEmpty && fraction.length < 2 then none
  else if fraction.isEmpty && exponent.isEmpty then
    (Literal.signed64? (String.ofList (sign ++ whole))).map fun i => (.integer i, rest)
  else
    (Literal.real? (String.ofList (sign ++ whole ++ fraction ++ exponent))).map fun x =>
      (.real x, rest)

def number? : List Char → Option (Setting × List Char)
  | '0' :: x :: rest =>
    if x = 'x' || x = 'X' then do
      let digits := rest.takeWhile fun c => (Json.hexValue? c).isSome
      let values ← digits.mapM Json.hexValue?
      let n : Nat := values.foldl (fun n d => 16 * n + d) 0
      if digits.isEmpty || Nat.pow 2 32 ≤ n then none
      else some (.integer (n : Int), rest.drop digits.length)
    else unsigned? [] ('0' :: x :: rest)
  | '+' :: rest => unsigned? ['+'] rest
  | '-' :: rest => unsigned? ['-'] rest
  | cs => unsigned? [] cs

/-! ## Values -/

mutual

def value? : Nat → List Char → Option (Setting × List Char)
  | 0, _ => none
  | fuel + 1, cs =>
    match cs with
    | '\x7b' :: rest => do
      match ← space? rest with
      | '\x7d' :: rest => pure (.table [], rest)
      | rest => (entries? fuel rest).map fun (entries, rest) => (.table entries, rest)
    | '[' :: rest => do
      match ← space? rest with
      | ']' :: rest => pure (.list [], rest)
      | rest => (items? fuel rest).map fun (items, rest) => (.list items, rest)
    | '"' :: rest =>
      (quoted? '"' rest).map fun (content, rest) => (.text (String.ofList content), rest)
    | '\'' :: rest =>
      (quoted? '\'' rest).map fun (content, rest) => (.text (String.ofList content), rest)
    | cs =>
      match Json.word? "null".toList cs, Json.word? "true".toList cs,
        Json.word? "false".toList cs with
      | some rest, _, _ => some (.nothing, rest)
      | _, some rest, _ => some (.truth true, rest)
      | _, _, some rest => some (.truth false, rest)
      | none, none, none => number? cs

def items? : Nat → List Char → Option (List Setting × List Char)
  | 0, _ => none
  | fuel + 1, cs => do
    let (item, rest) ← value? fuel cs
    match ← space? rest with
    | ']' :: rest => pure ([item], rest)
    | ',' :: rest =>
      match ← space? rest with
      | ']' :: rest => pure ([item], rest)
      | rest =>
        let (items, rest) ← items? fuel rest
        pure (item :: items, rest)
    | _ => none

/-- The entries of an object from one entry on, up to the closing brace; of several entries with
one key the last counts. -/
def entries? : Nat → List Char → Option (SettingTable × List Char)
  | 0, _ => none
  | fuel + 1, cs => do
    let (key, rest) ← key? cs
    match ← space? rest with
    | ':' :: rest =>
      let (value, rest) ← value? fuel (← space? rest)
      let entry := (String.ofList key, value)
      match ← space? rest with
      | '\x7d' :: rest => pure ([entry], rest)
      | ',' :: rest =>
        match ← space? rest with
        | '\x7d' :: rest => pure ([entry], rest)
        | rest =>
          let (entries, rest) ← entries? fuel rest
          pure (if entries.any (·.1 = entry.1) then entries else entry :: entries, rest)
      | _ => none
    | _ => none

end

def ofText? (s : String) : Option SettingTable := do
  let cs ← space? s.toList
  match ← value? (2 * cs.length + 2) cs with
  | (.table entries, rest) => if (← space? rest).isEmpty then some entries else none
  | _ => none

end Ontograph.JsonFive
