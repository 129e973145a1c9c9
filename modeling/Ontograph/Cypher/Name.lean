/-
Ontograph.Cypher.Name — names inside query texts.

A name made of ASCII letters, digits and underscores that does not begin with
a digit stands for itself. Any other name is put between backticks, a backtick
in it written twice. `readName?` is the rule by which such a name is read.
-/

namespace Ontograph.Cypher

/-- The character that encloses a name. -/
def tick : Char := '\x60'

def startsName (c : Char) : Bool := c.isAlpha || c = '_'

def continuesName (c : Char) : Bool := c.isAlphanum || c = '_'

def isPlain : List Char → Bool
  | [] => false
  | c :: rest => startsName c && rest.all continuesName

def doubled (cs : List Char) : List Char := cs.flatMap fun c => if c = tick then [c, c] else [c]

def writtenName (cs : List Char) : List Char :=
  if isPlain cs then cs else tick :: (doubled cs ++ [tick])

def nameText (s : String) : String := String.ofList (writtenName s.toList)

/-! ## Reading -/

/-- The name behind an opening backtick, and what follows its closing one. -/
def readQuoted? : List Char → Option (List Char × List Char)
  | [] => none
  | c :: rest =>
    if c = tick then
      match rest with
      | [] => some ([], [])
      | d :: rest' =>
        if d = tick then (readQuoted? rest').map fun (name, after) => (tick :: name, after)
        else some ([], d :: rest')
    else (readQuoted? rest).map fun (name, after) => (c :: name, after)

def readName? : List Char → Option (List Char × List Char)
  | [] => none
  | c :: rest =>
    if c = tick then readQuoted? rest
    else if startsName c then
      some (c :: rest.takeWhile continuesName, rest.dropWhile continuesName)
    else none

end Ontograph.Cypher
