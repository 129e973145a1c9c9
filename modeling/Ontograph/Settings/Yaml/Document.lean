/-
Ontograph.Settings.Yaml.Document — YAML documents as settings.

Structure is a matter of columns: the entries of a table stand in one column,
the items of a list behind dashes in one column, and what belongs to an entry
or item is indented further, except that the dashes of an entry's list may
stand in the entry's column. In brackets structure is a matter of marks. A
value may be given a name and be referred to later, and a tag may say how a
text is meant. A file holds one document; one that holds none has no settings.
-/
import Ontograph.Settings.Yaml.Scalar

namespace Ontograph.Yaml

/-! ## Properties -/

structure Properties where
  anchor : Option String := none
  tag : Tag := .absent

def Properties.isEmpty (p : Properties) : Bool := p.anchor.isNone && p.tag = .absent

def Properties.register (p : Properties) (value : Setting) (c : Cursor) : Cursor :=
  match p.anchor with
  | none => c
  | some anchor => { c with anchors := (anchor, value) :: c.anchors }

def label (cs : List Char) : List Char := cs.takeWhile fun c => !isGap (some c) && !isFlowMark c

/-- What a tag's handle and suffix stand for. -/
def Tag.resolve? (handles : List (String × String)) (handle suffix : String) : Option Tag :=
  match handles.lookup handle with
  | some start => some (if start = "tag:yaml.org,2002:" then .core suffix else .other)
  | none =>
    if handle = "!!" then some (.core suffix) else if handle = "!" then some .other else none

def tag? (c : Cursor) : Option (Tag × Nat) :=
  match c.rest with
  | '!' :: '<' :: rest =>
    let inner := rest.takeWhile fun c => c ≠ '>' && c ≠ '\n'
    if inner.isEmpty || (rest.drop inner.length).head? ≠ some '>' then none
    else some (.other, inner.length + 3)
  | '!' :: rest =>
    let word := label rest
    let name := word.takeWhile (· ≠ '!')
    if name.length < word.length then do
      let suffix := word.drop (name.length + 1)
      if suffix.isEmpty then none
      else
        let tag ← Tag.resolve? c.handles (String.ofList ('!' :: name ++ ['!']))
          (String.ofList suffix)
        some (tag, word.length + 1)
    else do some (← Tag.resolve? c.handles "!" (String.ofList word), word.length + 1)
  | _ => none

/-- The properties at a place, which has to be behind blanks on one line, and the place behind
them. -/
def properties? : Nat → Properties → Cursor → Option (Properties × Cursor)
  | 0, _, _ => none
  | fuel + 1, p, c =>
    let spaced := fun c : Cursor => c.skip (c.rest.takeWhile isSpace).length
    match c.rest with
    | '&' :: rest =>
      let name := label rest
      if name.isEmpty || p.anchor.isSome then none
      else
        let behind := c.skip (name.length + 1)
        let here := spaced behind
        properties? fuel { p with anchor := some (String.ofList name) } here
    | '!' :: _ => do
      let (tag, length) ← tag? c
      let behind := c.skip length
      if p.tag ≠ .absent || !(isGap behind.head? || (behind.head?.map isFlowMark).getD false) then
        none
      else properties? fuel { p with tag } (spaced behind)
    | _ => some (p, c)

def alias? (c : Cursor) : Option (Setting × Cursor) :=
  match c.rest with
  | '*' :: rest => do
    let name := label rest
    let value ← c.anchors.lookup (String.ofList name)
    some (value, c.skip (name.length + 1))
  | _ => none

/-! ## Entries -/

/-- The name that a key stands for, and whether it is a text: a text or an integer. -/
def keyName? : Setting → Option (Bool × String)
  | .text s => some (true, s)
  | .integer i => some (false, toString i)
  | _ => none

abbrev Entries := List ((Bool × String) × Setting)

def Entries.add? (entries : Entries) (key value : Setting) : Option Entries := do
  let key ← keyName? key
  if (entries.map Prod.fst).contains key then none else some (entries ++ [(key, value)])

def Entries.table (entries : Entries) : Setting :=
  .table (entries.foldl (fun t e => place (e.1.2, e.2) t) [])

/-- The longest key that may stand before its colon. -/
def keyLimit : Nat := 1024

/-! ## Values in brackets -/

/-- Whether a text has a quote or a bracket at its front, so that a colon may follow directly. -/
def isClosed (c : Cursor) : Bool :=
  (c.head?.map fun x => ['"', '\'', '[', '\x7b'].contains x).getD false

def isColon (direct : Bool) (c : Cursor) : Bool :=
  match c.rest with
  | ':' :: rest => direct || isGap rest.head? || (rest.head?.map isFlowMark).getD false
  | _ => false

def isItemEnd (c : Cursor) : Bool :=
  (c.head?.map fun x => x = ',' || x = ']' || x = '\x7d').getD false

mutual

/-- A value in brackets, or a bracket in a block. -/
def inner? : Nat → Int → Cursor → Option (Setting × Cursor)
  | 0, _, _ => none
  | fuel + 1, n, c => do
    let (p, c) ← properties? (c.rest.length + 1) {} c
    let c ← if p.isEmpty then some c else c.innerGap? n
    let (value, c) ←
      if !p.isEmpty && (isItemEnd c || isColon false c) then do pure (← tagged? p.tag "", c)
      else
        match c.head? with
        | some '[' =>
          (innerItems? fuel n (c.skip 1)).map fun (items, c) => (.list items, c)
        | some '\x7b' =>
          (innerEntries? fuel n [] (c.skip 1)).map fun (entries, c) => (entries.table, c)
        | some '*' => if p.isEmpty then alias? c else none
        | some '"' | some '\'' =>
          (quoted? n c).map fun (text, c) => (.text (String.ofList text), c)
        | _ =>
          if isPlainStart true c.rest then do
            let (text, c) ← plainText? true false n (c.rest.length + 1) c
            pure (← tagged? p.tag (String.ofList text), c)
          else none
    pure (value, p.register value c)

def innerValue? : Nat → Int → Cursor → Option (Setting × Cursor)
  | 0, _, _ => none
  | fuel + 1, n, c => do
    let c ← c.innerGap? n
    if isItemEnd c then pure (.nothing, c) else inner? fuel n c

/-- The items of a list up to its closing bracket. An item may be a key with a value, which is a
table of its own. -/
def innerItems? : Nat → Int → Cursor → Option (List Setting × Cursor)
  | 0, _, _ => none
  | fuel + 1, n, c => do
    let start ← c.innerGap? n
    if start.head? = some ']' then pure ([], start.skip 1)
    else
      let asked := start.isAt ['?']
      let (key, c) ← if asked then innerValue? fuel n (start.skip 1) else inner? fuel n start
      let stop ← c.innerGap? n
      let (item, c) ←
        if isColon (isClosed start) stop &&
            (asked || !(Cursor.between start stop).contains '\n') then do
          let (value, c) ← innerValue? fuel n (stop.skip 1)
          pure ((← Entries.add? [] key value).table, c)
        else if asked then do pure ((← Entries.add? [] key .nothing).table, stop)
        else pure (key, stop)
      let c ← c.innerGap? n
      match c.head? with
      | some ']' => pure ([item], c.skip 1)
      | some ',' =>
        let (items, c) ← innerItems? fuel n (c.skip 1)
        pure (item :: items, c)
      | _ => none

def innerEntries? : Nat → Int → Entries → Cursor → Option (Entries × Cursor)
  | 0, _, _, _ => none
  | fuel + 1, n, entries, c => do
    let start ← c.innerGap? n
    if start.head? = some '\x7d' then pure (entries, start.skip 1)
    else
      let (key, c) ←
        if start.isAt ['?'] then innerValue? fuel n (start.skip 1) else inner? fuel n start
      let stop ← c.innerGap? n
      let (value, c) ←
        if isColon (isClosed start) stop then innerValue? fuel n (stop.skip 1)
        else pure (.nothing, stop)
      let entries ← entries.add? key value
      let c ← c.innerGap? n
      match c.head? with
      | some '\x7d' => pure (entries, c.skip 1)
      | some ',' => innerEntries? fuel n entries (c.skip 1)
      | _ => none

end

/-! ## Values in columns -/

/-- The key of an entry and the place behind its colon, all of it on one line. -/
def blockKey? (n : Int) (start : Cursor) : Option (Setting × Cursor) := do
  let (p, c) ← properties? (start.rest.length + 1) {} start
  let (key, c) ←
    match c.head? with
    | some '*' => if p.isEmpty then alias? c else none
    | some '"' | some '\'' => (quoted? n c).map fun (text, c) => (.text (String.ofList text), c)
    | some '[' | some '\x7b' => inner? (2 * c.rest.length + 2) n c
    | _ =>
      if isPlainStart false c.rest then do
        let (text, c) ← plainText? false true n (c.rest.length + 1) c
        pure (← tagged? p.tag (String.ofList text), c)
      else none
  let line := Cursor.between start c
  let stop := c.skip (c.rest.takeWhile isSpace).length
  match stop.rest with
  | ':' :: rest =>
    let tabs := rest.takeWhile isSpace
    let first := (rest.drop tabs.length).head?
    if !isGap rest.head? || line.contains '\n' || keyLimit < line.length then none
    else if rest.head? = some '\t' && !tabs.contains ' ' &&
        (first.map fun x => x.isAlphanum || x = '_' || x = '-').getD false then none
    else some (key, p.register key (stop.skip 1))
  | _ => none

/-- Whether no value stands at a place behind a gap: the document ends there, or the indentation of
more than `n` columns does and there is no list in column `n` that may belong to an entry. -/
def isMissing (n : Int) (dashes : Bool) (c : Cursor) : Bool :=
  c.isOver || (c.fresh && c.column ≤ n && !(dashes && c.column = n && c.isAt ['-']))

mutual

/-- A value that is indented by more than `n` columns, behind the gap before it. In a line that has
begun already, `inline` tells whether a list or a table may begin there too; `dashes` tells that a
list may stand in column `n`. -/
def node? : Nat → Int → Bool → Bool → Cursor → Option (Setting × Cursor)
  | 0, _, _, _, _ => none
  | fuel + 1, n, inline, dashes, c => do
    let c ← c.gap? n
    if isMissing n dashes c then pure (.nothing, c)
    else
      match ← collection? fuel (c.fresh || inline) c with
      | some found => pure found
      | none =>
        let (p, behind) ← properties? (c.rest.length + 1) {} c
        if p.isEmpty then content? fuel n .absent c
        else
          let c ← behind.gap? n
          let (value, c) ←
            if isMissing n dashes c then do pure (← tagged? p.tag "", c)
            else
              match ← collection? fuel c.fresh c with
              | some found => pure found
              | none => if c.head? = some '*' then none else content? fuel n p.tag c
          pure (value, p.register value c)

def collection? : Nat → Bool → Cursor → Option (Option (Setting × Cursor))
  | 0, _, _ => none
  | fuel + 1, allowed, c =>
    if !allowed then if c.isAt ['-'] || c.isAt ['?'] then none else some none
    else if c.isAt ['-'] then
      (items? fuel c.column c).map fun (items, c) => some (.list items, c)
    else if c.isAt ['?'] || (blockKey? c.column c).isSome then
      (entries? fuel c.column [] c).map fun (entries, c) => some (entries.table, c)
    else some none

def content? : Nat → Int → Tag → Cursor → Option (Setting × Cursor)
  | 0, _, _, _ => none
  | fuel + 1, n, tag, c =>
    match c.head? with
    | some '|' => (block? false n (c.skip 1)).map fun (text, c) => (.text (String.ofList text), c)
    | some '>' => (block? true n (c.skip 1)).map fun (text, c) => (.text (String.ofList text), c)
    | some '*' => alias? c
    | some '"' | some '\'' => (quoted? n c).map fun (text, c) => (.text (String.ofList text), c)
    | some '[' | some '\x7b' => inner? fuel n c
    | _ =>
      if isPlainStart false c.rest then do
        let (text, c) ← plainText? false false n (c.rest.length + 1) c
        pure (← tagged? tag (String.ofList text), c)
      else none

def items? : Nat → Nat → Cursor → Option (List Setting × Cursor)
  | 0, _, _ => none
  | fuel + 1, column, c => do
    let (item, c) ← node? fuel column true false (c.skip 1)
    let c ← c.gap? column
    if c.isOver || (c.fresh && c.column < column) then pure ([item], c)
    else if c.fresh && c.column = column then
      if c.isAt ['-'] then
        let (items, c) ← items? fuel column c
        pure (item :: items, c)
      else pure ([item], c)
    else none

def entries? : Nat → Nat → Entries → Cursor → Option (Entries × Cursor)
  | 0, _, _, _ => none
  | fuel + 1, column, entries, c => do
    let (key, value, c) ←
      if c.isAt ['?'] then do
        let (key, c) ← node? fuel column true true (c.skip 1)
        let c ← c.gap? column
        if c.fresh && c.column = column && c.isAt [':'] then
          let (value, c) ← node? fuel column true true (c.skip 1)
          pure (key, value, c)
        else pure (key, .nothing, c)
      else do
        let (key, c) ← blockKey? column c
        let (value, c) ← node? fuel column false true c
        pure (key, value, c)
    let entries ← entries.add? key value
    let c ← c.gap? column
    if c.isOver || (c.fresh && c.column < column) then pure (entries, c)
    else if c.fresh && c.column = column then entries? fuel column entries c
    else none

end

/-! ## Documents -/

def directives? : Nat → Bool → Cursor → Option (Bool × Cursor)
  | 0, _, _ => none
  | fuel + 1, found, c => do
    let c ← c.gap? (-1)
    if c.fresh && c.column = 0 && c.head? = some '%' then
      let line := c.rest.takeWhile (· ≠ '\n')
      match (String.ofList line).splitOn " " |>.filter (!·.isEmpty) with
      | ["%TAG", handle, start] =>
        directives? fuel true { c.endOfLine with handles := (handle, start) :: c.handles }
      | _ => directives? fuel true c.endOfLine
    else pure (found, c)

def ends? : Nat → Cursor → Option Cursor
  | 0, _ => none
  | fuel + 1, c => do
    let c ← c.gap? (-1)
    if c.isMarker && c.head? = some '.' then
      let c ← (c.skip 3).gap? (-1)
      if c.fresh || c.rest.isEmpty then ends? fuel c else none
    else pure c

def ofText? (s : String) : Option SettingTable := do
  let text := unifyBreaks s.toList
  let fuel := text.length + 1
  let (directed, c) ← directives? fuel false (← ends? fuel { rest := text })
  let marked := c.isMarker && c.head? = some '-'
  if directed && !marked then none
  else if c.rest.isEmpty then pure []
  else
    let start := if marked then c.skip 3 else c
    let (value, c) ← node? (4 * fuel) (-1) false false start
    let c ← c.gap? (-1)
    if !c.isOver then none
    else
      match value, (← ends? fuel c).rest with
      | .table entries, [] => pure entries
      | _, _ => none

end Ontograph.Yaml
