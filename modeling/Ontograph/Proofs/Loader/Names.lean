/-
Ontograph.Proofs.Loader.Names — the names in a statement's text.

A statement of the loader is a fixed text with quoted names in it. Cut at the
quotes, it is fixed pieces and names in turn, since a name that can be quoted
holds no quote itself (`cutAtQuotes_mergeNodeText`, `cutAtQuotes_mergeEdgeText`).
`quotedIn` reads the names off, and it reads off just those that were written
(`quotedIn_mergeNodeText`, `quotedIn_mergeEdgeText`), whatever other characters
are in them.
-/
import Ontograph.Loader.Statement

namespace Ontograph

/-! ## Cutting -/

def cutAtQuotes (text : String) : List (List Char) := text.toList.splitOn labelQuote

/-- A text can be put together again from its pieces. -/
theorem cutAtQuotes_inj {text text' : String} :
    cutAtQuotes text = cutAtQuotes text' ↔ text = text' := by
  have htogether (t : String) : [labelQuote].intercalate (cutAtQuotes t) = t.toList :=
    List.intercalate_splitOn labelQuote
  refine ⟨fun h => String.toList_inj.mp ?_, congrArg cutAtQuotes⟩
  rw [← htogether text, h, htogether]

/-- A text has one piece more than it has quotes. -/
theorem length_cutAtQuotes (text : String) :
    (cutAtQuotes text).length = text.toList.count labelQuote + 1 := by
  rw [cutAtQuotes]
  induction text.toList with
  | nil => rfl
  | cons c rest ih =>
    rw [List.splitOn_cons_eq_if_modifyHead, List.count_cons]
    split <;> simp [ih]

def everySecond {α : Type} : List α → List α
  | _ :: b :: rest => b :: everySecond rest
  | [_] | [] => []

/-- The names in a text: the pieces that a quote opens and a quote closes. -/
def quotedIn (text : String) : List String := (everySecond (cutAtQuotes text)).map String.ofList

theorem isQuotable_iff {name : String} :
    isQuotable name = true ↔ Text.isBlankText name = false ∧ labelQuote ∉ name.toList := by
  simp [isQuotable]

theorem toList_quoted (name : String) :
    (quoted name).toList = labelQuote :: (name.toList ++ [labelQuote]) := by
  simp [quoted]

/-- The first name of a text is cut out, and what follows it is cut further. -/
theorem splitOn_name {head name : List Char} (hhead : labelQuote ∉ head) (hname : labelQuote ∉ name)
    (rest : List Char) :
    (head ++ labelQuote :: (name ++ labelQuote :: rest)).splitOn labelQuote =
      head :: name :: rest.splitOn labelQuote := by
  rw [List.splitOn_append_cons_self_of_not_mem hhead,
    List.splitOn_append_cons_self_of_not_mem hname]

/-! ## Node statements -/

/-- The pieces of labels with colons between them, up to what follows them. -/
theorem splitOn_labels {head tail : List Char} (hhead : labelQuote ∉ head)
    (htail : labelQuote ∉ tail) {first : String} {others : List String}
    (h : ∀ name ∈ first :: others, labelQuote ∉ name.toList) :
    (head ++ ((":".intercalate ((first :: others).map quoted)).toList ++ tail)).splitOn labelQuote =
      head :: first.toList :: (others.flatMap (fun name => [[':'], name.toList]) ++ [tail]) := by
  induction others generalizing head first with
  | nil =>
    have hfirst := h first (by simp)
    simp only [List.map_cons, List.map_nil, String.intercalate_singleton, toList_quoted,
      List.cons_append, List.append_assoc, List.nil_append, List.flatMap_nil]
    rw [splitOn_name hhead hfirst, List.splitOn_eq_singleton htail]
  | cons second others ih =>
    have hfirst := h first (by simp)
    have hrest : ∀ name ∈ second :: others, labelQuote ∉ name.toList := fun name hn =>
      h name (List.mem_cons_of_mem _ hn)
    have hcolon : labelQuote ∉ [':'] := by decide
    simp only [List.map_cons, String.intercalate_cons_cons, String.toList_append, toList_quoted,
      List.cons_append, List.append_assoc, List.nil_append, List.flatMap_cons]
    rw [splitOn_name hhead hfirst]
    exact congrArg (head :: first.toList :: ·) (ih hcolon hrest)

theorem everySecond_labels (head first tail : List Char) (others : List String) :
    everySecond (head :: first :: (others.flatMap (fun name => [[':'], name.toList]) ++ [tail])) =
      first :: others.map String.toList := by
  induction others generalizing head first with
  | nil => rfl
  | cons second others ih => exact congrArg (first :: ·) (ih [':'] second.toList)

/-- The pieces of the text that writes a node: its labels, and what is fixed around them. -/
def nodePieces (labels : List String) : List String :=
  "MERGE (n:" :: labels.intersperse ":" ++
    [" \x7bid: $id\x7d) SET n += $props RETURN n.id AS id"]

/-- Around the labels there is one piece more than there are labels. -/
theorem length_nodePieces {labels : List String} (h : labels ≠ []) :
    (nodePieces labels).length = 2 * labels.length + 1 := by
  have hpos := List.length_pos_iff.mpr h
  rw [nodePieces, List.length_append, List.length_cons, List.length_intersperse,
    List.length_singleton]
  omega

theorem intersperse_eq_flatMap (first : String) (others : List String) :
    ((first :: others).intersperse ":").map String.toList =
      first.toList :: others.flatMap fun name => [[':'], name.toList] := by
  induction others generalizing first with
  | nil => rfl
  | cons second others ih =>
    rw [List.intersperse_cons_cons, List.map_cons, List.map_cons, ih]
    rfl

/-- Cut at its quotes, the text that writes a node is its pieces. -/
theorem cutAtQuotes_mergeNodeText {first : String} {others : List String}
    (h : ∀ name ∈ first :: others, isQuotable name = true) :
    cutAtQuotes (Statement.mergeNodeText ((first :: others).map quoted)) =
      (nodePieces (first :: others)).map String.toList := by
  have hnames : ∀ name ∈ first :: others, labelQuote ∉ name.toList := fun name hn =>
    (isQuotable_iff.mp (h name hn)).2
  have htext : (Statement.mergeNodeText ((first :: others).map quoted)).toList =
      "MERGE (n:".toList ++ ((":".intercalate ((first :: others).map quoted)).toList ++
        " \x7bid: $id\x7d) SET n += $props RETURN n.id AS id".toList) := by
    simp only [Statement.mergeNodeText, String.toList_append, List.append_assoc]
  rw [cutAtQuotes, htext, splitOn_labels (by decide) (by decide) hnames, nodePieces,
    List.map_append, List.map_cons, intersperse_eq_flatMap]
  rfl

theorem quotedIn_mergeNodeText {first : String} {others : List String}
    (h : ∀ name ∈ first :: others, isQuotable name = true) :
    quotedIn (Statement.mergeNodeText ((first :: others).map quoted)) = first :: others := by
  rw [quotedIn, cutAtQuotes_mergeNodeText h, nodePieces, List.map_append, List.map_cons,
    intersperse_eq_flatMap, List.cons_append, List.cons_append, List.map_singleton,
    everySecond_labels]
  simp [Function.comp_def]

/-! ## Relationship statements -/

/-- The pieces of the text that writes a relationship: three names, and what is fixed around
them. -/
def edgePieces (source target kind : String) : List String :=
  ["MATCH (a:", source, " \x7bid: $from_id\x7d) MATCH (b:", target,
    " \x7bid: $to_id\x7d) MERGE (a)-[r:", kind,
    "]->(b) SET r += $props RETURN type(r) AS type"]

/-- The pieces of a relationship's text determine its three names. -/
theorem edgePieces_inj {source target kind source' target' kind' : String} :
    edgePieces source target kind = edgePieces source' target' kind' ↔
      source = source' ∧ target = target' ∧ kind = kind' := by
  simp only [edgePieces, List.cons.injEq, true_and, and_true]

/-- Cut at its quotes, the text that writes a relationship is its pieces. -/
theorem cutAtQuotes_mergeEdgeText {source target kind : String}
    (hsource : isQuotable source = true) (htarget : isQuotable target = true)
    (hkind : isQuotable kind = true) :
    cutAtQuotes (Statement.mergeEdgeText (quoted source) (quoted target) (quoted kind)) =
      (edgePieces source target kind).map String.toList := by
  have htext : (Statement.mergeEdgeText (quoted source) (quoted target) (quoted kind)).toList =
      "MATCH (a:".toList ++ labelQuote :: (source.toList ++ labelQuote ::
        (" \x7bid: $from_id\x7d) MATCH (b:".toList ++ labelQuote :: (target.toList ++ labelQuote ::
          (" \x7bid: $to_id\x7d) MERGE (a)-[r:".toList ++ labelQuote :: (kind.toList ++
            labelQuote :: "]->(b) SET r += $props RETURN type(r) AS type".toList))))) := by
    simp only [Statement.mergeEdgeText, String.toList_append, toList_quoted, List.append_assoc,
      List.cons_append, List.nil_append]
  rw [cutAtQuotes, htext,
    splitOn_name (by decide) (isQuotable_iff.mp hsource).2,
    splitOn_name (by decide) (isQuotable_iff.mp htarget).2,
    splitOn_name (by decide) (isQuotable_iff.mp hkind).2,
    List.splitOn_eq_singleton (by decide)]
  rfl

theorem quotedIn_mergeEdgeText {source target kind : String} (hsource : isQuotable source = true)
    (htarget : isQuotable target = true) (hkind : isQuotable kind = true) :
    quotedIn (Statement.mergeEdgeText (quoted source) (quoted target) (quoted kind)) =
      [source, target, kind] := by
  rw [quotedIn, cutAtQuotes_mergeEdgeText hsource htarget hkind]
  change [source.toList, target.toList, kind.toList].map String.ofList = [source, target, kind]
  simp only [List.map_cons, List.map_nil, String.ofList_toList]

end Ontograph
