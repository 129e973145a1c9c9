/-
Ontograph.Proofs.Loader.ObjectNames — the names of a schema, written and read.

A statement that creates a constraint or an index is fixed text with three
names in it: that of the object, that of its type and that of its property.
Whatever is in a name, it is read back if what comes after it can neither go on
with it nor double its last backtick, and the fixed text after a name always
begins so. Hence the three names can be read off (`readNames?_statement`), and
with them the object: two objects have one statement only if they are the same
(`statement_injective`).

The lines of a script that are neither empty nor comments are these statements
(`filter_scriptLines`), and what a search asks for is the name that is read off
the statement for its vector index: `schema_names_read` has the whole.
-/
import Ontograph.Proofs.Cypher.ObjectName
import Ontograph.Proofs.Loader.SearchIndex

namespace Ontograph.Cypher

/-! ## The three names of a statement -/

/-- What stands behind the type and behind the property of an object on a node. -/
def targetPieces : IndexKind → List String
  | .unique => [") REQUIRE n.", " IS UNIQUE"]
  | .presence => [") REQUIRE n.", " IS NOT NULL"]
  | .range => [") ON (n.", ")"]
  | .fulltext => [") ON EACH [n.", "]"]
  | .vector => [") ON (n.", ") OPTIONS "]

/-- The fixed pieces of the statement that creates an object, with a name between any two. -/
def statementPieces (s : SchemaObject) : List String :=
  SchemaObject.opening s.kind ::
    if s.onRelationship then [" IF NOT EXISTS FOR ()-[r:", "]-() ON (r.", ")"]
    else " IF NOT EXISTS FOR (n:" :: targetPieces s.kind

/-- Three names are read, each of them up to the piece behind it. -/
theorem readNames?_three (first second third last : String) {c d e : Char}
    (hsecond : second.toList.head? = some c) (hc : EndsName c)
    (hthird : third.toList.head? = some d) (hd : EndsName d)
    (hlast : last.toList.head? = some e) (he : EndsName e) (a b n : String) (rest : List Char) :
    readNames? [first, second, third, last]
        (first.toList ++ (writtenName a.toList ++ (second.toList ++ (writtenName b.toList ++
          (third.toList ++ (writtenName n.toList ++ (last.toList ++ rest))))))) =
      some [a, b, n] := by
  rw [readNames?_name first hsecond hc, readNames?_name second hthird hd,
    readNames?_name third hlast he, readNames?_end]
  simp

/-- Behind the type, the target of an object on a node is its two pieces with the property between
them. -/
theorem target_pieces (property : String) (kind : IndexKind) :
    ∃ (third last : String) (e : Char) (rest : List Char),
      targetPieces kind = [third, last] ∧
        third.toList.head? = some ')' ∧ last.toList.head? = some e ∧ EndsName e ∧
        ')' :: ' ' :: (SchemaObject.target property kind).toList =
          third.toList ++ (property.toList ++ (last.toList ++ rest)) := by
  cases kind with
  | unique => exact ⟨_, _, _, [], rfl, rfl, rfl, by decide, by simp [SchemaObject.target]⟩
  | presence => exact ⟨_, _, _, [], rfl, rfl, rfl, by decide, by simp [SchemaObject.target]⟩
  | range => exact ⟨_, _, _, [], rfl, rfl, rfl, by decide, by simp [SchemaObject.target]⟩
  | fulltext => exact ⟨_, _, _, [], rfl, rfl, rfl, by decide, by simp [SchemaObject.target]⟩
  | vector =>
    exact ⟨_, _, _, ("\x7bindexConfig: \x7b`vector.dimensions`: " ++ toString vectorDimensions ++
      ", `vector.similarity_function`: 'cosine'\x7d\x7d").toList, rfl, rfl, rfl, by decide,
      by simp [SchemaObject.target]⟩

/-- **The names of a statement are read as they were**: the object's, its type's and its
property's. -/
theorem readNames?_statement (s : SchemaObject) :
    readNames? (statementPieces s) s.statement.toList = some [s.name, s.type, s.property] := by
  have hspace : EndsName ' ' := by decide
  have hround : EndsName ')' := by decide
  have hsquare : EndsName ']' := by decide
  unfold statementPieces
  cases hon : s.onRelationship with
  | true =>
    have h := readNames?_three (SchemaObject.opening s.kind) " IF NOT EXISTS FOR ()-[r:"
      "]-() ON (r." ")" rfl hspace rfl hsquare rfl hround s.name s.type s.property []
    simpa [SchemaObject.statement, hon, nameText] using h
  | false =>
    obtain ⟨third, last, e, rest, hpieces, hthird, hlast, he, htarget⟩ :=
      target_pieces (nameText s.property) s.kind
    have h := readNames?_three (SchemaObject.opening s.kind) " IF NOT EXISTS FOR (n:" third last
      rfl hspace hthird hround hlast he s.name s.type s.property rest
    simp only [nameText, String.toList_ofList] at htarget
    rw [← htarget] at h
    simpa [SchemaObject.statement, hon, hpieces, nameText] using h

/-! ## Statements and objects -/

/-- What an object is on shows behind its name. -/
theorem onRelationship_eq {s t : SchemaObject} (h : s.statement = t.statement)
    (hkind : s.kind = t.kind) (hname : s.name = t.name) : s.onRelationship = t.onRelationship := by
  have htext := congrArg String.toList h
  cases hs : s.onRelationship <;> cases ht : t.onRelationship
  · rfl
  · simp [SchemaObject.statement, hs, ht, hkind, hname] at htext
  · simp [SchemaObject.statement, hs, ht, hkind, hname] at htext
  · rfl

/-- **One statement, one object**: what a statement creates is known from its text. -/
theorem statement_injective : Function.Injective SchemaObject.statement := by
  intro s t h
  have hname : s.name = t.name := by
    have hread := createdName?_statement s
    rw [h, createdName?_statement t] at hread
    exact (Option.some.inj hread).symm
  obtain ⟨hkind, -⟩ := SchemaObject.name_eq_iff.mp hname
  have hon := onRelationship_eq h hkind hname
  have hread := readNames?_statement s
  rw [h, show statementPieces s = statementPieces t by simp [statementPieces, hkind, hon],
    readNames?_statement t] at hread
  simp only [Option.some.injEq, List.cons.injEq] at hread
  obtain ⟨-, htype, hproperty, -⟩ := hread
  cases s
  cases t
  simp_all

/-! ## The lines of a script -/

def isBusy (line : String) : Bool := !isIdle line.toList

theorem isBusy_of_comment {line : String} (h : IsComment line) : isBusy line = false := by
  simp [isBusy, isIdle, List.isPrefixOf_iff_prefix.mpr h]

theorem filter_objectLines (objects : List SchemaObject) :
    (objectLines objects).filter isBusy = objectLines objects := by
  refine List.filter_eq_self.mpr fun line hline => ?_
  obtain ⟨s, -, rfl⟩ := List.mem_map.mp hline
  obtain ⟨⟨first, hhead, -, hslash⟩, -⟩ := standsAlone_statement s
  obtain ⟨rest, hrest⟩ := List.head?_eq_some_iff.mp hhead
  simp [isBusy, isIdle, hrest, List.isPrefixOf, Ne.symm hslash]

/-- Of a section, the statements of its objects are left. -/
theorem filter_nodeLines (what : String) (objects : NodeType → List SchemaObject)
    (node : NodeType) :
    (nodeLines what objects node).filter isBusy = objectLines (objects node) := by
  have hcomment : IsComment ("// " ++ node.name ++ " " ++ what) :=
    (((by decide : IsComment "// ").append _).append _).append _
  have hblank : [""].filter isBusy = [] := by decide
  rw [nodeLines, List.cons_append,
    List.filter_cons_of_neg (Bool.eq_false_iff.mp (isBusy_of_comment hcomment)),
    List.filter_append, filter_objectLines, hblank, List.append_nil]

theorem filter_sectionLines {title : String} : (sectionLines title).filter isBusy = [] := by
  have htitle : IsComment ("// " ++ title) := (by decide : IsComment "// ").append _
  have hrule : isBusy rule = false := by decide
  have hblank : isBusy "" = false := by decide
  simp [sectionLines, isBusy_of_comment htitle, hrule, hblank]

theorem filter_fileHeader (what : String) (o : Ontology) :
    (fileHeader what o).filter isBusy = [] := by
  have hfile : IsComment ("// Auto-generated " ++ what ++ " from ontology") :=
    ((by decide : IsComment "// Auto-generated ").append _).append _
  have hsource : IsComment ("// Ontology: " ++ o.domain ++ " v" ++ o.version) :=
    (((by decide : IsComment "// Ontology: ").append _).append _).append _
  have hedit : isBusy "// DO NOT EDIT - regenerate with `corpus generate`" = false := by decide
  have hblank : isBusy "" = false := by decide
  simp [fileHeader, isBusy_of_comment hfile, isBusy_of_comment hsource, hedit, hblank]

/-- The lines of a script that are neither empty nor comments are the statements of its objects. -/
theorem filter_scriptLines (o : Ontology) :
    (scriptLines o).filter isBusy = objectLines (schemaObjects o) := by
  have hflat {α : Type} (things : List α) (objects : α → List SchemaObject) :
      objectLines (things.flatMap objects) = things.flatMap fun a => objectLines (objects a) := by
    simp [objectLines, List.map_flatMap]
  simp only [scriptLines, List.filter_append, List.filter_flatMap, filter_fileHeader,
    filter_sectionLines, filter_nodeLines, filter_objectLines, List.nil_append]
  rw [← hflat, ← hflat, ← hflat, schemaObjects]
  simp [objectLines]

end Ontograph.Cypher

namespace Ontograph.Loader

open Cypher (EndsName FeedFreeNames SchemaObject createdName? indexName isBusy objectLines readName?
  schemaObjects scriptLines)

variable {σ : Type}

/-- **Names are read as they were written.** A name is read back from its written form, and what
follows is left, if that begins with a character that ends a name. The lines of a script that are
neither empty nor comments are the statements of its objects, and these are what is sent if no name
holds a line feed. Objects with one statement are the same, with their types, properties and kinds;
the name that a statement creates is the one made of these three; and whatever a search asks for is
the name that the statement for the vector index of the searched type and property creates. -/
theorem schema_names_read (l : Loader (StateM σ)) (query : String) (type : Option String)
    (limit : Nat) :
    (∀ (n : String) (c : Char) (rest : List Char), EndsName c →
      readName? ((Cypher.nameText n).toList ++ c :: rest) = some (n.toList, c :: rest)) ∧
    (scriptLines l.ontology).filter isBusy = objectLines (schemaObjects l.ontology) ∧
    (FeedFreeNames l.ontology → Cypher.statements (Cypher.script l.ontology) =
      (schemaObjects l.ontology).map SchemaObject.statement) ∧
    (∀ s t : SchemaObject, s.statement = t.statement → s = t) ∧
    (∀ s : SchemaObject, createdName? s.statement = some (indexName s.type s.property s.kind)) ∧
    Traces (l.observed.semanticSearch query type limit) fun _ events =>
      ∀ text params answer, .sent text params answer ∈ events →
        ∃ node ∈ l.ontology.nodeTypes, ∃ p, node.vectorProperty? = some p ∧
          text = Statement.searchText (quoted node.name) ∧
          (params.field? "index_name").bind Json.string? =
            createdName? (Cypher.nodeText node p .vector) := by
  refine ⟨fun n c rest hc => ?_, Cypher.filter_scriptLines l.ontology, fun hfree => ?_,
    fun s t h => Cypher.statement_injective h, Cypher.createdName?_statement,
    (traces_semanticSearch l query type limit).mono ?_⟩
  · rw [Cypher.nameText, String.toList_ofList]
    exact Cypher.readName?_writtenName n.toList hc rest
  · rw [Cypher.statements_script hfree, Cypher.map_statement_schemaObjects]
  · intro outcome events hevents text params answer hmem
    obtain ⟨⟨node, p⟩, vector, ⟨hnode, hp⟩, rfl, rfl⟩ := hevents text params answer hmem
    refine ⟨node, hnode, p, hp, rfl, ?_⟩
    rw [Cypher.nodeText, Cypher.createdName?_statement]
    rfl

def billDate : SchemaObject where
  type := "Bill"
  property := "action_date"
  kind := .unique

def actionDate : SchemaObject where
  type := "Bill_Action"
  property := "date"
  kind := .unique

/-- A name that begins and ends with the quote, the script of documents, and two constraints that
have one name: their statements are different all the same. -/
theorem quotedName_read :
    EndsName ')' ∧
      readName? ((Cypher.nameText "`Doc`").toList ++ ')' :: " ON".toList) =
        some ("`Doc`".toList, ')' :: " ON".toList) ∧
      FeedFreeNames (documents false) ∧
      Cypher.statements (Cypher.script (documents false)) =
        (schemaObjects (documents false)).map SchemaObject.statement ∧
      billDate.statement ≠ actionDate.statement ∧
      createdName? billDate.statement = some "bill_action_date_unique" ∧
      createdName? actionDate.statement = some "bill_action_date_unique" := by
  obtain ⟨hread, -, hsent, hsame, hcreated, -⟩ :=
    schema_names_read (documentLoader false) "fish" none 5
  have hend : EndsName ')' := by decide
  have hfree := feedFreeNames_documents false
  have hne : billDate ≠ actionDate := by decide
  refine ⟨hend, hread _ _ _ hend, hfree, hsent hfree, fun h => hne (hsame _ _ h), ?_, ?_⟩
  · rw [hcreated]
    decide +kernel
  · rw [hcreated]
    decide +kernel

end Ontograph.Loader
