/-
Ontograph.Proofs.Cypher.Schema — the script of an ontology, read as statements.

`schemaTexts` lists the statements that an ontology gives rise to, property by
property. The script holds them between comments, and names are written into
both; a name may hold a semicolon, two slashes or a backtick, and still the
script is read as exactly this list (`statements_script`), as long as no name
holds a line feed: a statement then has a line of its own, it begins and ends
with characters of its own, and a comment ends with its line.
-/
import Mathlib.Data.List.Basic
import Ontograph.Cypher.Schema
import Ontograph.Proofs.Cypher.Script
import Ontograph.Proofs.Text.Lowercase

namespace Ontograph.Cypher

open Text (FeedFree)

/-! ## The list -/

def nodeText (node : NodeType) (p : Property) (kind : IndexKind) : String :=
  SchemaObject.statement { type := node.name, property := p.name, kind }

def constraintTexts (node : NodeType) (p : Property) : List String :=
  if p.unique then [nodeText node p .unique]
  else if p.required then [nodeText node p .presence]
  else []

def indexTexts (node : NodeType) (p : Property) : List String :=
  if p.indexed = true ∧ p.unique = false then [nodeText node p .range]
  else if p.fulltext then [nodeText node p .fulltext]
  else if p.type.isVector then [nodeText node p .vector]
  else []

def relationshipTexts (rel : RelationshipType) (p : Property) : List String :=
  if p.indexed then
    [SchemaObject.statement
      { onRelationship := true, type := rel.name, property := p.name, kind := .range }]
  else []

/-- The statements of an ontology: the constraints of all node types, their indexes, and the
indexes of all relationship types. -/
def schemaTexts (o : Ontology) : List String :=
  (o.nodeTypes.flatMap fun node => node.properties.flatMap (constraintTexts node)) ++
    (o.nodeTypes.flatMap fun node => node.properties.flatMap (indexTexts node)) ++
    o.relationshipTypes.flatMap fun rel => rel.properties.flatMap (relationshipTexts rel)

/-- The constraints of a node type, property by property. -/
theorem map_statement_constraints (node : NodeType) :
    (constraints node).map SchemaObject.statement =
      node.properties.flatMap (constraintTexts node) := by
  rw [constraints, List.filterMap_eq_flatMap_toList, List.map_flatMap]
  congr 1
  funext p
  unfold constraintKind? constraintTexts
  split
  · rfl
  · split <;> rfl

theorem map_statement_indexes (node : NodeType) :
    (indexes node).map SchemaObject.statement = node.properties.flatMap (indexTexts node) := by
  rw [indexes, List.filterMap_eq_flatMap_toList, List.map_flatMap]
  congr 1
  funext p
  have hrange : (p.indexed && !p.unique) = true ↔ p.indexed = true ∧ p.unique = false := by simp
  simp only [indexKind?, indexTexts, hrange]
  split
  · rfl
  · split
    · rfl
    · split <;> rfl

theorem map_statement_relationshipIndexes (rel : RelationshipType) :
    (relationshipIndexes rel).map SchemaObject.statement =
      rel.properties.flatMap (relationshipTexts rel) := by
  rw [relationshipIndexes, List.map_map]
  induction rel.properties with
  | nil => rfl
  | cons p rest ih => cases hp : p.indexed <;> simp [relationshipTexts, hp, ih]

/-! ## Lines without feeds -/

theorem feedFree_nameText {s : String} (h : FeedFree s) : FeedFree (nameText s) := by
  have hdoubled : '\n' ∉ doubled s.toList := by
    intro hmem
    obtain ⟨c, hc, hfeed⟩ := List.mem_flatMap.mp hmem
    have : '\n' = c := by split at hfeed <;> simpa using hfeed
    exact h (this ▸ hc)
  rw [FeedFree, nameText, String.toList_ofList, writtenName]
  split
  · exact h
  · simp [hdoubled, tick]

theorem feedFree_indexName {type property : String} (htype : FeedFree type)
    (hproperty : FeedFree property) (kind : IndexKind) :
    FeedFree (indexName type property kind) := by
  have hending : FeedFree kind.ending := by cases kind <;> decide
  have hbar : FeedFree "_" := by decide
  simp [indexName, Text.feedFree_lower htype, hproperty, hending, hbar]

theorem feedFree_target {property : String} (h : FeedFree property) (kind : IndexKind) :
    FeedFree (SchemaObject.target property kind) := by
  cases kind <;> simp [SchemaObject.target, h] <;> decide

/-- A statement holds a line feed only if its type or its property does. -/
theorem feedFree_statement {s : SchemaObject} (htype : FeedFree s.type)
    (hproperty : FeedFree s.property) : FeedFree s.statement := by
  have hopening : FeedFree (SchemaObject.opening s.kind) := by cases s.kind <;> decide
  have hname : FeedFree (nameText s.name) :=
    feedFree_nameText (feedFree_indexName htype hproperty s.kind)
  have hlabel := feedFree_nameText htype
  have htarget := feedFree_target (feedFree_nameText hproperty) s.kind
  have hkey := feedFree_nameText hproperty
  unfold SchemaObject.statement
  split <;> simp [hopening, hname, hlabel, htarget, hkey] <;> decide

/-! ## Statements on lines of their own -/

theorem getLast?_append_text {t : String} {last : Char} (h : t.toList.getLast? = some last)
    (s : String) : (s ++ t).toList.getLast? = some last := by
  rw [String.toList_append, List.getLast?_append, h, Option.some_or]

theorem target_ends (property : String) (kind : IndexKind) :
    ∃ last, (SchemaObject.target property kind).toList.getLast? = some last ∧
      Text.isBlank last = false := by
  cases kind with
  | unique => exact ⟨'E', getLast?_append_text (by decide) _, by decide⟩
  | presence => exact ⟨'L', getLast?_append_text (by decide) _, by decide⟩
  | range => exact ⟨')', getLast?_append_text (by decide) _, by decide⟩
  | fulltext => exact ⟨']', getLast?_append_text (by decide) _, by decide⟩
  | vector => exact ⟨'}', getLast?_append_text (by decide) _, by decide⟩

/-- A statement is a line of its own: nothing of it is taken for a comment or for a blank. -/
theorem standsAlone_statement (s : SchemaObject) : StandsAlone s.statement := by
  have hopening : (SchemaObject.opening s.kind).toList.head? = some 'C' := by
    cases s.kind <;> decide
  refine ⟨⟨'C', ?_, by decide, by decide⟩, ?_⟩
  · simp only [SchemaObject.statement, String.toList_append, List.head?_append, hopening,
      Option.some_or]
  · unfold SchemaObject.statement
    split
    · exact ⟨')', getLast?_append_text (getLast?_append_text (by decide) _) _, by decide⟩
    · obtain ⟨last, hlast, hblank⟩ := target_ends (nameText s.property) s.kind
      exact ⟨last, getLast?_append_text (getLast?_append_text hlast _) _, hblank⟩

/-! ## The lines of the script -/

theorem yields_fileHeader (what : String) (o : Ontology) : Yields (fileHeader what o) [] := by
  have hfile : IsComment ("// Auto-generated " ++ what ++ " from ontology") :=
    ((by decide : IsComment "// Auto-generated ").append _).append _
  have hedit : IsComment "// DO NOT EDIT - regenerate with `corpus generate`" := by decide
  have hsource : IsComment ("// Ontology: " ++ o.domain ++ " v" ++ o.version) :=
    (((by decide : IsComment "// Ontology: ").append _).append _).append _
  exact (Yields.comment hfile).append
    ((Yields.comment hedit).append ((Yields.comment hsource).append Yields.blank))

theorem yields_sectionLines (title : String) : Yields (sectionLines title) [] := by
  have hrule : IsComment rule := by decide
  have htitle : IsComment ("// " ++ title) := (by decide : IsComment "// ").append _
  exact (Yields.comment hrule).append
    ((Yields.comment htitle).append ((Yields.comment hrule).append Yields.blank))

theorem yields_objectLines (objects : List SchemaObject) :
    Yields (objectLines objects) (objects.map SchemaObject.statement) := by
  induction objects with
  | nil => exact Yields.nil
  | cons s rest ih => exact (Yields.statement (standsAlone_statement s)).append ih

/-- A section gives the statements of its objects. -/
theorem yields_nodeLines (what : String) (objects : NodeType → List SchemaObject)
    (node : NodeType) :
    Yields (nodeLines what objects node) ((objects node).map SchemaObject.statement) := by
  have hcomment : IsComment ("// " ++ node.name ++ " " ++ what) :=
    (((by decide : IsComment "// ").append _).append _).append _
  have h := (Yields.comment hcomment).append
    ((yields_objectLines (objects node)).append Yields.blank)
  rwa [List.nil_append, List.append_nil] at h

/-- The lines of a script give the statements of all objects. -/
theorem yields_scriptLines (o : Ontology) : Yields (scriptLines o) (schemaTexts o) := by
  have hconstraints := (yields_sectionLines "Constraints").append
    (Yields.flatMap (yields_nodeLines "constraints" constraints) o.nodeTypes)
  have hindexes := (yields_sectionLines "Indexes").append
    (Yields.flatMap (yields_nodeLines "indexes" indexes) o.nodeTypes)
  have hrelationships := (yields_sectionLines "Relationship Indexes").append
    (Yields.flatMap (fun rel => yields_objectLines (relationshipIndexes rel)) o.relationshipTypes)
  simp only [map_statement_constraints, List.nil_append] at hconstraints
  simp only [map_statement_indexes, List.nil_append] at hindexes
  simp only [map_statement_relationshipIndexes, List.nil_append] at hrelationships
  exact (((yields_fileHeader "Neo4j schema" o).append hconstraints).append hindexes).append
    hrelationships

/-! ## Names without feeds -/

/-- No name that is written into the script of an ontology holds a line feed. -/
structure FeedFreeNames (o : Ontology) : Prop where
  domain : FeedFree o.domain
  version : FeedFree o.version
  nodes : ∀ node ∈ o.nodeTypes, FeedFree node.name ∧ ∀ p ∈ node.properties, FeedFree p.name
  relationships : ∀ rel ∈ o.relationshipTypes,
    FeedFree rel.name ∧ ∀ p ∈ rel.properties, FeedFree p.name

theorem feedFree_objectLines {objects : List SchemaObject}
    (h : ∀ s ∈ objects, FeedFree s.type ∧ FeedFree s.property) :
    ∀ line ∈ objectLines objects, FeedFree line := by
  intro line hline
  obtain ⟨s, hs, rfl⟩ := List.mem_map.mp hline
  exact Text.feedFree_append.mpr ⟨feedFree_statement (h s hs).1 (h s hs).2, by decide⟩

/-- The constraints and indexes of a node type carry its name and those of its properties. -/
theorem feedFree_of_nodeObjects {node : NodeType} {kind? : Property → Option IndexKind}
    (hnode : FeedFree node.name ∧ ∀ p ∈ node.properties, FeedFree p.name) :
    ∀ s ∈ node.properties.filterMap fun p => (kind? p).map fun kind =>
        ({ type := node.name, property := p.name, kind } : SchemaObject),
      FeedFree s.type ∧ FeedFree s.property := by
  intro s hs
  obtain ⟨p, hp, hkind⟩ := List.mem_filterMap.mp hs
  obtain ⟨kind, -, rfl⟩ := Option.map_eq_some_iff.mp hkind
  exact ⟨hnode.1, hnode.2 p hp⟩

theorem feedFree_nodeLines {what : String} (hwhat : FeedFree what)
    {objects : NodeType → List SchemaObject} {node : NodeType} (hname : FeedFree node.name)
    (h : ∀ s ∈ objects node, FeedFree s.type ∧ FeedFree s.property) :
    ∀ line ∈ nodeLines what objects node, FeedFree line := by
  have htitle : FeedFree ("// " ++ node.name ++ " " ++ what) := by
    simp only [Text.feedFree_append]
    exact ⟨⟨⟨by decide, hname⟩, by decide⟩, hwhat⟩
  have hblank : ∀ line ∈ [""], FeedFree line := by decide
  exact List.forall_mem_cons.mpr
    ⟨htitle, List.forall_mem_append.mpr ⟨feedFree_objectLines h, hblank⟩⟩

theorem feedFree_flatMap_nodeLines {o : Ontology} (h : FeedFreeNames o) {what : String}
    (hwhat : FeedFree what) {objects : NodeType → List SchemaObject}
    (hobjects : ∀ node ∈ o.nodeTypes, ∀ s ∈ objects node,
      FeedFree s.type ∧ FeedFree s.property) :
    ∀ line ∈ o.nodeTypes.flatMap (nodeLines what objects), FeedFree line := by
  intro line hline
  obtain ⟨node, hnode, hline⟩ := List.mem_flatMap.mp hline
  exact feedFree_nodeLines hwhat (h.nodes node hnode).1 (hobjects node hnode) line hline

theorem feedFree_fileHeader {what : String} (hwhat : FeedFree what) {o : Ontology}
    (hdomain : FeedFree o.domain) (hversion : FeedFree o.version) :
    ∀ line ∈ fileHeader what o, FeedFree line := by
  have hfile : FeedFree ("// Auto-generated " ++ what ++ " from ontology") := by
    simp only [Text.feedFree_append]
    exact ⟨⟨by decide, hwhat⟩, by decide⟩
  have hsource : FeedFree ("// Ontology: " ++ o.domain ++ " v" ++ o.version) := by
    simp only [Text.feedFree_append]
    exact ⟨⟨⟨by decide, hdomain⟩, by decide⟩, hversion⟩
  simp only [fileHeader, List.forall_mem_cons]
  exact ⟨hfile, by decide, hsource, by decide, by decide⟩

theorem feedFree_sectionLines {title : String} (h : FeedFree title) :
    ∀ line ∈ sectionLines title, FeedFree line := by
  have hrule : FeedFree rule := by decide +kernel
  have htitle : FeedFree ("// " ++ title) := Text.feedFree_append.mpr ⟨by decide, h⟩
  simp only [sectionLines, List.forall_mem_cons]
  exact ⟨hrule, htitle, hrule, by decide, by decide⟩

/-- If no name holds a line feed, no line of the script does. -/
theorem feedFree_scriptLines {o : Ontology} (h : FeedFreeNames o) :
    ∀ line ∈ scriptLines o, FeedFree line := by
  simp only [scriptLines, List.forall_mem_append]
  refine ⟨⟨⟨feedFree_fileHeader (by decide) h.domain h.version,
    feedFree_sectionLines (by decide), ?_⟩,
    feedFree_sectionLines (by decide), ?_⟩, feedFree_sectionLines (by decide), ?_⟩
  · exact feedFree_flatMap_nodeLines h (by decide) fun node hnode =>
      feedFree_of_nodeObjects (h.nodes node hnode)
  · exact feedFree_flatMap_nodeLines h (by decide) fun node hnode =>
      feedFree_of_nodeObjects (h.nodes node hnode)
  · intro line hline
    obtain ⟨rel, hrel, hline⟩ := List.mem_flatMap.mp hline
    refine feedFree_objectLines (fun s hs => ?_) line hline
    obtain ⟨p, hp, rfl⟩ := List.mem_map.mp hs
    exact ⟨(h.relationships rel hrel).1,
      (h.relationships rel hrel).2 p (List.mem_of_mem_filter hp)⟩

/-- The script of an ontology is read as the list of its statements. -/
theorem statements_script {o : Ontology} (h : FeedFreeNames o) :
    statements (script o) = schemaTexts o :=
  statements_joinLines (feedFree_scriptLines h) (yields_scriptLines o)

end Ontograph.Cypher
