/-
Ontograph.Proofs.Cypher.ObjectName — which constraints and indexes share a name.

The name of an object is its type in small letters, its property and the ending
of its kind, with underscores between them. The ending can be read off, since
no ending holds an underscore; where the type ends and the property begins can
not. So two objects have the same name exactly if they are of one kind and
`Clash`: their types differ at most in the size of letters and their properties
not at all, or what begins the property of one ends the type of the other. Of
two objects with one name a store creates the first and passes over the second.

`validate` keeps the properties of one type apart, and with them the names of
its objects; it says nothing of names across types. `objectNames_nodup_iff` is
the whole condition, and `objectNames_repeated` an accepted ontology that does
not meet it.
-/
import Mathlib.Data.List.Nodup
import Ontograph.Proofs.Cypher.Name
import Ontograph.Proofs.Cypher.Schema
import Ontograph.Proofs.Ontology.Basic
import Ontograph.Proofs.Text.Separator

namespace Ontograph.Cypher

/-! ## Names and their parts -/

/-- What comes after the last underscore can be read off. -/
theorem append_bar_inj {front front' back back' : List Char} (h : '_' ∉ back) (h' : '_' ∉ back')
    (heq : front ++ '_' :: back = front' ++ '_' :: back') : front = front' ∧ back = back' := by
  rcases Text.append_cons_eq_iff.mp heq with hsame | ⟨between, -, rfl⟩ | ⟨between, -, rfl⟩
  · exact hsame
  · simp at h
  · simp at h'

theorem bar_not_mem_ending (kind : IndexKind) : '_' ∉ kind.ending.toList := by
  cases kind <;> decide

theorem ending_injective : Function.Injective IndexKind.ending := by
  intro kind kind' h
  cases kind <;> cases kind' <;> simp_all [IndexKind.ending]

namespace SchemaObject

/-- The name without the ending of the kind. -/
def stem (s : SchemaObject) : String := Text.lower s.type ++ "_" ++ s.property

/-- What begins the property of one object, up to an underscore, ends the type of another. -/
def Shifted (s t : SchemaObject) : Prop :=
  ∃ between : String, Text.lower t.type = Text.lower s.type ++ "_" ++ between ∧
    s.property = between ++ "_" ++ t.property

/-- Types and properties that make the same stem. -/
def Clash (s t : SchemaObject) : Prop :=
  (Text.lower s.type = Text.lower t.type ∧ s.property = t.property) ∨ s.Shifted t ∨ t.Shifted s

theorem toList_name (s : SchemaObject) :
    s.name.toList = s.stem.toList ++ '_' :: s.kind.ending.toList := by
  simp [name, indexName, stem]

/-- Two objects have one name if they are of one kind and their names have one stem. -/
theorem name_eq_iff {s t : SchemaObject} : s.name = t.name ↔ s.kind = t.kind ∧ s.stem = t.stem := by
  constructor
  · intro h
    have htext := congrArg String.toList h
    rw [toList_name, toList_name] at htext
    obtain ⟨hstem, hending⟩ :=
      append_bar_inj (bar_not_mem_ending s.kind) (bar_not_mem_ending t.kind) htext
    exact ⟨ending_injective (String.toList_inj.mp hending), String.toList_inj.mp hstem⟩
  · rintro ⟨hkind, hstem⟩
    rw [← String.toList_inj, toList_name, toList_name, hkind, hstem]

/-- The names of two objects have one stem exactly if the objects clash. -/
theorem stem_eq_iff {s t : SchemaObject} : s.stem = t.stem ↔ s.Clash t :=
  Text.append_mark_eq_iff (show "_".toList = ['_'] from rfl)

end SchemaObject

/-! ## The objects of an accepted ontology -/

/-- Objects of different things are different if the thing can be told from the object. -/
theorem nodup_flatMap_of_key {α : Type} {things : List α} {objects : α → List SchemaObject}
    (key : α → String) (read : SchemaObject → String) (hkeys : (things.map key).Nodup)
    (hread : ∀ a, ∀ s ∈ objects a, read s = key a) (hobjects : ∀ a ∈ things, (objects a).Nodup) :
    (things.flatMap objects).Nodup := by
  refine List.nodup_flatMap.mpr ⟨hobjects, (List.pairwise_map.mp hkeys).imp ?_⟩
  intro a b hne s hs hs'
  exact hne ((hread a s hs).symm.trans (hread b s hs'))

def nodeObjects (kind? : Property → Option IndexKind) (node : NodeType) : List SchemaObject :=
  node.properties.filterMap fun p =>
    (kind? p).map fun kind => { type := node.name, property := p.name, kind }

theorem constraints_eq_nodeObjects : constraints = nodeObjects constraintKind? := rfl

theorem indexes_eq_nodeObjects : indexes = nodeObjects indexKind? := rfl

/-- An object of a node type is on one of its properties, and of the kind that this has. -/
theorem mem_nodeObjects {kind? : Property → Option IndexKind} {node : NodeType} {s : SchemaObject}
    (h : s ∈ nodeObjects kind? node) :
    s.onRelationship = false ∧ s.type = node.name ∧
      ∃ p ∈ node.properties, s.property = p.name ∧ kind? p = some s.kind := by
  obtain ⟨p, hp, hs⟩ := List.mem_filterMap.mp h
  obtain ⟨kind, hkind, rfl⟩ := Option.map_eq_some_iff.mp hs
  exact ⟨rfl, rfl, p, hp, rfl, hkind⟩

theorem mem_relationshipIndexes {rel : RelationshipType} {s : SchemaObject}
    (h : s ∈ relationshipIndexes rel) : s.onRelationship = true ∧ s.type = rel.name := by
  obtain ⟨p, -, rfl⟩ := List.mem_map.mp h
  exact ⟨rfl, rfl⟩

theorem nodup_nodeObjects {node : NodeType} (h : (node.properties.map (·.name)).Nodup)
    (kind? : Property → Option IndexKind) : (nodeObjects kind? node).Nodup := by
  rw [nodeObjects, List.filterMap_eq_flatMap_toList]
  refine nodup_flatMap_of_key _ SchemaObject.property h (fun p s hs => ?_) fun p _ => ?_
  · obtain ⟨kind, -, rfl⟩ := Option.map_eq_some_iff.mp (Option.mem_toList.mp hs)
    rfl
  · cases kind? p <;> simp

theorem nodup_relationshipIndexes {rel : RelationshipType}
    (h : (rel.properties.map (·.name)).Nodup) : (relationshipIndexes rel).Nodup := by
  rw [relationshipIndexes, List.map_eq_flatMap]
  refine nodup_flatMap_of_key Property.name SchemaObject.property
    (h.sublist (List.filter_sublist.map _)) (fun p s hs => ?_) fun p _ => List.nodup_singleton _
  rw [List.mem_singleton.mp hs]

/-- A property has a constraint of a kind that no index has. -/
theorem constraintKind?_ne_indexKind? {p q : Property} {kind : IndexKind}
    (h : constraintKind? p = some kind) : indexKind? q ≠ some kind := by
  have hconstraint : kind = .unique ∨ kind = .presence := by
    unfold constraintKind? at h
    split at h
    · exact .inl (Option.some.inj h).symm
    · split at h
      · exact .inr (Option.some.inj h).symm
      · cases h
  unfold indexKind?
  rcases hconstraint with rfl | rfl <;> (repeat' split) <;> simp

/-- An accepted ontology has no object twice. -/
theorem nodup_schemaObjects {o : Ontology} (h : o.validate = .ok ()) : (schemaObjects o).Nodup := by
  have hnodes : (o.nodeTypes.map (·.name)).Nodup := o.nodes.distinct
  have hrelationships : (o.relationshipTypes.map (·.name)).Nodup := o.relationships.distinct
  have hflat (kind? : Property → Option IndexKind) :
      (o.nodeTypes.flatMap (nodeObjects kind?)).Nodup :=
    nodup_flatMap_of_key _ _ hnodes (fun _ _ hs => (mem_nodeObjects hs).2.1) fun _ hnode =>
      nodup_nodeObjects (o.properties_nodup_of_validate h hnode) kind?
  rw [schemaObjects, constraints_eq_nodeObjects, indexes_eq_nodeObjects]
  refine List.nodup_append.mpr ⟨List.nodup_append.mpr ⟨hflat _, hflat _, ?_⟩, ?_, ?_⟩
  · -- A constraint and an index are of different kinds.
    rintro s hs t ht rfl
    obtain ⟨node, -, hs⟩ := List.mem_flatMap.mp hs
    obtain ⟨node', -, ht⟩ := List.mem_flatMap.mp ht
    obtain ⟨-, -, p, -, -, hkind⟩ := mem_nodeObjects hs
    obtain ⟨-, -, q, -, -, hkind'⟩ := mem_nodeObjects ht
    exact constraintKind?_ne_indexKind? hkind hkind'
  · exact nodup_flatMap_of_key _ _ hrelationships
      (fun _ _ hs => (mem_relationshipIndexes hs).2) fun _ hrel =>
        nodup_relationshipIndexes (o.relationship_properties_nodup_of_validate h hrel)
  · -- What is on a node type is not on a relationship type.
    rintro s hs t ht rfl
    obtain ⟨rel, -, ht⟩ := List.mem_flatMap.mp ht
    have hon := (mem_relationshipIndexes ht).1
    rcases List.mem_append.mp hs with hs | hs <;> obtain ⟨node, -, hs⟩ := List.mem_flatMap.mp hs
    · exact absurd ((mem_nodeObjects hs).1.symm.trans hon) (by decide)
    · exact absurd ((mem_nodeObjects hs).1.symm.trans hon) (by decide)

/-! ## Names in statements -/

def openings : List String :=
  ["CREATE CONSTRAINT ", "CREATE INDEX ", "CREATE FULLTEXT INDEX ", "CREATE VECTOR INDEX "]

def createdName? (text : String) : Option String :=
  openings.findSome? fun opening =>
    (readNames? [opening, " IF NOT EXISTS FOR "] text.toList).bind List.head?

theorem opening_mem_openings (kind : IndexKind) : SchemaObject.opening kind ∈ openings := by
  cases kind <;> decide

theorem opening_not_prefix : ∀ a ∈ openings, ∀ b ∈ openings, a ≠ b → ¬ a.toList <+: b.toList := by
  decide

/-- A statement begins with one opening only. -/
theorem isPrefixOf_other_opening {a b : String} (ha : a ∈ openings) (hb : b ∈ openings)
    (hne : a ≠ b) (tail : List Char) : a.toList.isPrefixOf (b.toList ++ tail) = false := by
  rw [← Bool.not_eq_true, List.isPrefixOf_iff_prefix]
  intro hprefix
  rcases List.prefix_or_prefix_of_prefix hprefix (List.prefix_append b.toList tail) with h | h
  · exact opening_not_prefix a ha b hb hne h
  · exact opening_not_prefix b hb a ha hne.symm h

/-- The name that is read off a statement is the name of its object. -/
theorem createdName?_statement (s : SchemaObject) : createdName? s.statement = some s.name := by
  have hspace : EndsName ' ' := by decide
  have hopening := opening_mem_openings s.kind
  obtain ⟨rest, hrest⟩ : ∃ rest, s.statement.toList =
      (SchemaObject.opening s.kind).toList ++
        (writtenName s.name.toList ++ (" IF NOT EXISTS FOR ".toList ++ rest)) :=
    ⟨_, by
      simp only [SchemaObject.statement, nameText, String.toList_append, String.toList_ofList,
        List.append_assoc]
      rfl⟩
  have hread : readNames? [SchemaObject.opening s.kind, " IF NOT EXISTS FOR "]
      s.statement.toList = some [s.name] := by
    rw [hrest, readNames?_name _ rfl hspace, readNames?_end]
    rfl
  -- the openings are tried in order, and none in front of this one begins the statement
  obtain ⟨before, after, hopenings, hnew⟩ := List.eq_append_cons_of_mem hopening
  refine List.findSome?_eq_some_iff.mpr
    ⟨before, SchemaObject.opening s.kind, after, hopenings, by rw [hread]; rfl, ?_⟩
  intro other hother
  have hmem : other ∈ openings := by
    rw [hopenings]
    exact List.mem_append_left _ hother
  have hne : other ≠ SchemaObject.opening s.kind := by
    rintro rfl
    exact hnew hother
  rw [readNames?.eq_def]
  simp only [hrest, isPrefixOf_other_opening hmem hopening hne, Bool.false_eq_true, if_false,
    Option.bind_none]

theorem map_statement_schemaObjects (o : Ontology) :
    (schemaObjects o).map SchemaObject.statement = schemaTexts o := by
  simp only [schemaObjects, schemaTexts, List.map_append, List.map_flatMap,
    map_statement_constraints, map_statement_indexes, map_statement_relationshipIndexes]

/-- The names that the script of an ontology creates, one for each statement. -/
theorem map_createdName?_statements {o : Ontology} (h : FeedFreeNames o) :
    (statements (script o)).map createdName? =
      (schemaObjects o).map fun s => some s.name := by
  rw [statements_script h, ← map_statement_schemaObjects, List.map_map]
  exact List.map_congr_left fun s _ => createdName?_statement s

/-! ## Names that are taken -/

/-- No two objects of one kind clash. -/
def ClashFree (o : Ontology) : Prop :=
  ∀ s ∈ schemaObjects o, ∀ t ∈ schemaObjects o, s.kind = t.kind → s.Clash t → s = t

def smallTypeNames (o : Ontology) : List String :=
  o.nodeTypes.map (fun node => Text.lower node.name) ++
    o.relationshipTypes.map fun rel => Text.lower rel.name

/-- The types can be told apart by the beginning of a name: in small letters no two of them are the
same, and none goes on from another with an underscore. -/
structure TypesApart (o : Ontology) : Prop where
  distinct : (smallTypeNames o).Nodup
  apart : ∀ a ∈ smallTypeNames o, ∀ b ∈ smallTypeNames o, ¬ (a ++ "_").toList <+: b.toList

/-- An object is on a registered type. -/
theorem mem_schemaObjects {o : Ontology} {s : SchemaObject} (h : s ∈ schemaObjects o) :
    (s.onRelationship = false ∧ ∃ node ∈ o.nodeTypes, s.type = node.name) ∨
      (s.onRelationship = true ∧ ∃ rel ∈ o.relationshipTypes, s.type = rel.name) := by
  rw [schemaObjects, constraints_eq_nodeObjects, indexes_eq_nodeObjects, List.mem_append,
    List.mem_append] at h
  simp only [List.mem_flatMap] at h
  rcases h with (⟨node, hnode, hs⟩ | ⟨node, hnode, hs⟩) | ⟨rel, hrel, hs⟩
  · exact .inl ⟨(mem_nodeObjects hs).1, node, hnode, (mem_nodeObjects hs).2.1⟩
  · exact .inl ⟨(mem_nodeObjects hs).1, node, hnode, (mem_nodeObjects hs).2.1⟩
  · exact .inr ⟨(mem_relationshipIndexes hs).1, rel, hrel, (mem_relationshipIndexes hs).2⟩

theorem mem_smallTypeNames {o : Ontology} {s : SchemaObject} (h : s ∈ schemaObjects o) :
    Text.lower s.type ∈ smallTypeNames o := by
  rw [smallTypeNames, List.mem_append, List.mem_map, List.mem_map]
  rcases mem_schemaObjects h with ⟨-, node, hnode, htype⟩ | ⟨-, rel, hrel, htype⟩
  · exact .inl ⟨node, hnode, by rw [htype]⟩
  · exact .inr ⟨rel, hrel, by rw [htype]⟩

/-- If no two types are the same in small letters, a type in small letters is the type. -/
theorem type_eq_of_lower {o : Ontology} (h : (smallTypeNames o).Nodup) {s t : SchemaObject}
    (hs : s ∈ schemaObjects o) (ht : t ∈ schemaObjects o)
    (heq : Text.lower s.type = Text.lower t.type) :
    s.onRelationship = t.onRelationship ∧ s.type = t.type := by
  obtain ⟨hnodes, hrelationships, hother⟩ := List.nodup_append.mp h
  rcases mem_schemaObjects hs with ⟨hon, a, ha, hatype⟩ | ⟨hon, a, ha, hatype⟩ <;>
    rcases mem_schemaObjects ht with ⟨hon', b, hb, hbtype⟩ | ⟨hon', b, hb, hbtype⟩ <;>
    rw [hatype, hbtype] at heq
  · have hsame : a = b := List.inj_on_of_nodup_map hnodes ha hb heq
    exact ⟨hon.trans hon'.symm, by rw [hatype, hbtype, hsame]⟩
  · exact absurd heq (hother _ (List.mem_map_of_mem ha) _ (List.mem_map_of_mem hb))
  · exact absurd heq.symm (hother _ (List.mem_map_of_mem hb) _ (List.mem_map_of_mem ha))
  · have hsame : a = b := List.inj_on_of_nodup_map hrelationships ha hb heq
    exact ⟨hon.trans hon'.symm, by rw [hatype, hbtype, hsame]⟩

theorem TypesApart.not_shifted {o : Ontology} (h : TypesApart o) {s t : SchemaObject}
    (hs : s ∈ schemaObjects o) (ht : t ∈ schemaObjects o) : ¬ s.Shifted t := by
  rintro ⟨between, htype, -⟩
  refine h.apart _ (mem_smallTypeNames hs) _ (mem_smallTypeNames ht) ?_
  exact ⟨between.toList, by rw [htype, ← String.toList_append]⟩

/-- Where types are apart, no two objects clash. -/
theorem TypesApart.clashFree {o : Ontology} (h : TypesApart o) : ClashFree o := by
  rintro s hs t ht hkind (⟨htype, hproperty⟩ | hshifted | hshifted)
  · obtain ⟨hon, hname⟩ := type_eq_of_lower h.distinct hs ht htype
    cases s
    cases t
    simp_all
  · exact absurd hshifted (h.not_shifted hs ht)
  · exact absurd hshifted (h.not_shifted ht hs)

/-- **When the names are distinct.** The constraints and indexes of an accepted ontology have
distinct names exactly if no two of them clash, and none do if the types can be told apart by the
beginning of a name. These are the names that the statements of its script create. -/
theorem objectNames_nodup_iff {o : Ontology} (h : o.validate = .ok ()) :
    (((schemaObjects o).map SchemaObject.name).Nodup ↔ ClashFree o) ∧
      (TypesApart o → ClashFree o) ∧
      (FeedFreeNames o → (statements (script o)).map createdName? =
        (schemaObjects o).map fun s => some s.name) := by
  refine ⟨?_, TypesApart.clashFree, map_createdName?_statements⟩
  rw [List.nodup_map_iff_inj_on (nodup_schemaObjects h)]
  constructor
  · intro hdistinct s hs t ht hkind hclash
    exact hdistinct s hs t ht
      (SchemaObject.name_eq_iff.mpr ⟨hkind, SchemaObject.stem_eq_iff.mpr hclash⟩)
  · intro hfree s hs t ht hname
    obtain ⟨hkind, hstem⟩ := SchemaObject.name_eq_iff.mp hname
    exact hfree s hs t ht hkind (SchemaObject.stem_eq_iff.mp hstem)

def billsAndSponsors : Ontology :=
  let bill : NodeType := {
    name := "Bill"
    properties := commonProperties ++ [
      { name := "number", type := .standard .string, required := true, unique := true },
      { name := "title", type := .standard .text, required := true, fulltext := true },
      { name := "congress", type := .standard .integer, indexed := true }] }
  let sponsors : RelationshipType := {
    name := "SPONSORS"
    source := "Member"
    target := "Bill"
    properties := [
      { name := "date", type := .standard .date, indexed := true },
      { name := "note", type := .standard .string }] }
  (({ domain := "congressional", version := "1.0.0" } : Ontology).registerNode
    bill).registerRelationship sponsors

/-- An ontology with an object of every kind, and the names of these, which are distinct. -/
theorem objectNames_distinct :
    billsAndSponsors.validate = .ok () ∧
      (schemaObjects billsAndSponsors).map SchemaObject.name =
        ["bill_id_unique", "bill_number_unique", "bill_title_exists", "bill_embedding_vector",
          "bill_title_fulltext", "bill_congress_idx", "sponsors_date_idx"] ∧
      ((schemaObjects billsAndSponsors).map SchemaObject.name).Nodup := by
  have hvalid : billsAndSponsors.validate = .ok () := by decide
  have hapart : TypesApart billsAndSponsors := ⟨by decide +kernel, by decide +kernel⟩
  obtain ⟨hdistinct, hfree, -⟩ := objectNames_nodup_iff hvalid
  exact ⟨hvalid, by decide +kernel, hdistinct.mpr (hfree hapart)⟩

/-- Two types, the name of one of which goes on from the other's with an underscore. -/
def billsAndActions : Ontology :=
  let bill : NodeType := {
    name := "Bill"
    properties := [{ name := "action_date", type := .standard .date, unique := true }] }
  let action : NodeType := {
    name := "Bill_Action"
    properties := [{ name := "date", type := .standard .date, unique := true }] }
  (({ domain := "library", version := "1" } : Ontology).registerNode bill).registerNode action

/-- The ontology is accepted, and its two constraints have one name: the statement for the second
finds it taken. -/
theorem objectNames_repeated :
    billsAndActions.validate = .ok () ∧
      statements (script billsAndActions) =
        ["CREATE CONSTRAINT bill_action_date_unique IF NOT EXISTS " ++
            "FOR (n:Bill) REQUIRE n.action_date IS UNIQUE",
          "CREATE CONSTRAINT bill_action_date_unique IF NOT EXISTS " ++
            "FOR (n:Bill_Action) REQUIRE n.date IS UNIQUE"] ∧
      (statements (script billsAndActions)).map createdName? =
        [some "bill_action_date_unique", some "bill_action_date_unique"] ∧
      ¬ ((schemaObjects billsAndActions).map SchemaObject.name).Nodup := by
  have hfree : FeedFreeNames billsAndActions := ⟨by decide, by decide, by decide, by decide⟩
  refine ⟨by decide, ?_, ?_, by decide +kernel⟩
  · rw [statements_script hfree]
    decide +kernel
  · rw [map_createdName?_statements hfree]
    decide +kernel

end Ontograph.Cypher
