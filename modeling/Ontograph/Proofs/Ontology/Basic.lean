/-
Ontograph.Proofs.Ontology.Basic — what an accepted ontology is like.

`WellFormed` says without a search what a type has to be like. The search of a
type comes out empty exactly if the type is well formed, so `validate` accepts
an ontology exactly if all its types are (`validate_eq_ok_iff`). What is said of
the types of accepted ontologies elsewhere is read off from this.
-/
import Ontograph.Ontology.Basic
import Ontograph.Proofs.Ontology.Template
import Ontograph.Proofs.Registry

namespace Ontograph

/-! ## Types that are well formed -/

/-- The names of properties are not blank and pairwise distinct. -/
structure Property.WellFormed (properties : List Property) : Prop where
  named : ∀ p ∈ properties, Text.isBlankText p.name = false
  distinct : (properties.map (·.name)).Nodup

/-- Every name behind a dollar sign of the template is a declared parameter. -/
def QueryTool.WellFormed (tool : QueryTool) : Prop :=
  ∀ placeholder, Template.Names tool.template placeholder → placeholder ∈ tool.parameters.names

structure NodeType.WellFormed (node : NodeType) : Prop where
  named : Text.isBlankText node.name = false
  properties : Property.WellFormed node.properties
  tools : ∀ tool ∈ node.queryTools, tool.WellFormed
  keys : ∀ key ∈ node.identityKeys, key ∈ node.properties.map (·.name)

structure RelationshipType.WellFormed (rel : RelationshipType) : Prop where
  named : Text.isBlankText rel.name = false
  properties : Property.WellFormed rel.properties

structure Ontology.WellFormed (o : Ontology) : Prop where
  nodes : ∀ node ∈ o.nodeTypes, node.WellFormed
  relationships : ∀ rel ∈ o.relationshipTypes, rel.WellFormed

/-! ## Types without defects -/

namespace Ontology

/-- The properties of a type are without defect if no name is blank, none was seen before, and none
occurs twice. -/
theorem propertyDefect?_eq_none_iff {owner : String} {seen : List String} {ps : List Property} :
    propertyDefect? owner seen ps = none ↔
      (∀ p ∈ ps, Text.isBlankText p.name = false ∧ p.name ∉ seen) ∧
        (ps.map (·.name)).Nodup := by
  induction ps generalizing seen with
  | nil => simp [propertyDefect?]
  | cons p rest ih =>
    have hstep : propertyDefect? owner seen (p :: rest) = none ↔
        (Text.isBlankText p.name = false ∧ p.name ∉ seen) ∧
          propertyDefect? owner (seen ++ [p.name]) rest = none := by
      simp only [propertyDefect?]
      split
      · simp_all
      · split <;> simp_all
    rw [hstep, ih, List.forall_mem_cons, List.map_cons, List.nodup_cons]
    constructor
    · rintro ⟨hp, hrest, hnodup⟩
      refine ⟨⟨hp, fun q hq => ?_⟩, ?_, hnodup⟩
      · exact ⟨(hrest q hq).1, fun h => (hrest q hq).2 (List.mem_append_left _ h)⟩
      · intro hmem
        obtain ⟨q, hq, hname⟩ := List.mem_map.mp hmem
        exact (hrest q hq).2 (by simp [hname])
    · rintro ⟨⟨hp, hrest⟩, hnew, hnodup⟩
      refine ⟨hp, fun q hq => ⟨(hrest q hq).1, ?_⟩, hnodup⟩
      intro hmem
      rcases List.mem_append.mp hmem with h | h
      · exact (hrest q hq).2 h
      · exact hnew (List.mem_singleton.mp h ▸ List.mem_map_of_mem hq)

/-- Properties have no defect exactly if they are well formed. -/
theorem propertyDefect?_nil_eq_none_iff {owner : String} {properties : List Property} :
    propertyDefect? owner [] properties = none ↔ Property.WellFormed properties := by
  rw [propertyDefect?_eq_none_iff]
  constructor
  · rintro ⟨hnamed, hdistinct⟩
    exact ⟨fun p hp => (hnamed p hp).1, hdistinct⟩
  · rintro ⟨hnamed, hdistinct⟩
    exact ⟨fun p hp => ⟨hnamed p hp, List.not_mem_nil⟩, hdistinct⟩

/-- A tool has no defect exactly if every placeholder is declared. -/
theorem toolDefect?_eq_none_iff {tool : QueryTool} : toolDefect? tool = none ↔ tool.WellFormed := by
  simp only [toolDefect?, Option.map_eq_none_iff, List.find?_eq_none, tool.placeholders_eq,
    Template.mem_placeholders, Bool.not_eq_true', Bool.not_eq_false, Registry.contains_iff,
    QueryTool.WellFormed]

theorem isNone_property?_iff {node : NodeType} {key : String} :
    (node.property? key).isNone = true ↔ key ∉ node.properties.map (·.name) := by
  simp [NodeType.property?]

theorem keyDefect?_eq_none_iff {node : NodeType} :
    keyDefect? node = none ↔
      ∀ key ∈ node.identityKeys, key ∈ node.properties.map (·.name) := by
  simp only [keyDefect?, Option.map_eq_none_iff, List.find?_eq_none, isNone_property?_iff, not_not]

theorem nodeDefect?_eq_none_iff {node : NodeType} : nodeDefect? node = none ↔ node.WellFormed := by
  unfold nodeDefect?
  split
  · rename_i hblank
    exact iff_of_false nofun fun h => absurd (h.named.symm.trans hblank) nofun
  · rename_i hname
    simp only [Option.or_eq_none_iff, propertyDefect?_nil_eq_none_iff, List.findSome?_eq_none_iff,
      toolDefect?_eq_none_iff, keyDefect?_eq_none_iff]
    constructor
    · rintro ⟨hproperties, htools, hkeys⟩
      exact ⟨by simpa using hname, hproperties, htools, hkeys⟩
    · rintro ⟨-, hproperties, htools, hkeys⟩
      exact ⟨hproperties, htools, hkeys⟩

theorem relationshipDefect?_eq_none_iff {rel : RelationshipType} :
    relationshipDefect? rel = none ↔ rel.WellFormed := by
  unfold relationshipDefect?
  split
  · rename_i hblank
    exact iff_of_false nofun fun h => absurd (h.named.symm.trans hblank) nofun
  · rename_i hname
    rw [propertyDefect?_nil_eq_none_iff]
    constructor
    · intro hproperties
      exact ⟨by simpa using hname, hproperties⟩
    · intro h
      exact h.properties

/-! ## Accepted ontologies -/

theorem defect?_eq_none_iff {o : Ontology} : o.defect? = none ↔ o.WellFormed := by
  simp only [defect?, Option.or_eq_none_iff, List.findSome?_eq_none_iff, nodeDefect?_eq_none_iff,
    relationshipDefect?_eq_none_iff]
  constructor
  · rintro ⟨hnodes, hrels⟩
    exact ⟨hnodes, hrels⟩
  · rintro ⟨hnodes, hrels⟩
    exact ⟨hnodes, hrels⟩

/-- Exactly the ontologies that are well formed are accepted. -/
theorem validate_eq_ok_iff {o : Ontology} : o.validate = .ok () ↔ o.WellFormed := by
  rw [← defect?_eq_none_iff, validate]
  cases o.defect? with
  | none => simp
  | some e => simp

/-- The name of a node type is not blank. -/
theorem node_name_of_validate {o : Ontology} (h : o.validate = .ok ()) {node : NodeType}
    (hnode : node ∈ o.nodeTypes) : Text.isBlankText node.name = false :=
  ((validate_eq_ok_iff.mp h).nodes node hnode).named

/-- The name of a relationship type is not blank. -/
theorem relationship_name_of_validate {o : Ontology} (h : o.validate = .ok ())
    {rel : RelationshipType} (hrel : rel ∈ o.relationshipTypes) :
    Text.isBlankText rel.name = false :=
  ((validate_eq_ok_iff.mp h).relationships rel hrel).named

/-- No two properties of a node type have the same name. -/
theorem properties_nodup_of_validate {o : Ontology} (h : o.validate = .ok ()) {node : NodeType}
    (hnode : node ∈ o.nodeTypes) : (node.properties.map (·.name)).Nodup :=
  ((validate_eq_ok_iff.mp h).nodes node hnode).properties.distinct

/-- No two properties of a relationship type have the same name. -/
theorem relationship_properties_nodup_of_validate {o : Ontology} (h : o.validate = .ok ())
    {rel : RelationshipType} (hrel : rel ∈ o.relationshipTypes) :
    (rel.properties.map (·.name)).Nodup :=
  ((validate_eq_ok_iff.mp h).relationships rel hrel).properties.distinct

end Ontology

end Ontograph
