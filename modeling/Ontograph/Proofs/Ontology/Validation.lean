/-
Ontograph.Proofs.Ontology.Validation — what a refused ontology is refused for.

`Defect` says which complaint is true of a type. If the search of a type comes
out with a complaint, it is true of it, so the search of an ontology accepts it
exactly if every type is well formed, and otherwise complains of the first type
that is not (`validate_decides`).
-/
import Mathlib.Data.List.Duplicate
import Ontograph.Proofs.Ontology.Basic

namespace Ontograph

/-! ## Complaints that are true of a type -/

/-- What may be said against the properties of a type. -/
inductive Property.Defect (owner : String) (properties : List Property) : DefinitionError → Prop
  | unnamed {p : Property} (hmem : p ∈ properties) (hblank : Text.isBlankText p.name = true) :
    Defect owner properties (.emptyPropertyName owner)
  | repeated {property : String} (htwice : List.Duplicate property (properties.map (·.name))) :
    Defect owner properties (.duplicateProperty owner property)

/-- What may be said against a node type. -/
inductive NodeType.Defect (node : NodeType) : DefinitionError → Prop
  | unnamed (hblank : Text.isBlankText node.name = true) : Defect node .emptyTypeName
  | property {e : DefinitionError} (h : Property.Defect node.name node.properties e) :
    Defect node e
  | undeclared {tool : QueryTool} {placeholder : String} (htool : tool ∈ node.queryTools)
      (hnames : Template.Names tool.template placeholder)
      (hmissing : placeholder ∉ tool.parameters.names) :
    Defect node (.undeclaredPlaceholder tool.name placeholder)
  | unknown {key : String} (hkey : key ∈ node.identityKeys)
      (hmissing : key ∉ node.properties.map (·.name)) :
    Defect node (.unknownIdentityKey node.name key)

/-- What may be said against a relationship type. -/
inductive RelationshipType.Defect (rel : RelationshipType) : DefinitionError → Prop
  | unnamed (hblank : Text.isBlankText rel.name = true) : Defect rel .emptyTypeName
  | property {e : DefinitionError} (h : Property.Defect rel.name rel.properties e) : Defect rel e

/-- A complaint is true of the first type that is not well formed, node types standing before
relationship types. -/
inductive Ontology.FirstDefect (o : Ontology) (e : DefinitionError) : Prop
  | node {before after : List NodeType} {node : NodeType}
      (hsplit : o.nodeTypes = before ++ node :: after)
      (hbefore : ∀ earlier ∈ before, earlier.WellFormed)
      (hnode : ¬ node.WellFormed) (hdefect : node.Defect e)
  | relationship {before after : List RelationshipType} {rel : RelationshipType}
      (hnodes : ∀ node ∈ o.nodeTypes, node.WellFormed)
      (hsplit : o.relationshipTypes = before ++ rel :: after)
      (hbefore : ∀ earlier ∈ before, earlier.WellFormed)
      (hrel : ¬ rel.WellFormed) (hdefect : rel.Defect e)

/-! ## What the search comes out with -/

namespace Ontology

/-- With the properties that were gone through, the complaint about one of the others is true. -/
theorem defect_append_of_propertyDefect? {owner : String} {e : DefinitionError}
    {before properties : List Property}
    (h : propertyDefect? owner (before.map (·.name)) properties = some e) :
    Property.Defect owner (before ++ properties) e := by
  induction properties generalizing before with
  | nil => cases h
  | cons p rest ih =>
    unfold propertyDefect? at h
    split at h
    · rename_i hblank
      cases h
      exact .unnamed (List.mem_append_right _ List.mem_cons_self) hblank
    · split at h
      · rename_i hseen
        cases h
        refine .repeated ?_
        rw [List.duplicate_iff_two_le_count, List.map_append, List.count_append, List.map_cons,
          List.count_cons_self]
        have hbefore := List.count_pos_iff.mpr hseen
        omega
      · have hrest : Property.Defect owner (before ++ [p] ++ rest) e :=
          ih (by rwa [List.map_append])
        rwa [List.append_assoc] at hrest

/-- The complaint about the properties of a type is true of them. -/
theorem defect_of_propertyDefect? {owner : String} {properties : List Property}
    {e : DefinitionError} (h : propertyDefect? owner [] properties = some e) :
    Property.Defect owner properties e := by
  have hdefect : Property.Defect owner ([] ++ properties) e := defect_append_of_propertyDefect? h
  rwa [List.nil_append] at hdefect

/-- The complaint about a node type is true of it. -/
theorem defect_of_nodeDefect? {node : NodeType} {e : DefinitionError}
    (h : nodeDefect? node = some e) : node.Defect e := by
  unfold nodeDefect? at h
  split at h
  · rename_i hblank
    cases h
    exact .unnamed hblank
  · rcases Option.or_eq_some_iff.mp h with h | ⟨-, h⟩
    · exact .property (defect_of_propertyDefect? h)
    · rcases Option.or_eq_some_iff.mp h with h | ⟨-, h⟩
      · obtain ⟨tool, htool, h⟩ := List.exists_of_findSome?_eq_some h
        obtain ⟨placeholder, hfound, rfl⟩ := Option.map_eq_some_iff.mp h
        have hmem := List.mem_of_find?_eq_some hfound
        have hmissing := List.find?_some hfound
        rw [tool.placeholders_eq, Template.mem_placeholders] at hmem
        refine .undeclared htool hmem fun hdeclared => ?_
        rw [Registry.contains_iff.mpr hdeclared] at hmissing
        cases hmissing
      · obtain ⟨key, hfound, rfl⟩ := Option.map_eq_some_iff.mp h
        have hmissing := List.find?_some hfound
        exact .unknown (List.mem_of_find?_eq_some hfound) (isNone_property?_iff.mp hmissing)

/-- The complaint about a relationship type is true of it. -/
theorem defect_of_relationshipDefect? {rel : RelationshipType} {e : DefinitionError}
    (h : relationshipDefect? rel = some e) : rel.Defect e := by
  unfold relationshipDefect? at h
  split at h
  · rename_i hblank
    cases h
    exact .unnamed hblank
  · exact .property (defect_of_propertyDefect? h)

theorem validate_eq_error_iff {o : Ontology} {e : DefinitionError} :
    o.validate = .error e ↔ o.defect? = some e := by
  unfold validate
  cases o.defect? with
  | none => simp
  | some found => simp

/-- The defect that is found is true of the first type that has one. -/
theorem firstDefect_of_defect? {o : Ontology} {e : DefinitionError} (h : o.defect? = some e) :
    o.FirstDefect e := by
  rcases Option.or_eq_some_iff.mp h with h | ⟨hnodes, h⟩
  · obtain ⟨before, node, after, hsplit, hfound, hbefore⟩ := List.findSome?_eq_some_iff.mp h
    refine .node hsplit (fun earlier hmem => nodeDefect?_eq_none_iff.mp (hbefore earlier hmem)) ?_
      (defect_of_nodeDefect? hfound)
    rw [← nodeDefect?_eq_none_iff, hfound]
    nofun
  · obtain ⟨before, rel, after, hsplit, hfound, hbefore⟩ := List.findSome?_eq_some_iff.mp h
    refine .relationship ?_ hsplit
      (fun earlier hmem => relationshipDefect?_eq_none_iff.mp (hbefore earlier hmem)) ?_
      (defect_of_relationshipDefect? hfound)
    · intro node hmem
      exact nodeDefect?_eq_none_iff.mp (List.findSome?_eq_none_iff.mp hnodes node hmem)
    · rw [← relationshipDefect?_eq_none_iff, hfound]
      nofun

/-- **`validate` accepts exactly the ontologies whose types are all well formed.** Of any other it
complains, and the complaint is true of the first type that is not. -/
theorem validate_decides (o : Ontology) :
    (o.validate = .ok () ↔ o.WellFormed) ∧ ∀ e, o.validate = .error e → o.FirstDefect e := by
  constructor
  · exact validate_eq_ok_iff
  · intro e h
    exact firstDefect_of_defect? (validate_eq_error_iff.mp h)

/-- Persons without fault, and bills with a query for a session that it does not declare. -/
def sessionless : Ontology :=
  let find : QueryTool :=
    { name := "find_bill", description := "Finds a bill",
      template := "MATCH (b:Bill \x7bid: $id, session: $session\x7d) RETURN b",
      parameters := Registry.empty.register ("id", "string") }
  ({ domain := "congress", version := "1" } : Ontology)
    |>.registerNode { name := "Person", properties := commonProperties, identityKeys := ["id"] }
    |>.registerNode { name := "Bill", properties := commonProperties, queryTools := [find] }

/-- A placeholder without a declaration is reported behind a type without fault. -/
theorem sessionless_reported :
    sessionless.validate = .error (.undeclaredPlaceholder "find_bill" "session") ∧
      sessionless.FirstDefect (.undeclaredPlaceholder "find_bill" "session") :=
  have hrefused : sessionless.validate = .error (.undeclaredPlaceholder "find_bill" "session") := by
    decide +kernel
  ⟨hrefused, (validate_decides sessionless).2 _ hrefused⟩

end Ontology

end Ontograph
