/-
Ontograph.Proofs.Ontology.Document — ontologies, their documents and the texts
of those.

The types of an ontology have names of their own, so none is found to be
repeated in its document, and registered one after another they are the
ontology's types in their order. What a document writes is all there is to a
definition: a decoded record never falls back on a default, and a type name is
the name of one type only. So an ontology, its document and the text of that
determine each other (`documents_come_back`).
-/
import Ontograph.Ontology.Document
import Ontograph.Proofs.Json.Record

namespace Ontograph

open Json (Returns)

/-! ## Definitions -/

namespace Property

/-- A property comes back from its record. -/
theorem returns (p : Property) : Returns ofShape? p.toJson p.toJson p where
  reread := Json.reread?_object (by simp [Json.rereadFields?])
  decoded := by
    unfold ofShape? toJson
    rw [Json.record?_shape]
    · simp [Json.shapes, PropertyType.ofName_name]
    · exact List.Sublist.refl _
    · decide

end Property

namespace QueryTool

/-- Declared parameters come back, in order. -/
theorem returns_parameters (parameters : Registry (String × String)) :
    Returns parametersOfShape? (.object (parameters.entries.map fun p => (p.1, .string p.2)))
      (.object (parameters.entries.map fun p => (p.1, .string p.2))) parameters where
  reread := Json.reread?_object (Json.rereadFields?_map fun p _ => Json.reread?_string p.2)
  decoded := by
    have htypes : (Json.shapes (parameters.entries.map fun p => (p.1, .string p.2))).mapM
        (fun e => do pure (e.1, ← e.2.string?)) = some parameters.entries := by
      rw [Json.shapes, List.map_map]
      exact Json.mapM_map_eq_some fun p _ => rfl
    have hentries := Json.entries?_shape (parameters.entries.map fun p => (p.1, .string p.2))
    unfold parametersOfShape?
    rw [hentries]
    refine (congrArg (·.bind fun declared => some (Registry.ofList declared)) htypes).trans ?_
    exact congrArg some (Registry.ofList_entries parameters)

theorem returns (t : QueryTool) : Returns ofShape? t.toJson t.toJson t where
  reread := Json.reread?_object
    (by simp [Json.rereadFields?, (returns_parameters t.parameters).reread])
  decoded := by
    unfold ofShape? toJson
    rw [Json.record?_shape]
    · simp [Json.shapes, (returns_parameters t.parameters).decoded]
    · exact List.Sublist.refl _
    · decide

end QueryTool

namespace NodeType

theorem returns_schemaOrgType (type : Option String) :
    Returns (Json.nullable Json.Shape.string?) ((type.map Json.string).getD .null)
      ((type.map Json.string).getD .null) type := by
  cases type <;> exact ⟨rfl, rfl⟩

/-- A node type comes back from its record. -/
theorem returns (n : NodeType) : Returns ofShape? n.toJson n.toJson n := by
  have hproperties := Json.returns_listOf fun p (_ : p ∈ n.properties) => p.returns
  have htools := Json.returns_listOf fun t (_ : t ∈ n.queryTools) => t.returns
  have htype := returns_schemaOrgType n.schemaOrgType
  have hlabels := Json.returns_strings n.additionalLabels
  have hkeys := Json.returns_strings n.identityKeys
  constructor
  · exact Json.reread?_object (by
      simp [Json.rereadFields?, hproperties.reread, htools.reread, htype.reread, hlabels.reread,
        hkeys.reread])
  · unfold ofShape? toJson
    rw [Json.record?_shape]
    · simp [Json.shapes, hproperties.decoded, htools.decoded, htype.decoded, hlabels.decoded,
        hkeys.decoded]
    · exact List.Sublist.refl _
    · decide

end NodeType

namespace RelationshipType

theorem returns (r : RelationshipType) : Returns ofShape? r.toJson r.toJson r := by
  have hproperties := Json.returns_listOf fun p (_ : p ∈ r.properties) => p.returns
  constructor
  · exact Json.reread?_object (by simp [Json.rereadFields?, hproperties.reread])
  · unfold ofShape? toJson
    rw [Json.record?_shape]
    · simp [Json.shapes, hproperties.decoded]
    · exact List.Sublist.refl _
    · decide

end RelationshipType

/-! ## Documents -/

namespace OntologyDocument

/-- A document comes back from its record. -/
theorem returns (d : OntologyDocument) : Returns ofShape? d.toJson d.toJson d := by
  have hnodes := Json.returns_listOf fun n (_ : n ∈ d.nodeTypes) => n.returns
  have hrelationships := Json.returns_listOf fun r (_ : r ∈ d.relationshipTypes) => r.returns
  constructor
  · exact Json.reread?_object
      (by simp [Json.rereadFields?, hnodes.reread, hrelationships.reread])
  · unfold ofShape? toJson
    rw [Json.record?_shape]
    · simp [Json.shapes, hnodes.decoded, hrelationships.decoded]
    · exact List.Sublist.refl _
    · decide

theorem repeated?_eq_none_iff {seen names : List String} :
    repeated? seen names = none ↔ (∀ n ∈ names, n ∉ seen) ∧ names.Nodup := by
  induction names generalizing seen with
  | nil => simp [repeated?]
  | cons n rest ih =>
    rw [repeated?]
    split
    · rename_i h
      simp [h]
    · rename_i h
      rw [ih, List.forall_mem_cons, List.nodup_cons]
      simp only [List.mem_append, List.mem_singleton, not_or]
      constructor
      · rintro ⟨hrest, hnodup⟩
        exact ⟨⟨h, fun m hm => (hrest m hm).1⟩, fun hm => (hrest n hm).2 rfl, hnodup⟩
      · rintro ⟨⟨-, hrest⟩, hnew, hnodup⟩
        exact ⟨fun m hm => ⟨hrest m hm, fun heq => hnew (heq ▸ hm)⟩, hnodup⟩

/-- No name is repeated exactly if the names are distinct. -/
theorem repeated?_nil_eq_none_iff {names : List String} :
    repeated? [] names = none ↔ names.Nodup := by
  rw [repeated?_eq_none_iff]
  simp

end OntologyDocument

namespace Ontology

/-- Registering the types of an ontology's document gives the ontology. -/
theorem register_toDocument (o : Ontology) : o.toDocument.register = o := by
  cases o
  simp only [toDocument, OntologyDocument.register, nodeTypes, relationshipTypes,
    Registry.ofList_entries]

/-- The document of an ontology is accepted exactly if the ontology is. -/
theorem ofDocument_toDocument (o : Ontology) :
    ofDocument o.toDocument =
      match o.validate with
      | .ok () => .ok o
      | .error e => .error e := by
  have hnodes : OntologyDocument.repeated? [] (o.toDocument.nodeTypes.map (·.name)) = none :=
    OntologyDocument.repeated?_nil_eq_none_iff.mpr o.nodes.distinct
  have hrelationships :
      OntologyDocument.repeated? [] (o.toDocument.relationshipTypes.map (·.name)) = none :=
    OntologyDocument.repeated?_nil_eq_none_iff.mpr o.relationships.distinct
  cases hvalid : o.validate <;>
    simp only [ofDocument, hnodes, hrelationships, register_toDocument, hvalid]

theorem toDocument_of_ofDocument {d : OntologyDocument} {o : Ontology}
    (h : ofDocument d = .ok o) : o.toDocument = d := by
  unfold ofDocument at h
  split at h
  · cases h
  split at h
  · cases h
  split at h
  · rename_i hnodes _ hrelationships _ _
    cases h
    rw [OntologyDocument.repeated?_nil_eq_none_iff] at hnodes hrelationships
    simp only [toDocument, OntologyDocument.register, nodeTypes, relationshipTypes]
    rw [Registry.entries_ofList hnodes, Registry.entries_ofList hrelationships]
  · cases h

/-- A text that is read as the document of an ontology is the text of the ontology. -/
theorem ofText_of_read {o : Ontology} (h : o.validate = .ok ()) {s : String}
    (hread : Json.read s = some o.toDocument.toJson.shape) : ofText s = .ok o := by
  unfold ofText
  rw [hread, Option.bind_some, o.toDocument.returns.decoded]
  simp only [ofDocument_toDocument, h]

/-- **Definitions come back.** The document of an ontology is accepted exactly if the ontology is,
and then it is the ontology's again, otherwise it has the ontology's defect; an accepted document is
the document of its ontology; and the text of an accepted ontology's document, in any layout that
is read as the document and in the compact layout in particular, is the ontology's. -/
theorem documents_come_back :
    (∀ o : Ontology, ofDocument o.toDocument =
      match o.validate with
      | .ok () => .ok o
      | .error e => .error e) ∧
    (∀ (d : OntologyDocument) (o : Ontology), ofDocument d = .ok o → o.toDocument = d) ∧
    ∀ o : Ontology, o.validate = .ok () →
      (∀ s, Json.read s = some o.toDocument.toJson.shape → ofText s = .ok o) ∧
        ofText o.toDocument.toJson.compact = .ok o := by
  refine ⟨ofDocument_toDocument, fun d o => toDocument_of_ofDocument, fun o h => ?_⟩
  refine ⟨fun s => ofText_of_read h, ofText_of_read h ?_⟩
  exact Json.read_compact o.toDocument.returns.reread

/-- An ontology with a type of property, parameters and an identity key of its own. -/
def atlas : Ontology :=
  let outline : Property := { name := "outline", type := .ofName "Polygon", indexed := true }
  let code : Property := { name := "code", type := .ofName "STRING", unique := true }
  let near : QueryTool :=
    { name := "near"
      description := "Places nearby"
      template := "MATCH (p:Place) WHERE p.x < $far AND p.x > $close RETURN p"
      parameters := .ofList [("far", "float"), ("close", "float")] }
  ({ domain := "atlas", version := "3", description := "\"Places\"" } : Ontology).registerNode
    { name := "Place"
      properties := [outline, code]
      queryTools := [near]
      identityKeys := ["code"] }

/-- The atlas comes back from its document and from the text of it. -/
theorem atlas_comes_back :
    atlas.validate = .ok () ∧ ofDocument atlas.toDocument = .ok atlas ∧
      ofText atlas.toDocument.toJson.compact = .ok atlas := by
  have hvalid : atlas.validate = .ok () := by decide +kernel
  obtain ⟨hdocument, -, htext⟩ := documents_come_back
  refine ⟨hvalid, ?_, (htext atlas hvalid).2⟩
  rw [hdocument, hvalid]

end Ontology

end Ontograph
