/-
Ontograph.Proofs.Artifacts — the files of an ontology describe one model.

The linked-data document and the interface of an accepted ontology are read
back, and what comes out is compared: an entry and a message for each node
type in the order of registration, and for each of them what it says about the
properties and the tools (`Describes`). The document always says so. The
interface does if its comments are harmless, and declares nothing else exactly
then (`artifacts_describe`). One that is not shows a field that belongs to no
property (`ghost_described`).
-/
import Ontograph.Proofs.LinkedData.Graph
import Ontograph.Proofs.Proto.Messages

namespace Ontograph

open LinkedData (NodeEntry ToolEntry document internalNames published? publishedType)
open Proto (Field HarmlessComments Message declarations intended interface messagesIn
  serviceMessages)

/-- What a message and an entry say about a node type. -/
structure Describes (node : NodeType) (message : Message) (entry : NodeEntry) : Prop where
  message_name : message.name = Proto.messageName node.name
  wireTypes : message.fields.map Field.type = node.properties.map fun p => Proto.wireType p.type
  fields : message.fields.map Field.name = Proto.fieldNames [] node.properties
  numbers : message.fields.map Field.number = List.range' 1 node.properties.length
  id : entry.id = "kg:" ++ node.name
  properties : entry.properties =
    (node.properties.filter (·.name ∉ internalNames)).map fun p => (p.name, publishedType p.type)
  distinct : (entry.properties.map Prod.fst).Nodup
  tools : entry.tools = node.queryTools.map ToolEntry.of

/-- With distinct property names, the message and the published entry describe one type. -/
theorem describes_of_nodup {node : NodeType} (h : (node.properties.map Property.name).Nodup) :
    Describes node (Message.of node) (NodeEntry.of node) where
  message_name := rfl
  wireTypes := Message.types_of node
  fields := Message.names_of node
  numbers := Message.numbers_of node
  id := rfl
  properties := rfl
  distinct := by
    have hkeys : (NodeEntry.of node).properties.map Prod.fst =
        (node.properties.filter (·.name ∉ internalNames)).map Property.name := by
      rw [NodeEntry.of, List.map_map]
      rfl
    rw [hkeys]
    exact h.sublist (List.filter_sublist.map _)
  tools := rfl

/-- **The artifacts describe the model.** For an accepted ontology, the graph of the document has
one entry and the interface one message for each node type, in the order of registration, and they
describe it. For the interface this is so if its comments are harmless; exactly then it declares
nothing but the service and the messages. -/
theorem artifacts_describe {o : Ontology} (h : o.validate = .ok ()) :
    published? (document o) = some (o.nodeTypes.map NodeEntry.of) ∧
      (HarmlessComments o →
        messagesIn (interface o) = serviceMessages ++ o.nodeTypes.map Message.of) ∧
      (declarations (interface o) = intended o ↔ HarmlessComments o) ∧
      ∀ node ∈ o.nodeTypes, Describes node (Message.of node) (NodeEntry.of node) :=
  ⟨LinkedData.published?_document h, Proto.messagesIn_interface,
    Proto.declarations_interface_iff o, fun _ hnode =>
      describes_of_nodup (Ontology.properties_nodup_of_validate h hnode)⟩

def billOntology : Ontology :=
  ({ domain := "legislation", version := "1" } : Ontology).registerNode
    { name := "Bill", description := "A bill.\n\n// As introduced."
      properties :=
        [{ name := "id", type := .standard .string },
          { name := "title", type := .standard .text, description := "Its title,\n// in full." },
          { name := "introduced on", type := .standard .date },
          { name := "introduced-on", type := .standard .boolean },
          { name := "embedding", type := .standard .vector }]
      queryTools :=
        [{ name := "by_title", description := "Bills of a title"
           template := "MATCH (n:Bill \x7btitle: $title\x7d) RETURN n LIMIT $limit"
           parameters := .ofList [("title", "string"), ("limit", "integer")] }] }

/-- Two properties that become one identifier are two fields, and remarks that go on as comments
change nothing. -/
theorem bills_described :
    billOntology.validate = .ok () ∧
      messagesIn (interface billOntology) = serviceMessages ++
        [⟨"Bill", [⟨"string", "id", 1⟩, ⟨"string", "title", 2⟩, ⟨"string", "introduced_on", 3⟩,
          ⟨"bool", "introduced_on_2", 4⟩, ⟨"repeated float", "embedding", 5⟩]⟩] ∧
      published? (document billOntology) = some
        [{ id := "kg:Bill"
           properties := [("title", "xsd:string"), ("introduced on", "xsd:date"),
            ("introduced-on", "xsd:boolean")]
           tools := [{ name := "by_title", description := "Bills of a title"
                       template := "MATCH (n:Bill \x7btitle: $title\x7d) RETURN n LIMIT $limit"
                       parameters := [("title", "xsd:string"), ("limit", "xsd:integer")] }] }] := by
  have hvalid : billOntology.validate = .ok () := by decide +kernel
  have hharmless : HarmlessComments billOntology := by decide +kernel
  obtain ⟨hpublished, hmessages, -, -⟩ := artifacts_describe hvalid
  refine ⟨hvalid, ?_, ?_⟩
  · rw [hmessages hharmless]
    decide +kernel
  · rw [hpublished]
    decide +kernel

/-- The ontology is accepted, and its node type has one property. What that says on its second line
is a second field of the message. -/
theorem ghost_described :
    (Proto.described "1" "" "The title.\n  string ghost = 2;").validate = .ok () ∧
      (Proto.described "1" "" "The title.\n  string ghost = 2;").nodeTypes.map Message.of =
        [⟨"Document", [⟨"string", "title", 1⟩]⟩] ∧
      messagesIn (interface (Proto.described "1" "" "The title.\n  string ghost = 2;")) =
        serviceMessages ++ [⟨"Document", [⟨"string", "title", 1⟩, ⟨"string", "ghost", 2⟩]⟩] := by
  have hlegible : Message.Legible
      ⟨"Document", [⟨"string", "title", 1⟩, ⟨"string", "ghost", 2⟩]⟩ := by decide +kernel
  have hlines : ((Proto.described "1" "" "The title.\n  string ghost = 2;").nodeTypes.flatMap
      fun node => (Proto.messageLines node).flatMap declarations) =
        Message.lines ⟨"Document", [⟨"string", "title", 1⟩, ⟨"string", "ghost", 2⟩]⟩ := by
    decide +kernel
  refine ⟨by decide, by decide +kernel, ?_⟩
  rw [messagesIn, Proto.declarations_of_header (by decide +kernel), hlines,
    Proto.Reading.read_append, Proto.read_opening, Proto.read_message hlegible]

end Ontograph
