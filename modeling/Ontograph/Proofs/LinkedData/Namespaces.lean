/-
Ontograph.Proofs.LinkedData.Namespaces — what the names of a linked-data
document stand for.

The keys, types and identifiers of the graph are names, most of them with a
prefix of the vocabulary: `kg:required`, `xsd:string`. `expand?` says what a name
stands for under a context, taken as a table of names: a key or a type may be in
the table itself, and else a name may have a front that is, up to its first
colon. If two slashes follow the colon, the name is an address and no front
counts.

The domain is entered into the same table, over whatever is there. So the
vocabulary keeps its meaning exactly if the domain is no name of the vocabulary,
and no key or type of the graph that has such a name for its front
(`keepsVocabulary_iff`). A domain without a colon only has to be none of five
names. Under the domain `kg` the identifiers of all node types stand for
something else (`keepsVocabulary_fails`).
-/
import Mathlib.Data.List.TakeDrop
import Ontograph.LinkedData.Context
import Ontograph.Proofs.Json.Record

namespace Ontograph.LinkedData

/-! ## The vocabulary -/

def prefixes : List (String × String) :=
  [("xsd", xsdNamespace), ("schema", schemaNamespace), ("mcp", toolNamespace),
    ("kg", graphNamespace)]

def vocabulary : List (String × String) := ("@vocab", schemaNamespace) :: prefixes

def ownNamespace (domain : String) : String := "https://" ++ domain ++ ".local/"

/-- A name has a prefix of the vocabulary: a colon is behind it, and not two slashes behind that. -/
structure Prefixed (name : String) (e : String × String) (rest : String) : Prop where
  mem : e ∈ prefixes
  eq : name = e.1 ++ ":" ++ rest
  slashes : ¬ ['/', '/'] <+: rest.toList

/-! ## Names of a document -/

/-- Where a name stands: as a key or a type, or as an identifier. -/
inductive Place where
  | term
  | identifier
  deriving DecidableEq, Repr

/-- The name that an entry has by itself: the text of a type or an identifier, or else the key. -/
def entryNames : String → Json → List (Place × String)
  | "@type", .string text => [(.term, text)]
  | "@id", .string text => [(.identifier, text)]
  | "@type", _ => []
  | "@id", _ => []
  | key, _ => [(.term, key)]

mutual

def names : Json → List (Place × String)
  | .array items => itemNames items
  | .object fields => fieldNames fields
  | _ => []

def itemNames : List Json → List (Place × String)
  | [] => []
  | item :: rest => names item ++ itemNames rest

def fieldNames : List (String × Json) → List (Place × String)
  | [] => []
  | (key, value) :: rest => entryNames key value ++ names value ++ fieldNames rest

end

def graphNames (document : Json) : List (Place × String) :=
  ((document.field? "@graph").map names).getD []

def mapped? (document : Json) (name : String) : Option String :=
  ((document.field? "@context").bind (Json.field? name)).bind Json.string?

/-! ## Expansion -/

def cut? (name : String) : Option (String × String) :=
  match name.toList.span (· ≠ ':') with
  | (_, []) => none
  | (front, _ :: rest) => some (String.ofList front, String.ofList rest)

/-- What a name stands for by its front: the namespace of the front, with the rest of the name. -/
def expandFront? (table : String → Option String) (name : String) : Option String :=
  (cut? name).bind fun (front, rest) =>
    if ['/', '/'] <+: rest.toList then none else (table front).map (· ++ rest)

def expand? (table : String → Option String) : Place × String → Option String
  | (.term, name) => (table name).or (expandFront? table name)
  | (.identifier, name) => expandFront? table name

theorem cut?_append {front : String} (h : ':' ∉ front.toList) (rest : String) :
    cut? (front ++ ":" ++ rest) = some (front, rest) := by
  have hfront : ∀ c ∈ front.toList, decide (c ≠ ':') = true := fun c hc =>
    decide_eq_true fun heq => h (heq ▸ hc)
  have hname : (front ++ ":" ++ rest).toList = front.toList ++ ':' :: rest.toList := by simp
  have hspan : (front.toList ++ ':' :: rest.toList).span (· ≠ ':') =
      (front.toList, ':' :: rest.toList) := by
    rw [List.span_eq_takeWhile_dropWhile, List.takeWhile_append_of_pos hfront,
      List.dropWhile_append_of_pos hfront]
    simp
  simp only [cut?, hname, hspan, String.ofList_toList]

/-- A prefixed name stands for its namespace and the rest of the name. -/
theorem Prefixed.expandFront? {name rest : String} {e : String × String} (h : Prefixed name e rest)
    {table : String → Option String} (htable : table e.1 = some e.2) :
    expandFront? table name = some (e.2 ++ rest) := by
  have hcolon : ∀ e ∈ prefixes, ':' ∉ e.1.toList := by decide
  simp only [LinkedData.expandFront?, h.eq, cut?_append (hcolon e h.mem), Option.bind_some,
    if_neg h.slashes, htable, Option.map_some]

/-! ## The context -/

theorem get?_map_string (entries : List (String × String)) (name : String) :
    (Fields.get? name (entries.map fun e => (e.1, .string e.2))).bind Json.string? =
      entries.lookup name := by
  induction entries with
  | nil => rfl
  | cons e rest ih =>
    rw [List.map_cons, Fields.get?_cons, List.lookup_cons]
    by_cases h : e.1 = name
    · rw [if_pos h, ← h, beq_self_eq_true]
      rfl
    · rw [if_neg h, ih, beq_false_of_ne (Ne.symm h)]

/-- The domain comes before the vocabulary. -/
theorem mapped?_document (o : Ontology) (name : String) :
    mapped? (document o) name =
      if name = o.domain then some (ownNamespace o.domain) else vocabulary.lookup name := by
  have hcontext : mapped? (document o) name =
      (Fields.get? name (Fields.insert o.domain (.string (ownNamespace o.domain))
        (vocabulary.map fun e => (e.1, .string e.2)))).bind Json.string? := rfl
  rw [hcontext]
  split
  · rename_i h
    rw [h, Fields.get?_insert_self]
    rfl
  · rename_i h
    rw [Fields.get?_insert_of_ne _ h, get?_map_string]

/-- Each name of the vocabulary is found with its own namespace. -/
theorem lookup_of_mem_vocabulary : ∀ e ∈ vocabulary, vocabulary.lookup e.1 = some e.2 := by decide

/-- No name of the vocabulary itself has a prefix. -/
theorem Prefixed.lookup_eq_none {name rest : String} {e : String × String}
    (h : Prefixed name e rest) : vocabulary.lookup name = none := by
  have hcolon : ∀ e ∈ vocabulary, ':' ∉ e.1.toList := by decide
  rw [List.lookup_eq_none_iff]
  intro e' he'
  refine bne_iff_ne.mpr fun heq => hcolon e' he' ?_
  rw [← heq, h.eq]
  simp

/-- The namespace of a domain is none of the vocabulary, whatever the name of the domain. -/
theorem ownNamespace_ne : ∀ e ∈ vocabulary, ownNamespace e.1 ≠ e.2 := by decide

/-- The namespace of a domain is not what a name of the vocabulary stands for. -/
theorem Prefixed.ownNamespace_ne {name rest : String} {e : String × String}
    (h : Prefixed name e rest) : ownNamespace name ≠ e.2 ++ rest := by
  -- the two differ where the shorter of their fixed beginnings ends
  have hapart : ∀ e ∈ prefixes, ¬ ("https://" ++ e.1 ++ ":").toList <+: e.2.toList ∧
      ¬ e.2.toList <+: ("https://" ++ e.1 ++ ":").toList := by decide
  intro heq
  have hown : ("https://" ++ e.1 ++ ":").toList <+: (ownNamespace name).toList :=
    ⟨(rest ++ ".local/").toList, by simp [ownNamespace, h.eq]⟩
  have hfixed : e.2.toList <+: (ownNamespace name).toList := ⟨rest.toList, by simp [heq]⟩
  rcases List.prefix_or_prefix_of_prefix hown hfixed with hle | hle
  · exact (hapart e h.mem).1 hle
  · exact (hapart e h.mem).2 hle

/-! ## Keeping the vocabulary -/

/-- The context of a document has the namespaces of the vocabulary and one for the domain, and every
name of the graph with a prefix of the vocabulary stands for what is so called there. -/
structure KeepsVocabulary (document : Json) (domain : String) : Prop where
  fixed : ∀ e ∈ vocabulary, mapped? document e.1 = some e.2
  own : mapped? document domain = some (ownNamespace domain)
  expanded : ∀ n ∈ graphNames document, ∀ e rest, Prefixed n.2 e rest →
    expand? (mapped? document) n = some (e.2 ++ rest)

/-- The domain is itself a key or type of the graph with a prefix of the vocabulary. -/
def Covers (o : Ontology) : Prop :=
  (.term, o.domain) ∈ graphNames (document o) ∧ ∃ e rest, Prefixed o.domain e rest

/-- A domain that is not reserved and covers no name leaves the vocabulary as it is. -/
theorem keepsVocabulary_of {o : Ontology} (hreserved : o.domain ∉ vocabulary.map Prod.fst)
    (hcovers : ¬ Covers o) : KeepsVocabulary (document o) o.domain := by
  have hfixed : ∀ e ∈ vocabulary, mapped? (document o) e.1 = some e.2 := by
    intro e he
    have hne : e.1 ≠ o.domain := fun heq => hreserved (heq ▸ List.mem_map_of_mem he)
    rw [mapped?_document, if_neg hne, lookup_of_mem_vocabulary e he]
  refine ⟨hfixed, by rw [mapped?_document, if_pos rfl], ?_⟩
  rintro ⟨place, name⟩ hmem e rest h
  have hfront : expandFront? (mapped? (document o)) name = some (e.2 ++ rest) :=
    h.expandFront? (hfixed e (List.mem_cons_of_mem _ h.mem))
  cases place with
  | identifier => exact hfront
  | term =>
    have hne : name ≠ o.domain := fun heq => hcovers ⟨heq ▸ hmem, e, rest, heq ▸ h⟩
    rw [expand?, mapped?_document, if_neg hne, h.lookup_eq_none, Option.none_or, hfront]

/-- Where the vocabulary is kept, the domain covers no name. -/
theorem KeepsVocabulary.not_covers {o : Ontology} (h : KeepsVocabulary (document o) o.domain) :
    ¬ Covers o := by
  rintro ⟨hmem, e, rest, hname⟩
  have hexpanded := h.expanded _ hmem e rest hname
  rw [expand?, h.own, Option.some_or, Option.some.injEq] at hexpanded
  exact hname.ownNamespace_ne hexpanded

/-- **The vocabulary keeps its meaning**, in the context and in all names of the graph, exactly if
the domain is none of its names and covers no name of the graph; for a domain without a colon the
first is enough. -/
theorem keepsVocabulary_iff (o : Ontology) :
    (KeepsVocabulary (document o) o.domain ↔
      o.domain ∉ vocabulary.map Prod.fst ∧ ¬ Covers o) ∧
      (Covers o → ':' ∈ o.domain.toList) := by
  refine ⟨⟨fun h => ⟨fun hmem => ?_, h.not_covers⟩, fun h => keepsVocabulary_of h.1 h.2⟩, ?_⟩
  · obtain ⟨e, he, hdomain⟩ := List.mem_map.mp hmem
    have hfixed := h.fixed e he
    rw [hdomain, h.own, ← hdomain] at hfixed
    exact ownNamespace_ne e he (Option.some.inj hfixed)
  · rintro ⟨-, e, rest, h⟩
    simp [h.eq]

def bills (domain : String) : Ontology :=
  ({ domain, version := "1" } : Ontology).registerNode { name := "Bill" }

example : expand? (mapped? (document (bills "library"))) (.identifier, "kg:Bill") =
    some "https://knowledge-graph.local/Bill" := by decide

example : (.term, "kg:tools") ∉ graphNames (document (bills "kg:tools")) ∧
    Covers (bills "kg:description") :=
  ⟨by decide, by decide, ("kg", graphNamespace), "description", by decide, by decide, by decide⟩

/-- With the name of the knowledge graph for a domain, the context has another namespace for it, and
the identifier of a node type is none of the knowledge graph. -/
theorem keepsVocabulary_fails :
    (bills "kg").validate = .ok () ∧ ¬ KeepsVocabulary (document (bills "kg")) (bills "kg").domain ∧
      (.identifier, "kg:Bill") ∈ graphNames (document (bills "kg")) ∧
      expand? (mapped? (document (bills "kg"))) (.identifier, "kg:Bill") =
        some "https://kg.local/Bill" := by
  refine ⟨by decide, fun h => ?_, by decide, by decide⟩
  have hfixed := h.fixed ("kg", graphNamespace) (by decide)
  exact absurd hfixed (by decide)

end Ontograph.LinkedData
