/-
Ontograph.Proofs.Loader.SearchHits — what a search finds.

Each type is searched by an index of its own, which is asked for as many hits
as the whole search may have. If every index answers with the first records of
a ranking (`Ranks`), the search finds the best of all hits in all rankings, in
the order in which one index over all of them would have them
(`run_semanticSearch`): the limit of the single searches loses nothing.

The rest holds whatever is answered. A hit is what one answered record shows
(`Shows`), and a record without an identity or a score is passed over. Taking
the vector out of the properties moves the last of them into the gap, so the
others are the same entries in another order (`swapRemove_perm`).
-/
import Ontograph.Proofs.Loader.Ranking
import Ontograph.Proofs.Loader.SearchIndex
import Ontograph.Proofs.Registry

namespace Ontograph

/-! ## Entries taken out -/

namespace Fields

theorem swapRemove_of_forall_ne {key : String} {fields : Fields} (h : ∀ e ∈ fields, e.1 ≠ key) :
    swapRemove key fields = fields := by
  have hrest : fields.dropWhile (fun e => decide (e.1 ≠ key)) = [] :=
    List.dropWhile_eq_nil_iff.mpr fun e he => decide_eq_true (h e he)
  rw [swapRemove, List.span_eq_takeWhile_dropWhile, hrest]

/-- The last entry comes into the place of the one that is taken out. -/
theorem swapRemove_append_cons {key : String} {before after : Fields} {e : String × Json}
    (hbefore : ∀ e ∈ before, e.1 ≠ key) (he : e.1 = key) :
    (swapRemove key (before ++ e :: after)).Perm (before ++ after) := by
  have hspan : (before ++ e :: after).span (fun e => decide (e.1 ≠ key)) =
      (before, e :: after) := by
    rw [List.span_eq_takeWhile_dropWhile,
      List.takeWhile_append_of_pos fun e he => decide_eq_true (hbefore e he),
      List.dropWhile_append_of_pos fun e he => decide_eq_true (hbefore e he)]
    simp [he]
  simp only [swapRemove, hspan]
  cases hlast : after.getLast? with
  | none => rw [List.getLast?_eq_none_iff.mp hlast, List.append_nil]
  | some last =>
    obtain ⟨init, rfl⟩ := List.getLast?_eq_some_iff.mp hlast
    rw [List.dropLast_concat]
    exact (List.perm_append_singleton last init).symm.append_left before

/-- All entries stay but the first with the key. -/
theorem swapRemove_perm (key : String) (fields : Fields) :
    (swapRemove key fields).Perm (fields.eraseP (·.1 = key)) := by
  by_cases hkey : ∃ e ∈ fields, e.1 = key
  · obtain ⟨e, hmem, he⟩ := hkey
    obtain ⟨found, before, after, hbefore, hfound, rfl, herase⟩ :=
      List.exists_of_eraseP (p := fun e => decide (e.1 = key)) hmem (decide_eq_true he)
    rw [herase]
    exact swapRemove_append_cons (fun e he => by simpa using hbefore e he) (by simpa using hfound)
  · have hne : ∀ e ∈ fields, e.1 ≠ key := fun e he heq => hkey ⟨e, he, heq⟩
    rw [swapRemove_of_forall_ne hne, List.eraseP_of_forall_not (by simpa using hne)]

theorem eraseP_eq_filter {key : String} {fields : Fields} (h : (keys fields).Nodup) :
    fields.eraseP (·.1 = key) = fields.filter (·.1 ≠ key) := by
  induction fields with
  | nil => rfl
  | cons e rest ih =>
    obtain ⟨hnot, hrest⟩ := List.nodup_cons.mp h
    by_cases he : e.1 = key
    · have hne : ∀ a ∈ rest, decide (a.1 ≠ key) = true := fun a ha =>
        decide_eq_true fun heq => hnot (List.mem_map.mpr ⟨a, ha, heq.trans he.symm⟩)
      rw [List.eraseP_cons_of_pos (by simp [he]), List.filter_cons_of_neg (by simp [he]),
        List.filter_eq_self.mpr hne]
    · rw [List.eraseP_cons_of_neg (by simp [he]), List.filter_cons_of_pos (by simp [he]), ih hrest]

/-- If no key is repeated, nothing is left under the key. -/
theorem not_mem_keys_swapRemove {key : String} {fields : Fields} (h : (keys fields).Nodup) :
    key ∉ keys (swapRemove key fields) := by
  intro hmem
  obtain ⟨e, he, heq⟩ := List.mem_map.mp hmem
  have he := (swapRemove_perm key fields).subset he
  rw [eraseP_eq_filter h] at he
  simp [heq] at he

end Fields

/-! ## Hits of records -/

namespace SearchHit

/-- The properties of the node in a record: its object of properties, or none. -/
def described (r : Record) : Fields := ((Fields.get? "properties" r).bind Json.object?).getD []

/-- A hit is what a record of the search of a type shows. Of the node's properties it has all but
the vector. -/
structure Shows (target : NodeType × Property) (r : Record) (h : SearchHit) : Prop where
  id : Fields.get? "id" r = some (.string h.id)
  score : (Fields.get? "score" r).bind Json.number? = some h.score
  type : h.type = target.1.name
  domain : h.domain = ((Fields.get? "domain" r).bind Json.string?).getD ""
  kept : h.properties.Perm ((described r).eraseP (·.1 = target.2.name))
  removed : (Fields.keys (described r)).Nodup → target.2.name ∉ Fields.keys h.properties

/-- A hit that is decoded shows its record. -/
theorem shows_of_ofRecord? {target : NodeType × Property} {r : Record} {h : SearchHit}
    (hit : ofRecord? target.1.name target.2.name r = some h) : Shows target r h := by
  simp only [ofRecord?, Option.bind_eq_bind, Option.bind_eq_some_iff, Option.pure_def] at hit
  obtain ⟨id, hid, text, htext, number, hnumber, score, hscore, hshown⟩ := hit
  obtain rfl : _ = h := Option.some.inj hshown
  cases id with
  | string s =>
    obtain rfl : s = text := Option.some.inj htext
    exact ⟨hid, Option.bind_eq_some_iff.mpr ⟨number, hnumber, hscore⟩, rfl, rfl,
      Fields.swapRemove_perm _ _, Fields.not_mem_keys_swapRemove⟩
  | _ => cases htext

/-- A record with an identity and a score. -/
def WellFormed (r : Record) : Prop :=
  ∃ id score, Fields.get? "id" r = some (.string id) ∧
    (Fields.get? "score" r).bind Json.number? = some score

theorem isSome_ofRecord? {r : Record} (h : WellFormed r) (type vectorProperty : String) :
    (ofRecord? type vectorProperty r).isSome = true := by
  obtain ⟨id, score, hid, hscore⟩ := h
  obtain ⟨value, hvalue, hscore⟩ := Option.bind_eq_some_iff.mp hscore
  simp [ofRecord?, hid, hvalue, hscore, Json.string?]

end SearchHit

namespace Loader

open SearchHit (Shows StablySorted WellFormed)

/-- A limit on records that all show a hit is a limit on the hits. -/
theorem hitsOf_take {target : NodeType × Property} {records : List Record}
    (h : ∀ record ∈ records, WellFormed record) (n : Nat) :
    hitsOf target (records.take n) = (hitsOf target records).take n := by
  induction records generalizing n with
  | nil => simp [hitsOf]
  | cons record rest ih =>
    rw [List.forall_mem_cons] at h
    obtain ⟨hit, hhit⟩ := Option.isSome_iff_exists.mp
      (SearchHit.isSome_ofRecord? h.1 target.1.name target.2.name)
    cases n with
    | zero => rfl
    | succ n =>
      have hrest := ih h.2 n
      unfold hitsOf at hrest ⊢
      rw [List.take_succ_cons, List.filterMap_cons_some hhit, List.filterMap_cons_some hhit,
        List.take_succ_cons, hrest]

variable {σ : Type}

/-! ## Indexes that rank -/

/-- The index of every type that is searched ranks all its nodes for an embedding, by descending
score, and answers a search with the first records of this ranking. -/
structure Ranks (l : Loader (StateM σ))
    (ranking : Embedding → NodeType × Property → List Record) : Prop where
  wellFormed : ∀ vector target, IsTarget l.ontology target →
    ∀ record ∈ ranking vector target, WellFormed record
  descending : ∀ vector target, IsTarget l.ontology target →
    (hitsOf target (ranking vector target)).Pairwise fun a b => b.score.rank ≤ a.score.rank
  answers : ∀ vector target, IsTarget l.ontology target → ∀ limit s, ∃ s',
    (l.send (searchOf target limit vector)).run s =
      (.ok ((ranking vector target).take limit), s')

def rankedHits (targets : List (NodeType × Property))
    (ranking : NodeType × Property → List Record) : List SearchHit :=
  targets.flatMap fun target => hitsOf target (ranking target)

/-- Of each ranking, a search sees the first hits. -/
theorem run_searchEach {l : Loader (StateM σ)}
    {ranking : Embedding → NodeType × Property → List Record} (h : Ranks l ranking) (limit : Nat)
    (vector : Embedding) {targets : List (NodeType × Property)}
    (htargets : ∀ target ∈ targets, IsTarget l.ontology target)
    (hnames : ∀ target ∈ targets, isQuotable target.1.name = true) (s : σ) :
    ∃ s', (l.searchEach limit vector targets).run s =
      (.ok (targets.flatMap fun target => (hitsOf target (ranking vector target)).take limit),
        s') := by
  induction targets generalizing s with
  | nil => exact ⟨s, rfl⟩
  | cons target rest ih =>
    rw [List.forall_mem_cons] at htargets hnames
    obtain ⟨s', hsend⟩ := h.answers vector target htargets.1 limit s
    obtain ⟨s'', hrest⟩ := ih htargets.2 hnames.2 s'
    refine ⟨s'', ?_⟩
    unfold searchEach
    rw [searchStatement_of_quotable hnames.1]
    refine (run_bind_of_run hsend).trans ?_
    refine (run_bind_of_run hrest).trans ?_
    rw [List.flatMap_cons, ← hitsOf_take (h.wellFormed vector target htargets.1)]
    rfl

def vectorTargets (o : Ontology) : List (NodeType × Property) :=
  o.nodeTypes.filterMap fun node => node.vectorProperty?.map (node, ·)

theorem isTarget_of_mem_vectorTargets {o : Ontology} {target : NodeType × Property}
    (h : target ∈ vectorTargets o) : IsTarget o target :=
  isTarget_of_withVector (fun _ hnode => hnode) h

/-- A search of all types finds the best of the hits in all rankings. -/
theorem run_semanticSearch {l : Loader (StateM σ)}
    {ranking : Embedding → NodeType × Property → List Record} (h : Ranks l ranking)
    {backend : EmbeddingBackend (StateM σ)} (hbackend : l.backend = some backend)
    (hnames : ∀ target, IsTarget l.ontology target → isQuotable target.1.name = true)
    {query : String} (hquery : Text.isBlankText query = false) {limit : Nat} (hlimit : 0 < limit)
    {s s' : σ} {vector : Embedding}
    (hembed : (backend.embed (Text.trim query)).run s = (.ok (some vector), s')) :
    ∃ s'', (l.semanticSearch query none limit).run s =
      (.ok (SearchHit.best limit (rankedHits (vectorTargets l.ontology) (ranking vector))),
        s'') := by
  have hwanted : ¬ (Text.isBlankText query || decide (limit = 0)) = true := by
    simp [hquery, Nat.ne_of_gt hlimit]
  have htargets : searchTargets l.ontology none = .ok (vectorTargets l.ontology) := rfl
  have hall : ∀ target ∈ vectorTargets l.ontology, IsTarget l.ontology target :=
    fun target htarget => isTarget_of_mem_vectorTargets htarget
  obtain ⟨s'', hsearch⟩ := run_searchEach h limit vector hall
    (fun target htarget => hnames target (hall target htarget)) s'
  have hbest := SearchHit.best_flatMap_take (f := fun t => hitsOf t (ranking vector t))
    (fun target htarget => h.descending vector target (hall target htarget)) limit
  unfold semanticSearch
  rw [if_neg hwanted, hbackend, htargets]
  cases hcases : vectorTargets l.ontology with
  | nil =>
    -- without a target the query is not embedded at all
    have hnothing : SearchHit.best limit (rankedHits [] (ranking vector)) = [] := by
      simp [SearchHit.best, rankedHits]
    exact ⟨s, by rw [hnothing]; rfl⟩
  | cons first rest =>
    rw [hcases] at hsearch hbest
    refine ⟨s'', (run_bind_of_run hembed).trans ((run_bind_of_run hsearch).trans ?_)⟩
    rw [rankedHits, ← hbest]
    rfl

/-! ## Hits of any session -/

/-- The hits of a search, read off its events: in the order of descending score, no more than the
limit, and each what a record shows that was answered to the search of a target. -/
structure Found (o : Ontology) (type : Option String) (limit : Nat) (events : List Event)
    (hits : List SearchHit) : Prop where
  descending : hits.Pairwise fun a b => b.score.rank ≤ a.score.rank
  limited : hits.length ≤ limit
  answered : ∀ hit ∈ hits, ∃ target vector records, IsTarget o target ∧
    (∀ key, type = some key → target.1.name = key) ∧
    (searchOf target limit vector).event (.ok records) ∈ events ∧
    ∃ record ∈ records, Shows target record hit

/-- Whatever is answered, a hit is what an answered record shows. -/
theorem Searched.shows {limit : Nat} {vector : Embedding} {targets : List (NodeType × Property)}
    {outcome : Except LoadError (List SearchHit)} {events : List Event}
    (h : Searched limit vector targets outcome events) :
    ∀ hits, outcome = .ok hits → ∀ hit ∈ hits, ∃ target ∈ targets, ∃ records,
      (searchOf target limit vector).event (.ok records) ∈ events ∧
        ∃ record ∈ records, Shows target record hit := by
  induction h with
  | done =>
    rintro _ ⟨⟩ hit hhit
    cases hhit
  | refused => rintro _ ⟨⟩
  | failed => rintro _ ⟨⟩
  | @answered target rest records outcome events _ _ ih =>
    intro hits hok hit hhit
    cases outcome with
    | error error => cases hok
    | ok found =>
      obtain rfl : hitsOf target records ++ found = hits := Except.ok.inj hok
      rcases List.mem_append.mp hhit with hhit | hhit
      · obtain ⟨record, hrecord, hshown⟩ := List.mem_filterMap.mp hhit
        exact ⟨target, List.mem_cons_self, records, List.mem_cons_self, record, hrecord,
          SearchHit.shows_of_ofRecord? hshown⟩
      · obtain ⟨other, hother, answer, hevent, hshown⟩ := ih found rfl hit hhit
        exact ⟨other, List.mem_cons_of_mem _ hother, answer, List.mem_cons_of_mem _ hevent, hshown⟩

/-- A search of one type has targets of this type only. -/
theorem name_of_searchTargets {o : Ontology} {key : String} {targets : List (NodeType × Property)}
    (h : searchTargets o (some key) = .ok targets) : ∀ target ∈ targets, target.1.name = key := by
  intro target htarget
  simp only [searchTargets] at h
  cases hnode : o.nodeType? key with
  | none =>
    rw [hnode] at h
    cases h
  | some node =>
    rw [hnode] at h
    cases h
    obtain ⟨other, hother, hmap⟩ := List.mem_filterMap.mp htarget
    obtain ⟨p, -, rfl⟩ := Option.map_eq_some_iff.mp hmap
    obtain rfl := List.mem_singleton.mp hother
    exact Registry.name_of_find? hnode

theorem found_nil (o : Ontology) (type : Option String) (limit : Nat) (events : List Event) :
    Found o type limit events [] := ⟨.nil, Nat.zero_le _, fun _ hhit => absurd hhit (by simp)⟩

theorem SemanticRun.found {l : Loader (StateM σ)} {query : String} {type : Option String}
    {limit : Nat} {outcome : Except LoadError (List SearchHit)} {events : List Event}
    (h : SemanticRun l query type limit outcome events) {hits : List SearchHit}
    (hok : outcome = .ok hits) : Found l.ontology type limit events hits := by
  cases h with
  | idle =>
    cases hok
    exact found_nil _ _ _ _
  | unknown => cases hok
  | withoutVector =>
    cases hok
    exact found_nil _ _ _ _
  | failed => cases hok
  | @searched targets vector result events htargets hrun =>
    cases result with
    | error error => cases hok
    | ok all =>
      obtain rfl : SearchHit.best limit all = hits := Except.ok.inj hok
      obtain ⟨sorted, hsorted, hbest⟩ := SearchHit.exists_stablySorted_best limit all
      rw [hbest]
      refine ⟨hsorted.descending.sublist (List.take_sublist limit sorted),
        List.length_take_le limit sorted, fun hit hhit => ?_⟩
      have hmem : hit ∈ all := hsorted.perm.subset (List.mem_of_mem_take hhit)
      obtain ⟨target, htarget, records, hevent, hshown⟩ := hrun.shows all rfl hit hmem
      refine ⟨target, vector, records, isTarget_of_searchTargets htargets target htarget, ?_,
        List.mem_cons_of_mem _ hevent, hshown⟩
      rintro key rfl
      exact name_of_searchTargets htargets target htarget

/-! ## What a search finds -/

/-- **What a search finds.** If every index answers with the first records of its ranking, a search
of all types finds the first `limit` of all ranked hits in the order of descending score, hits of
equal score in the order of their types and rankings. Whatever the session answers, with or without
a type, the hits are in the order of descending score, no more than `limit`, and each is what an
answered record shows. -/
theorem semanticSearch_finds (l : Loader (StateM σ)) (query : String) (limit : Nat) :
    (∀ ranking backend vector s s', Ranks l ranking → l.backend = some backend →
      (∀ target, IsTarget l.ontology target → isQuotable target.1.name = true) →
      Text.isBlankText query = false → 0 < limit →
      (backend.embed (Text.trim query)).run s = (.ok (some vector), s') →
      ∃ sorted s'', StablySorted (rankedHits (vectorTargets l.ontology) (ranking vector)) sorted ∧
        (l.semanticSearch query none limit).run s = (.ok (sorted.take limit), s'')) ∧
      ∀ type, Traces (l.observed.semanticSearch query type limit) fun outcome events =>
        ∀ hits, outcome = .ok hits → Found l.ontology type limit events hits := by
  refine ⟨fun ranking backend vector s s' hranks hbackend hnames hquery hlimit hembed => ?_,
    fun type => (traces_semanticSearch_run l query type limit).mono fun outcome events hrun hits =>
      hrun.found⟩
  obtain ⟨s'', hrun⟩ := run_semanticSearch hranks hbackend hnames hquery hlimit hembed
  obtain ⟨sorted, hsorted, hbest⟩ := SearchHit.exists_stablySorted_best limit
    (rankedHits (vectorTargets l.ontology) (ranking vector))
  exact ⟨sorted, s'', hsorted, by rw [hrun, hbest]⟩

/-! ## Two rankings -/

def vectors : Property := { name := "embedding", type := .standard .vector }

def shelfType (name : String) : NodeType where
  name
  properties := [vectors]

def shelves : Ontology :=
  (({ domain := "library", version := "1" } : Ontology).registerNode
    (shelfType "Doc")).registerNode (shelfType "Note")

def shelfRecord (id : String) (score : Nat) : Record :=
  [("id", .string id), ("score", .double ⟨false, score⟩),
    ("properties", .object [("embedding", .array []), ("title", .string id)])]

def shelfRanking (_ : Embedding) (target : NodeType × Property) : List Record :=
  if target.1.name = "Doc" then [shelfRecord "d1" 5, shelfRecord "d2" 3, shelfRecord "d3" 3]
  else [shelfRecord "n1" 4, shelfRecord "n2" 3]

def shelfSession : GraphSession (StateM Unit) where
  run text params :=
    let limit := ((params.field? "limit").bind Json.natural?).getD 0
    let type := if text = Statement.searchText (quoted "Doc") then "Doc" else "Note"
    pure (.ok ((shelfRanking [] (shelfType type, vectors)).take limit))

def shelfBackend : EmbeddingBackend (StateM Unit) where
  name := "one"
  dimensions := 0
  embed _ := pure (.ok (some []))

def shelfLoader : Loader (StateM Unit) where
  ontology := shelves
  session := shelfSession
  backend := some shelfBackend

theorem isTarget_shelves {target : NodeType × Property} (h : IsTarget shelves target) :
    target = (shelfType "Doc", vectors) ∨ target = (shelfType "Note", vectors) := by
  obtain ⟨node, p⟩ := target
  obtain ⟨hnode, hp⟩ := h
  have hnodes : shelves.nodeTypes = [shelfType "Doc", shelfType "Note"] := by decide
  rw [hnodes, List.mem_cons, List.mem_singleton] at hnode
  rcases hnode with rfl | rfl
  · cases hp
    exact .inl rfl
  · cases hp
    exact .inr rfl

theorem wellFormed_shelfRecord (id : String) {score : Nat} (h : score < Width.double.infinity) :
    WellFormed (shelfRecord id score) := by
  refine ⟨id, ⟨false, score⟩, rfl, ?_⟩
  simp [shelfRecord, Fields.get?, findNamed?, Named.name, Json.number?, Binary.isFinite, h]

/-- The two indexes rank what they answer. -/
theorem ranks_shelves : Ranks shelfLoader shelfRanking where
  wellFormed vector target _ := by
    unfold shelfRanking
    split
    · simp only [List.forall_mem_cons]
      exact ⟨wellFormed_shelfRecord _ (by decide), wellFormed_shelfRecord _ (by decide),
        wellFormed_shelfRecord _ (by decide), by simp⟩
    · simp only [List.forall_mem_cons]
      exact ⟨wellFormed_shelfRecord _ (by decide), wellFormed_shelfRecord _ (by decide), by simp⟩
  descending vector target htarget := by
    rcases isTarget_shelves htarget with rfl | rfl
    · show List.Pairwise _ [_, _, _]
      simp [Binary.rank]
    · show List.Pairwise _ [_, _]
      simp [Binary.rank]
  answers vector target htarget limit s := by
    have hlimit : ((Json.object (searchOf target limit vector).params).field? "limit").bind
        Json.natural? = some limit := by
      show Json.natural? (.int limit) = some limit
      simp [Json.natural?]
    refine ⟨s, ?_⟩
    simp only [send, shelfLoader, shelfSession, hlimit, Option.getD_some]
    rcases isTarget_shelves htarget with rfl | rfl
    · rw [if_pos (by rfl)]
      rfl
    · have hnote : ¬ Statement.searchText (quoted "Note") =
          Statement.searchText (quoted "Doc") := by
        decide +kernel
      rw [show (searchOf (shelfType "Note", vectors) limit vector).query =
        Statement.searchText (quoted "Note") from rfl, if_neg hnote]
      rfl

/-- A search of both finds the first two of five hits. -/
theorem shelves_searched :
    (rankedHits (vectorTargets shelves) (shelfRanking [])).map SearchHit.id =
        ["d1", "d2", "d3", "n1", "n2"] ∧
      ∃ sorted s', StablySorted (rankedHits (vectorTargets shelves) (shelfRanking [])) sorted ∧
        (shelfLoader.semanticSearch "fish" none 2).run () = (.ok (sorted.take 2), s') := by
  obtain ⟨hfinds, -⟩ := semanticSearch_finds shelfLoader "fish" 2
  refine ⟨rfl, hfinds shelfRanking shelfBackend [] () () ranks_shelves rfl
    (fun target htarget => ?_) (by decide) (by decide) rfl⟩
  rcases isTarget_shelves htarget with rfl | rfl <;> decide

end Loader

end Ontograph
