/-
Ontograph.Proofs.Ontology.Template — which names the scan of a template finds.

`NamedAt` says without a scanner where a name stands: directly behind a dollar
sign, made of ASCII letters, digits and underscores, one of them at least, and
what comes next is none of these. The scan meets each such place once, from
left to right, and cuts the name out between two bytes that are both boundaries
of characters, whatever stands around it (`forall₂_spans`). So the placeholders
of a template are the names behind its dollar signs, each once, and one stands
before another exactly if it comes first in the template (`templates_scanned`).
-/
import Mathlib.Data.List.Forall2
import Mathlib.Data.List.Induction
import Mathlib.Data.List.TakeWhile
import Ontograph.Ontology.Definition

namespace Ontograph.Template

/-! ## Names behind dollar signs -/

/-- An ASCII letter, a decimal digit or an underscore. -/
def IsNameChar (c : Char) : Prop :=
  ('A' ≤ c ∧ c ≤ 'Z') ∨ ('a' ≤ c ∧ c ≤ 'z') ∨ ('0' ≤ c ∧ c ≤ '9') ∨ c = '_'

theorem isNameChar_iff {c : Char} : isNameChar c = true ↔ IsNameChar c := by
  have hupper : c.isUpper = true ↔ 'A' ≤ c ∧ c ≤ 'Z' := decide_eq_true_iff
  have hlower : c.isLower = true ↔ 'a' ≤ c ∧ c ≤ 'z' := by
    show (decide (c.val ≥ 'a'.val) && decide (c.val ≤ 'z'.val)) = true ↔ _
    rw [Bool.and_eq_true, decide_eq_true_iff, decide_eq_true_iff]
    exact Iff.rfl
  have hdigit : c.isDigit = true ↔ '0' ≤ c ∧ c ≤ '9' := by
    show (decide (c.val ≥ '0'.val) && decide (c.val ≤ '9'.val)) = true ↔ _
    rw [Bool.and_eq_true, decide_eq_true_iff, decide_eq_true_iff]
    exact Iff.rfl
  have hname : isNameChar c = (c.isUpper || c.isLower || c.isDigit || decide (c = '_')) := rfl
  simp only [hname, Bool.or_eq_true, hupper, hlower, hdigit, decide_eq_true_iff, IsNameChar,
    or_assoc]

/-- At some place of a template stands a dollar sign, and directly behind it a name that goes on for
as long as there are name characters. -/
structure NamedAt (template : String) (i : Nat) (name : String) : Prop where
  dollar : template.toList[i]? = some '$'
  behind : name.toList <+: template.toList.drop (i + 1)
  nonempty : name ≠ ""
  chars : ∀ c ∈ name.toList, IsNameChar c
  maximal : ∀ c, template.toList[i + 1 + name.toList.length]? = some c → ¬ IsNameChar c

/-- A name stands behind a dollar sign of a template. -/
def Names (template name : String) : Prop := ∃ i, NamedAt template i name

/-- One name stands behind a dollar sign before another does for the first time. -/
def ComesBefore (template name other : String) : Prop :=
  ∃ i, NamedAt template i name ∧ ∀ j, NamedAt template j other → i < j

/-- What a scanner takes from the front of a text is all that it can take. -/
theorem eq_takeWhile_iff {name cs : List Char} :
    name = cs.takeWhile isNameChar ↔
      name <+: cs ∧ (∀ c ∈ name, isNameChar c = true) ∧
        ∀ c, cs[name.length]? = some c → isNameChar c = false := by
  constructor
  · rintro rfl
    refine ⟨List.takeWhile_prefix _, fun c hc => List.mem_takeWhile_imp hc, fun c hc => ?_⟩
    have hrest : (cs.dropWhile isNameChar).head? = some c := by
      conv at hc => lhs; arg 1; rw [← List.takeWhile_append_dropWhile (p := isNameChar) (l := cs)]
      rwa [List.getElem?_append_right (Nat.le_refl _), Nat.sub_self, ← List.head?_eq_getElem?] at hc
    have hnot := List.head?_dropWhile_not isNameChar cs
    rwa [hrest] at hnot
  · rintro ⟨⟨rest, rfl⟩, hname, hnext⟩
    rw [List.takeWhile_append_of_pos hname]
    cases rest with
    | nil => simp
    | cons c rest =>
      have hc : isNameChar c = false := hnext c (by simp)
      simp [hc]

/-- The name behind a dollar sign is the longest run of name characters. -/
theorem namedAt_iff {template : String} {i : Nat} {name : String} :
    NamedAt template i name ↔
      template.toList[i]? = some '$' ∧
        name.toList = (template.toList.drop (i + 1)).takeWhile isNameChar ∧ name ≠ "" := by
  rw [eq_takeWhile_iff]
  simp only [isNameChar_iff, List.getElem?_drop, ← Bool.not_eq_true]
  constructor
  · intro h
    exact ⟨h.dollar, ⟨h.behind, h.chars, h.maximal⟩, h.nonempty⟩
  · rintro ⟨hdollar, ⟨hbehind, hchars, hmaximal⟩, hne⟩
    exact ⟨hdollar, hbehind, hne, hchars, hmaximal⟩

/-! ## Occurrences from left to right -/

/-- The places of dollar signs with names behind them, the first character being at place `i`. -/
def occurrences (i : Nat) : List Char → List (Nat × String)
  | [] => []
  | c :: rest =>
    if c = '$' ∧ rest.takeWhile isNameChar ≠ [] then
      (i, String.ofList (rest.takeWhile isNameChar)) :: occurrences (i + 1) rest
    else occurrences (i + 1) rest

theorem mem_occurrences {i j : Nat} {cs : List Char} {name : String} :
    (j, name) ∈ occurrences i cs ↔
      ∃ k, j = i + k ∧ cs[k]? = some '$' ∧
        name.toList = (cs.drop (k + 1)).takeWhile isNameChar ∧ name ≠ "" := by
  induction cs generalizing i with
  | nil => simp [occurrences]
  | cons c rest ih =>
    have hhere : (j = i ∧ name = String.ofList (rest.takeWhile isNameChar)) ∧
        c = '$' ∧ rest.takeWhile isNameChar ≠ [] ↔
        j = i ∧ c = '$' ∧ name.toList = rest.takeWhile isNameChar ∧ name ≠ "" := by
      constructor
      · rintro ⟨⟨rfl, rfl⟩, hc, hne⟩
        exact ⟨rfl, hc, String.toList_ofList, by simpa using hne⟩
      · rintro ⟨rfl, hc, hname, hne⟩
        refine ⟨⟨rfl, ?_⟩, hc, ?_⟩
        · rw [← hname, String.ofList_toList]
        · rw [← hname]
          simpa using hne
    have hstep : (j, name) ∈ occurrences i (c :: rest) ↔
        (j = i ∧ name = String.ofList (rest.takeWhile isNameChar)) ∧
          (c = '$' ∧ rest.takeWhile isNameChar ≠ []) ∨ (j, name) ∈ occurrences (i + 1) rest := by
      rw [occurrences]
      split
      · rename_i h
        simp [h]
      · rename_i h
        exact (or_iff_right fun hmem => h hmem.2).symm
    rw [hstep, hhere, ih]
    constructor
    · rintro (⟨rfl, hc, hname⟩ | ⟨k, rfl, hdollar, hname⟩)
      · exact ⟨0, rfl, by simp [hc], by simpa using hname⟩
      · exact ⟨k + 1, by omega, by simpa using hdollar, by simpa using hname⟩
    · rintro ⟨k, rfl, hdollar, hname⟩
      cases k with
      | zero => exact .inl ⟨rfl, by simpa using hdollar, by simpa using hname⟩
      | succ k => exact .inr ⟨k, by omega, by simpa using hdollar, by simpa using hname⟩

theorem mem_occurrences_iff {template name : String} {i : Nat} :
    (i, name) ∈ occurrences 0 template.toList ↔ NamedAt template i name := by
  rw [mem_occurrences, namedAt_iff]
  simp

/-- Occurrences are listed from left to right. -/
theorem pairwise_occurrences (i : Nat) (cs : List Char) :
    (occurrences i cs).Pairwise (fun a b => a.1 < b.1) := by
  induction cs generalizing i with
  | nil => exact .nil
  | cons c rest ih =>
    rw [occurrences]
    split
    · refine List.pairwise_cons.mpr ⟨?_, ih (i + 1)⟩
      rintro ⟨j, name⟩ hmem
      obtain ⟨k, rfl, -⟩ := mem_occurrences.mp hmem
      show i < i + 1 + k
      omega
    · exact ih (i + 1)

/-- No dollar sign stands within a name. -/
theorem occurrences_append {name : List Char} (h : ∀ c ∈ name, isNameChar c = true) (i : Nat)
    (rest : List Char) : occurrences i (name ++ rest) = occurrences (i + name.length) rest := by
  induction name generalizing i with
  | nil => rfl
  | cons c name ih =>
    rw [List.forall_mem_cons] at h
    have hc : c ≠ '$' := by
      rintro rfl
      exact absurd h.1 (by decide)
    rw [List.cons_append, occurrences, if_neg (by simp [hc]), ih h.2, List.length_cons]
    congr 1
    omega

/-! ## Spans -/

/-- A span of a template holds a name: it begins where some part of the template ends, and it ends
with the name behind this part. -/
def Delimits (template : String) (span : Span) (name : String) : Prop :=
  ∃ before after, template = before ++ name ++ after ∧
    span = ⟨before.rawEndPos, (before ++ name).rawEndPos⟩

theorem rawEndPos_add (s : String) (c : Char) : s.rawEndPos + c = (s.push c).rawEndPos := by
  apply String.Pos.Raw.ext
  simp

theorem append_ofList_cons (s : String) (c : Char) (cs : List Char) :
    s ++ String.ofList (c :: cs) = s.push c ++ String.ofList cs := by
  rw [String.ofList_cons, String.push_eq_append, String.append_assoc]

namespace Delimits

variable {template : String} {span : Span} {name : String}

theorem isValid (h : Delimits template span name) :
    span.start.IsValid template ∧ span.stop.IsValid template := by
  obtain ⟨before, after, rfl, rfl⟩ := h
  constructor
  · exact String.Pos.Raw.isValid_iff_exists_append.mpr
      ⟨before, name ++ after, String.append_assoc, rfl⟩
  · exact String.Pos.Raw.isValid_iff_exists_append.mpr ⟨before ++ name, after, rfl, rfl⟩

theorem le (h : Delimits template span name) : span.start ≤ span.stop := by
  obtain ⟨before, after, rfl, rfl⟩ := h
  simp [String.Pos.Raw.le_iff]

/-- The bytes of a span are those of its name. -/
theorem extract_eq (h : Delimits template span name) :
    template.toByteArray.extract span.start.byteIdx span.stop.byteIdx = name.toByteArray := by
  obtain ⟨before, after, rfl, rfl⟩ := h
  have hfront := ByteArray.extract_append_size_add (a := before.toByteArray)
    (b := name.toByteArray ++ after.toByteArray) (i := 0) (j := name.toByteArray.size)
  rw [Nat.add_zero, ByteArray.extract_append_eq_left rfl] at hfront
  simpa [String.append_assoc, String.utf8ByteSize_append] using hfront

/-- A span that holds a name is cut out as the name. -/
theorem slice?_eq (h : Delimits template span name) : slice? template span = some name := by
  rw [slice?, dif_pos ⟨h.le, h.isValid⟩]
  refine congrArg some (String.toByteArray_inj.mp ?_)
  rw [String.toByteArray_extract]
  exact h.extract_eq

theorem lt (h : Delimits template span name) (hname : name ≠ "") : span.start < span.stop := by
  obtain ⟨before, after, rfl, rfl⟩ := h
  have hsize : name.utf8ByteSize ≠ 0 := by simpa using hname
  simp only [String.Pos.Raw.lt_iff, String.byteIdx_rawEndPos, String.utf8ByteSize_append]
  omega

end Delimits

/-- A name is followed to its end. -/
theorem nameEnd_indexed (before : String) (cs : List Char) :
    nameEnd before.rawEndPos (indexed before.rawEndPos cs) =
      ((before ++ String.ofList (cs.takeWhile isNameChar)).rawEndPos,
        indexed (before ++ String.ofList (cs.takeWhile isNameChar)).rawEndPos
          (cs.dropWhile isNameChar)) := by
  induction cs generalizing before with
  | nil => simp [indexed, nameEnd]
  | cons c rest ih =>
    rw [indexed, nameEnd]
    split
    · rename_i hc
      rw [rawEndPos_add, ih, List.takeWhile_cons_of_pos hc, List.dropWhile_cons_of_pos hc,
        append_ofList_cons]
    · rename_i hc
      rw [List.takeWhile_cons_of_neg hc, List.dropWhile_cons_of_neg hc, String.ofList_nil,
        String.append_empty, indexed]

/-- A name is there exactly if its end lies behind its beginning. -/
theorem rawEndPos_lt_iff (before : String) (name : List Char) :
    before.rawEndPos < (before ++ String.ofList name).rawEndPos ↔ name ≠ [] := by
  rw [String.Pos.Raw.lt_iff]
  simp only [String.byteIdx_rawEndPos, String.utf8ByteSize_append, Nat.lt_add_right_iff_pos]
  constructor
  · rintro hpos rfl
    exact absurd hpos (by simp)
  · intro hne
    obtain ⟨c, rest, rfl⟩ := List.exists_cons_of_ne_nil hne
    rw [String.ofList_cons, String.utf8ByteSize_append, String.utf8ByteSize_singleton]
    exact Nat.add_pos_left c.utf8Size_pos _

/-- The scan meets every name behind a dollar sign once, from left to right, and its spans hold
these names. -/
theorem forall₂_nameSpans (before : String) (i : Nat) (cs : List Char) :
    List.Forall₂ (fun span occurrence => Delimits (before ++ String.ofList cs) span occurrence.2)
      (nameSpans (indexed before.rawEndPos cs)) (occurrences i cs) := by
  -- on the length, since the scan goes on behind the name that it has taken
  induction hlength : cs.length using Nat.strongRecOn generalizing before i cs with
  | _ n ih =>
    cases cs with
    | nil =>
      rw [indexed, nameSpans]
      exact .nil
    | cons c rest =>
      rw [List.length_cons] at hlength
      rw [indexed, nameSpans, append_ofList_cons]
      split
      · rename_i hc
        subst hc
        have hstart : (⟨before.rawEndPos.byteIdx + 1⟩ : String.Pos.Raw) =
            (before.push '$').rawEndPos := rawEndPos_add before '$'
        let name := rest.takeWhile isNameChar
        let others := rest.dropWhile isNameChar
        have hsplit : rest = name ++ others := List.takeWhile_append_dropWhile.symm
        have htext : before.push '$' ++ String.ofList rest =
            before.push '$' ++ String.ofList name ++ String.ofList others := by
          rw [hsplit, String.ofList_append, String.append_assoc]
        have hothers := ih others.length
          (by rw [← hlength]; exact Nat.lt_succ_of_le (List.length_dropWhile_le _ _))
          (before.push '$' ++ String.ofList name) (i + 1 + name.length) others rfl
        have hskip : occurrences (i + 1) rest = occurrences (i + 1 + name.length) others := by
          rw [hsplit, occurrences_append fun c hc => List.mem_takeWhile_imp hc]
        rw [← htext, ← hskip] at hothers
        simp only [rawEndPos_add, hstart, nameEnd_indexed, rawEndPos_lt_iff, occurrences, true_and]
        split
        · exact .cons ⟨_, _, htext, rfl⟩ hothers
        · exact hothers
      · rename_i hc
        have hrest := ih rest.length (by omega) (before.push c) (i + 1) rest rfl
        rwa [occurrences, if_neg (by simp [hc]), rawEndPos_add]

/-- There is a span for each occurrence, in order. -/
theorem forall₂_spans (template : String) :
    List.Forall₂ (fun span occurrence => Delimits template span occurrence.2)
      (spans template) (occurrences 0 template.toList) := by
  have hscan := forall₂_nameSpans "" 0 template.toList
  rwa [String.empty_append, String.ofList_toList] at hscan

/-- What is cut out of a template are the names behind its dollar signs. -/
theorem filterMap_slice?_spans (template : String) :
    (spans template).filterMap (slice? template) =
      (occurrences 0 template.toList).map Prod.snd := by
  have hscan := forall₂_spans template
  generalize spans template = found, occurrences 0 template.toList = places at hscan ⊢
  induction hscan with
  | nil => rfl
  | cons hspan _ ih => rw [List.filterMap_cons_some hspan.slice?_eq, ih, List.map_cons]

/-! ## Names without repetitions -/

theorem distinct_concat (texts : List String) (text : String) :
    distinct (texts ++ [text]) =
      if text ∈ distinct texts then distinct texts else distinct texts ++ [text] :=
  List.foldl_concat ..

/-- Leaving repetitions out leaves no text out. -/
theorem mem_distinct {texts : List String} {text : String} :
    text ∈ distinct texts ↔ text ∈ texts := by
  induction texts using List.reverseRecOn with
  | nil => exact Iff.rfl
  | append_singleton texts last ih =>
    rw [distinct_concat]
    split
    · rename_i hlast
      rw [ih, List.mem_append, List.mem_singleton, or_iff_left_of_imp]
      rintro rfl
      exact ih.mp hlast
    · rw [List.mem_append, List.mem_append, ih]

/-- Of names with places that increase, those that are left stand in the order of the first place
of each. -/
theorem pairwise_distinct {entries : List (Nat × String)}
    (h : entries.Pairwise fun a b => a.1 < b.1) :
    (distinct (entries.map Prod.snd)).Pairwise fun name other =>
      ∃ i, (i, name) ∈ entries ∧ ∀ j, (j, other) ∈ entries → i < j := by
  induction entries using List.reverseRecOn with
  | nil => exact .nil
  | append_singleton entries last ih =>
    obtain ⟨k, text⟩ := last
    obtain ⟨hentries, -, hlast⟩ := List.pairwise_append.mp h
    have hbefore : ∀ i name, (i, name) ∈ entries → i < k := fun i name hmem =>
      hlast (i, name) hmem (k, text) List.mem_cons_self
    -- a place in front of all others of some name is also in front of the last one
    have hkept : (distinct (entries.map Prod.snd)).Pairwise fun name other =>
        ∃ i, (i, name) ∈ entries ++ [(k, text)] ∧
          ∀ j, (j, other) ∈ entries ++ [(k, text)] → i < j := by
      refine (ih hentries).imp ?_
      rintro name other ⟨i, hi, hfirst⟩
      refine ⟨i, List.mem_append_left _ hi, fun j hj => ?_⟩
      rcases List.mem_append.mp hj with hj | hj
      · exact hfirst j hj
      · cases List.mem_singleton.mp hj
        exact hbefore i name hi
    rw [List.map_append, List.map_singleton, distinct_concat]
    split
    · exact hkept
    · rename_i hnew
      rw [mem_distinct] at hnew
      refine List.pairwise_append.mpr ⟨hkept, List.pairwise_singleton _ _, ?_⟩
      intro name hname other hother
      cases List.mem_singleton.mp hother
      obtain ⟨⟨i, _⟩, hi, rfl⟩ := List.mem_map.mp (mem_distinct.mp hname)
      refine ⟨i, List.mem_append_left _ hi, fun j hj => ?_⟩
      rcases List.mem_append.mp hj with hj | hj
      · exact absurd (List.mem_map_of_mem hj) hnew
      · cases List.mem_singleton.mp hj
        exact hbefore i _ hi

/-! ## Placeholders -/

/-- The placeholders are the names of the occurrences, without repetitions. -/
theorem placeholders_eq (template : String) :
    placeholders template = distinct ((occurrences 0 template.toList).map Prod.snd) := by
  rw [placeholders, filterMap_slice?_spans]

/-- The placeholders of a template are the names behind its dollar signs. -/
theorem mem_placeholders {template name : String} :
    name ∈ placeholders template ↔ Names template name := by
  rw [placeholders_eq, mem_distinct, List.mem_map, Names]
  simp only [← mem_occurrences_iff]
  constructor
  · rintro ⟨⟨i, _⟩, hi, rfl⟩
    exact ⟨i, hi⟩
  · rintro ⟨i, hi⟩
    exact ⟨(i, name), hi, rfl⟩

/-- Placeholders stand in the order of first occurrence. -/
theorem pairwise_placeholders (template : String) :
    (placeholders template).Pairwise (ComesBefore template) := by
  rw [placeholders_eq]
  refine (pairwise_distinct (pairwise_occurrences 0 template.toList)).imp ?_
  intro name other hbefore
  simpa only [ComesBefore, ← mem_occurrences_iff] using hbefore

/-- No name comes before itself. -/
theorem ComesBefore.ne {template name other : String} (h : ComesBefore template name other) :
    name ≠ other := by
  rintro rfl
  obtain ⟨i, hi, hfirst⟩ := h
  exact Nat.lt_irrefl i (hfirst i hi)

/-- A span is a name behind a dollar sign, cut out between two boundaries of characters. -/
structure Cut (template : String) (span : Span) : Prop where
  start : span.start.IsValid template
  stop : span.stop.IsValid template
  order : span.start < span.stop
  name : ∃ name, slice? template span = some name ∧ Names template name

/-- Every span is cut between boundaries. -/
theorem cut_of_mem_spans {template : String} {span : Span} (hmem : span ∈ spans template) :
    Cut template span := by
  obtain ⟨k, hk, rfl⟩ := List.getElem_of_mem hmem
  obtain ⟨hlength, hall⟩ := List.forall₂_iff_get.mp (forall₂_spans template)
  have hspan := hall k hk (hlength ▸ hk)
  have hnamed := mem_occurrences_iff.mp (List.getElem_mem (hlength ▸ hk))
  exact {
    start := hspan.isValid.1
    stop := hspan.isValid.2
    order := hspan.lt hnamed.nonempty
    name := ⟨_, hspan.slice?_eq, _, hnamed⟩ }

end Ontograph.Template

namespace Ontograph.QueryTool

open Template

theorem placeholders_eq (tool : QueryTool) :
    tool.placeholders = Template.placeholders tool.template := by
  rw [placeholders, placeholdersOf, String.ofList_toList]

/-- **The placeholders of a query tool are the names behind the dollar signs of its template.** A
name is as long as the run of name characters behind its dollar sign. Each is listed once, in the
order in which they first occur, and the scan, which comes to an end on every text, cuts each of
them out between two boundaries of characters. -/
theorem templates_scanned (tool : QueryTool) :
    (∀ name, name ∈ tool.placeholders ↔ Names tool.template name) ∧
      tool.placeholders.Nodup ∧
      tool.placeholders.Pairwise (ComesBefore tool.template) ∧
      ∀ span ∈ spans tool.template, Cut tool.template span := by
  rw [placeholders_eq]
  have hordered := pairwise_placeholders tool.template
  exact ⟨fun name => mem_placeholders, hordered.imp ComesBefore.ne, hordered,
    fun span => cut_of_mem_spans⟩

/-- Dollar signs in a row, at the end and in front of another character than those of names, names
that begin alike or repeat, and characters of several bytes. -/
example : Template.placeholders "$$é$ab_1é$a$ab_1 €$" = ["ab_1", "a"] := by
  decide +kernel

end Ontograph.QueryTool
