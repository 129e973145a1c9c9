/-
Ontograph.Proofs.Extraction.Fence — what stands in a code fence.

A fence is found by a pattern that is anchored at both ends of the text: blanks,
the mark, letters, blanks, a line feed that may be missing, the text that is
captured, blanks, the mark and blanks. There is more than one way to match it, as
the captured text may hold marks and whole fences itself. `capture?` tries the
ways one after the other, and `capture?_eq` says what the first of them captures:
what is between the letters and the last mark, without its blanks. So the body of
a completion is the captured text, or the whole text if nothing is captured
(`body_eq`).

A text that is an array or an object begins with its bracket, which is neither a
mark nor a letter. In a fence it is captured as it is, whatever its strings hold,
and without one nothing is captured (`fence_transparent`).
-/
import Ontograph.Proofs.Json.Surroundings
import Ontograph.Extraction.Completion

namespace Ontograph.Extraction

open Text (Blanks isBlank trimLeft trimRight trimBoth)

/-! ## The marks -/

theorem isPrefixOf?_fenceMark_eq_some_iff {cs rest : List Char} :
    fenceMark.isPrefixOf? cs = some rest ↔ cs = fenceMark ++ rest := by
  rw [List.isPrefixOf?_eq_some_iff_append_eq, eq_comm]

/-- A mark is no blank, so that it stops trimming from the left. -/
theorem trimLeft_mark (rest : List Char) : trimLeft (fenceMark ++ rest) = fenceMark ++ rest :=
  Text.trimLeft_cons_of_not_blank (by decide) _

/-- A mark stops trimming from the right. -/
theorem trimRight_mark (inside : List Char) :
    trimRight (inside ++ fenceMark) = inside ++ fenceMark := by
  have hlast : inside ++ fenceMark = inside ++ ['\x60', '\x60'] ++ ['\x60'] := by
    rw [List.append_assoc]
    rfl
  rw [hlast]
  exact Text.trimRight_concat_of_not_blank (by decide) _

/-- The closing mark is the last mark of the text, and only blanks stand behind it. -/
theorem beforeClosing?_eq_some_iff {cs inside : List Char} :
    beforeClosing? cs = some inside ↔
      ∃ after, Blanks after ∧ cs = inside ++ fenceMark ++ after := by
  have hsuffix : beforeClosing? cs = some inside ↔ inside ++ fenceMark = trimRight cs :=
    List.isSuffixOf?_eq_some_iff_append_eq
  rw [hsuffix]
  constructor
  · intro h
    obtain ⟨after, hafter, hcs⟩ := Text.exists_blanks_behind cs
    exact ⟨after, hafter, by rw [h, ← hcs]⟩
  · rintro ⟨after, hafter, rfl⟩
    rw [Text.trimRight_append_of_blanks hafter, trimRight_mark]

/-- A text that begins with anything but a backtick opens no fence. -/
theorem afterOpening?_eq_none_of_trimLeft {cs rest : List Char} {c : Char}
    (h : trimLeft cs = c :: rest) (hc : c ≠ '\x60') : afterOpening? cs = none := by
  rw [afterOpening?, h]
  simp [fenceMark, List.isPrefixOf?, hc.symm]

/-- Blanks taken off a text are blanks taken off its content. -/
theorem beforeClosing?_trimLeft (cs : List Char) :
    beforeClosing? (trimLeft cs) = (beforeClosing? cs).map trimLeft := by
  cases hcs : beforeClosing? cs with
  | some inside =>
    obtain ⟨after, hafter, rfl⟩ := beforeClosing?_eq_some_iff.mp hcs
    refine beforeClosing?_eq_some_iff.mpr ⟨after, hafter, ?_⟩
    rw [List.append_assoc, trimLeft, List.dropWhile_append]
    split
    · rename_i hempty
      rw [trimLeft, List.isEmpty_iff.mp hempty]
      exact trimLeft_mark after
    · rw [List.append_assoc, trimLeft]
  | none =>
    cases htrim : beforeClosing? (trimLeft cs) with
    | none => rfl
    | some inside =>
      obtain ⟨after, hafter, hleft⟩ := beforeClosing?_eq_some_iff.mp htrim
      have hsome : beforeClosing? cs = some (cs.takeWhile isBlank ++ inside) := by
        refine beforeClosing?_eq_some_iff.mpr ⟨after, hafter, ?_⟩
        rw [List.append_assoc, List.append_assoc, ← List.append_assoc inside, ← hleft]
        exact List.takeWhile_append_dropWhile.symm
      rw [hcs] at hsome
      cases hsome

theorem beforeClosing?_cons {cs inside : List Char} (h : beforeClosing? cs = some inside)
    (c : Char) : beforeClosing? (c :: cs) = some (c :: inside) := by
  obtain ⟨after, hafter, rfl⟩ := beforeClosing?_eq_some_iff.mp h
  exact beforeClosing?_eq_some_iff.mpr ⟨after, hafter, rfl⟩

theorem inside_of_cons {c : Char} {cs inside : List Char}
    (h : beforeClosing? (c :: cs) = some inside) :
    (inside = [] ∧ c = '\x60') ∨ ∃ inside', inside = c :: inside' ∧
      beforeClosing? cs = some inside' := by
  obtain ⟨after, hafter, hcs⟩ := beforeClosing?_eq_some_iff.mp h
  cases inside with
  | nil => exact .inl ⟨rfl, (List.cons.inj hcs).1⟩
  | cons d inside =>
    obtain ⟨rfl, hrest⟩ := List.cons.inj hcs
    exact .inr ⟨inside, rfl, beforeClosing?_eq_some_iff.mpr ⟨after, hafter, hrest⟩⟩

/-- What is no part of a mark can be left out in front of the closing one. -/
theorem isSome_beforeClosing?_of_cons {c : Char} {cs : List Char} (hc : c ≠ '\x60')
    (h : (beforeClosing? (c :: cs)).isSome) : (beforeClosing? cs).isSome := by
  obtain ⟨inside, hinside⟩ := Option.isSome_iff_exists.mp h
  obtain ⟨-, hmark⟩ | ⟨inside', -, hcs⟩ := inside_of_cons hinside
  · exact absurd hmark hc
  · exact Option.isSome_iff_exists.mpr ⟨inside', hcs⟩

/-! ## The pattern -/

/-- The ways to take characters of one kind from the front of a text, and what each leaves: as many
characters as there are first, then one less at a time. -/
def greedily (p : Char → Bool) : List Char → List (List Char)
  | [] => [[]]
  | c :: rest => if p c then greedily p rest ++ [c :: rest] else [c :: rest]

/-- The ways to cut a text in two: nothing in front first, then one character more at a time. -/
def lazily : List Char → List (List Char × List Char)
  | [] => [([], [])]
  | c :: rest => ([], c :: rest) :: (lazily rest).map fun (inside, rest) => (c :: inside, rest)

/-- The ways to take a line feed that may be missing. -/
def lineFeed : List Char → List (List Char)
  | '\n' :: rest => [rest, '\n' :: rest]
  | cs => [cs]

/-- Whether blanks, the mark and blanks are all there is. -/
def endsHere (cs : List Char) : Bool :=
  (greedily isBlank cs).any fun rest =>
    (fenceMark.isPrefixOf? rest).any fun rest => (greedily isBlank rest).any List.isEmpty

/-- The shortest text in front of the end. -/
def inside? (cs : List Char) : Option (List Char) :=
  (lazily cs).findSome? fun (inside, rest) => if endsHere rest then some inside else none

/-- What the pattern captures in the first of the ways in which it matches a text. -/
def capture? (cs : List Char) : Option (List Char) :=
  (greedily isBlank cs).findSome? fun rest =>
    (fenceMark.isPrefixOf? rest).bind fun rest =>
      (greedily Char.isAlpha rest).findSome? fun rest =>
        (greedily isBlank rest).findSome? fun rest => (lineFeed rest).findSome? inside?

/-! ### Ways that lead to a match -/

/-- What is tried is what is left behind any number of characters of a kind. -/
theorem mem_greedily {p : Char → Bool} {cs rest : List Char} :
    rest ∈ greedily p cs ↔ ∃ taken, (∀ c ∈ taken, p c = true) ∧ cs = taken ++ rest := by
  induction cs with
  | nil =>
    rw [greedily, List.mem_singleton]
    constructor
    · rintro rfl
      exact ⟨[], nofun, rfl⟩
    · rintro ⟨taken, -, h⟩
      exact (List.append_eq_nil_iff.mp h.symm).2
  | cons c cs ih =>
    have hways : (∃ taken, (∀ d ∈ taken, p d = true) ∧ c :: cs = taken ++ rest) ↔
        rest = c :: cs ∨ p c = true ∧ rest ∈ greedily p cs := by
      rw [ih]
      constructor
      · rintro ⟨taken, htaken, h⟩
        cases taken with
        | nil => exact .inl h.symm
        | cons d taken =>
          obtain ⟨rfl, rfl⟩ := List.cons.inj h
          obtain ⟨hd, htaken⟩ := List.forall_mem_cons.mp htaken
          exact .inr ⟨hd, taken, htaken, rfl⟩
      · rintro (rfl | ⟨hc, taken, htaken, rfl⟩)
        · exact ⟨[], nofun, rfl⟩
        · exact ⟨c :: taken, List.forall_mem_cons.mpr ⟨hc, htaken⟩, rfl⟩
    rw [hways, greedily]
    split
    · rename_i hc
      simp [hc, or_comm]
    · rename_i hc
      simp [hc]

section
variable {α : Type} {p : Char → Bool} {f : List Char → Option α}

/-- A search that does not need some characters is as good without them. -/
theorem isSome_dropWhile (hf : ∀ c cs, p c = true → (f (c :: cs)).isSome → (f cs).isSome)
    {cs : List Char} (h : (f cs).isSome) : (f (cs.dropWhile p)).isSome := by
  induction cs with
  | nil => exact h
  | cons c cs ih =>
    rw [List.dropWhile_cons]
    split
    · rename_i hc
      exact ih (hf c cs hc h)
    · exact h

/-- If a match is still found when one character more is taken, the way that takes most leads to
the first match. -/
theorem findSome?_greedily (hf : ∀ c cs, p c = true → (f (c :: cs)).isSome → (f cs).isSome)
    (cs : List Char) : (greedily p cs).findSome? f = f (cs.dropWhile p) := by
  induction cs with
  | nil => simp [greedily]
  | cons c cs ih =>
    rw [greedily, List.dropWhile_cons]
    split
    · rename_i hc
      rw [List.findSome?_append, ih]
      cases hmost : f (cs.dropWhile p) with
      | some a => rfl
      | none =>
        have hless : f (c :: cs) = none := by
          rw [← Option.not_isSome_iff_eq_none]
          intro h
          have hmore := isSome_dropWhile hf (hf c cs hc h)
          rw [hmost] at hmore
          cases hmore
        simp [hless]
    · simp

end

/-- A fence ends here exactly if nothing but blanks is left in front of its closing mark. -/
theorem endsHere_iff {cs : List Char} :
    endsHere cs = true ↔ ∃ gap, Blanks gap ∧ beforeClosing? cs = some gap := by
  simp only [endsHere, List.any_eq_true, Option.any_eq_true, mem_greedily,
    isPrefixOf?_fenceMark_eq_some_iff, List.isEmpty_iff, beforeClosing?_eq_some_iff]
  constructor
  · rintro ⟨rest, ⟨gap, hgap, rfl⟩, after, rfl, last, ⟨taken, htaken, rfl⟩, rfl⟩
    exact ⟨gap, hgap, taken, htaken, by simp⟩
  · rintro ⟨gap, hgap, after, hafter, rfl⟩
    exact ⟨fenceMark ++ after, ⟨gap, hgap, List.append_assoc _ _ _⟩, after, rfl, [],
      ⟨after, hafter, (List.append_nil after).symm⟩, rfl⟩

theorem inside?_cons (c : Char) (cs : List Char) : inside? (c :: cs) =
    if endsHere (c :: cs) then some [] else (inside? cs).map (c :: ·) := by
  have hrest : ((lazily cs).map fun (inside, rest) => (c :: inside, rest)).findSome?
      (fun (inside, rest) => if endsHere rest then some inside else none) =
        (inside? cs).map (c :: ·) := by
    rw [List.findSome?_map, inside?, List.map_findSome?]
    refine congrArg (List.findSome? · _) (funext fun found => ?_)
    simp only [Function.comp_apply]
    split <;> rfl
  rw [inside?, lazily, List.findSome?_cons, hrest]
  split <;> simp_all

/-- The shortest text in front of the end reaches up to the last mark, without the blanks that stand
there. -/
theorem inside?_eq (cs : List Char) : inside? cs = (beforeClosing? cs).map trimRight := by
  induction cs with
  | nil => rfl
  | cons c cs ih =>
    rw [inside?_cons, ih]
    split
    · rename_i hends
      obtain ⟨gap, hgap, hcs⟩ := endsHere_iff.mp hends
      rw [hcs, Option.map_some, Text.trimRight_of_blanks hgap]
    · rename_i hends
      -- were it blank, the end would stand here already
      have hblanks {inside : List Char} (h : beforeClosing? (c :: cs) = some inside) :
          ¬ Blanks inside := fun hinside => hends (endsHere_iff.mpr ⟨inside, hinside, h⟩)
      cases hcs : beforeClosing? cs with
      | some inside =>
        have hinside := beforeClosing?_cons hcs c
        rw [hinside, Option.map_some, Option.map_some, Option.map_some,
          Text.trimRight_cons_of_not_blanks (hblanks hinside)]
      | none =>
        cases hcons : beforeClosing? (c :: cs) with
        | none => rfl
        | some inside =>
          obtain ⟨rfl, -⟩ | ⟨inside', -, hrest⟩ := inside_of_cons hcons
          · exact absurd nofun (hblanks hcons)
          · rw [hcs] at hrest
            cases hrest

/-! ### The first match -/

theorem isSome_lineFeed (cs : List Char) :
    ((lineFeed cs).findSome? inside?).isSome = (beforeClosing? cs).isSome := by
  unfold lineFeed
  split
  · rename_i rest
    rw [List.findSome?_cons, List.findSome?_singleton, inside?_eq, inside?_eq]
    cases hrest : beforeClosing? rest with
    | some inside => rw [beforeClosing?_cons hrest]; rfl
    | none => simp
  · rw [List.findSome?_singleton, inside?_eq, Option.isSome_map]

theorem lineFeed_trimLeft (cs : List Char) : lineFeed (trimLeft cs) = [trimLeft cs] := by
  unfold lineFeed
  split
  · rename_i rest hcs
    have hblank := List.head?_dropWhile_not isBlank cs
    rw [show cs.dropWhile isBlank = '\n' :: rest from hcs] at hblank
    cases hblank
  · rfl

/-- Behind the letters: all blanks are taken first, and no line feed is left to be taken. -/
theorem findSome?_blanks (cs : List Char) :
    ((greedily isBlank cs).findSome? fun rest => (lineFeed rest).findSome? inside?) =
      (beforeClosing? cs).map trimBoth := by
  rw [findSome?_greedily (f := fun rest => (lineFeed rest).findSome? inside?)]
  · show (lineFeed (trimLeft cs)).findSome? inside? = _
    rw [lineFeed_trimLeft, List.findSome?_singleton, inside?_eq, beforeClosing?_trimLeft,
      Option.map_map]
    rfl
  · intro c rest hc h
    rw [isSome_lineFeed] at h ⊢
    refine isSome_beforeClosing?_of_cons ?_ h
    rintro rfl
    cases hc

/-- What is captured stands between the letters and the last mark. -/
theorem capture?_eq (cs : List Char) : capture? cs =
    ((afterOpening? cs).bind fun rest => beforeClosing? (rest.dropWhile Char.isAlpha)).map
      trimBoth := by
  have hword (rest : List Char) :
      ((greedily Char.isAlpha rest).findSome? fun rest => (beforeClosing? rest).map trimBoth) =
        (beforeClosing? (rest.dropWhile Char.isAlpha)).map trimBoth := by
    rw [findSome?_greedily (f := fun rest => (beforeClosing? rest).map trimBoth)]
    intro c rest hc h
    rw [Option.isSome_map] at h ⊢
    refine isSome_beforeClosing?_of_cons ?_ h
    rintro rfl
    cases hc
  simp only [capture?, findSome?_blanks, hword]
  rw [findSome?_greedily (f := fun rest => (fenceMark.isPrefixOf? rest).bind fun rest =>
    (beforeClosing? (rest.dropWhile Char.isAlpha)).map trimBoth), afterOpening?, trimLeft,
    Option.map_bind]
  · rfl
  · intro c rest hc h
    obtain ⟨inside, hinside⟩ := Option.isSome_iff_exists.mp h
    obtain ⟨rest', hmark, -⟩ := Option.bind_eq_some_iff.mp hinside
    obtain ⟨rfl, -⟩ := List.cons.inj (isPrefixOf?_fenceMark_eq_some_iff.mp hmark)
    cases hc

/-- The body of a completion is what the pattern captures, or all of it. -/
theorem body_eq (cs : List Char) : body cs = trimBoth ((capture? cs).getD cs) := by
  rw [body, capture?_eq]
  split
  · rename_i inside hinside
    rw [hinside, Option.map_some, Option.getD_some, Text.trimBoth_trimBoth]
  · rename_i hnone
    rw [hnone]
    rfl

/-! ## Fenced texts -/

/-- A code fence: blanks, a mark and a word stand before what is in it, a mark and blanks behind. -/
structure Fence where
  before : List Char
  word : List Char
  after : List Char
  blanks_before : Blanks before
  letters : ∀ c ∈ word, c.isAlpha = true
  blanks_after : Blanks after

def Fence.around (fence : Fence) (inside : List Char) : List Char :=
  fence.before ++ fenceMark ++ fence.word ++ inside ++ fenceMark ++ fence.after

theorem letter_of_isAlpha {c : Char} (h : c.isAlpha = true) :
    65 ≤ c.toNat ∧ c.toNat ≤ 90 ∨ 97 ≤ c.toNat ∧ c.toNat ≤ 122 := by
  rcases Bool.or_eq_true_iff.mp h with hupper | hlower
  · obtain ⟨hlow, hhigh⟩ := of_decide_eq_true hupper
    exact .inl ⟨UInt32.le_iff_toNat_le.mp hlow, UInt32.le_iff_toNat_le.mp hhigh⟩
  · obtain ⟨hlow, hhigh⟩ := Bool.and_eq_true_iff.mp hlower
    exact .inr ⟨UInt32.le_iff_toNat_le.mp (of_decide_eq_true hlow),
      UInt32.le_iff_toNat_le.mp (of_decide_eq_true hhigh)⟩

theorem isAlpha_of_isBlank {c : Char} (h : isBlank c = true) : c.isAlpha = false := by
  rw [Bool.eq_false_iff]
  intro halpha
  have hletter := letter_of_isAlpha halpha
  simp only [isBlank, Text.inRanges, Text.blankRanges, List.any_cons, List.any_nil,
    Bool.or_eq_true, Bool.and_eq_true, decide_eq_true_eq, Bool.false_eq_true, or_false] at h
  omega

/-- A word of letters ends where a text begins whose first character, blanks apart, is no letter. -/
theorem dropWhile_letters {word inside rest : List Char} {c : Char}
    (hword : ∀ c ∈ word, c.isAlpha = true) (h : trimLeft inside = c :: rest)
    (hc : c.isAlpha = false) : (word ++ inside).dropWhile Char.isAlpha = inside := by
  rw [List.dropWhile_append_of_pos hword]
  cases inside with
  | nil => rfl
  | cons d inside =>
    refine List.dropWhile_cons_of_neg ?_
    cases hd : isBlank d with
    | true => simp [isAlpha_of_isBlank hd]
    | false =>
      rw [Text.trimLeft_cons_of_not_blank hd] at h
      obtain ⟨rfl, -⟩ := List.cons.inj h
      simp [hc]

theorem afterOpening?_mark {before : List Char} (h : Blanks before) (rest : List Char) :
    afterOpening? (before ++ (fenceMark ++ rest)) = some rest := by
  rw [afterOpening?, Text.trimLeft_append_of_blanks h, trimLeft_mark]
  rfl

/-- A text that begins with no letter is captured whole. -/
theorem Fence.capture?_around (fence : Fence) {inside rest : List Char} {c : Char}
    (h : trimLeft inside = c :: rest) (hc : c.isAlpha = false) :
    capture? (fence.around inside) = some (trimBoth inside) := by
  have hopened : afterOpening? (fence.around inside) =
      some (fence.word ++ (inside ++ fenceMark ++ fence.after)) := by
    rw [← afterOpening?_mark fence.blanks_before]
    simp only [Fence.around, List.append_assoc]
  have hinside : trimLeft (inside ++ fenceMark ++ fence.after) =
      c :: (rest ++ (fenceMark ++ fence.after)) := by
    rw [List.append_assoc, Text.trimLeft_append_of_cons h]
  have hletters : (fence.word ++ (inside ++ fenceMark ++ fence.after)).dropWhile Char.isAlpha =
      inside ++ fenceMark ++ fence.after :=
    dropWhile_letters fence.letters hinside hc
  have hclosed : beforeClosing? (inside ++ fenceMark ++ fence.after) = some inside :=
    beforeClosing?_eq_some_iff.mpr ⟨fence.after, fence.blanks_after, rfl⟩
  rw [capture?_eq, hopened, Option.bind_some, hletters, hclosed, Option.map_some]

/-- Of a text that begins with no mark nothing is captured. -/
theorem capture?_eq_none {cs rest : List Char} {c : Char} (h : trimLeft cs = c :: rest)
    (hc : c ≠ '\x60') : capture? cs = none := by
  rw [capture?_eq, afterOpening?_eq_none_of_trimLeft h hc]
  rfl

/-- No bracket is taken for a part of a fence or of its word. -/
theorem opened_of_mem_brackets {opened closed : Char} (h : (opened, closed) ∈ Json.brackets) :
    opened ≠ '\x60' ∧ opened.isAlpha = false := by
  simp only [Json.brackets, List.mem_cons, List.not_mem_nil, or_false, Prod.mk.injEq] at h
  rcases h with ⟨rfl, rfl⟩ | ⟨rfl, rfl⟩ <;> decide

/-! ## Items -/

/-- Items are an array, or what an object has under `entities`. -/
theorem itemsOf?_eq_some_iff {j : Json} {items : List Json} :
    itemsOf? j = some items ↔ j = .array items ∨
      ∃ fields, j = .object fields ∧ Fields.get? "entities" fields = some (.array items) := by
  have harray {j : Json} : j.array? = some items ↔ j = .array items := by
    cases j <;> simp [Json.array?]
  cases j with
  | array => simp [itemsOf?]
  | object fields => simp [itemsOf?, Option.bind_eq_some_iff, harray]
  | null | bool | int | double | single | string => simp [itemsOf?]

theorem bind_itemsOf?_eq_some_iff {found : Option Json} {items : List Json} :
    found.bind itemsOf? = some items ↔ found = some (.array items) ∨
      ∃ fields, found = some (.object fields) ∧
        Fields.get? "entities" fields = some (.array items) := by
  cases found with
  | none => simp
  | some j => simp only [Option.bind_some, Option.some.injEq, itemsOf?_eq_some_iff]

theorem items?_of_body {cs : List Char} {text : String} (h : body cs = trimBoth text.toList) :
    items? (String.ofList cs) = (Json.parse (Text.trim text)).bind itemsOf? := by
  rw [items?, String.toList_ofList, h, Text.trim]

/-- **A code fence changes nothing**: a text that is an array or an object is what the pattern
captures, whatever word and whatever blanks the fence has, and whatever marks and fences the strings
of the text hold. Without a fence nothing is captured. Either way the items are those of the text:
the array that it is, or the array that its object has under `entities`. -/
theorem fence_transparent {text : String} {shape : Json.Shape} (h : Json.read text = some shape)
    (hcompound : shape.IsCompound) {gap gap' : List Char} (hgap : Blanks gap)
    (hgap' : Blanks gap') :
    (∀ fence : Fence,
      capture? (fence.around (gap ++ text.toList ++ gap')) = some (trimBoth text.toList) ∧
      items? (String.ofList (fence.around (gap ++ text.toList ++ gap'))) = items? text) ∧
    capture? (gap ++ text.toList ++ gap') = none ∧
    items? (String.ofList (gap ++ text.toList ++ gap')) = items? text ∧
    items? text = (Json.parse text).bind itemsOf? ∧
    ∀ items, items? text = some items ↔ Json.parse text = some (.array items) ∨
      ∃ fields, Json.parse text = some (.object fields) ∧
        Fields.get? "entities" fields = some (.array items) := by
  obtain ⟨opened, closed, rest, hmem, hopened⟩ := Json.exists_trimLeft h hcompound
  obtain ⟨hmark, hletter⟩ := opened_of_mem_brackets hmem
  have hfirst : trimLeft (gap ++ text.toList ++ gap') = opened :: (rest ++ gap') := by
    rw [List.append_assoc, Text.trimLeft_append_of_blanks hgap,
      Text.trimLeft_append_of_cons hopened]
  have htrim : trimBoth (gap ++ text.toList ++ gap') = trimBoth text.toList :=
    Text.trimBoth_surrounded hgap hgap' text.toList
  have hread (cs : List Char) (hbody : body cs = trimBoth text.toList) :
      items? (String.ofList cs) = (Json.parse text).bind itemsOf? := by
    rw [items?_of_body hbody, Json.parse_trim h hcompound]
  have hbare : capture? (gap ++ text.toList ++ gap') = none := capture?_eq_none hfirst hmark
  have htext : items? text = (Json.parse text).bind itemsOf? := by
    have hnone : capture? text.toList = none := capture?_eq_none hopened hmark
    rw [← hread text.toList (by rw [body_eq, hnone, Option.getD_none]), String.ofList_toList]
  refine ⟨fun fence => ?_, hbare, ?_, htext, fun items => ?_⟩
  · have hcapture := fence.capture?_around hfirst hletter
    rw [htrim] at hcapture
    refine ⟨hcapture, ?_⟩
    rw [htext]
    exact hread _ (by rw [body_eq, hcapture, Option.getD_some, Text.trimBoth_trimBoth])
  · rw [htext]
    exact hread _ (by rw [body_eq, hbare, Option.getD_none, htrim])
  · rw [htext]
    exact bind_itemsOf?_eq_some_iff

def quotedFence : Json := .array [.string "\x60\x60\x60json\n[]\n\x60\x60\x60"]

def jsonFence : Fence where
  before := [' ']
  word := "json".toList
  after := ['\n', '\t']
  blanks_before := by decide
  letters := List.all_eq_true.mp (by decide)
  blanks_after := by decide

theorem quotedFence_captured : quotedFence.shape.IsCompound ∧
    Json.read quotedFence.compact = some quotedFence.shape ∧
    capture? (jsonFence.around (['\n'] ++ quotedFence.compact.toList ++ ['\n'])) =
      some (trimBoth quotedFence.compact.toList) ∧
    items? (String.ofList (jsonFence.around (['\n'] ++ quotedFence.compact.toList ++ ['\n']))) =
      some [.string "\x60\x60\x60json\n[]\n\x60\x60\x60"] := by
  have hread : Json.read quotedFence.compact = some quotedFence.shape := Json.read_compact rfl
  obtain ⟨hfenced, -, -, -, hitems⟩ := fence_transparent hread trivial
    (show Blanks ['\n'] by decide) (show Blanks ['\n'] by decide)
  obtain ⟨hcapture, hsame⟩ := hfenced jsonFence
  refine ⟨trivial, hread, hcapture, hsame.trans ((hitems _).mpr (.inl ?_))⟩
  rw [Json.parse, hread]
  rfl

end Ontograph.Extraction
