/-
Ontograph.Proofs.Json.Surroundings — blanks around a text do not matter.

What the reader takes from a text it takes from the text alone, without the
blanks of the grammar that may stand behind it (`ReadsAlone`), and with no more
fuel than the length of that text asks for. For strings, words and numbers this
is said of their scanners; for values, items and entries it follows together, by
induction on the fuel (`readsAlone`). A string is the one thing in which blanks
count, and it ends at its closing quote whatever stands behind that (`Closes`).

An array or an object begins and ends with its brackets, which are no blanks of
any kind. So it is read from its text with all white space taken off as it is
read from the text with it (`read_trim`).
-/
import Ontograph.Proofs.Json.Compact
import Ontograph.Proofs.Text.Blank

namespace Ontograph.Json

/-! ## Strings -/

/-- In a string some characters are read in one step: what they do to the content, and whether they
leave the first half of a pair open. -/
def Steps (high : Option Nat) (before : List Char) (high' : Option Nat)
    (f : Option (List Char) → Option (List Char)) : Prop :=
  ∀ rest, stringBody? high (before ++ rest) =
    (stringBody? high' rest).map fun read => (f read.1, read.2)

/-- A string is read up to its closing quote, whatever stands behind that. -/
def Closes (high : Option Nat) (content : Option (List Char)) (cs r : List Char) : Prop :=
  ∃ used, cs = used ++ '"' :: r ∧
    ∀ r', stringBody? high (used ++ '"' :: r') = some (content, r')

theorem Steps.closes {high high' : Option Nat} {before rest r : List Char}
    {f : Option (List Char) → Option (List Char)} {content : Option (List Char)}
    (hsteps : Steps high before high' f)
    (ih : ∀ {content r}, stringBody? high' rest = some (content, r) → Closes high' content rest r)
    (h : stringBody? high (before ++ rest) = some (content, r)) :
    Closes high content (before ++ rest) r := by
  rw [hsteps, Option.map_eq_some_iff] at h
  obtain ⟨⟨inner, r⟩, hinner, hread⟩ := h
  cases hread
  obtain ⟨used, rfl, hused⟩ := ih hinner
  refine ⟨before ++ used, by rw [List.append_assoc], fun r' => ?_⟩
  rw [List.append_assoc, hsteps, hused]
  rfl

/-- A character that is read by itself. -/
theorem steps_plain {c : Char} (hquote : c ≠ '"') (hslash : c ≠ '\\') (h : ¬ c.toNat < 0x20)
    (high : Option Nat) :
    Steps high [c] none fun content => if high.isSome then none else content.map (c :: ·) :=
  stringBody?_plain hquote hslash h

/-- A letter behind a backslash. -/
theorem steps_letter {c plain : Char} (h : unescape? c = some plain) (high : Option Nat) :
    Steps high ['\\', c] none
      fun content => if high.isSome then none else content.map (plain :: ·) := by
  intro rest
  show stringBody? high ('\\' :: c :: rest) = _
  rw [stringBody?.eq_def]
  split
  · rename_i heq
    cases heq
  · rename_i heq
    cases heq
  · rename_i heq
    cases heq
    cases h
  · rename_i heq
    cases heq
    rw [h]
    rfl
  · rename_i hshort heq
    cases heq
    exact absurd rfl (hshort c rest rfl)

/-- A unit in four digits. -/
theorem exists_steps_unit {a b c d : Char} {unit : Nat} (h : unit? a b c d = some unit)
    (high : Option Nat) : ∃ high' f, Steps high ['\\', 'u', a, b, c, d] high' f := by
  have hread (rest : List Char) : stringBody? high (['\\', 'u', a, b, c, d] ++ rest) =
      stringBody? high ('\\' :: 'u' :: a :: b :: c :: d :: rest) := rfl
  by_cases hlow : 0xDC00 ≤ unit ∧ unit < 0xE000
  · cases high with
    | none =>
      refine ⟨none, fun _ => none, fun rest => ?_⟩
      rw [hread, stringBody?, h]
      simp only [if_pos hlow]
    | some high =>
      refine ⟨none, fun content => content.map (Char.ofNat
        (0x10000 + (high - 0xD800) * 0x400 + (unit - 0xDC00)) :: ·), fun rest => ?_⟩
      rw [hread, stringBody?, h]
      simp only [if_pos hlow]
      rfl
  · by_cases hhigh : 0xD800 ≤ unit ∧ unit < 0xDC00
    · refine ⟨some unit, fun content => if high.isSome then none else content, fun rest => ?_⟩
      rw [hread, stringBody?, h]
      simp only [if_neg hlow, if_pos hhigh]
    · refine ⟨none, fun content => if high.isSome then none else
        content.map (Char.ofNat unit :: ·), fun rest => ?_⟩
      rw [hread, stringBody?, h]
      simp only [if_neg hlow, if_neg hhigh]
      rfl

/-- A string that can be read begins with its closing quote, or with characters that are read in one
step. -/
theorem exists_steps {high : Option Nat} {cs r : List Char} {content : Option (List Char)}
    (h : stringBody? high cs = some (content, r)) :
    (cs = '"' :: r) ∨ ∃ before rest high' f, cs = before ++ rest ∧ before ≠ [] ∧
      Steps high before high' f := by
  rw [stringBody?.eq_def] at h
  split at h
  · cases h
  · cases h
    exact .inl rfl
  · rename_i a b c d rest
    split at h
    · cases h
    · rename_i unit hunit
      obtain ⟨high', f, hsteps⟩ := exists_steps_unit hunit high
      exact .inr ⟨_, rest, high', f, rfl, by simp, hsteps⟩
  · rename_i c rest _
    split at h
    · cases h
    · rename_i plain hplain
      exact .inr ⟨_, rest, _, _, rfl, by simp, steps_letter hplain high⟩
  · rename_i c rest hquote _ _
    split at h
    · cases h
    · rename_i hbad
      obtain ⟨hcontrol, hslash⟩ := not_or.mp hbad
      exact .inr ⟨[c], rest, _, _, rfl, by simp, steps_plain hquote hslash hcontrol high⟩

/-- A string that is read is read up to its closing quote. -/
theorem closes_of_stringBody? {high : Option Nat} {cs r : List Char} {content : Option (List Char)}
    (h : stringBody? high cs = some (content, r)) : Closes high content cs r := by
  induction hlength : cs.length using Nat.strongRecOn generalizing high cs content r with
  | _ n ih =>
    rcases exists_steps h with rfl | ⟨before, rest, high', f, rfl, hbefore, hsteps⟩
    · cases h
      exact ⟨[], rfl, fun r' => rfl⟩
    · have hshorter : rest.length < n := by
        have := List.length_pos_of_ne_nil hbefore
        rw [← hlength, List.length_append]
        omega
      exact hsteps.closes (fun hrest => ih rest.length hshorter hrest rfl) h

/-! ## Blanks at the end -/

/-- A text of the blanks of the grammar. -/
def Spaces (cs : List Char) : Prop := ∀ c ∈ cs, isSpace c = true

theorem endsNumber_of_spaces {tail : List Char} (h : Spaces tail) : EndsNumber tail := by
  intro c hc
  exact isNumberChar_of_isSpace (h c (List.mem_of_mem_head? hc))

/-- What is no blank stands before the blanks at the end. -/
theorem exists_before_spaces {cs tail used r : List Char} {c : Char} (htail : Spaces tail)
    (hc : isSpace c = false) (h : cs ++ tail = used ++ c :: r) :
    ∃ r', cs = used ++ c :: r' ∧ r = r' ++ tail := by
  rcases List.append_eq_append_iff.mp h with ⟨more, rfl, htaken⟩ | ⟨more, rfl, hleft⟩
  · have hspace := htail c (by rw [htaken]; simp)
    rw [hc] at hspace
    cases hspace
  · cases more with
    | nil =>
      have hspace := htail c (by rw [← List.nil_append tail, ← hleft]; simp)
      rw [hc] at hspace
      cases hspace
    | cons d more =>
      obtain ⟨rfl, rfl⟩ := List.cons.inj hleft
      exact ⟨more, rfl, rfl⟩

/-- With blanks behind a text, what comes first in it is the same. -/
theorem exists_skipSpace {cs tail x : List Char} {c : Char} (htail : Spaces tail)
    (h : skipSpace (cs ++ tail) = c :: x) :
    ∃ y, skipSpace cs = c :: y ∧ x = y ++ tail ∧ c :: y <:+ cs := by
  have hsuffix : skipSpace cs <:+ cs := List.dropWhile_suffix _
  rw [skipSpace, List.dropWhile_append] at h
  split at h
  · rw [List.dropWhile_eq_nil_iff.mpr htail] at h
    cases h
  · rename_i hne
    cases hcs : skipSpace cs with
    | nil =>
      rw [skipSpace] at hcs
      simp [hcs] at hne
    | cons d y =>
      rw [show cs.dropWhile isSpace = d :: y from hcs] at h
      obtain ⟨rfl, rfl⟩ := List.cons.inj h
      exact ⟨y, rfl, rfl, hcs ▸ hsuffix⟩

/-! ## One value -/

/-- What is read from a text with more behind it is read from the text alone, and what stands behind
it is left. Fuel for twice the length of the text and some extra is enough. -/
def Alone {α : Type} (reader : Nat → List Char → Option (α × List Char)) (extra : Nat)
    (tail cs r : List Char) (a : α) : Prop :=
  ∃ r', r = r' ++ tail ∧ r' <:+ cs ∧ ∀ f, 2 * cs.length + extra ≤ f → reader f cs = some (a, r')

/-- With this fuel, whatever is read is read alone. -/
def ReadsAlone {α : Type} (reader : Nat → List Char → Option (α × List Char)) (extra : Nat)
    (tail : List Char) (fuel : Nat) : Prop :=
  ∀ ⦃cs r : List Char⦄ ⦃a : α⦄, reader fuel (cs ++ tail) = some (a, r) →
    Alone reader extra tail cs r a

theorem readsAlone_string {tail : List Char} (htail : Spaces tail) (extra fuel : Nat) :
    ReadsAlone (fun _ => stringBody? none) extra tail fuel := by
  intro cs r content h
  obtain ⟨used, hused, hcloses⟩ := closes_of_stringBody? h
  obtain ⟨r', rfl, rfl⟩ := exists_before_spaces htail (by decide) hused
  exact ⟨r', rfl, (List.suffix_cons _ _).trans (List.suffix_append _ _), fun _ _ => hcloses r'⟩

theorem word?_spaces {tail : List Char} (htail : Spaces tail) {word : List Char}
    (hword : ∀ c ∈ word, isSpace c = false) (hne : word ≠ []) : word? word tail = none := by
  cases word with
  | nil => exact absurd rfl hne
  | cons c word =>
    cases tail with
    | nil => rfl
    | cons d tail =>
      have hspace := htail d List.mem_cons_self
      have hletter := hword c List.mem_cons_self
      refine if_neg ?_
      rintro rfl
      rw [hspace] at hletter
      cases hletter

/-- A word that is read stands in the text itself, not in the blanks behind it. -/
theorem exists_word? {tail : List Char} (htail : Spaces tail) {word : List Char}
    (hword : ∀ c ∈ word, isSpace c = false) {cs r : List Char}
    (h : word? word (cs ++ tail) = some r) :
    ∃ r', r = r' ++ tail ∧ r' <:+ cs ∧ word? word cs = some r' := by
  induction word generalizing cs with
  | nil =>
    cases h
    exact ⟨cs, rfl, List.suffix_rfl, rfl⟩
  | cons c word ih =>
    cases cs with
    | nil =>
      rw [List.nil_append, word?_spaces htail hword (List.cons_ne_nil c word)] at h
      cases h
    | cons d cs =>
      rw [List.forall_mem_cons] at hword
      rw [List.cons_append, word?] at h
      split at h
      · rename_i heq
        obtain ⟨r', hr, hsuffix, hread⟩ := ih hword.2 h
        exact ⟨r', hr, hsuffix.trans (List.suffix_cons d cs), by rw [word?, if_pos heq, hread]⟩
      · cases h

theorem readsAlone_word {tail : List Char} (htail : Spaces tail) {word : List Char}
    (hword : ∀ c ∈ word, isSpace c = false) (extra fuel : Nat) :
    ReadsAlone (fun _ cs => (word? word cs).map ((), ·)) extra tail fuel := by
  intro cs r a h
  obtain ⟨r, hread, hr⟩ := Option.map_eq_some_iff.mp h
  cases hr
  obtain ⟨r', hr, hsuffix, hword⟩ := exists_word? htail hword hread
  exact ⟨r', hr, hsuffix, fun _ _ => congrArg (Option.map ((), ·)) hword⟩

theorem readsAlone_number {tail : List Char} (htail : Spaces tail) (extra fuel : Nat) :
    ReadsAlone (fun _ => numberLiteral?) extra tail fuel := by
  intro cs r value h
  have hscan := (blind_numberLiteral (endsNumber_of_spaces htail) cs).symm.trans h
  obtain ⟨⟨value, r'⟩, hread, hr⟩ := Option.map_eq_some_iff.mp hscan
  cases hr
  exact ⟨r', rfl, bounded_numberLiteral.suffix hread, fun _ _ => hread⟩

/-! ### Steps of the reader -/

section
variable {cs y rest : List Char} {fuel : Nat}

theorem value?_array_nil (h : skipSpace cs = '[' :: y) (hclose : skipSpace y = ']' :: rest) :
    value? (fuel + 1) cs = some (.array [], rest) := by
  simp only [value?, h, hclose]

theorem value?_array_cons (h : skipSpace cs = '[' :: y) (hitem : (skipSpace y).head? ≠ some ']') :
    value? (fuel + 1) cs =
      (items? fuel (skipSpace y)).map fun (items, rest) => (.array items, rest) := by
  simp only [value?, h]
  split
  · rename_i heq
    simp [heq] at hitem
  · rfl

theorem value?_object_nil (h : skipSpace cs = '\x7b' :: y) (hclose : skipSpace y = '\x7d' :: rest) :
    value? (fuel + 1) cs = some (.object [], rest) := by
  simp only [value?, h, hclose]

theorem value?_object_cons (h : skipSpace cs = '\x7b' :: y)
    (hfield : (skipSpace y).head? ≠ some '\x7d') :
    value? (fuel + 1) cs =
      (fields? fuel (skipSpace y)).map fun (fields, rest) => (.object fields, rest) := by
  simp only [value?, h]
  split
  · rename_i heq
    simp [heq] at hfield
  · rfl

theorem value?_quote (h : skipSpace cs = '"' :: y) :
    value? (fuel + 1) cs = (stringBody? none y).map fun (content, rest) =>
      (.literal (content.map fun cs => .string (String.ofList cs)), rest) := by
  simp only [value?, h]

def words : List (List Char × Json) :=
  [(['n', 'u', 'l', 'l'], .null), (['t', 'r', 'u', 'e'], .bool true),
    (['f', 'a', 'l', 's', 'e'], .bool false)]

theorem value?_word {c : Char} {word : List Char} {value : Json}
    (hword : (c :: word, value) ∈ words) (h : skipSpace cs = c :: y) :
    value? (fuel + 1) cs =
      ((word? word y).map ((), ·)).map fun (_, rest) => (.literal (some value), rest) := by
  simp only [words, List.mem_cons, List.not_mem_nil, or_false, Prod.mk.injEq] at hword
  rcases hword with ⟨hword, rfl⟩ | ⟨hword, rfl⟩ | ⟨hword, rfl⟩
  all_goals
    obtain ⟨rfl, rfl⟩ := List.cons.inj hword
    simp only [value?, h, Option.map_map]
    rfl

theorem exists_mem_words {c : Char} (h : c ∈ ['n', 't', 'f']) :
    ∃ word value, (c :: word, value) ∈ words := by
  simp only [List.mem_cons, List.not_mem_nil, or_false] at h
  rcases h with rfl | rfl | rfl
  · exact ⟨['u', 'l', 'l'], .null, .head _⟩
  · exact ⟨['r', 'u', 'e'], .bool true, .tail _ (.head _)⟩
  · exact ⟨['a', 'l', 's', 'e'], .bool false, .tail _ (.tail _ (.head _))⟩

theorem isSpace_of_mem_words {c : Char} {word : List Char} {value : Json}
    (hword : (c :: word, value) ∈ words) : ∀ d ∈ word, isSpace d = false := by
  simp only [words, List.mem_cons, List.not_mem_nil, or_false, Prod.mk.injEq] at hword
  rcases hword with ⟨hword, -⟩ | ⟨hword, -⟩ | ⟨hword, -⟩
  all_goals
    obtain ⟨-, rfl⟩ := List.cons.inj hword
    simp [isSpace]

/-- What begins in no other way is read as a number. -/
theorem value?_other {c : Char} (hc : c ∉ ['\x7b', '[', '"', 'n', 't', 'f'])
    (h : skipSpace cs = c :: y) :
    value? (fuel + 1) cs =
      (numberLiteral? (c :: y)).map fun (value, rest) => (.literal value, rest) := by
  simp only [value?, h]
  split <;> simp_all

/-- Behind a value: the closing bracket of its list, or a comma and the rest of the list. -/
def separated {α : Type} (closed : Char) (rest? : List Char → Option (List α × List Char))
    (k : Shape → α) (value : Shape) (read : List Char) : Option (List α × List Char) :=
  match skipSpace read with
  | [] => none
  | c :: rest =>
    if c = closed then some ([k value], rest)
    else if c = ',' then (rest? rest).map fun (found, rest) => (k value :: found, rest)
    else none

section
variable {α : Type} {closed : Char} {rest? : List Char → Option (List α × List Char)}
  {k : Shape → α} {value : Shape} {read : List Char}

theorem separated_closed (h : skipSpace read = closed :: rest) :
    separated closed rest? k value read = some ([k value], rest) := by
  simp only [separated, h, if_pos]

theorem separated_comma (hclosed : ',' ≠ closed) (h : skipSpace read = ',' :: rest) :
    separated closed rest? k value read =
      (rest? rest).map fun (found, rest) => (k value :: found, rest) := by
  simp only [separated, h, if_neg hclosed, if_pos]

theorem separated_other (hclosed : ∀ rest, skipSpace read = closed :: rest → False)
    (hcomma : ∀ rest, skipSpace read = ',' :: rest → False) :
    separated closed rest? k value read = none := by
  unfold separated
  split
  · rfl
  · rename_i c rest hread
    have hc : c ≠ closed := by
      rintro rfl
      exact hclosed _ hread
    have hc' : c ≠ ',' := by
      rintro rfl
      exact hcomma _ hread
    rw [if_neg hc, if_neg hc']

/-- Behind a value, either the list closes or a comma and the rest of it come. -/
theorem of_separated {found : List α} {r : List Char}
    (h : separated closed rest? k value read = some (found, r)) :
    (skipSpace read = closed :: r ∧ found = [k value]) ∨ (',' ≠ closed ∧ ∃ rest more,
      skipSpace read = ',' :: rest ∧ rest? rest = some (more, r) ∧ found = k value :: more) := by
  unfold separated at h
  split at h
  · cases h
  · rename_i c rest hread
    split at h
    · rename_i hc
      cases h
      exact .inl ⟨hc ▸ hread, rfl⟩
    · rename_i hclosed
      split at h
      · rename_i hc
        subst hc
        obtain ⟨⟨more, r⟩, hmore, hr⟩ := Option.map_eq_some_iff.mp h
        cases hr
        exact .inr ⟨hclosed, rest, more, hread, hmore, rfl⟩
      · cases h

end

/-- Items are a value, and what is behind it separated. -/
theorem items?_succ (fuel : Nat) (cs : List Char) :
    items? (fuel + 1) cs = (value? fuel cs).bind fun (value, read) =>
      separated ']' (items? fuel) id value read := by
  rw [items?]
  cases value? fuel cs with
  | none => rfl
  | some found =>
    dsimp only [Option.bind_some]
    split
    · rename_i hclosed
      rw [separated_closed hclosed, id]
    · rename_i hcomma
      rw [separated_comma (by decide : ',' ≠ ']') hcomma]
      rfl
    · rename_i hclosed hcomma
      exact (separated_other hclosed hcomma).symm

/-- A key and its colon come first in a text. -/
def KeyAt (cs : List Char) (key : Option (List Char)) (behind : List Char) : Prop :=
  ∃ y read, skipSpace cs = '"' :: y ∧ stringBody? none y = some (key, read) ∧
    skipSpace read = ':' :: behind

theorem fields?_succ {key : Option (List Char)} (h : KeyAt cs key y) (fuel : Nat) :
    fields? (fuel + 1) cs = (value? fuel y).bind fun (value, read) =>
      separated '\x7d' (fields? fuel) (fun value => (key.map String.ofList, value)) value read := by
  obtain ⟨text, read, htext, hkey, hcolon⟩ := h
  simp only [fields?, htext, hkey, hcolon]
  cases value? fuel y with
  | none => rfl
  | some found =>
    dsimp only [Option.bind_some]
    split
    · rename_i hclosed
      exact (separated_closed hclosed).symm
    · rename_i hcomma
      exact (separated_comma (by decide) hcomma).symm
    · rename_i hclosed hcomma
      exact (separated_other hclosed hcomma).symm

theorem exists_keyAt {found : List (Option String × Shape)}
    (h : fields? (fuel + 1) cs = some (found, rest)) : ∃ key behind, KeyAt cs key behind := by
  rw [fields?] at h
  split at h
  · rename_i y hy
    split at h
    · cases h
    · rename_i key read hkey
      split at h
      · rename_i behind hcolon
        exact ⟨key, behind, y, read, hy, hkey, hcolon⟩
      · cases h
  · cases h

end

theorem value?_nil (fuel : Nat) : value? fuel [] = none := by
  cases fuel <;> rfl

theorem items?_nil (fuel : Nat) : items? fuel [] = none := by
  cases fuel with
  | zero => rfl
  | succ fuel => rw [items?, value?_nil]

theorem fields?_nil (fuel : Nat) : fields? fuel [] = none := by
  cases fuel <;> rfl

/-! ### Any fuel -/

section
variable {tail cs y r : List Char} {fuel : Nat}

theorem ReadsAlone.map {α β : Type} {reader : Nat → List Char → Option (α × List Char)}
    {extra : Nat} (hreader : ReadsAlone reader extra tail fuel) (cs : List Char) {k : α → β} {b : β}
    (h : (reader fuel (cs ++ tail)).map (fun (a, rest) => (k a, rest)) = some (b, r)) :
    ∃ r', r = r' ++ tail ∧ r' <:+ cs ∧ ∀ f, 2 * cs.length + extra ≤ f →
      (reader f cs).map (fun (a, rest) => (k a, rest)) = some (b, r') := by
  obtain ⟨⟨a, r⟩, ha, hr⟩ := Option.map_eq_some_iff.mp h
  cases hr
  obtain ⟨r', rfl, hsuffix, halone⟩ := hreader ha
  exact ⟨r', rfl, hsuffix, fun f hf => by rw [halone f hf]; rfl⟩

/-- The first character of a value is worth two steps. -/
theorem Alone.of_rest {c : Char} {shape : Shape} {r' : List Char} (hskip : c :: y <:+ cs)
    (hr : r = r' ++ tail) (hsuffix : r' <:+ c :: y)
    (hread : ∀ f, 2 * y.length + 2 ≤ f → value? (f + 1) cs = some (shape, r')) :
    Alone value? 1 tail cs r shape := by
  refine ⟨r', hr, hsuffix.trans hskip, fun f hf => ?_⟩
  have hlength := hskip.length_le
  rw [List.length_cons] at hlength
  obtain ⟨f, rfl⟩ : ∃ f', f = f' + 1 := ⟨f - 1, by omega⟩
  exact hread f (by omega)

/-- A value that is read by one scanner behind its first character. -/
theorem alone_behind {α : Type} {reader : Nat → List Char → Option (α × List Char)} {c : Char}
    {shape : Shape} {k : α → Shape} (hreader : ReadsAlone reader 2 tail fuel)
    (hvalue : ∀ {f cs y}, skipSpace cs = c :: y →
      value? (f + 1) cs = (reader f y).map fun (a, rest) => (k a, rest))
    (hcs : skipSpace (cs ++ tail) = c :: (y ++ tail)) (hy : skipSpace cs = c :: y)
    (hskip : c :: y <:+ cs) (h : value? (fuel + 1) (cs ++ tail) = some (shape, r)) :
    Alone value? 1 tail cs r shape := by
  rw [hvalue hcs] at h
  obtain ⟨r', hr, hsuffix, hread⟩ := hreader.map _ h
  refine .of_rest hskip hr (hsuffix.trans (List.suffix_cons c y)) fun f hf => ?_
  rw [hvalue hy]
  exact hread f hf

/-- Items or entries between brackets. -/
theorem alone_between {α : Type} {reader : Nat → List Char → Option (α × List Char)}
    {opened closed : Char} {none shape : Shape} {k : α → Shape} (htail : Spaces tail)
    (hreader : ReadsAlone reader 2 tail fuel) (hnothing : ∀ f, reader f [] = .none)
    (hnil : ∀ {f cs y rest}, skipSpace cs = opened :: y → skipSpace y = closed :: rest →
      value? (f + 1) cs = some (none, rest))
    (hcons : ∀ {f cs y}, skipSpace cs = opened :: y → (skipSpace y).head? ≠ some closed →
      value? (f + 1) cs = (reader f (skipSpace y)).map fun (a, rest) => (k a, rest))
    (hcs : skipSpace (cs ++ tail) = opened :: (y ++ tail)) (hy : skipSpace cs = opened :: y)
    (hskip : opened :: y <:+ cs) (h : value? (fuel + 1) (cs ++ tail) = some (shape, r)) :
    Alone value? 1 tail cs r shape := by
  cases hz : skipSpace (y ++ tail) with
  | nil =>
    rw [hcons hcs (by simp [hz]), hz, hnothing] at h
    cases h
  | cons d z =>
    obtain ⟨w, hw, rfl, hsuffix⟩ := exists_skipSpace htail hz
    have hinside : d :: w <:+ opened :: y := hsuffix.trans (List.suffix_cons opened y)
    by_cases hd : d = closed
    · subst hd
      rw [hnil hcs hz] at h
      cases h
      exact .of_rest hskip rfl ((List.suffix_cons d w).trans hinside) fun f _ => hnil hy hw
    · rw [hcons hcs (by simp [hz, hd]), hz] at h
      obtain ⟨r', hr, htaken, hread⟩ := hreader.map (d :: w) h
      refine .of_rest hskip hr (htaken.trans hinside) fun f hf => ?_
      have hlength := hsuffix.length_le
      rw [hcons hy (by simp [hw, hd]), hw]
      exact hread f (by omega)

/-- A value is read alone if its items and entries are. -/
theorem readsAlone_value (htail : Spaces tail) (hitems : ReadsAlone items? 2 tail fuel)
    (hfields : ReadsAlone fields? 2 tail fuel) : ReadsAlone value? 1 tail (fuel + 1) := by
  intro cs r shape h
  cases hx : skipSpace (cs ++ tail) with
  | nil => simp [value?, hx] at h
  | cons c x =>
    obtain ⟨y, hy, rfl, hskip⟩ := exists_skipSpace htail hx
    -- the first character that is not blank decides what is read
    by_cases hobject : c = '\x7b'
    · subst hobject
      exact alone_between htail hfields fields?_nil value?_object_nil value?_object_cons hx hy
        hskip h
    by_cases harray : c = '['
    · subst harray
      exact alone_between htail hitems items?_nil value?_array_nil value?_array_cons hx hy
        hskip h
    by_cases hquote : c = '"'
    · subst hquote
      exact alone_behind (k := fun content => .literal (content.map fun cs =>
        .string (String.ofList cs))) (readsAlone_string htail 2 fuel) value?_quote hx hy hskip h
    by_cases hletter : c ∈ ['n', 't', 'f']
    · obtain ⟨word, value, hword⟩ := exists_mem_words hletter
      exact alone_behind (k := fun _ => .literal (some value))
        (readsAlone_word htail (isSpace_of_mem_words hword) 2 fuel) (value?_word hword) hx hy
        hskip h
    have hnumber : c ∉ ['\x7b', '[', '"', 'n', 't', 'f'] := by
      simp_all only [List.mem_cons, false_or, not_false_eq_true]
    rw [value?_other hnumber hx] at h
    obtain ⟨r', hr, hsuffix, hread⟩ := (readsAlone_number htail 2 fuel).map (c :: y) h
    refine .of_rest hskip hr hsuffix fun f _ => ?_
    rw [value?_other hnumber hy]
    exact hread _ (Nat.le_refl _)

theorem alone_separated {α : Type} {reader : Nat → List Char → Option (List α × List Char)}
    {closed : Char} {k : Shape → α} {found : List α} (htail : Spaces tail)
    (hvalue : ReadsAlone value? 1 tail fuel) (hreader : ReadsAlone reader 2 tail fuel)
    (h : ((value? fuel (cs ++ tail)).bind fun (value, read) =>
      separated closed (reader fuel) k value read) = some (found, r)) :
    ∃ r', r = r' ++ tail ∧ r' <:+ cs ∧ ∀ f, 2 * cs.length + 1 ≤ f →
      ((value? f cs).bind fun (value, read) => separated closed (reader f) k value read) =
        some (found, r') := by
  obtain ⟨⟨value, rest⟩, hfirst, h⟩ := Option.bind_eq_some_iff.mp h
  obtain ⟨read, rfl, hsuffix, hread⟩ := hvalue hfirst
  have hlength := hsuffix.length_le
  rcases of_separated h with ⟨hx, rfl⟩ | ⟨hcomma, x, more, hx, hmore, rfl⟩
  · obtain ⟨y, hy, rfl, hskip⟩ := exists_skipSpace htail hx
    refine ⟨y, rfl, (List.suffix_cons closed y).trans (hskip.trans hsuffix), fun f hf => ?_⟩
    rw [hread f hf, Option.bind_some]
    exact separated_closed hy
  · obtain ⟨y, hy, rfl, hskip⟩ := exists_skipSpace htail hx
    obtain ⟨r', hr, htaken, hrest⟩ := hreader hmore
    have hinside : y <:+ cs := (List.suffix_cons ',' y).trans (hskip.trans hsuffix)
    have hshorter := hskip.length_le
    rw [List.length_cons] at hshorter
    refine ⟨r', hr, htaken.trans hinside, fun f hf => ?_⟩
    rw [hread f hf, Option.bind_some]
    dsimp only
    rw [separated_comma hcomma hy, hrest f (by omega)]
    rfl

/-- Items are read alone if each value is. -/
theorem readsAlone_items (htail : Spaces tail) (hvalue : ReadsAlone value? 1 tail fuel)
    (hitems : ReadsAlone items? 2 tail fuel) : ReadsAlone items? 2 tail (fuel + 1) := by
  intro cs r items h
  rw [items?_succ] at h
  obtain ⟨r', hr, hsuffix, hread⟩ := alone_separated htail hvalue hitems h
  refine ⟨r', hr, hsuffix, fun f hf => ?_⟩
  obtain ⟨f, rfl⟩ : ∃ f', f = f' + 1 := ⟨f - 1, by omega⟩
  rw [items?_succ]
  exact hread f (by omega)

theorem keyAt_alone {key : Option (List Char)} {behind : List Char} (htail : Spaces tail)
    (h : KeyAt (cs ++ tail) key behind) :
    ∃ y, behind = y ++ tail ∧ y <:+ cs ∧ KeyAt cs key y := by
  obtain ⟨text, read, htext, hkey, hcolon⟩ := h
  obtain ⟨text, htext', rfl, hskip⟩ := exists_skipSpace htail htext
  obtain ⟨read, rfl, hsuffix, hread⟩ := readsAlone_string htail 0 0 hkey
  obtain ⟨y, hcolon', rfl, hskip'⟩ := exists_skipSpace htail hcolon
  refine ⟨y, rfl, ?_, text, read, htext', hread _ (Nat.le_refl _), hcolon'⟩
  exact (List.suffix_cons _ _).trans (hskip'.trans (hsuffix.trans
    ((List.suffix_cons _ _).trans hskip)))

theorem readsAlone_fields (htail : Spaces tail) (hvalue : ReadsAlone value? 1 tail fuel)
    (hfields : ReadsAlone fields? 2 tail fuel) : ReadsAlone fields? 2 tail (fuel + 1) := by
  intro cs r fields h
  obtain ⟨key, behind, hkey⟩ := exists_keyAt h
  obtain ⟨y, rfl, hinside, hkey'⟩ := keyAt_alone htail hkey
  have hlength := hinside.length_le
  rw [fields?_succ hkey] at h
  obtain ⟨r', hr, hsuffix, hread⟩ := alone_separated htail hvalue hfields h
  refine ⟨r', hr, hsuffix.trans hinside, fun f hf => ?_⟩
  obtain ⟨f, rfl⟩ : ∃ f', f = f' + 1 := ⟨f - 1, by omega⟩
  rw [fields?_succ hkey']
  exact hread f (by omega)

/-- Values, items and entries are all read alone, by induction on the fuel. -/
theorem readsAlone (htail : Spaces tail) (fuel : Nat) : ReadsAlone value? 1 tail fuel ∧
    ReadsAlone items? 2 tail fuel ∧ ReadsAlone fields? 2 tail fuel := by
  induction fuel with
  | zero => exact ⟨nofun, nofun, nofun⟩
  | succ fuel ih =>
    obtain ⟨hvalue, hitems, hfields⟩ := ih
    exact ⟨readsAlone_value htail hitems hfields, readsAlone_items htail hvalue hitems,
      readsAlone_fields htail hvalue hfields⟩

end

/-! ## Brackets -/

/-- The shape of an array or an object. -/
def Shape.IsCompound : Shape → Prop
  | .literal _ => False
  | .array _ | .object _ => True

def brackets : List (Char × Char) := [('[', ']'), ('\x7b', '\x7d')]

theorem spaces_nil : Spaces [] := nofun

/-- What is left behind a value is the end of the text. -/
theorem value?_suffix {cs r : List Char} {fuel : Nat} {shape : Shape}
    (h : value? fuel cs = some (shape, r)) : r <:+ cs := by
  rw [← List.append_nil cs] at h
  obtain ⟨r', rfl, hsuffix, -⟩ := (readsAlone spaces_nil fuel).1 h
  rwa [List.append_nil]

theorem KeyAt.suffix {cs behind : List Char} {key : Option (List Char)}
    (h : KeyAt cs key behind) : behind <:+ cs := by
  rw [← List.append_nil cs] at h
  obtain ⟨y, rfl, hsuffix, -⟩ := keyAt_alone spaces_nil h
  rwa [List.append_nil]

theorem separated_suffix {α : Type} {closed : Char}
    {rest? : List Char → Option (List α × List Char)} {k : Shape → α} {value : Shape}
    {read r : List Char} {found : List α}
    (hrest : ∀ {cs found r}, rest? cs = some (found, r) → closed :: r <:+ cs)
    (h : separated closed rest? k value read = some (found, r)) : closed :: r <:+ read := by
  have hskip : skipSpace read <:+ read := List.dropWhile_suffix _
  rcases of_separated h with ⟨hread, -⟩ | ⟨-, rest, more, hread, hmore, -⟩
  · rwa [hread] at hskip
  · rw [hread] at hskip
    exact (hrest hmore).trans ((List.suffix_cons ',' rest).trans hskip)

/-- Items end with their closing bracket. -/
theorem items?_suffix {cs r : List Char} {fuel : Nat} {items : List Shape}
    (h : items? fuel cs = some (items, r)) : ']' :: r <:+ cs := by
  induction fuel generalizing cs items r with
  | zero => cases h
  | succ fuel ih =>
    rw [items?_succ] at h
    obtain ⟨⟨value, read⟩, hvalue, h⟩ := Option.bind_eq_some_iff.mp h
    exact (separated_suffix ih h).trans (value?_suffix hvalue)

theorem fields?_suffix {cs r : List Char} {fuel : Nat} {fields : List (Option String × Shape)}
    (h : fields? fuel cs = some (fields, r)) : '\x7d' :: r <:+ cs := by
  induction fuel generalizing cs fields r with
  | zero => cases h
  | succ fuel ih =>
    obtain ⟨key, behind, hkey⟩ := exists_keyAt h
    rw [fields?_succ hkey] at h
    obtain ⟨⟨value, read⟩, hvalue, h⟩ := Option.bind_eq_some_iff.mp h
    exact (separated_suffix ih h).trans ((value?_suffix hvalue).trans hkey.suffix)

/-- An array or an object stands between its brackets. -/
theorem exists_brackets {cs r : List Char} {fuel : Nat} {shape : Shape}
    (h : value? fuel cs = some (shape, r)) (hcompound : shape.IsCompound) :
    ∃ opened closed y, (opened, closed) ∈ brackets ∧ skipSpace cs = opened :: y ∧
      closed :: r <:+ y := by
  have hskip (y : List Char) : skipSpace y <:+ y := List.dropWhile_suffix _
  have hliteral {α : Type} {found : Option α} {f : α → Shape × List Char}
      (hf : ∀ a, ¬ (f a).1.IsCompound) (h : found.map f = some (shape, r)) : False := by
    obtain ⟨a, -, ha⟩ := Option.map_eq_some_iff.mp h
    exact hf a (by rw [ha]; exact hcompound)
  cases fuel with
  | zero => cases h
  | succ fuel =>
    rw [value?] at h
    split at h
    · cases h
    · rename_i y hy
      refine ⟨'\x7b', '\x7d', y, by decide, hy, ?_⟩
      split at h
      · rename_i rest hclose
        cases h
        exact hclose ▸ hskip y
      · obtain ⟨⟨fields, r⟩, hfields, hr⟩ := Option.map_eq_some_iff.mp h
        cases hr
        exact (fields?_suffix hfields).trans (hskip y)
    · rename_i y hy
      refine ⟨'[', ']', y, by decide, hy, ?_⟩
      split at h
      · rename_i rest hclose
        cases h
        exact hclose ▸ hskip y
      · obtain ⟨⟨items, r⟩, hitems, hr⟩ := Option.map_eq_some_iff.mp h
        cases hr
        exact (items?_suffix hitems).trans (hskip y)
    all_goals exact (hliteral (fun _ => id) h).elim

/-! ## White space -/

theorem isBlank_of_isSpace {c : Char} (h : isSpace c = true) : Text.isBlank c = true := by
  simp only [isSpace, Bool.or_eq_true, decide_eq_true_eq] at h
  rcases h with ((rfl | rfl) | rfl) | rfl <;> decide

theorem Spaces.blanks {cs : List Char} (h : Spaces cs) : Text.Blanks cs :=
  fun c hc => isBlank_of_isSpace (h c hc)

theorem isBlank_of_mem_brackets {opened closed : Char} (h : (opened, closed) ∈ brackets) :
    Text.isBlank opened = false ∧ Text.isBlank closed = false := by
  simp only [brackets, List.mem_cons, List.not_mem_nil, or_false, Prod.mk.injEq] at h
  rcases h with ⟨rfl, rfl⟩ | ⟨rfl, rfl⟩ <;> decide

/-- Blanks before a value make no difference. -/
theorem value?_spaces {before : List Char} (h : Spaces before) (fuel : Nat) (cs : List Char) :
    value? fuel (before ++ cs) = value? fuel cs := by
  have hskip : skipSpace (before ++ cs) = skipSpace cs := List.dropWhile_append_of_pos h
  cases fuel with
  | zero => rfl
  | succ fuel => rw [value?, value?, hskip]

/-- A text that is read as an array or an object is its brackets and what is between them, and
blanks of the grammar around these. -/
theorem exists_between {s : String} {shape : Shape} (h : read s = some shape)
    (hcompound : shape.IsCompound) : ∃ before opened inside closed after,
      s.toList = before ++ (opened :: inside ++ [closed]) ++ after ∧ Spaces before ∧
      Spaces after ∧ (opened, closed) ∈ brackets ∧
      value? (2 * s.toList.length + 2) s.toList = some (shape, after) := by
  unfold read at h
  dsimp only at h
  split at h
  · rename_i value after hvalue
    split at h
    · rename_i hafter
      cases h
      obtain ⟨opened, closed, y, hmem, hopened, inside, rfl⟩ := exists_brackets hvalue hcompound
      refine ⟨s.toList.takeWhile isSpace, opened, inside, closed, after, ?_,
        fun c => List.mem_takeWhile_imp, ?_, hmem, hvalue⟩
      · calc s.toList
          _ = s.toList.takeWhile isSpace ++ skipSpace s.toList :=
            List.takeWhile_append_dropWhile.symm
          _ = _ := by simp [hopened]
      · exact List.dropWhile_eq_nil_iff.mp (List.isEmpty_iff.mp hafter)
    · cases h
  · cases h

/-- What comes first in such a text, blanks of all kinds apart. -/
theorem exists_trimLeft {s : String} {shape : Shape} (h : read s = some shape)
    (hcompound : shape.IsCompound) : ∃ opened closed rest, (opened, closed) ∈ brackets ∧
      Text.trimLeft s.toList = opened :: rest := by
  obtain ⟨before, opened, inside, closed, after, hs, hbefore, -, hmem, -⟩ :=
    exists_between h hcompound
  refine ⟨opened, closed, inside ++ [closed] ++ after, hmem, ?_⟩
  rw [hs, List.append_assoc, Text.trimLeft_append_of_blanks hbefore.blanks]
  exact Text.trimLeft_cons_of_not_blank (isBlank_of_mem_brackets hmem).1 _

/-- What is read from a text is read from it without white space at its ends. -/
theorem read_trim {s : String} {shape : Shape} (h : read s = some shape)
    (hcompound : shape.IsCompound) : read (Text.trim s) = some shape := by
  obtain ⟨before, opened, inside, closed, after, hs, hbefore, hafter, hmem, hvalue⟩ :=
    exists_between h hcompound
  obtain ⟨hopened, hclosed⟩ := isBlank_of_mem_brackets hmem
  have htrim : Text.trimBoth s.toList = opened :: inside ++ [closed] := by
    rw [hs, Text.trimBoth_surrounded hbefore.blanks hafter.blanks]
    exact Text.trimBoth_of_ends rfl hopened List.getLast?_concat hclosed
  rw [hs, List.append_assoc, value?_spaces hbefore] at hvalue
  obtain ⟨r, hr, -, hread⟩ := (readsAlone hafter _).1 hvalue
  obtain rfl : r = [] := by simpa using hr
  unfold read
  dsimp only
  rw [Text.trim, String.toList_ofList, htrim, hread _ (by omega)]
  rfl

/-- White space around a text does not change what it is the text of. -/
theorem parse_trim {s : String} {shape : Shape} (h : read s = some shape)
    (hcompound : shape.IsCompound) : parse (Text.trim s) = parse s := by
  rw [parse, read_trim h hcompound, parse, h]

end Ontograph.Json
