/-
Ontograph.Proofs.Json.Compact — compact texts are read, and are one line.

The reader runs on fuel and dispatches on the first character that is no blank;
the printer writes no blanks at all. So each lemma about a step of the reader
says what the text goes on with, and the fuel is counted from the length of the
text: a value takes at most twice its length, a list of items or entries one
step more.

Texts come back unchanged. Numbers need not: a number is read as what its own
text is read as, which is all that `reread?` says beyond the structure. With
that, `read_compact` holds of every value, and what is written is one line
(`feedFree_compact`).
-/
import Ontograph.Proofs.Json.Number
import Ontograph.Proofs.Text.Lines

namespace Ontograph.Json

/-! ## Induction -/

/-- What holds of a value as soon as it holds of its items or of the values of its entries holds of
every value. -/
@[elab_as_elim]
theorem induction {P : Json → Prop} (null : P .null) (bool : ∀ b, P (.bool b))
    (int : ∀ i, P (.int i)) (double : ∀ x, P (.double x)) (single : ∀ x, P (.single x))
    (string : ∀ s, P (.string s))
    (array : ∀ items, (∀ item ∈ items, P item) → P (.array items))
    (object : ∀ fields, (∀ field ∈ fields, P field.2) → P (.object fields)) : ∀ j, P j
  | .null => null
  | .bool b => bool b
  | .int i => int i
  | .double x => double x
  | .single x => single x
  | .string s => string s
  | .array items =>
    array items fun item _ => induction null bool int double single string array object item
  | .object fields =>
    object fields fun (_, value) _ =>
      induction null bool int double single string array object value
decreasing_by
  · have hitem := List.sizeOf_lt_of_mem (by assumption : item ∈ items)
    simp only [Json.array.sizeOf_spec]
    omega
  · have hfield := List.sizeOf_lt_of_mem (by assumption : (_, value) ∈ fields)
    simp only [Json.object.sizeOf_spec, Prod.mk.sizeOf_spec] at hfield ⊢
    omega

/-! ## Strings -/

/-- A character below U+0020 comes back from its four hexadecimal digits. -/
theorem unit?_control :
    ∀ n < 0x20, unit? '0' '0' (hexDigit (n / 16)) (hexDigit (n % 16)) = some n := by
  decide

/-- The escape of a control character is read as the character. -/
theorem stringBody?_control {c : Char} (h : c.toNat < 0x20) (rest : List Char) :
    stringBody? none
        ('\\' :: 'u' :: '0' :: '0' :: hexDigit (c.toNat / 16) :: hexDigit (c.toNat % 16) :: rest) =
      (stringBody? none rest).map (prepend none c) := by
  rw [stringBody?, unit?_control c.toNat h]
  dsimp only
  rw [if_neg (by omega), if_neg (by omega), Char.ofNat_toNat]

theorem stringBody?_plain {high : Option Nat} {c : Char} (hquote : c ≠ '"') (hslash : c ≠ '\\')
    (h : ¬ c.toNat < 0x20) (rest : List Char) :
    stringBody? high (c :: rest) = (stringBody? none rest).map (prepend high c) := by
  rw [stringBody?.eq_def]
  split
  · rename_i heq
    cases heq
  · rename_i heq
    exact absurd (List.cons.inj heq).1 hquote
  · rename_i heq
    exact absurd (List.cons.inj heq).1 hslash
  · rename_i heq
    exact absurd (List.cons.inj heq).1 hslash
  · rename_i heq
    obtain ⟨rfl, rfl⟩ := List.cons.inj heq
    rw [if_neg (not_or.mpr ⟨h, hslash⟩)]

/-- An escaped character is read as itself. -/
theorem stringBody?_escape (c : Char) (rest : List Char) :
    stringBody? none (escape c ++ rest) = (stringBody? none rest).map (prepend none c) := by
  have hnamed {d : Char} (h : c.toNat = d.toNat) : c = d := Char.toNat_inj.mp h
  unfold escape
  by_cases hquote : c = '"'
  · subst hquote
    rfl
  by_cases hslash : c = '\\'
  · subst hslash
    rfl
  rw [if_neg hquote, if_neg hslash]
  split
  · rename_i h
    subst h
    rfl
  split
  · rename_i h
    subst h
    rfl
  split
  · rename_i h
    subst h
    rfl
  split
  · rename_i h
    obtain rfl : c = '\x08' := hnamed h
    rfl
  split
  · rename_i h
    obtain rfl : c = '\x0c' := hnamed h
    rfl
  split
  · rename_i h
    exact stringBody?_control h rest
  · rename_i h
    exact stringBody?_plain hquote hslash h rest

/-- What is written between quotes is read as it was. -/
theorem stringBody?_flatMap_escape (cs rest : List Char) :
    stringBody? none (cs.flatMap escape ++ '"' :: rest) = some (some cs, rest) := by
  induction cs with
  | nil => rfl
  | cons c cs ih =>
    rw [List.flatMap_cons, List.append_assoc, stringBody?_escape, ih]
    rfl

theorem toList_quoted (s : String) :
    (quoted s).toList = '"' :: (s.toList.flatMap escape ++ ['"']) :=
  String.toList_ofList

/-! ## Values -/

mutual

/-- What the compact text of a value is read as: every number as what its own text is read as. -/
def reread? : Json → Option Json
  | .null => some .null
  | .bool b => some (.bool b)
  | .int i => parse (toString i)
  | .double x => parse (numberText x)
  | .single x => parse (numberText x)
  | .string s => some (.string s)
  | .array items => (rereadItems? items).map .array
  | .object fields => (rereadFields? fields).map .object

def rereadItems? : List Json → Option (List Json)
  | [] => some []
  | item :: rest => do pure ((← reread? item) :: (← rereadItems? rest))

def rereadFields? : List (String × Json) → Option (List (String × Json))
  | [] => some []
  | (key, value) :: rest => do pure ((key, ← reread? value) :: (← rereadFields? rest))

end

/-- A number is read up to where it ends. -/
theorem value?_numberText {w : Width} {x : Binary w} {k : Json} (h : parse (numberText x) = some k)
    {rest : List Char} (hrest : EndsNumber rest) (fuel : Nat) :
    value? (fuel + 1) ((numberText x).toList ++ rest) = some (k.shape, rest) := by
  unfold numberText at h ⊢
  split at h
  · rename_i hfinite
    rw [if_pos hfinite]
    exact value?_of_parse (isNumeric_documentText x) h hrest fuel
  · rename_i hfinite
    rw [if_neg hfinite]
    obtain rfl : Json.null = k := Option.some.inj h
    rfl

/-- A text that begins with no blank and closes no array. -/
def Opens (cs : List Char) : Prop := ∃ c rest, cs = c :: rest ∧ isSpace c = false ∧ c ≠ ']'

theorem Opens.append {cs : List Char} (h : Opens cs) (rest : List Char) : Opens (cs ++ rest) := by
  obtain ⟨c, cs, rfl, hspace, hclose⟩ := h
  exact ⟨c, cs ++ rest, rfl, hspace, hclose⟩

theorem opens_numeric {s : String} (h : IsNumeric s) {value : Json}
    (hparse : parse s = some value) : Opens s.toList := by
  cases hcs : s.toList with
  | nil =>
    rw [parse_eq_some_iff h, hcs] at hparse
    cases hparse
  | cons c cs =>
    have hc : isNumberChar c = true := h c (hcs ▸ List.mem_cons_self)
    have hne {d : Char} (hd : isNumberChar d = false) : c ≠ d := by
      rintro rfl
      rw [hc] at hd
      cases hd
    refine ⟨c, cs, rfl, ?_, hne (by decide)⟩
    simp only [isSpace, Bool.or_eq_false_iff, decide_eq_false_iff_not]
    exact ⟨⟨⟨hne (by decide), hne (by decide)⟩, hne (by decide)⟩, hne (by decide)⟩

theorem opens_numberText {w : Width} {x : Binary w} {k : Json} (h : parse (numberText x) = some k) :
    Opens (numberText x).toList := by
  unfold numberText at h ⊢
  split at h
  · rename_i hfinite
    rw [if_pos hfinite]
    exact opens_numeric (isNumeric_documentText x) h
  · rename_i hfinite
    rw [if_neg hfinite]
    exact ⟨'n', ['u', 'l', 'l'], rfl, rfl, by decide⟩

theorem opens_compact {j k : Json} (h : j.reread? = some k) : Opens j.compact.toList := by
  cases j with
  | null => exact ⟨'n', ['u', 'l', 'l'], rfl, rfl, by decide⟩
  | bool b => cases b <;> exact ⟨_, _, rfl, rfl, by decide⟩
  | int i => exact opens_numeric (isNumeric_toString i) h
  | double x => exact opens_numberText h
  | single x => exact opens_numberText h
  | string s =>
    rw [compact, toList_quoted]
    exact ⟨'"', _, rfl, rfl, by decide⟩
  | array items =>
    rw [compact, String.append_assoc, String.toList_append]
    exact ⟨'[', _, rfl, rfl, by decide⟩
  | object fields =>
    rw [compact, String.append_assoc, String.toList_append]
    exact ⟨'\x7b', _, rfl, rfl, by decide⟩

/-! ### One step of the reader -/

theorem value?_string (s : String) (fuel : Nat) (rest : List Char) :
    value? (fuel + 1) ((quoted s).toList ++ rest) = some (.literal (some (.string s)), rest) := by
  have hread := stringBody?_flatMap_escape s.toList rest
  rw [toList_quoted, List.cons_append, List.append_assoc]
  simp only [value?, show skipSpace ('"' :: (s.toList.flatMap escape ++ ([('"' : Char)] ++ rest))) =
    '"' :: (s.toList.flatMap escape ++ '"' :: rest) from rfl, hread, Option.map_some,
    String.ofList_toList]

theorem value?_array {cs : List Char} (h : Opens cs) (fuel : Nat) :
    value? (fuel + 1) ('[' :: cs) =
      (items? fuel cs).map fun (items, rest) => (.array items, rest) := by
  obtain ⟨c, cs, rfl, hspace, hclose⟩ := h
  have hskip : skipSpace (c :: cs) = c :: cs := List.dropWhile_cons_of_neg (by simp [hspace])
  have hopen : skipSpace ('[' :: c :: cs) = '[' :: c :: cs := rfl
  simp only [value?, hopen, hskip]
  split
  · rename_i heq
    exact absurd (List.cons.inj heq).1 hclose
  · rfl

theorem value?_object (key : String) (fuel : Nat) (cs : List Char) :
    value? (fuel + 1) ('\x7b' :: ((quoted key).toList ++ cs)) =
      (fields? fuel ((quoted key).toList ++ cs)).map
        fun (fields, rest) => (.object fields, rest) := by
  rw [toList_quoted]
  rfl

theorem items?_last {fuel : Nat} {cs rest : List Char} {item : Shape}
    (h : value? fuel cs = some (item, ']' :: rest)) :
    items? (fuel + 1) cs = some ([item], rest) := by
  rw [items?, h]
  rfl

theorem items?_comma {fuel : Nat} {cs rest : List Char} {item : Shape}
    (h : value? fuel cs = some (item, ',' :: rest)) :
    items? (fuel + 1) cs =
      (items? fuel rest).map fun (items, rest) => (item :: items, rest) := by
  rw [items?, h]
  rfl

/-- A key and its colon lead to the value. -/
theorem fields?_key (fuel : Nat) (key : String) (cs : List Char) :
    fields? (fuel + 1) ((quoted key).toList ++ ':' :: cs) =
      (value? fuel cs).bind fun (value, rest) =>
        match skipSpace rest with
        | '\x7d' :: rest => some ([(some key, value)], rest)
        | ',' :: rest =>
          (fields? fuel rest).map fun (fields, rest) => ((some key, value) :: fields, rest)
        | _ => none := by
  have hkey := stringBody?_flatMap_escape key.toList (':' :: cs)
  rw [toList_quoted, List.cons_append, List.append_assoc, fields?]
  simp only [show ∀ cs, skipSpace ('"' :: cs) = '"' :: cs from fun _ => rfl,
    show ∀ cs, skipSpace (':' :: cs) = ':' :: cs from fun _ => rfl, List.singleton_append, hkey,
    Option.map_some, String.ofList_toList]
  cases value? fuel cs <;> rfl

theorem fields?_last {fuel : Nat} (key : String) {cs rest : List Char} {value : Shape}
    (h : value? fuel cs = some (value, '\x7d' :: rest)) :
    fields? (fuel + 1) ((quoted key).toList ++ ':' :: cs) = some ([(some key, value)], rest) := by
  rw [fields?_key, h]
  rfl

theorem fields?_comma {fuel : Nat} (key : String) {cs rest : List Char} {value : Shape}
    (h : value? fuel cs = some (value, ',' :: rest)) :
    fields? (fuel + 1) ((quoted key).toList ++ ':' :: cs) =
      (fields? fuel rest).map fun (fields, rest) => ((some key, value) :: fields, rest) := by
  rw [fields?_key, h]
  rfl

/-! ### Whole values -/

/-- The fuel that the reader needs for a text. -/
def fuelFor (s : String) : Nat := 2 * s.toList.length

/-- A value is read behind its compact text, wherever a number may end. -/
def ReadsBack (j : Json) : Prop :=
  ∀ {k : Json}, j.reread? = some k → ∀ {rest : List Char}, EndsNumber rest → ∀ {fuel : Nat},
    fuelFor j.compact ≤ fuel → value? fuel (j.compact.toList ++ rest) = some (k.shape, rest)

theorem endsNumber_cons {c : Char} (h : isNumberChar c = false) (rest : List Char) :
    EndsNumber (c :: rest) := by
  rintro d ⟨⟩
  exact h

theorem items?_compactItems {item : Json} {items ks : List Json}
    (hitems : ∀ j ∈ item :: items, ReadsBack j) (h : rereadItems? (item :: items) = some ks)
    (rest : List Char) {fuel : Nat} (hfuel : fuelFor (compactItems (item :: items)) < fuel) :
    items? fuel ((compactItems (item :: items)).toList ++ ']' :: rest) =
      some (shapeItems ks, rest) := by
  induction items generalizing item ks fuel with
  | nil =>
    obtain ⟨k, hk, hks⟩ := Option.bind_eq_some_iff.mp h
    obtain rfl : [k] = ks := Option.some.inj hks
    obtain ⟨fuel, rfl⟩ := Nat.exists_eq_succ_of_ne_zero (Nat.ne_zero_of_lt hfuel)
    have hclose : EndsNumber (']' :: rest) := endsNumber_cons (by decide) rest
    exact items?_last (hitems item List.mem_cons_self hk hclose (Nat.le_of_lt_succ hfuel))
  | cons next items ih =>
    obtain ⟨k, hk, hrest⟩ := Option.bind_eq_some_iff.mp h
    obtain ⟨ks', hks', hks⟩ := Option.bind_eq_some_iff.mp hrest
    obtain rfl : k :: ks' = ks := Option.some.inj hks
    obtain ⟨fuel, rfl⟩ := Nat.exists_eq_succ_of_ne_zero (Nat.ne_zero_of_lt hfuel)
    have htext : (compactItems (item :: next :: items)).toList ++ ']' :: rest =
        item.compact.toList ++ ',' :: ((compactItems (next :: items)).toList ++ ']' :: rest) := by
      simp [compactItems]
    have hlength : fuelFor (compactItems (item :: next :: items)) =
        fuelFor item.compact + 2 + fuelFor (compactItems (next :: items)) := by
      simp [fuelFor, compactItems]
      omega
    have hcomma : EndsNumber (',' :: ((compactItems (next :: items)).toList ++ ']' :: rest)) :=
      endsNumber_cons (by decide) _
    rw [htext, items?_comma (hitems item List.mem_cons_self hk hcomma (by omega)),
      ih (fun j hj => hitems j (List.mem_cons_of_mem _ hj)) hks' (by omega)]
    rfl

/-- An array is read back if its items are. -/
theorem readsBack_array {items : List Json} (h : ∀ item ∈ items, ReadsBack item) :
    ReadsBack (.array items) := by
  intro k hk rest hrest fuel hfuel
  obtain ⟨ks, hks, rfl⟩ := Option.map_eq_some_iff.mp hk
  have htext : (compact (.array items)).toList ++ rest =
      '[' :: ((compactItems items).toList ++ ']' :: rest) := by
    simp [compact]
  have hlength : fuelFor (compact (.array items)) = fuelFor (compactItems items) + 4 := by
    simp [fuelFor, compact]
    omega
  obtain ⟨fuel, rfl⟩ := Nat.exists_eq_succ_of_ne_zero (show fuel ≠ 0 by omega)
  rw [htext]
  cases items with
  | nil =>
    obtain rfl : [] = ks := Option.some.inj hks
    rfl
  | cons item items =>
    have hopens : Opens ((compactItems (item :: items)).toList ++ ']' :: rest) := by
      obtain ⟨k, hk, -⟩ := Option.bind_eq_some_iff.mp hks
      have hitem : Opens item.compact.toList := opens_compact hk
      cases items with
      | nil => exact hitem.append _
      | cons next items =>
        simp only [compactItems, String.append_assoc, String.toList_append, List.append_assoc]
        exact hitem.append _
    rw [value?_array hopens, items?_compactItems h hks rest (by omega)]
    rfl

theorem fields?_compactFields {field : String × Json} {fields ks : List (String × Json)}
    (hfields : ∀ e ∈ field :: fields, ReadsBack e.2)
    (h : rereadFields? (field :: fields) = some ks) (rest : List Char) {fuel : Nat}
    (hfuel : fuelFor (compactFields (field :: fields)) < fuel) :
    fields? fuel ((compactFields (field :: fields)).toList ++ '\x7d' :: rest) =
      some (shapeFields ks, rest) := by
  induction fields generalizing field ks fuel with
  | nil =>
    obtain ⟨key, value⟩ := field
    obtain ⟨k, hk, hks⟩ := Option.bind_eq_some_iff.mp h
    obtain rfl : [(key, k)] = ks := Option.some.inj hks
    obtain ⟨fuel, rfl⟩ := Nat.exists_eq_succ_of_ne_zero (Nat.ne_zero_of_lt hfuel)
    have htext : (compactFields [(key, value)]).toList ++ '\x7d' :: rest =
        (quoted key).toList ++ ':' :: (value.compact.toList ++ '\x7d' :: rest) := by
      simp [compactFields]
    have hlength : fuelFor value.compact ≤ fuelFor (compactFields [(key, value)]) := by
      simp [fuelFor, compactFields]
      omega
    have hvalue : ReadsBack value := hfields (key, value) List.mem_cons_self
    have hclose : EndsNumber ('\x7d' :: rest) := endsNumber_cons (by decide) rest
    rw [htext, fields?_last key (hvalue hk hclose (by omega))]
    rfl
  | cons next fields ih =>
    obtain ⟨key, value⟩ := field
    obtain ⟨k, hk, hrest⟩ := Option.bind_eq_some_iff.mp h
    obtain ⟨ks', hks', hks⟩ := Option.bind_eq_some_iff.mp hrest
    obtain rfl : (key, k) :: ks' = ks := Option.some.inj hks
    obtain ⟨fuel, rfl⟩ := Nat.exists_eq_succ_of_ne_zero (Nat.ne_zero_of_lt hfuel)
    have htext : (compactFields ((key, value) :: next :: fields)).toList ++ '\x7d' :: rest =
        (quoted key).toList ++ ':' :: (value.compact.toList ++
          ',' :: ((compactFields (next :: fields)).toList ++ '\x7d' :: rest)) := by
      simp [compactFields]
    have hlength : fuelFor value.compact + 2 + fuelFor (compactFields (next :: fields)) ≤
        fuelFor (compactFields ((key, value) :: next :: fields)) := by
      simp [fuelFor, compactFields]
      omega
    have hvalue : ReadsBack value := hfields (key, value) List.mem_cons_self
    have hcomma : EndsNumber
        (',' :: ((compactFields (next :: fields)).toList ++ '\x7d' :: rest)) :=
      endsNumber_cons (by decide) _
    rw [htext, fields?_comma key (hvalue hk hcomma (by omega)),
      ih (fun e he => hfields e (List.mem_cons_of_mem _ he)) hks' (by omega)]
    rfl

/-- An object is read back if its values are. -/
theorem readsBack_object {fields : List (String × Json)} (h : ∀ e ∈ fields, ReadsBack e.2) :
    ReadsBack (.object fields) := by
  intro k hk rest hrest fuel hfuel
  obtain ⟨ks, hks, rfl⟩ := Option.map_eq_some_iff.mp hk
  have htext : (compact (.object fields)).toList ++ rest =
      '\x7b' :: ((compactFields fields).toList ++ '\x7d' :: rest) := by
    simp [compact]
  have hlength : fuelFor (compact (.object fields)) = fuelFor (compactFields fields) + 4 := by
    simp [fuelFor, compact]
    omega
  obtain ⟨fuel, rfl⟩ := Nat.exists_eq_succ_of_ne_zero (show fuel ≠ 0 by omega)
  rw [htext]
  cases fields with
  | nil =>
    obtain rfl : [] = ks := Option.some.inj hks
    rfl
  | cons field fields =>
    have hkey : ∃ cs, (compactFields (field :: fields)).toList ++ '\x7d' :: rest =
        (quoted field.1).toList ++ cs := by
      cases fields <;>
        exact ⟨_, by simp only [compactFields, String.append_assoc, String.toList_append,
          List.append_assoc]; rfl⟩
    obtain ⟨cs, hcs⟩ := hkey
    rw [hcs, value?_object, ← hcs, fields?_compactFields h hks rest (by omega)]
    rfl

/-- What is no array and no object needs one step. -/
theorem readsBack_leaf {j : Json}
    (h : ∀ {k : Json}, j.reread? = some k → ∀ {rest : List Char}, EndsNumber rest → ∀ fuel : Nat,
      value? (fuel + 1) (j.compact.toList ++ rest) = some (k.shape, rest)) : ReadsBack j := by
  intro k hk rest hrest fuel hfuel
  obtain ⟨c, cs, hcs, -⟩ := opens_compact hk
  have hpos : 0 < fuelFor j.compact := by simp [fuelFor, hcs]
  obtain ⟨fuel, rfl⟩ := Nat.exists_eq_succ_of_ne_zero (show fuel ≠ 0 by omega)
  exact h hk hrest fuel

theorem readsBack (j : Json) : ReadsBack j := by
  induction j using Json.induction with
  | null =>
    refine readsBack_leaf fun hk rest _ fuel => ?_
    cases hk
    rfl
  | bool b =>
    refine readsBack_leaf fun hk rest _ fuel => ?_
    cases hk
    cases b <;> rfl
  | int i =>
    refine readsBack_leaf fun hk rest hrest fuel => ?_
    rw [reread?] at hk
    exact value?_of_parse (isNumeric_toString i) hk hrest fuel
  | double x =>
    refine readsBack_leaf fun hk rest hrest fuel => ?_
    rw [reread?] at hk
    exact value?_numberText hk hrest fuel
  | single x =>
    refine readsBack_leaf fun hk rest hrest fuel => ?_
    rw [reread?] at hk
    exact value?_numberText hk hrest fuel
  | string s =>
    refine readsBack_leaf fun hk rest _ fuel => ?_
    cases hk
    exact value?_string s fuel rest
  | array items ih => exact readsBack_array ih
  | object fields ih => exact readsBack_object ih

/-- **A compact text is read.** It is read as the shape of its value, with every number as what the
number's own text is read as. -/
theorem read_compact {j k : Json} (h : j.reread? = some k) : read j.compact = some k.shape := by
  have hend : EndsNumber [] := by rintro c ⟨⟩
  have hvalue := readsBack j h hend (Nat.le_add_right (fuelFor j.compact) 2)
  rw [List.append_nil] at hvalue
  unfold fuelFor at hvalue
  unfold read
  simp only [hvalue]
  rfl

/-! ## One line -/

theorem feed_not_mem_control :
    ∀ n < 0x20, '\n' ∉ ['\\', 'u', '0', '0', hexDigit (n / 16), hexDigit (n % 16)] := by
  decide

theorem feed_not_mem_escape (c : Char) : '\n' ∉ escape c := by
  unfold escape
  split
  · decide
  split
  · decide
  split
  · decide
  rename_i hfeed
  split
  · decide
  split
  · decide
  split
  · decide
  split
  · decide
  split
  · rename_i hcontrol
    exact feed_not_mem_control c.toNat hcontrol
  · exact fun h => hfeed (List.mem_singleton.mp h).symm

/-- A quoted text holds no line feed, whatever the text holds. -/
theorem feedFree_quoted (s : String) : Text.FeedFree (quoted s) := by
  rw [Text.FeedFree, toList_quoted]
  intro h
  rcases List.mem_cons.mp h with h | h
  · exact absurd h (by decide)
  · rcases List.mem_append.mp h with h | h
    · obtain ⟨c, -, hc⟩ := List.mem_flatMap.mp h
      exact feed_not_mem_escape c hc
    · exact absurd h (by decide)

theorem IsNumeric.feedFree {s : String} (h : IsNumeric s) : Text.FeedFree s :=
  fun hfeed => absurd (h _ hfeed) (by decide)

theorem feedFree_numberText {w : Width} (x : Binary w) : Text.FeedFree (numberText x) := by
  unfold numberText
  split
  · exact (isNumeric_documentText x).feedFree
  · decide

theorem feedFree_compactItems {items : List Json} (h : ∀ j ∈ items, Text.FeedFree j.compact) :
    Text.FeedFree (compactItems items) := by
  induction items with
  | nil => decide
  | cons item items ih =>
    rw [List.forall_mem_cons] at h
    cases items with
    | nil => exact h.1
    | cons next items =>
      simp only [compactItems, Text.feedFree_append]
      exact ⟨⟨h.1, by decide⟩, ih h.2⟩

theorem feedFree_compactFields {fields : List (String × Json)}
    (h : ∀ e ∈ fields, Text.FeedFree e.2.compact) : Text.FeedFree (compactFields fields) := by
  induction fields with
  | nil => decide
  | cons field fields ih =>
    obtain ⟨key, value⟩ := field
    rw [List.forall_mem_cons] at h
    have hvalue : Text.FeedFree value.compact := h.1
    cases fields with
    | nil =>
      simp only [compactFields, Text.feedFree_append]
      exact ⟨⟨feedFree_quoted key, by decide⟩, hvalue⟩
    | cons next fields =>
      simp only [compactFields, Text.feedFree_append]
      exact ⟨⟨⟨⟨feedFree_quoted key, by decide⟩, hvalue⟩, by decide⟩, ih h.2⟩

/-- A compact text is one line. -/
theorem feedFree_compact (j : Json) : Text.FeedFree j.compact := by
  induction j using Json.induction with
  | null => decide
  | bool b => cases b <;> decide
  | int i => exact (isNumeric_toString i).feedFree
  | double x => exact feedFree_numberText x
  | single x => exact feedFree_numberText x
  | string s => exact feedFree_quoted s
  | array items ih =>
    simp only [compact, Text.feedFree_append]
    exact ⟨⟨by decide, feedFree_compactItems ih⟩, by decide⟩
  | object fields ih =>
    simp only [compact, Text.feedFree_append]
    exact ⟨⟨by decide, feedFree_compactFields ih⟩, by decide⟩

end Ontograph.Json
