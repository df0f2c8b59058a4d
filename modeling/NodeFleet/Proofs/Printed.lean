import NodeFleet.Proofs.Numeral

/-!
# Reading what is printed

The text of a value is scanned as the value itself, as long as there is no floating-point number in
it. The scanner is followed along what the printer writes: a character, a quoted text, the items of
a list, the entries of an object. No printed character is a control character, so the text is one
line.
-/

namespace NodeFleet.Json

/-! ### Quoted texts -/

section Text

variable {c : Char} {reversed : List Char} {rest : List (Option Char)}

/-- A character that stands for itself. -/
theorem scanText_plain (hquote : c ≠ '"') (hslash : c ≠ '\\') (hprint : ¬c.toNat < 0x20) :
    scanText ⟨reversed, none, none⟩ false (some c :: rest) =
      scanText ⟨c :: reversed, none, none⟩ false rest := by
  rw [scanText]
  · rw [if_neg hprint]
    rfl
  all_goals simp [hquote, hslash]

/-- A character that is escaped by a letter. -/
theorem scanText_letter {letter : Char} (h : escaped? letter = some c) (hu : letter ≠ 'u') :
    scanText ⟨reversed, none, none⟩ false (some '\\' :: some letter :: rest) =
      scanText ⟨c :: reversed, none, none⟩ false rest := by
  rw [scanText]
  · rw [h]
    rfl
  all_goals simp [hu]

/-- A control character, escaped by its number. -/
theorem scanText_number (h : c.toNat < 0x20) :
    scanText ⟨reversed, none, none⟩ false
        (some '\\' :: some 'u' :: some '0' :: some '0' :: some (Text.hexDigit (c.toNat / 16)) ::
          some (Text.hexDigit (c.toNat % 16)) :: rest) =
      scanText ⟨c :: reversed, none, none⟩ false rest := by
  have hzero : hexAt? (some '0') = some 0 := by decide
  have hhigh : hexAt? (some (Text.hexDigit (c.toNat / 16))) = some (c.toNat / 16) :=
    Text.hexValue?_hexDigit (by omega)
  have hlow : hexAt? (some (Text.hexDigit (c.toNat % 16))) = some (c.toNat % 16) :=
    Text.hexValue?_hexDigit (by omega)
  have hnumber : 4096 * 0 + 256 * 0 + 16 * (c.toNat / 16) + c.toNat % 16 = c.toNat := by omega
  have hpush : (⟨reversed, none, none⟩ : Draft).pushUnit c.toNat = ⟨c :: reversed, none, none⟩ := by
    have hlow : ¬(0xDC00 ≤ c.toNat && c.toNat ≤ 0xDFFF) := by simp; omega
    have hhigh : ¬(0xD800 ≤ c.toNat && c.toNat ≤ 0xDBFF) := by simp; omega
    simp only [Draft.pushUnit, if_neg hlow, if_neg hhigh, Char.ofNat_toNat]
  rw [scanText, hzero, hhigh, hlow]
  simp only [hnumber, hpush]

/-- The scanner takes a printed character for the character. -/
theorem scanText_escapeChar :
    scanText ⟨reversed, none, none⟩ false (seen (escapeChar c) ++ rest) =
      scanText ⟨c :: reversed, none, none⟩ false rest := by
  fun_cases escapeChar c
  case case8 hnumber => exact scanText_number hnumber
  case case9 hquote hslash _ _ _ _ _ hprint => exact scanText_plain hquote hslash hprint
  -- the other escapes are by a letter
  all_goals
    subst c
    exact scanText_letter rfl (by decide)

/-- The scanner takes printed characters for the characters, up to the closing quote. -/
theorem scanText_flatMap (cs : List Char) :
    scanText ⟨reversed, none, none⟩ false (seen (cs.flatMap escapeChar) ++ some '"' :: rest) =
      .ok (.ok (String.ofList (reversed.reverse ++ cs)), rest) := by
  induction cs generalizing reversed with
  | nil => simp [scanText, Draft.finish, Draft.settle]
  | cons c cs ih =>
    rw [List.flatMap_cons, seen_append, List.append_assoc, scanText_escapeChar, ih]
    simp

end Text

theorem scanString_quote (s : String) (rest : List (Option Char)) :
    scanString (seen (s.toList.flatMap escapeChar) ++ some '"' :: rest) = .ok (.ok s, rest) := by
  rw [scanString, scanText_flatMap]
  simp

/-! ### Values -/

/-- There is no floating-point number in a value, nor an integer that a number cannot hold. -/
inductive Value.Floatless : Value → Prop where
  | null : Floatless .null
  | bool (b : Bool) : Floatless (.bool b)
  | int {n : Int} (h : Holds n) : Floatless (.ofInt n)
  | str (s : String) : Floatless (.str s)
  | arr {items : List Value} (h : ∀ v ∈ items, Floatless v) : Floatless (.arr items)
  | obj {entries : List (String × Value)} (h : ∀ e ∈ entries, Floatless e.2) :
      Floatless (.obj entries)

/-- The text of a value, whatever follows it that is not part of a number, is scanned as the value.
Two units of fuel for each character are enough. -/
def Value.ScansBack (v : Value) : Prop :=
  ∀ fuel rest, endsNumber rest = true → 2 * v.chars.length ≤ fuel →
    scanValue fuel (seen v.chars ++ rest) = (v.toDoc, some rest)

theorem skipBlanks_cons {c : Option Char} {cs : List (Option Char)} (h : isJsonBlank c = false) :
    skipBlanks (c :: cs) = c :: cs := by
  simp [skipBlanks, h]

/-- The text of a value begins with a character that is neither blank nor the end of a list. -/
theorem Value.Floatless.exists_chars_eq {v : Value} (h : v.Floatless) :
    ∃ c cs, v.chars = c :: cs ∧ isJsonBlank (some c) = false ∧ c ≠ ']' := by
  cases h with
  | null => exact ⟨'n', _, rfl, by decide, by decide⟩
  | bool b =>
    cases b with
    | false => exact ⟨'f', _, rfl, by decide, by decide⟩
    | true => exact ⟨'t', _, rfl, by decide, by decide⟩
  | int => exact exists_intChars_eq _
  | str s => exact ⟨'"', _, by rw [chars, quote], by decide, by decide⟩
  | arr => exact ⟨'[', _, by rw [chars], by decide, by decide⟩
  | obj => exact ⟨'\x7b', _, by rw [chars], by decide, by decide⟩

/-- The text of a word that stands for a value. -/
theorem scanIdent_word (doc : Doc) (word : List Char) (rest : List (Option Char)) :
    scanIdent doc word (seen word ++ rest) = (doc, some rest) := by
  have hword : scanWord word (seen word ++ rest) = .ok rest := by
    induction word with
    | nil => rfl
    | cons c word ih => simpa [scanWord] using ih
  unfold scanIdent
  rw [hword]

theorem Value.scansBack_str (s : String) : (Value.str s).ScansBack := by
  intro fuel rest _ hfuel
  have hchars : seen (Value.str s).chars ++ rest =
      some '"' :: (seen (s.toList.flatMap escapeChar) ++ some '"' :: rest) := by
    simp [chars, quote]
  obtain ⟨fuel, rfl⟩ : ∃ k, fuel = k + 1 := ⟨fuel - 1, by simp [chars, quote] at hfuel; omega⟩
  rw [hchars, scanValue, skipBlanks_cons (by decide)]
  simp only [scanString_quote, scanned, toDoc]

/-! ### Lists -/

section Items

variable {fuel : Nat} {cs rest : List (Option Char)} {item : Doc}

theorem scanItems_last (h : scanValue fuel cs = (item, some (some ']' :: rest))) :
    scanItems (fuel + 1) cs = ([item], .closed, some rest) := by
  rw [scanItems, h]
  simp only [skipBlanks_cons (c := some ']') (by decide)]

/-- A comma and the beginning of a value lead to the next item. -/
theorem scanItems_comma {c : Char}
    (h : scanValue fuel cs = (item, some (some ',' :: some c :: rest)))
    (hblank : isJsonBlank (some c) = false) (hc : c ≠ ']') {items : List Doc} {ending : Ending}
    {after : Option (List (Option Char))}
    (hmore : scanItems fuel (some c :: rest) = (items, ending, after)) :
    scanItems (fuel + 1) cs = (item :: items, ending, after) := by
  rw [scanItems, h]
  simp only [skipBlanks_cons (c := some ',') (by decide), skipBlanks_cons hblank]
  split
  · next heq => cases heq
  · next heq =>
    cases heq
    exact absurd rfl hc
  · rw [hmore]

/-- A bracket and the beginning of a value lead to the items of a list. -/
theorem scanValue_list {c : Char} (hblank : isJsonBlank (some c) = false) (hc : c ≠ ']')
    {items : List Doc} {ending : Ending} {after : Option (List (Option Char))}
    (h : scanItems fuel (some c :: rest) = (items, ending, after)) :
    scanValue (fuel + 1) (some '[' :: some c :: rest) = (.arr items ending, after) := by
  rw [scanValue, skipBlanks_cons (by decide)]
  simp only [skipBlanks_cons hblank]
  split
  · next heq => cases heq
  · next heq =>
    cases heq
    exact absurd rfl hc
  · rw [h]

/-- The text of items begins like that of the first of them. -/
theorem exists_itemChars_eq {w : Value} (h : w.Floatless) (ws : List Value) :
    ∃ c cs, itemChars (w :: ws) = c :: cs ∧ isJsonBlank (some c) = false ∧ c ≠ ']' := by
  obtain ⟨c, cs, hbegin, hblank, hc⟩ := h.exists_chars_eq
  cases ws with
  | nil =>
    rw [itemChars]
    exact ⟨c, cs, hbegin, hblank, hc⟩
  | cons x xs =>
    rw [itemChars, hbegin]
    exact ⟨c, _, rfl, hblank, hc⟩

/-- The items of a list that is not empty. -/
theorem scanItems_chars {v : Value} {vs : List Value}
    (hplain : ∀ w ∈ v :: vs, w.Floatless) (hscan : ∀ w ∈ v :: vs, w.ScansBack)
    (hfuel : 2 * (itemChars (v :: vs)).length < fuel) :
    scanItems fuel (seen (itemChars (v :: vs)) ++ some ']' :: rest) =
      (itemDocs (v :: vs), .closed, some rest) := by
  obtain ⟨fuel, rfl⟩ : ∃ k, fuel = k + 1 := ⟨fuel - 1, by omega⟩
  induction vs generalizing v fuel with
  | nil =>
    rw [itemChars] at hfuel ⊢
    exact scanItems_last (hscan v List.mem_cons_self fuel (some ']' :: rest) rfl (by omega))
  | cons w ws ih =>
    rw [itemChars] at hfuel ⊢
    simp only [List.length_append, List.length_cons] at hfuel
    obtain ⟨fuel, rfl⟩ : ∃ k, fuel = k + 1 := ⟨fuel - 1, by omega⟩
    have hv := hscan v List.mem_cons_self (fuel + 1)
      (some ',' :: (seen (itemChars (w :: ws)) ++ some ']' :: rest)) rfl (by omega)
    have hrest := ih (fun x hx => hplain x (List.mem_cons_of_mem _ hx))
      (fun x hx => hscan x (List.mem_cons_of_mem _ hx)) fuel (by omega)
    obtain ⟨c, cs, hbegin, hblank, hc⟩ := exists_itemChars_eq (hplain w (by simp)) ws
    rw [hbegin, seen_cons, List.cons_append] at hv hrest
    rw [seen_append, List.append_assoc, seen_cons, List.cons_append, hbegin, seen_cons,
      List.cons_append]
    exact scanItems_comma hv hblank hc hrest

end Items

/-! ### Objects -/

section Entries

variable {fuel : Nat} {cs vs rest : List (Option Char)} {key : String} {item : Doc}

theorem scanEntries_last (hkey : scanString cs = .ok (.ok key, some ':' :: vs))
    (h : scanValue fuel vs = (item, some (some '\x7d' :: rest))) :
    scanEntries (fuel + 1) cs = ([(.ok key, item)], .closed, some rest) := by
  rw [scanEntries, hkey]
  simp only [skipBlanks_cons (c := some ':') (by decide), h,
    skipBlanks_cons (c := some '\x7d') (by decide)]

/-- A comma and a quote lead to the next entry. -/
theorem scanEntries_comma (hkey : scanString cs = .ok (.ok key, some ':' :: vs))
    (h : scanValue fuel vs = (item, some (some ',' :: some '"' :: rest)))
    {entries : List (Except Fault String × Doc)} {ending : Ending}
    {after : Option (List (Option Char))}
    (hmore : scanEntries fuel rest = (entries, ending, after)) :
    scanEntries (fuel + 1) cs = ((.ok key, item) :: entries, ending, after) := by
  rw [scanEntries, hkey]
  simp only [skipBlanks_cons (c := some ':') (by decide), h,
    skipBlanks_cons (c := some ',') (by decide), skipBlanks_cons (c := some '"') (by decide), hmore]

/-- A brace and a quote lead to the entries of an object. -/
theorem scanValue_object {entries : List (Except Fault String × Doc)} {ending : Ending}
    {after : Option (List (Option Char))} (h : scanEntries fuel rest = (entries, ending, after)) :
    scanValue (fuel + 1) (some '\x7b' :: some '"' :: rest) = (.obj entries ending, after) := by
  rw [scanValue, skipBlanks_cons (by decide)]
  simp only [skipBlanks_cons (c := some '"') (by decide), h]

theorem entryChars_cons (e : String × Value) (es : List (String × Value)) :
    entryChars (e :: es) = '"' :: (entryChars (e :: es)).tail := by
  cases es with
  | nil => simp [entryChars, quote]
  | cons d ds => simp [entryChars, quote]

/-- The entries of an object that is not empty, after the first quote. -/
theorem scanEntries_chars {e : String × Value} {es : List (String × Value)}
    (hscan : ∀ d ∈ e :: es, d.2.ScansBack) (hfuel : 2 * (entryChars (e :: es)).length < fuel) :
    scanEntries fuel (seen (entryChars (e :: es)).tail ++ some '\x7d' :: rest) =
      (entryDocs (e :: es), .closed, some rest) := by
  obtain ⟨fuel, rfl⟩ : ∃ k, fuel = k + 1 := ⟨fuel - 1, by omega⟩
  induction es generalizing e fuel with
  | nil =>
    obtain ⟨key, v⟩ := e
    have hchars : seen (entryChars [(key, v)]).tail ++ some '\x7d' :: rest =
        seen (key.toList.flatMap escapeChar) ++
          some '"' :: some ':' :: (seen v.chars ++ some '\x7d' :: rest) := by
      simp [entryChars, quote]
    have hlength : v.chars.length ≤ (entryChars [(key, v)]).length := by
      simp [entryChars]
      omega
    have hv := hscan (key, v) List.mem_cons_self fuel (some '\x7d' :: rest) rfl
      (by dsimp only; omega)
    rw [hchars]
    exact scanEntries_last (scanString_quote key _) hv
  | cons d ds ih =>
    obtain ⟨key, v⟩ := e
    have hchars : seen (entryChars ((key, v) :: d :: ds)).tail ++ some '\x7d' :: rest =
        seen (key.toList.flatMap escapeChar) ++ some '"' :: some ':' :: (seen v.chars ++
          some ',' :: some '"' :: (seen (entryChars (d :: ds)).tail ++ some '\x7d' :: rest)) := by
      rw [entryChars, entryChars_cons d ds]
      simp [quote]
    have hlength : v.chars.length + (entryChars (d :: ds)).length + 1 ≤
        (entryChars ((key, v) :: d :: ds)).length := by
      simp [entryChars]
      omega
    obtain ⟨fuel, rfl⟩ : ∃ k, fuel = k + 1 := ⟨fuel - 1, by omega⟩
    have hv := hscan (key, v) List.mem_cons_self (fuel + 1)
      (some ',' :: some '"' :: (seen (entryChars (d :: ds)).tail ++ some '\x7d' :: rest)) rfl
      (by dsimp only; omega)
    have hrest := ih (fun x hx => hscan x (List.mem_cons_of_mem _ hx)) fuel (by omega)
    rw [hchars]
    exact scanEntries_comma (scanString_quote key _) hv hrest

end Entries

/-! ### Whole values -/

/-- The text of a value without floating-point numbers is scanned as the value. -/
theorem Value.Floatless.scansBack {v : Value} (h : v.Floatless) : v.ScansBack := by
  induction h with
  | null =>
    intro fuel rest hrest hfuel
    obtain ⟨fuel, rfl⟩ : ∃ k, fuel = k + 1 := ⟨fuel - 1, by simp [chars] at hfuel; omega⟩
    exact scanIdent_word .null ['u', 'l', 'l'] rest
  | bool b =>
    intro fuel rest hrest hfuel
    have hpos : 0 < fuel := by cases b <;> simp [chars] at hfuel <;> omega
    obtain ⟨fuel, rfl⟩ : ∃ k, fuel = k + 1 := ⟨fuel - 1, by omega⟩
    cases b with
    | false => exact scanIdent_word (.bool false) ['a', 'l', 's', 'e'] rest
    | true => exact scanIdent_word (.bool true) ['r', 'u', 'e'] rest
  | @int n h =>
    intro fuel rest hrest hfuel
    obtain ⟨c, cs, hchars, -, -⟩ := exists_intChars_eq n
    obtain ⟨fuel, rfl⟩ : ∃ k, fuel = k + 1 := ⟨fuel - 1, by simp [hchars] at hfuel; omega⟩
    exact scanValue_int h fuel hrest
  | str s => exact Value.scansBack_str s
  | @arr items h ih =>
    intro fuel rest hrest hfuel
    simp only [chars, List.length_cons, List.length_append, List.length_nil] at hfuel
    obtain ⟨fuel, rfl⟩ : ∃ k, fuel = k + 1 := ⟨fuel - 1, by omega⟩
    have hchars : seen (Value.arr items).chars ++ rest =
        some '[' :: (seen (itemChars items) ++ some ']' :: rest) := by
      simp [chars]
    rw [hchars]
    cases items with
    | nil => rfl
    | cons v vs =>
      have hitems : scanItems fuel (seen (itemChars (v :: vs)) ++ some ']' :: rest) =
          (itemDocs (v :: vs), .closed, some rest) :=
        scanItems_chars h ih (by omega)
      obtain ⟨c, cs, hbegin, hblank, hc⟩ := exists_itemChars_eq (h v List.mem_cons_self) vs
      rw [hbegin, seen_cons, List.cons_append] at hitems ⊢
      exact scanValue_list hblank hc hitems
  | @obj entries h ih =>
    intro fuel rest hrest hfuel
    simp only [chars, List.length_cons, List.length_append, List.length_nil] at hfuel
    obtain ⟨fuel, rfl⟩ : ∃ k, fuel = k + 1 := ⟨fuel - 1, by omega⟩
    have hchars : seen (Value.obj entries).chars ++ rest =
        some '\x7b' :: (seen (entryChars entries) ++ some '\x7d' :: rest) := by
      simp [chars]
    rw [hchars]
    cases entries with
    | nil => rfl
    | cons e es =>
      have hentries : scanEntries fuel (seen (entryChars (e :: es)).tail ++ some '\x7d' :: rest) =
          (entryDocs (e :: es), .closed, some rest) :=
        scanEntries_chars ih (by omega)
      rw [entryChars_cons, seen_cons, List.cons_append]
      exact scanValue_object hentries

/-- The text of a value without floating-point numbers is read as the value. -/
theorem ofText_render {v : Value} (h : v.Floatless) : Doc.ofText v.render = (v.toDoc, false) := by
  have hscan : scanValue (2 * (v.chars.map some).length + 2) (v.chars.map some) =
      (v.toDoc, some []) := by
    have hback := h.scansBack (2 * v.chars.length + 2) [] rfl (by omega)
    rwa [List.append_nil, ← List.length_map some] at hback
  unfold Doc.ofText Doc.scan Value.render
  rw [String.toList_ofList, hscan]
  rfl

/-! ### Printed characters -/

/-- A character that is no control character. -/
def Printable (c : Char) : Prop := 0x20 ≤ c.toNat

instance (c : Char) : Decidable (Printable c) := inferInstanceAs (Decidable (_ ≤ _))

theorem printable_hexDigit {n : Nat} (h : n < 16) : Printable (Text.hexDigit n) := by
  have all : ∀ m ∈ List.range 16, Printable (Text.hexDigit m) := by decide
  exact all n (List.mem_range.2 h)

theorem printable_digitChar {d : Nat} (h : d < 10) : Printable (Nat.digitChar d) := by
  have all : ∀ m ∈ List.range 10, Printable (Nat.digitChar m) := by decide
  exact all d (List.mem_range.2 h)

theorem printable_escapeChar (c : Char) : ∀ d ∈ escapeChar c, Printable d := by
  fun_cases escapeChar c
  case case8 hnumber =>
    intro d hd
    simp only [List.mem_cons, List.not_mem_nil, or_false] at hd
    obtain rfl | rfl | rfl | rfl | rfl | rfl := hd
    · decide
    · decide
    · decide
    · decide
    · exact printable_hexDigit (by omega)
    · exact printable_hexDigit (by omega)
  case case9 hprint =>
    intro d hd
    obtain rfl := List.mem_singleton.1 hd
    exact Nat.le_of_not_lt hprint
  -- the other escapes are by a letter
  all_goals
    intro d hd
    simp only [List.mem_cons, List.not_mem_nil, or_false] at hd
    obtain rfl | rfl := hd
    · decide
    · decide

theorem printable_quote {s : String} {c : Char} (h : c ∈ quote s) : Printable c := by
  simp only [quote, List.mem_cons, List.mem_append, List.mem_flatMap, List.not_mem_nil,
    or_false] at h
  obtain rfl | ⟨d, -, hc⟩ | rfl := h
  · decide
  · exact printable_escapeChar d c hc
  · decide

theorem printable_str {s : String} {c : Char} (h : c ∈ (Value.str s).chars) : Printable c := by
  rw [Value.chars] at h
  exact printable_quote h

theorem printable_ofInt {n : Int} {c : Char} (h : c ∈ (Value.ofInt n).chars) : Printable c := by
  have hdigits {n : Nat} (h : c ∈ Nat.toDigits 10 n) : Printable c := by
    obtain ⟨d, hd, rfl⟩ := Text.mem_toDigits (by decide) h
    exact printable_digitChar hd
  cases n with
  | ofNat n =>
    have hchars : (Value.ofInt (.ofNat n)).chars = Nat.toDigits 10 n := String.toList_ofList
    exact hdigits (hchars ▸ h)
  | negSucc n =>
    rw [chars_negSucc, List.mem_cons] at h
    obtain rfl | h := h
    · decide
    · exact hdigits h

theorem mem_entryChars {entries : List (String × Value)} {c : Char} (h : c ∈ entryChars entries) :
    c = ',' ∨ c = ':' ∨ ∃ e ∈ entries, c ∈ quote e.1 ∨ c ∈ e.2.chars := by
  induction entries with
  | nil => cases h
  | cons e es ih =>
    cases es with
    | nil =>
      rw [entryChars, List.mem_append, List.mem_cons] at h
      obtain h | h | h := h
      · exact .inr (.inr ⟨e, List.mem_cons_self, .inl h⟩)
      · exact .inr (.inl h)
      · exact .inr (.inr ⟨e, List.mem_cons_self, .inr h⟩)
    | cons d ds =>
      rw [entryChars, List.mem_append, List.mem_cons, List.mem_append, List.mem_cons] at h
      obtain h | h | h | h | h := h
      · exact .inr (.inr ⟨e, List.mem_cons_self, .inl h⟩)
      · exact .inr (.inl h)
      · exact .inr (.inr ⟨e, List.mem_cons_self, .inr h⟩)
      · exact .inl h
      · exact (ih h).imp_right fun h => h.imp_right fun ⟨x, hx, hc⟩ =>
          ⟨x, List.mem_cons_of_mem _ hx, hc⟩

/-- The text of an object whose values have no control characters has none, so no end of a line. -/
theorem printable_obj {entries : List (String × Value)}
    (h : ∀ e ∈ entries, ∀ c ∈ e.2.chars, Printable c) :
    ∀ c ∈ (Value.obj entries).chars, Printable c := by
  intro c hc
  simp only [Value.chars, List.mem_cons, List.mem_append, List.not_mem_nil, or_false] at hc
  obtain rfl | hc | rfl := hc
  · decide
  · obtain rfl | rfl | ⟨e, he, hc | hc⟩ := mem_entryChars hc
    · decide
    · decide
    · exact printable_quote hc
    · exact h e he c hc
  · decide

/-! ### Lists of a type -/

section Lists

variable {α : Type} {d : Decoder α} {encode : α → Value}

theorem decodeItems_map {source : Source} (h : ∀ x, d source (encode x).toDoc = .ok x) (i : Nat)
    (xs : List α) : decodeItems d source i (itemDocs (xs.map encode)) = .ok xs := by
  induction xs generalizing i with
  | nil => rfl
  | cons x xs ih =>
    rw [List.map_cons, itemDocs, decodeItems, h]
    dsimp only
    rw [ih]
    rfl

/-- A list whose members are read back is itself read back from its text. -/
theorem ofText_list (hplain : ∀ x, (encode x).Floatless)
    (hread : ∀ x, d .text (encode x).toDoc = .ok x) (xs : List α) :
    (list d).ofText (Value.arr (xs.map encode)).render = .ok xs := by
  have hvalue : (Value.arr (xs.map encode)).Floatless := by
    apply Value.Floatless.arr
    intro v hv
    obtain ⟨x, -, rfl⟩ := List.mem_map.1 hv
    exact hplain x
  unfold Decoder.ofText
  rw [ofText_render hvalue]
  simp only [Decoder.ofScan, Value.toDoc, list, decodeItems_map hread, Ending.listFault?]
  rfl

end Lists

end NodeFleet.Json
