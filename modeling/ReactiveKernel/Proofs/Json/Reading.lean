import ReactiveKernel.Proofs.Json.Numerals
import ReactiveKernel.Proofs.Json.Strings

/-!
# Reading what is written

The compact text of every value is read to its end, and the document says what the value says: the
same truth values, strings, items and members in the same order, and the same integers as long as
they fit a word. The induction is on the value; the fuel of a reader is twice the characters left.
-/

namespace ReactiveKernel.Json

open Document

mutual

/-- A document says what a value says. A double without a finite value is null. -/
inductive Means : Json → Document → Prop where
  | null : Means .null .null
  | bool (b : Bool) : Means (.bool b) (.bool b)
  | int {n : Int} {v : Numeral} (same : ∀ word, v = @Numeral.integer n word) :
    Means (.int n) (.number v)
  | float {x : Binary64} {v : Numeral} (finite : x.isFinite) : Means (.float x) (.number v)
  | undefined {x : Binary64} (infinite : x.isFinite = false) : Means (.float x) .null
  | text (s : String) : Means (.text s) (.text (some s))
  | array {items : List Json} {ds : List Document} (all : ItemsMean items ds) :
    Means (.array items) (.array ds)
  | object {members : List (String × Json)} {ds : List (Option String × Document)}
    (all : MembersMean members ds) : Means (.object members) (.object ds)

/-- Documents say one by one what values say. -/
inductive ItemsMean : List Json → List Document → Prop where
  | nil : ItemsMean [] []
  | cons {j : Json} {d : Document} {items : List Json} {ds : List Document} (first : Means j d)
    (others : ItemsMean items ds) : ItemsMean (j :: items) (d :: ds)

/-- Members have the same keys, and their documents say what the values say. -/
inductive MembersMean : List (String × Json) → List (Option String × Document) → Prop where
  | nil : MembersMean [] []
  | cons {key : String} {j : Json} {d : Document} {members : List (String × Json)}
    {ds : List (Option String × Document)} (first : Means j d) (others : MembersMean members ds) :
    MembersMean ((key, j) :: members) ((some key, d) :: ds)

end

section

variable {d : Document} {ds : List Document} {es : List (Option String × Document)}

@[simp] theorem means_bool {b : Bool} : Means (.bool b) d ↔ d = .bool b :=
  ⟨fun h => by cases h; rfl, fun h => h ▸ .bool b⟩

@[simp] theorem means_text {s : String} : Means (.text s) d ↔ d = .text (some s) :=
  ⟨fun h => by cases h; rfl, fun h => h ▸ .text s⟩

/-- An integer of one word is read as itself. -/
theorem means_int {n : Int} (word : InWord n) :
    Means (.int n) d ↔ d = .number (@Numeral.integer n word) := by
  refine ⟨fun h => ?_, fun h => h ▸ .int fun _ => rfl⟩
  cases h with
  | int same => rw [same word]

@[simp] theorem means_array {items : List Json} :
    Means (.array items) d ↔ ∃ ds, d = .array ds ∧ ItemsMean items ds :=
  ⟨fun h => by cases h with | array all => exact ⟨_, rfl, all⟩,
    fun ⟨_, same, all⟩ => same ▸ .array all⟩

@[simp] theorem means_object {members : List (String × Json)} :
    Means (.object members) d ↔ ∃ es, d = .object es ∧ MembersMean members es :=
  ⟨fun h => by cases h with | object all => exact ⟨_, rfl, all⟩,
    fun ⟨_, same, all⟩ => same ▸ .object all⟩

@[simp] theorem itemsMean_nil : ItemsMean [] ds ↔ ds = [] :=
  ⟨fun h => by cases h; rfl, fun h => h ▸ .nil⟩

@[simp] theorem itemsMean_cons {j : Json} {items : List Json} :
    ItemsMean (j :: items) ds ↔ ∃ d more, ds = d :: more ∧ Means j d ∧ ItemsMean items more :=
  ⟨fun h => by cases h with | cons first others => exact ⟨_, _, rfl, first, others⟩,
    fun ⟨_, _, same, first, others⟩ => same ▸ .cons first others⟩

@[simp] theorem membersMean_nil : MembersMean [] es ↔ es = [] :=
  ⟨fun h => by cases h; rfl, fun h => h ▸ .nil⟩

@[simp] theorem membersMean_cons {key : String} {j : Json} {members : List (String × Json)} :
    MembersMean ((key, j) :: members) es ↔
      ∃ d more, es = (some key, d) :: more ∧ Means j d ∧ MembersMean members more :=
  ⟨fun h => by cases h with | cons first others => exact ⟨_, _, rfl, first, others⟩,
    fun ⟨_, _, same, first, others⟩ => same ▸ .cons first others⟩

/-- An object of one member. -/
theorem means_member {key : String} {j : Json} :
    Means (.object [(key, j)]) d ↔
      ∃ content, d = .object [(some key, content)] ∧ Means j content := by
  simp only [means_object, membersMean_cons, membersMean_nil]
  constructor
  · rintro ⟨_, rfl, content, _, rfl, inner, rfl⟩
    exact ⟨content, rfl, inner⟩
  · rintro ⟨content, rfl, inner⟩
    exact ⟨_, rfl, content, _, rfl, inner, rfl⟩

end

/-! ### Characters of a text -/

/-- The characters that a value can start with. -/
def Opening (c : Char) : Prop := c ∈ ['n', 't', 'f', '"', '[', '\x7b', '-'] ∨ c.isDigit

/-- A text starts with some character. -/
def StartsWith (p : Char → Prop) (cs : List Char) : Prop := ∃ c rest, cs = c :: rest ∧ p c

/-- An integer starts as a value does. -/
theorem opening_intDigits (n : Int) : StartsWith Opening (Layout.intDigits n) := by
  obtain ⟨c, rest, same, start⟩ := (written_intDigits n).first
  exact ⟨c, rest, same, start.imp_left (by rintro rfl; decide)⟩

/-- A double starts as a value does. -/
theorem opening_floatChars (x : Binary64) : StartsWith Opening (floatChars x) := by
  unfold floatChars
  split
  · obtain ⟨t, written⟩ := written_writeFinite x
    obtain ⟨c, rest, same, start⟩ := written.first
    exact ⟨c, rest, same, start.imp_left (by rintro rfl; decide)⟩
  · exact ⟨_, _, rfl, .inl (by decide)⟩

/-- The text of a value starts as a value does. -/
theorem opening_chars (j : Json) : StartsWith Opening j.chars := by
  match j with
  | .null => exact ⟨_, _, rfl, .inl (by decide)⟩
  | .bool true => exact ⟨_, _, rfl, .inl (by decide)⟩
  | .bool false => exact ⟨_, _, rfl, .inl (by decide)⟩
  | .int n => simpa only [chars] using opening_intDigits n
  | .float x => simpa only [chars] using opening_floatChars x
  | .text s => exact ⟨_, _, rfl, .inl (by decide)⟩
  | .array items => exact ⟨'[', _, by rw [chars]; rfl, .inl (by decide)⟩
  | .object members => exact ⟨'\x7b', _, by rw [chars]; rfl, .inl (by decide)⟩

/-- No blank and no closing bracket is at the start of a value. -/
theorem Opening.plain {c : Char} (start : Opening c) :
    isSpace c = false ∧ c ≠ ']' ∧ c ≠ '\x7d' ∧ c ≠ ',' := by
  rcases start with listed | digit
  · have all : ∀ c ∈ ['n', 't', 'f', '"', '[', '\x7b', '-'],
        isSpace c = false ∧ c ≠ ']' ∧ c ≠ '\x7d' ∧ c ≠ ',' := by simp [isSpace]
    exact all c listed
  · refine ⟨?_, ?_, ?_, ?_⟩
    · simp only [isSpace, Bool.or_eq_false_iff, beq_eq_false_iff_ne]
      refine ⟨⟨⟨?_, ?_⟩, ?_⟩, ?_⟩ <;> rintro rfl <;> exact absurd digit (by decide)
    all_goals rintro rfl; exact absurd digit (by decide)

/-- No space is skipped if none comes first. -/
theorem skipSpace_cons {c : Char} (plain : isSpace c = false) (cs : List Char) :
    skipSpace (c :: cs) = c :: cs := by
  simp [skipSpace, plain]

/-- A single piece has no comma. -/
theorem commaSeparated_single (p : List Char) : commaSeparated [p] = p := by
  simp [commaSeparated, List.intercalate]

/-- A comma stands between the first piece and those behind it. -/
theorem commaSeparated_cons_cons (p q : List Char) (ps : List (List Char)) :
    commaSeparated (p :: q :: ps) = p ++ ',' :: commaSeparated (q :: ps) := by
  simp [commaSeparated, List.intercalate]

/-- A comma stands between the first item and those behind it. -/
theorem commaSeparated_items (item other : Json) (items : List Json) :
    commaSeparated (itemChars (item :: other :: items)) =
      item.chars ++ ',' :: commaSeparated (itemChars (other :: items)) :=
  commaSeparated_cons_cons ..

/-- A comma stands between the first member and those behind it. -/
theorem commaSeparated_members (key name : String) (value other : Json)
    (members : List (String × Json)) :
    commaSeparated (memberChars ((key, value) :: (name, other) :: members)) =
      stringChars key ++ ':' :: value.chars ++ ',' ::
        commaSeparated (memberChars ((name, other) :: members)) :=
  commaSeparated_cons_cons ..

/-- No control character stands in a double. -/
theorem le_of_mem_floatChars {x : Binary64} {c : Char} (h : c ∈ floatChars x) :
    0x20 ≤ c.toNat := by
  unfold floatChars at h
  split at h
  · obtain ⟨t, written⟩ := written_writeFinite x
    exact written.le_of_mem h
  · exact (by simp : ∀ c ∈ ['n', 'u', 'l', 'l'], 0x20 ≤ c.toNat) c h

/-- No control character stands in a list of pieces if none stands in a piece. -/
theorem le_of_mem_commaSeparated {ps : List (List Char)}
    (all : ∀ p ∈ ps, ∀ c ∈ p, 0x20 ≤ c.toNat) {c : Char} (h : c ∈ commaSeparated ps) :
    0x20 ≤ c.toNat := by
  induction ps with
  | nil => simp [commaSeparated, List.intercalate] at h
  | cons p ps ih =>
    have first := all p (List.mem_cons_self ..)
    have others := ih fun q hq => all q (List.mem_cons_of_mem _ hq)
    cases ps with
    | nil =>
      rw [commaSeparated_single] at h
      exact first c h
    | cons q ps =>
      rw [commaSeparated_cons_cons, List.mem_append, List.mem_cons] at h
      rcases h with h | rfl | h
      · exact first c h
      · decide
      · exact others h

/-- No control stands between two brackets that hold none. -/
theorem le_of_mem_bracketed {l r c : Char} {cs : List Char} (left : 0x20 ≤ l.toNat)
    (right : 0x20 ≤ r.toNat) (all : c ∈ cs → 0x20 ≤ c.toNat) (h : c ∈ l :: cs ++ [r]) :
    0x20 ≤ c.toNat := by
  simp only [List.cons_append, List.mem_cons, List.mem_append, List.not_mem_nil, or_false] at h
  rcases h with rfl | h | rfl
  · exact left
  · exact all h
  · exact right

mutual

/-- No control stands in the compact text of a value. -/
theorem le_of_mem_chars (j : Json) {c : Char} (h : c ∈ j.chars) : 0x20 ≤ c.toNat := by
  match j with
  | .null => exact (by simp [chars] : ∀ c ∈ Json.null.chars, 0x20 ≤ c.toNat) c h
  | .bool true => exact (by simp [chars] : ∀ c ∈ (Json.bool true).chars, 0x20 ≤ c.toNat) c h
  | .bool false => exact (by simp [chars] : ∀ c ∈ (Json.bool false).chars, 0x20 ≤ c.toNat) c h
  | .int n =>
    rw [chars] at h
    exact (written_intDigits n).le_of_mem h
  | .float x =>
    rw [chars] at h
    exact le_of_mem_floatChars h
  | .text s =>
    rw [chars] at h
    exact le_of_mem_stringChars h
  | .array items =>
    rw [chars] at h
    exact le_of_mem_bracketed (by decide) (by decide)
      (le_of_mem_commaSeparated (le_of_mem_itemChars items)) h
  | .object members =>
    rw [chars] at h
    exact le_of_mem_bracketed (by decide) (by decide)
      (le_of_mem_commaSeparated (le_of_mem_memberChars members)) h

/-- No control stands in the texts of items. -/
theorem le_of_mem_itemChars (items : List Json) :
    ∀ p ∈ itemChars items, ∀ c ∈ p, 0x20 ≤ c.toNat := by
  match items with
  | [] => simp [itemChars]
  | j :: items =>
    intro p hp c hc
    rw [itemChars, List.mem_cons] at hp
    rcases hp with rfl | hp
    · exact le_of_mem_chars j hc
    · exact le_of_mem_itemChars items p hp c hc

/-- No control stands in the texts of members. -/
theorem le_of_mem_memberChars (members : List (String × Json)) :
    ∀ p ∈ memberChars members, ∀ c ∈ p, 0x20 ≤ c.toNat := by
  match members with
  | [] => simp [memberChars]
  | (key, j) :: members =>
    intro p hp c hc
    rw [memberChars, List.mem_cons] at hp
    rcases hp with rfl | hp
    · rw [List.mem_append, List.mem_cons] at hc
      rcases hc with hc | rfl | hc
      · exact le_of_mem_stringChars hc
      · decide
      · exact le_of_mem_chars j hc
    · exact le_of_mem_memberChars members p hp c hc

end

/-! ### Reading one value -/

/-- A string that was written is read. -/
theorem readValue_text (fuel : Nat) (s : String) (rest : List Char) :
    readValue (fuel + 1) (stringChars s ++ rest) = some (.text (some s), rest) := by
  have read := readString_written s rest
  simp only [stringChars, List.cons_append, List.append_assoc, List.nil_append, readValue,
    skipSpace_cons (c := '"') rfl]
  rw [read]
  rfl

/-- A sign or a digit starts a numeral. -/
theorem readValue_numeral {c : Char} (start : c = '-' ∨ c.isDigit) (fuel : Nat) (cs : List Char) :
    readValue (fuel + 1) (c :: cs) =
      (readNumeral (c :: cs)).bind fun (t, rest) => some (.number t.value, rest) := by
  have opening : Opening c := start.imp_left (by rintro rfl; decide)
  have other : ∀ d ∈ ['n', 't', 'f', '"', '[', '\x7b'], c ≠ d := by
    rintro d listed rfl
    rcases start with rfl | digit
    · exact absurd listed (by decide)
    · have all : ∀ d ∈ ['n', 't', 'f', '"', '[', '\x7b'], d.isDigit = false := by simp
      rw [all c listed] at digit
      cases digit
  unfold readValue
  rw [skipSpace_cons opening.plain.1]
  split
  all_goals first
    | rfl
    | next same => cases same; exact absurd rfl (other _ (by decide))

/-- A numeral that was written is read. -/
theorem readValue_written {cs : List Char} {t : NumeralText} (written : Written cs t) (fuel : Nat)
    {rest : List Char} (closing : Closing rest) :
    readValue (fuel + 1) (cs ++ rest) = some (.number t.value, rest) := by
  have read := written.read closing
  obtain ⟨c, more, rfl, start⟩ := written.first
  rw [List.cons_append] at read ⊢
  rw [readValue_numeral start, read]
  rfl

/-- An array with an item is read by its items. -/
theorem readValue_items {cs : List Char} (start : StartsWith Opening cs) (fuel : Nat) :
    readValue (fuel + 1) ('[' :: cs) =
      (readItems fuel cs).bind fun (items, rest) => some (.array items, rest) := by
  obtain ⟨c, rest, rfl, opening⟩ := start
  obtain ⟨visible, open_, _⟩ := opening.plain
  simp only [readValue, skipSpace_cons (c := '[') rfl, skipSpace_cons visible]
  split
  · next same =>
    cases same
    exact absurd rfl open_
  · rfl

/-- An object with a member is read by its members. -/
theorem readValue_members {cs : List Char} (start : StartsWith Opening cs) (fuel : Nat) :
    readValue (fuel + 1) ('\x7b' :: cs) =
      (readMembers fuel cs).bind fun (members, rest) => some (.object members, rest) := by
  obtain ⟨c, rest, rfl, opening⟩ := start
  obtain ⟨visible, _, open_, _⟩ := opening.plain
  simp only [readValue, skipSpace_cons (c := '\x7b') rfl, skipSpace_cons visible]
  split
  · next same =>
    cases same
    exact absurd rfl open_
  · rfl

/-- A list of items starts as a value does. -/
theorem opening_items (j : Json) (items : List Json) (rest : List Char) :
    StartsWith Opening (commaSeparated (itemChars (j :: items)) ++ rest) := by
  obtain ⟨c, more, same, opening⟩ := opening_chars j
  cases items with
  | nil => exact ⟨c, _, by rw [itemChars, itemChars, commaSeparated_single, same]; rfl, opening⟩
  | cons other items =>
    exact ⟨c, _, by rw [itemChars, itemChars, commaSeparated_cons_cons, same]; rfl, opening⟩

/-- A list of members starts as a value does. -/
theorem opening_members (key : String) (j : Json) (members : List (String × Json))
    (rest : List Char) :
    StartsWith Opening (commaSeparated (memberChars ((key, j) :: members)) ++ rest) := by
  have opening : Opening '"' := .inl (by decide)
  cases members with
  | nil => exact ⟨_, _, by rw [memberChars, memberChars, commaSeparated_single]; rfl, opening⟩
  | cons other members =>
    exact ⟨_, _, by rw [memberChars, memberChars, commaSeparated_cons_cons]; rfl, opening⟩

/-! ### Reading items and members -/

/-- The last item is read to the closing bracket. -/
theorem readItems_last {fuel : Nat} {cs rest : List Char} {d : Document}
    (item : readValue fuel cs = some (d, ']' :: rest)) :
    readItems (fuel + 1) cs = some ([d], rest) := by
  rw [readItems, item]
  rfl

/-- An item is read to its comma, and then the others are. -/
theorem readItems_more {fuel : Nat} {cs more rest : List Char} {d : Document} {ds : List Document}
    (item : readValue fuel cs = some (d, ',' :: more))
    (others : readItems fuel more = some (ds, rest)) :
    readItems (fuel + 1) cs = some (d :: ds, rest) := by
  rw [readItems, item]
  simp only [Option.bind_eq_bind, Option.bind_some, skipSpace_cons (c := ',') rfl, others]
  rfl

/-- A key is read in front of its value. -/
theorem readMembers_last {fuel : Nat} {key : String} {cs rest : List Char} {d : Document}
    (value : readValue fuel cs = some (d, '\x7d' :: rest)) :
    readMembers (fuel + 1) (stringChars key ++ ':' :: cs) = some ([(some key, d)], rest) := by
  have name := readString_written key (':' :: cs)
  simp only [stringChars, List.cons_append, List.append_assoc, List.nil_append, readMembers,
    skipSpace_cons (c := '"') rfl, name, Option.bind_eq_bind, Option.bind_some,
    skipSpace_cons (c := ':') rfl, value]
  rfl

/-- A member is read to its comma, and then the others are. -/
theorem readMembers_more {fuel : Nat} {key : String} {cs more rest : List Char} {d : Document}
    {ds : List (Option String × Document)} (value : readValue fuel cs = some (d, ',' :: more))
    (others : readMembers fuel more = some (ds, rest)) :
    readMembers (fuel + 1) (stringChars key ++ ':' :: cs) = some ((some key, d) :: ds, rest) := by
  have name := readString_written key (':' :: cs)
  simp only [stringChars, List.cons_append, List.append_assoc, List.nil_append, readMembers,
    skipSpace_cons (c := '"') rfl, name, Option.bind_eq_bind, Option.bind_some,
    skipSpace_cons (c := ':') rfl, value, skipSpace_cons (c := ',') rfl, others]
  rfl

/-! ### Reading all values -/

/-- The text of a value is not empty. -/
theorem length_chars_pos (j : Json) : 0 < j.chars.length := by
  obtain ⟨c, rest, same, _⟩ := opening_chars j
  rw [same]
  exact Nat.succ_pos _

mutual

/-- The text of a value is read to its end. -/
theorem readValue_chars (j : Json) (fuel : Nat) {rest : List Char}
    (enough : 2 * j.chars.length ≤ fuel) (closing : Closing rest) :
    ∃ d, readValue fuel (j.chars ++ rest) = some (d, rest) ∧ Means j d := by
  have nonempty := length_chars_pos j
  obtain ⟨fuel, rfl⟩ : ∃ less, fuel = less + 1 := ⟨fuel - 1, by omega⟩
  match j with
  | .null => exact ⟨_, rfl, .null⟩
  | .bool true => exact ⟨_, rfl, .bool true⟩
  | .bool false => exact ⟨_, rfl, .bool false⟩
  | .int n =>
    rw [chars]
    exact ⟨_, readValue_written (written_intDigits n) fuel closing, .int value_ofInt⟩
  | .float x =>
    rw [chars, floatChars]
    split
    · next finite =>
      obtain ⟨t, written⟩ := written_writeFinite x
      exact ⟨_, readValue_written written fuel closing, .float finite⟩
    · next infinite => exact ⟨_, rfl, .undefined (by simpa using infinite)⟩
  | .text s => exact ⟨_, by rw [chars]; exact readValue_text fuel s rest, .text s⟩
  | .array [] => exact ⟨_, by rw [chars, itemChars]; rfl, .array .nil⟩
  | .array (item :: items) =>
    rw [chars] at enough ⊢
    simp only [List.length_cons, List.length_append, List.length_nil] at enough
    obtain ⟨ds, read, mean⟩ :=
      readItems_chars (item :: items) fuel rest (by simp) (by omega)
    refine ⟨_, ?_, .array mean⟩
    simp only [List.cons_append, List.append_assoc, List.nil_append]
    rw [readValue_items (opening_items ..), read]
    rfl
  | .object [] => exact ⟨_, by rw [chars, memberChars]; rfl, .object .nil⟩
  | .object ((key, value) :: members) =>
    rw [chars] at enough ⊢
    simp only [List.length_cons, List.length_append, List.length_nil] at enough
    obtain ⟨ds, read, mean⟩ :=
      readMembers_chars ((key, value) :: members) fuel rest (by simp) (by omega)
    refine ⟨_, ?_, .object mean⟩
    simp only [List.cons_append, List.append_assoc, List.nil_append]
    rw [readValue_members (opening_members ..), read]
    rfl

/-- The items of an array are read to its end. -/
theorem readItems_chars (items : List Json) (fuel : Nat) (rest : List Char) (nonempty : items ≠ [])
    (enough : 2 * (commaSeparated (itemChars items)).length + 1 ≤ fuel) :
    ∃ ds, readItems fuel (commaSeparated (itemChars items) ++ ']' :: rest) =
      some (ds, rest) ∧ ItemsMean items ds := by
  obtain ⟨fuel, rfl⟩ : ∃ less, fuel = less + 1 := ⟨fuel - 1, by omega⟩
  match items with
  | [] => exact absurd rfl nonempty
  | [item] =>
    simp only [itemChars, commaSeparated_single] at enough ⊢
    obtain ⟨d, read, mean⟩ := readValue_chars item fuel (by omega) (closing_bracket rest)
    exact ⟨_, readItems_last read, .cons mean .nil⟩
  | item :: other :: items =>
    rw [commaSeparated_items] at enough ⊢
    simp only [List.length_append, List.length_cons] at enough
    obtain ⟨d, read, mean⟩ := readValue_chars item fuel (by omega) (closing_comma _)
    obtain ⟨ds, others, means⟩ :=
      readItems_chars (other :: items) fuel rest (by simp) (by omega)
    rw [List.append_assoc, List.cons_append]
    exact ⟨_, readItems_more read others, .cons mean means⟩

/-- The members of an object are read to its end. -/
theorem readMembers_chars (members : List (String × Json)) (fuel : Nat) (rest : List Char)
    (nonempty : members ≠ [])
    (enough : 2 * (commaSeparated (memberChars members)).length + 1 ≤ fuel) :
    ∃ ds, readMembers fuel (commaSeparated (memberChars members) ++ '\x7d' :: rest) =
      some (ds, rest) ∧ MembersMean members ds := by
  obtain ⟨fuel, rfl⟩ : ∃ less, fuel = less + 1 := ⟨fuel - 1, by omega⟩
  match members with
  | [] => exact absurd rfl nonempty
  | [(key, value)] =>
    simp only [memberChars, commaSeparated_single] at enough ⊢
    simp only [List.length_append, List.length_cons] at enough
    obtain ⟨d, read, mean⟩ := readValue_chars value fuel (by omega) (closing_brace rest)
    rw [List.append_assoc, List.cons_append]
    exact ⟨_, readMembers_last read, .cons mean .nil⟩
  | (key, value) :: (name, other) :: members =>
    rw [commaSeparated_members] at enough ⊢
    simp only [List.length_append, List.length_cons] at enough
    obtain ⟨d, read, mean⟩ := readValue_chars value fuel (by omega) (closing_comma _)
    obtain ⟨ds, others, means⟩ :=
      readMembers_chars ((name, other) :: members) fuel rest (by simp)
        (by omega)
    simp only [List.append_assoc, List.cons_append]
    exact ⟨_, readMembers_more read others, .cons mean means⟩

end

/-- The text of a value is read as one document that says what the value says. -/
theorem read_render (j : Json) : ∃ d, Document.read j.render = some d ∧ Means j d := by
  obtain ⟨d, read, mean⟩ :=
    readValue_chars j (2 * j.chars.length + 2) (by omega) closing_nil
  refine ⟨d, ?_, mean⟩
  rw [List.append_nil] at read
  simp only [Document.read, render, String.toList_ofList, read]
  rfl

end ReactiveKernel.Json
