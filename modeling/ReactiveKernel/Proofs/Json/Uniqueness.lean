import ReactiveKernel.Proofs.Json.Reading

/-!
# No two values have the same text

Two values without doubles that have the same compact text are the same value. The first character
of a text tells which kind of value follows, a string ends at its first bare quote, an integer ends
before what closes it, and a list ends at its bracket; so two texts that agree are split in the same
places all the way down. Integers of any size are told apart, also those that do not fit a word.
-/

namespace ReactiveKernel.Json

open Document

mutual

/-- No double stands in a value. -/
def FloatFree : Json → Prop
  | .float _ => False
  | .array items => ItemsFloatFree items
  | .object members => MembersFloatFree members
  | .null | .bool _ | .int _ | .text _ => True

/-- No double stands in an item. -/
def ItemsFloatFree : List Json → Prop
  | [] => True
  | j :: items => j.FloatFree ∧ ItemsFloatFree items

/-- No double stands in the value of a member. -/
def MembersFloatFree : List (String × Json) → Prop
  | [] => True
  | (_, j) :: members => j.FloatFree ∧ MembersFloatFree members

end

/-- Items are free of doubles if each of them is. -/
theorem itemsFloatFree_iff {items : List Json} :
    ItemsFloatFree items ↔ ∀ j ∈ items, j.FloatFree := by
  induction items with
  | nil => simp [ItemsFloatFree]
  | cons j items ih => simp [ItemsFloatFree, ih]

/-- Members are free of doubles if the value of each of them is. -/
theorem membersFloatFree_iff {members : List (String × Json)} :
    MembersFloatFree members ↔ ∀ m ∈ members, m.2.FloatFree := by
  induction members with
  | nil => simp [MembersFloatFree]
  | cons m members ih => simp [MembersFloatFree, ih]

/-! ### Kinds of values -/

/-- The character by which a kind of value is known; all numbers have one. -/
def sign : Json → Char
  | .null => 'n'
  | .bool b => if b then 't' else 'f'
  | .int _ | .float _ => '0'
  | .text _ => '"'
  | .array _ => '['
  | .object _ => '\x7b'

/-- The kind of value that starts with some character. -/
def signOf (c : Char) : Char := if c = '-' ∨ c.isDigit then '0' else c

/-- The first character of a text says of which kind its value is. -/
theorem head_chars (j : Json) (free : j.FloatFree) :
    ∃ c rest, j.chars = c :: rest ∧ signOf c = j.sign := by
  match j with
  | .null => exact ⟨_, _, rfl, rfl⟩
  | .bool true => exact ⟨_, _, rfl, rfl⟩
  | .bool false => exact ⟨_, _, rfl, rfl⟩
  | .int n =>
    obtain ⟨c, rest, same, start⟩ := (written_intDigits n).first
    exact ⟨c, rest, by rw [chars, same], if_pos start⟩
  | .float x => exact free.elim
  | .text s => exact ⟨'"', _, by rw [chars, stringChars]; rfl, rfl⟩
  | .array items => exact ⟨'[', _, by rw [chars]; rfl, rfl⟩
  | .object members => exact ⟨'\x7b', _, by rw [chars]; rfl, rfl⟩

/-- Two values of one kind. -/
inductive Akin : Json → Json → Prop where
  | null : Akin .null .null
  | bool (b : Bool) : Akin (.bool b) (.bool b)
  | int (m n : Int) : Akin (.int m) (.int n)
  | text (s t : String) : Akin (.text s) (.text t)
  | array (items others : List Json) : Akin (.array items) (.array others)
  | object (members others : List (String × Json)) : Akin (.object members) (.object others)

/-- Values without doubles that start alike are of one kind. -/
theorem akin_of_sign {j j' : Json} (free : j.FloatFree) (free' : j'.FloatFree)
    (same : j.sign = j'.sign) : Akin j j' := by
  cases j <;> cases j' <;> first | constructor | grind [sign, FloatFree, Akin.bool]

/-- Texts with the same first character belong to values of one kind. -/
theorem akin_of_chars {j j' : Json} (free : j.FloatFree) (free' : j'.FloatFree)
    {rest rest' : List Char} (same : j.chars ++ rest = j'.chars ++ rest') : Akin j j' := by
  obtain ⟨c, cs, text, first⟩ := head_chars j free
  obtain ⟨c', cs', text', first'⟩ := head_chars j' free'
  rw [text, text'] at same
  obtain ⟨rfl, -⟩ := List.cons.inj same
  exact akin_of_sign free free' (first.symm.trans first')

/-! ### Ends of values -/

/-- A string ends at its first bare quote. -/
theorem stringChars_unique {s t : String} {rest rest' : List Char}
    (same : stringChars s ++ rest = stringChars t ++ rest') : s = t ∧ rest = rest' := by
  have read := readString_written s rest
  simp only [stringChars, List.cons_append, List.append_assoc, List.nil_append, List.cons.injEq,
    true_and] at same
  rw [same, readString_written t rest'] at read
  simp only [Option.some.injEq, Prod.mk.injEq] at read
  exact ⟨read.1.symm, read.2.symm⟩

/-- An integer ends before what closes it. -/
theorem intDigits_unique {m n : Int} {rest rest' : List Char} (closing : Closing rest)
    (closing' : Closing rest') (same : Layout.intDigits m ++ rest = Layout.intDigits n ++ rest') :
    m = n ∧ rest = rest' := by
  have read := (written_intDigits m).read closing
  rw [same, (written_intDigits n).read closing'] at read
  simp only [Option.some.injEq, Prod.mk.injEq] at read
  exact ⟨NumeralText.ofInt_injective read.1.symm, read.2.symm⟩

/-- Pieces behind the first, each with a comma in front. -/
def behind (pieces : List (List Char)) : List Char := pieces.flatMap fun p => ',' :: p

/-- The first piece has no comma in front, and all those behind it have. -/
theorem commaSeparated_cons (p : List Char) (ps : List (List Char)) :
    commaSeparated (p :: ps) = p ++ behind ps := by
  induction ps generalizing p with
  | nil => simp [behind, commaSeparated_single]
  | cons q ps ih => rw [commaSeparated_cons_cons, ih]; rfl

/-- Behind a piece stands another one or the end. -/
theorem closing_behind (ps : List (List Char)) {rest : List Char} (closing : Closing rest) :
    Closing (behind ps ++ rest) := by
  cases ps with
  | nil => exact closing
  | cons p ps => exact closing_comma _

/-- A list with a piece does not start like the end of an empty one. -/
theorem commaSeparated_ne_closing {ps : List (List Char)} {close : Char} {rest rest' : List Char}
    (bracket : close = ']' ∨ close = '\x7d') (some : ps ≠ [])
    (opening : ∀ p ∈ ps.head?, StartsWith Opening p) :
    commaSeparated ps ++ rest ≠ close :: rest' := by
  intro same
  obtain ⟨p, ps, rfl⟩ := List.exists_cons_of_ne_nil some
  obtain ⟨c, cs, rfl, first⟩ := opening p rfl
  rw [commaSeparated_cons] at same
  obtain ⟨rfl, -⟩ := List.cons.inj same
  obtain ⟨-, notBracket, notBrace, -⟩ := first.plain
  exact bracket.elim notBracket notBrace

/-- Lists with the same text up to their brackets have the same pieces, each behind a comma. -/
theorem behind_of_commaSeparated {ps qs : List (List Char)} {close : Char}
    {rest rest' : List Char} (bracket : close = ']' ∨ close = '\x7d')
    (opening : ∀ p ∈ ps.head?, StartsWith Opening p)
    (opening' : ∀ q ∈ qs.head?, StartsWith Opening q)
    (same : commaSeparated ps ++ close :: rest = commaSeparated qs ++ close :: rest') :
    behind ps ++ close :: rest = behind qs ++ close :: rest' := by
  cases ps with
  | nil =>
    cases qs with
    | nil => exact same
    | cons q qs => exact absurd same.symm (commaSeparated_ne_closing bracket (by simp) opening')
  | cons p ps =>
    cases qs with
    | nil => exact absurd same (commaSeparated_ne_closing bracket (by simp) opening)
    | cons q qs =>
      rw [commaSeparated_cons, commaSeparated_cons] at same
      exact congrArg (',' :: ·) same

/-- The first item starts as a value does. -/
theorem opening_head_items (items : List Json) :
    ∀ p ∈ (itemChars items).head?, StartsWith Opening p := by
  cases items with
  | nil => simp [itemChars]
  | cons j items => simpa [itemChars] using opening_chars j

/-- The first member starts as a value does. -/
theorem opening_head_members (members : List (String × Json)) :
    ∀ p ∈ (memberChars members).head?, StartsWith Opening p := by
  cases members with
  | nil => simp [memberChars]
  | cons m members =>
    obtain ⟨key, j⟩ := m
    have start : StartsWith Opening (stringChars key ++ ':' :: j.chars) :=
      ⟨'"', _, rfl, .inl (by decide)⟩
    simpa [memberChars] using start

/-! ### The value of a text -/

mutual

/-- A text tells the value that it starts with and where that value ends. -/
theorem chars_unique (j j' : Json) (free : j.FloatFree) (free' : j'.FloatFree)
    {rest rest' : List Char} (closing : Closing rest) (closing' : Closing rest')
    (same : j.chars ++ rest = j'.chars ++ rest') : j = j' ∧ rest = rest' := by
  match j, j', akin_of_chars free free' same with
  | _, _, .null => exact ⟨rfl, List.append_cancel_left same⟩
  | _, _, .bool b => exact ⟨rfl, List.append_cancel_left same⟩
  | _, _, .int m n =>
    rw [chars, chars] at same
    obtain ⟨rfl, equal⟩ := intDigits_unique closing closing' same
    exact ⟨rfl, equal⟩
  | _, _, .text s t =>
    rw [chars, chars] at same
    obtain ⟨rfl, equal⟩ := stringChars_unique same
    exact ⟨rfl, equal⟩
  | _, _, .array items others =>
    rw [chars, chars] at same
    simp only [List.cons_append, List.append_assoc, List.nil_append, List.cons.injEq,
      true_and] at same
    obtain ⟨rfl, equal⟩ := items_unique items others free free'
      (behind_of_commaSeparated (.inl rfl) (opening_head_items _) (opening_head_items _) same)
    exact ⟨rfl, equal⟩
  | _, _, .object members others =>
    rw [chars, chars] at same
    simp only [List.cons_append, List.append_assoc, List.nil_append, List.cons.injEq,
      true_and] at same
    obtain ⟨rfl, equal⟩ := members_unique members others free free'
      (behind_of_commaSeparated (.inr rfl) (opening_head_members _) (opening_head_members _) same)
    exact ⟨rfl, equal⟩

/-- The items of an array are told by their text. -/
theorem items_unique (items others : List Json) (free : ItemsFloatFree items)
    (free' : ItemsFloatFree others) {rest rest' : List Char}
    (same : behind (itemChars items) ++ ']' :: rest = behind (itemChars others) ++ ']' :: rest') :
    items = others ∧ rest = rest' := by
  match items, others with
  | [], [] => exact ⟨rfl, (List.cons.inj same).2⟩
  | [], _ :: _ | _ :: _, [] => exact absurd (List.cons.inj same).1 (by decide)
  | j :: items, j' :: others =>
    simp only [itemChars, behind, List.flatMap_cons, List.cons_append, List.append_assoc,
      List.cons.injEq, true_and] at same
    obtain ⟨rfl, behind⟩ := chars_unique j j' free.1 free'.1
      (closing_behind _ (closing_bracket _)) (closing_behind _ (closing_bracket _)) same
    obtain ⟨rfl, equal⟩ := items_unique items others free.2 free'.2 behind
    exact ⟨rfl, equal⟩

/-- The members of an object are told by their text. -/
theorem members_unique (members others : List (String × Json)) (free : MembersFloatFree members)
    (free' : MembersFloatFree others) {rest rest' : List Char}
    (same : behind (memberChars members) ++ '\x7d' :: rest =
      behind (memberChars others) ++ '\x7d' :: rest') : members = others ∧ rest = rest' := by
  match members, others with
  | [], [] => exact ⟨rfl, (List.cons.inj same).2⟩
  | [], _ :: _ | _ :: _, [] => exact absurd (List.cons.inj same).1 (by decide)
  | (key, j) :: members, (key', j') :: others =>
    simp only [memberChars, behind, List.flatMap_cons, List.cons_append, List.append_assoc,
      List.cons.injEq, true_and] at same
    obtain ⟨rfl, value⟩ := stringChars_unique same
    obtain ⟨rfl, behind⟩ := chars_unique j j' free.1 free'.1
      (closing_behind _ (closing_brace _)) (closing_behind _ (closing_brace _))
      (List.cons.inj value).2
    obtain ⟨rfl, equal⟩ := members_unique members others free.2 free'.2 behind
    exact ⟨rfl, equal⟩

end

/-- Two values without doubles that have the same text are the same. -/
theorem render_injective {j j' : Json} (free : j.FloatFree) (free' : j'.FloatFree)
    (same : j.render = j'.render) : j = j' := by
  have chars : j.chars = j'.chars := String.ofList_injective same
  exact (chars_unique j j' free free' closing_nil closing_nil (by rw [chars])).1

end ReactiveKernel.Json
