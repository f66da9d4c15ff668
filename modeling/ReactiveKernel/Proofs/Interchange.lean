import ReactiveKernel.Interchange
import ReactiveKernel.Proofs.Json.Reading

/-!
# Values, selectors and identities through their texts

What is written as a JSON text is read back as itself: every value that is not a double, every
selector and every identity of one word. A text need not be the one that would be written: members
can be swapped, blanks and members that nobody asks for are passed over, and names can be repeated.
Whatever is read from such a text can be written again and is then read as the same. An identity is
read from a number of its own parity, wherever it stands.
-/

namespace ReactiveKernel

open Json

/-- How a kind of data is written as JSON and read from it. -/
structure Codec (α : Type) where
  /-- The JSON form. -/
  write : α → Json
  /-- What a document stands for, if it has the form. -/
  read : Document → Option α

namespace Codec

variable {α : Type} (c : Codec α)

/-- The text that is written. -/
def text (a : α) : String := (c.write a).render

/-- What is read from a text. -/
def parse? (text : String) : Option α := (Document.read text).bind c.read

/-- The text that is written for what is read from a text. -/
def canonical? (text : String) : Option String := (c.parse? text).map c.text

/-- Writing and reading are inverse on some of the data. The other condition says what fits the
words of the data. -/
structure Faithful (fits exact : α → Prop) : Prop where
  /-- What is written is read as itself. -/
  back : ∀ a, fits a → exact a → c.parse? (c.text a) = some a
  /-- What is read fits. -/
  accepted : ∀ t a, c.parse? t = some a → fits a
  /-- What is read from any text is read again from the text that is written for it, and that text
  is written once more. -/
  again : ∀ t a, c.parse? t = some a → exact a →
    c.parse? (c.text a) = some a ∧ c.canonical? (c.text a) = some (c.text a)

variable {c} {fits exact : α → Prop}

/-- It is enough to look at documents. -/
theorem faithful_of_means
    (back : ∀ a d, fits a → exact a → Means (c.write a) d → c.read d = some a)
    (accepted : ∀ a d, c.read d = some a → fits a) : c.Faithful fits exact := by
  have written : ∀ a, fits a → exact a → c.parse? (c.text a) = some a := by
    intro a fit same
    obtain ⟨d, read, means⟩ := read_render (c.write a)
    rw [parse?, text, read]
    exact back a d fit same means
  have read : ∀ t a, c.parse? t = some a → fits a := by
    intro t a found
    obtain ⟨d, -, found⟩ := Option.bind_eq_some_iff.mp found
    exact accepted a d found
  refine ⟨written, read, fun t a found same => ?_⟩
  have again := written a (read t a found) same
  exact ⟨again, by rw [canonical?, again]; rfl⟩

end Codec

/-! ### Numbers -/

/-- A number of one word is read as itself. -/
theorem asNat_of_means {n : Nat} {d : Document} (word : n < twoTo 64) (means : Means (.nat n) d) :
    d.asNat = some n := by
  rw [Json.nat, means_int (inWord_natCast word)] at means
  simp [means, Document.asNat]

/-- A number that is read fits a word. -/
theorem lt_of_asNat {n : Nat} {d : Document} (read : d.asNat = some n) : n < twoTo 64 := by
  match d with
  | .number (@Numeral.integer m word) =>
    have full := word.2
    simp only [Document.asNat] at read
    split at read
    · cases read
      omega
    · cases read

/-- A signed number is read as itself. -/
theorem asInt64_of_means {n : Int64} {d : Document} (means : Means (.int n.toInt) d) :
    d.asInt64 = some n := by
  have half : (twoTo 63 : Int) = 2 ^ 63 := rfl
  have full : (twoTo 64 : Int) = 2 ^ 64 := rfl
  have low := n.le_toInt
  have high := n.toInt_lt
  have word : InWord n.toInt := ⟨by omega, by omega⟩
  rw [means_int word] at means
  have below : n.toInt < twoTo 63 := by omega
  simp [means, Document.asInt64, below]

/-! ### Identities -/

/-- Identities that are written as their raw numbers, of which some are numbers of others. -/
theorem faithful_raw {α : Type} {c : Codec α} {raw : α → Nat} {ofRaw? : Nat → Option α}
    (write : ∀ a, c.write a = .nat (raw a)) (read : ∀ d, c.read d = d.asNat.bind ofRaw?)
    (back : ∀ a, ofRaw? (raw a) = some a) (only : ∀ n a, ofRaw? n = some a → raw a = n) :
    c.Faithful (raw · < twoTo 64) fun _ => True := by
  refine Codec.faithful_of_means (fun a d word _ means => ?_) fun a d found => ?_
  · rw [write] at means
    rw [read, asNat_of_means word means]
    exact back a
  · rw [read] at found
    obtain ⟨n, number, found⟩ := Option.bind_eq_some_iff.mp found
    exact only n a found ▸ lt_of_asNat number

/-- The number that a datum was read from is its own. -/
theorem DatumId.raw_of_ofRaw? {n : Nat} {id : DatumId} (h : DatumId.ofRaw? n = some id) :
    id.raw = n := by
  unfold DatumId.ofRaw? at h
  split at h
  · cases h
    simp only [DatumId.raw]
    omega
  · cases h

/-- The number that a closure was read from is its own. -/
theorem ClosureId.raw_of_ofRaw? {n : Nat} {id : ClosureId} (h : ClosureId.ofRaw? n = some id) :
    id.raw = n := by
  unfold ClosureId.ofRaw? at h
  split at h
  · cases h
    simp only [ClosureId.raw]
    omega
  · cases h

/-- A datum is read from its raw number. -/
theorem DatumId.asNat_of_ofDocument? {d : Document} {id : DatumId}
    (h : DatumId.ofDocument? d = some id) : d.asNat = some id.raw := by
  obtain ⟨n, number, found⟩ := Option.bind_eq_some_iff.mp h
  rw [number, DatumId.raw_of_ofRaw? found]

/-- A closure is read from its raw number. -/
theorem ClosureId.asNat_of_ofDocument? {d : Document} {id : ClosureId}
    (h : ClosureId.ofDocument? d = some id) : d.asNat = some id.raw := by
  obtain ⟨n, number, found⟩ := Option.bind_eq_some_iff.mp h
  rw [number, ClosureId.raw_of_ofRaw? found]

/-- A document that says what a datum is written as is read as that datum. -/
theorem DatumId.ofDocument?_of_means {d : Document} {id : DatumId} (word : id.raw < twoTo 64)
    (means : Means id.toJson d) : DatumId.ofDocument? d = some id := by
  rw [DatumId.ofDocument?, asNat_of_means word means]
  exact DatumId.ofRaw?_raw id

/-- A document that says what a closure is written as is read as that closure. -/
theorem ClosureId.ofDocument?_of_means {d : Document} {id : ClosureId} (word : id.raw < twoTo 64)
    (means : Means id.toJson d) : ClosureId.ofDocument? d = some id := by
  rw [ClosureId.ofDocument?, asNat_of_means word means]
  exact ClosureId.ofRaw?_raw id

/-- Datums as raw numbers. -/
def DatumId.codec : Codec DatumId := ⟨DatumId.toJson, DatumId.ofDocument?⟩

/-- Closures as raw numbers. -/
def ClosureId.codec : Codec ClosureId := ⟨ClosureId.toJson, ClosureId.ofDocument?⟩

/-- Subscriptions as raw numbers. -/
def SubscriptionId.codec : Codec SubscriptionId :=
  ⟨SubscriptionId.toJson, SubscriptionId.ofDocument?⟩

/-- Functions as raw numbers. -/
def FunctionId.codec : Codec FunctionId := ⟨FunctionId.toJson, FunctionId.ofDocument?⟩

/-- Nodes as raw numbers with the names of their families. -/
def NodeId.codec : Codec NodeId := ⟨NodeId.toJson, NodeId.ofDocument?⟩

/-- Datums are written and read back. -/
theorem DatumId.faithful : DatumId.codec.Faithful (·.raw < twoTo 64) fun _ => True :=
  faithful_raw (fun _ => rfl) (fun _ => rfl) DatumId.ofRaw?_raw fun _ _ => DatumId.raw_of_ofRaw?

/-- Closures are written and read back. -/
theorem ClosureId.faithful : ClosureId.codec.Faithful (·.raw < twoTo 64) fun _ => True :=
  faithful_raw (fun _ => rfl) (fun _ => rfl) ClosureId.ofRaw?_raw
    fun _ _ => ClosureId.raw_of_ofRaw?

/-- Subscriptions are written and read back. -/
theorem SubscriptionId.faithful : SubscriptionId.codec.Faithful (·.raw < twoTo 64) fun _ => True :=
  @faithful_raw _ _ _ (fun n => some ⟨n⟩) (fun _ => rfl) (fun _ => Option.map_eq_bind ..)
    (fun _ => rfl) fun _ _ h => by cases h; rfl

/-- Functions are written and read back. -/
theorem FunctionId.faithful : FunctionId.codec.Faithful (·.raw < twoTo 64) fun _ => True :=
  @faithful_raw _ _ _ (fun n => some ⟨n⟩) (fun _ => rfl) (fun _ => Option.map_eq_bind ..)
    (fun _ => rfl) fun _ _ h => by cases h; rfl

/-- A node is read from the raw number behind the name of its family. -/
theorem NodeId.asNat_of_ofDocument? {d : Document} {node : NodeId}
    (h : NodeId.ofDocument? d = some node) :
    ∃ family content, d.asCase = some (family, content) ∧ content.asNat = some node.raw := by
  obtain ⟨⟨family, content⟩, case, found⟩ := Option.bind_eq_some_iff.mp h
  refine ⟨family, content, case, ?_⟩
  simp only at found
  split at found
  · obtain ⟨id, read, rfl⟩ := Option.map_eq_some_iff.mp found
    exact DatumId.asNat_of_ofDocument? read
  · split at found
    · obtain ⟨id, read, rfl⟩ := Option.map_eq_some_iff.mp found
      exact ClosureId.asNat_of_ofDocument? read
    · cases found

/-- Nodes are written and read back. -/
theorem NodeId.faithful : NodeId.codec.Faithful (·.raw < twoTo 64) fun _ => True := by
  refine Codec.faithful_of_means (fun node d word _ means => ?_) fun node d found => ?_
  · cases node with
    | datum id =>
      obtain ⟨content, rfl, number⟩ := means_member.mp means
      exact congrArg (Option.map NodeId.datum) (DatumId.ofDocument?_of_means word number)
    | closure id =>
      obtain ⟨content, rfl, number⟩ := means_member.mp means
      exact congrArg (Option.map NodeId.closure) (ClosureId.ofDocument?_of_means word number)
  · obtain ⟨_, _, -, number⟩ := asNat_of_ofDocument? found
    exact lt_of_asNat number

/-! ### Selectors -/

/-- Selectors as names with their fields. -/
def Selector.codec : Codec Selector := ⟨Selector.toJson, Selector.ofDocument?⟩

/-- A list of names is read as itself. -/
theorem mapM_asText_of_means {names : List String} {ds : List Document}
    (means : ItemsMean (names.map .text) ds) : ds.mapM Document.asText = some names := by
  induction names generalizing ds with
  | nil =>
    rw [List.map_nil, itemsMean_nil] at means
    rw [means]
    rfl
  | cons name names ih =>
    rw [List.map_cons, itemsMean_cons] at means
    obtain ⟨d, more, rfl, first, others⟩ := means
    rw [means_text] at first
    simp [List.mapM_cons, first, Document.asText, ih others]

/-- The set of the names of a set. -/
theorem ofNames_toList (names : Std.ExtTreeSet String) :
    Selector.ofNames names.toList = .oneOf names := by
  refine congrArg Selector.oneOf (Std.ExtTreeSet.ext_mem fun name => ?_)
  rw [Std.ExtTreeSet.mem_ofList, List.contains_iff_mem, Std.ExtTreeSet.mem_toList]

/-- Selectors are written and read back. -/
theorem Selector.faithful : Selector.codec.Faithful (fun _ => True) fun _ => True := by
  refine Codec.faithful_of_means (fun selector d _ _ means => ?_) fun _ _ _ => trivial
  cases selector with
  | everything | structural | carried =>
    simp only [codec, toJson, means_text] at means
    simp [means, codec, ofDocument?, Document.asName, ofName?]
  | key name =>
    obtain ⟨content, rfl, named⟩ := means_member.mp means
    rw [means_text] at named
    simp [named, codec, ofDocument?, Document.asName, Document.asCase, ofCase?, Document.asText]
  | oneOf names =>
    obtain ⟨content, rfl, listed⟩ := means_member.mp means
    obtain ⟨ds, rfl, items⟩ := means_array.mp listed
    have read := mapM_asText_of_means items
    simp [codec, ofDocument?, Document.asName, Document.asCase, ofCase?, Document.asArray, read,
      ofNames_toList]

/-! ### Values -/

namespace Value

/-- Values as kinds with contents. -/
def codec : Codec Value := ⟨toJson, ofDocument?⟩

/-- Whether the value is a double. -/
def isFloat : Value → Bool
  | .float _ => true
  | _ => false

/-- The identity in a value fits a word, if there is one. -/
def FitsWord (v : Value) : Prop := ∀ id ∈ v.asDatum, id.raw < twoTo 64

/-- Where the content of a value stands: under its name, or second in a list. -/
def content? : Document → Option Document
  | .array [_, content] => some content
  | d => d.member? "value"

/-- The content of a datum among values is read as a datum. -/
theorem ofContent?_datum {kind : String} {content : Document} {id : DatumId}
    (h : ofContent? kind content = some (.datum id)) : DatumId.ofDocument? content = some id := by
  unfold ofContent? at h
  repeat' split at h
  all_goals simp_all

/-- Of the members of a datum one is its content. -/
theorem ofMembers?_datum {members : List (String × Document)} {id : DatumId}
    (h : ofMembers? members = some (.datum id)) :
    ∃ content, members.find? (·.1 == "value") = some ("value", content) ∧
      DatumId.ofDocument? content = some id := by
  unfold ofMembers? at h
  split at h
  · obtain ⟨name, -, h⟩ := Option.bind_eq_some_iff.mp h
    split at h <;> cases h
  · obtain ⟨name, -, h⟩ := Option.bind_eq_some_iff.mp h
    exact ⟨_, rfl, ofContent?_datum h⟩
  · obtain ⟨name, -, h⟩ := Option.bind_eq_some_iff.mp h
    exact ⟨_, rfl, ofContent?_datum h⟩
  · cases h

/-- Members whose keys spell characters are members with keys. -/
theorem eq_map_of_mapM {members : List (Option String × Document)}
    {named : List (String × Document)}
    (h : members.mapM (fun (key, d) => key.map fun key => (key, d)) = some named) :
    members = named.map fun m => (some m.1, m.2) := by
  induction members generalizing named with
  | nil => cases h; rfl
  | cons m members ih =>
    obtain ⟨key, d⟩ := m
    rw [List.mapM_cons] at h
    obtain ⟨first, found, h⟩ := Option.bind_eq_some_iff.mp h
    obtain ⟨others, rest, h⟩ := Option.bind_eq_some_iff.mp h
    obtain ⟨key, rfl, rfl⟩ := Option.map_eq_some_iff.mp found
    cases h
    rw [ih rest]
    rfl

/-- A datum is read from the content of a value. -/
theorem content?_of_ofDocument? {d : Document} {id : DatumId}
    (h : ofDocument? d = some (.datum id)) :
    ∃ content, content? d = some content ∧ DatumId.ofDocument? content = some id := by
  unfold ofDocument? at h
  split at h
  · next members =>
    obtain ⟨named, keyed, h⟩ := Option.bind_eq_some_iff.mp h
    obtain ⟨content, found, read⟩ := ofMembers?_datum h
    refine ⟨content, ?_, read⟩
    have asked : ∀ m : String × Document,
        decide ((m.1 == "kind" || m.1 == "value") = true ∧ (m.1 == "value") = true) =
          (m.1 == "value") := by
      intro m
      by_cases same : m.1 = "value" <;> simp [same]
    simp only [List.find?_filter, asked] at found
    show Document.member? "value" (.object members) = some content
    simp [Document.member?, eq_map_of_mapM keyed, List.find?_map, Function.comp_def, found]
  · obtain ⟨name, -, h⟩ := Option.bind_eq_some_iff.mp h
    exact ⟨_, rfl, ofContent?_datum h⟩
  · cases h

/-- A value with a content is read by its kind. -/
theorem ofDocument?_of_means {kind : String} {content : Json} {d : Document} {v : Value}
    (means : Means (.object [("kind", .text kind), ("value", content)]) d)
    (read : ∀ c, Means content c → ofContent? kind c = some v) : ofDocument? d = some v := by
  simp only [means_object, membersMean_cons, membersMean_nil, means_text] at means
  obtain ⟨_, rfl, _, _, rfl, rfl, c, _, rfl, inner, rfl⟩ := means
  exact read c inner

/-- Values without doubles are written and read back. -/
theorem faithful : codec.Faithful FitsWord (·.isFloat = false) := by
  refine Codec.faithful_of_means (fun v d fits exact means => ?_) fun v d found id datum => ?_
  · cases v with
    | float x => cases exact
    | null =>
      obtain ⟨content, rfl, kind⟩ := means_member.mp means
      rw [means_text.mp kind]
      rfl
    | bool b => exact ofDocument?_of_means means fun c inner => means_bool.mp inner ▸ rfl
    | int n =>
      exact ofDocument?_of_means means fun c inner =>
        congrArg (Option.map Value.int) (asInt64_of_means inner)
    | text s => exact ofDocument?_of_means means fun c inner => means_text.mp inner ▸ rfl
    | datum id =>
      exact ofDocument?_of_means means fun c inner =>
        congrArg (Option.map Value.datum) (DatumId.ofDocument?_of_means (fits id rfl) inner)
  · obtain rfl : v = .datum id := by cases v <;> cases datum; rfl
    obtain ⟨content, -, read⟩ := content?_of_ofDocument? found
    exact lt_of_asNat (DatumId.asNat_of_ofDocument? read)

end Value

/-! ### All forms -/

/-- Identities are read from numbers of one parity that stand at some place of a text. -/
def Codec.FromParity {α : Type} (c : Codec α) (place : Document → Option Document)
    (identity : α → Option Nat) (parity : Nat) : Prop :=
  ∀ t a raw, c.parse? t = some a → identity a = some raw →
    ((Document.read t).bind place).bind Document.asNat = some raw ∧ raw % 2 = parity

/-- Identities come from numbers of one parity if each that is read does. -/
theorem Codec.fromParity_of_read {α : Type} {c : Codec α} {place : Document → Option Document}
    {identity : α → Option Nat} {parity : Nat}
    (read : ∀ d a raw, c.read d = some a → identity a = some raw →
      (place d).bind Document.asNat = some raw ∧ raw % 2 = parity) :
    c.FromParity place identity parity := by
  intro t a raw found same
  obtain ⟨d, text, found⟩ := Option.bind_eq_some_iff.mp found
  rw [text]
  exact read d a raw found same

/-- The numbers of datums are even. -/
theorem DatumId.raw_even (id : DatumId) : id.raw % 2 = 0 := by simp [DatumId.raw]

/-- The numbers of closures are odd. -/
theorem ClosureId.raw_odd (id : ClosureId) : id.raw % 2 = 1 := by
  simp only [ClosureId.raw]
  omega

/-- Values that are not doubles, selectors and identities are read back from their texts, and what
is read from any text is read again from the text that is written for it. Every datum in a text is
an even number there and every closure an odd one. -/
theorem texts_faithful :
    (Value.codec.Faithful Value.FitsWord (·.isFloat = false) ∧
      Selector.codec.Faithful (fun _ => True) (fun _ => True) ∧
      NodeId.codec.Faithful (·.raw < twoTo 64) (fun _ => True) ∧
      DatumId.codec.Faithful (·.raw < twoTo 64) (fun _ => True) ∧
      ClosureId.codec.Faithful (·.raw < twoTo 64) (fun _ => True) ∧
      SubscriptionId.codec.Faithful (·.raw < twoTo 64) (fun _ => True) ∧
      FunctionId.codec.Faithful (·.raw < twoTo 64) (fun _ => True)) ∧
    DatumId.codec.FromParity some (fun id => some id.raw) 0 ∧
    ClosureId.codec.FromParity some (fun id => some id.raw) 1 ∧
    NodeId.codec.FromParity (·.asCase.map (·.2)) (·.asDatum.map DatumId.raw) 0 ∧
    NodeId.codec.FromParity (·.asCase.map (·.2)) (·.asClosure.map ClosureId.raw) 1 ∧
    Value.codec.FromParity Value.content? (·.asDatum.map DatumId.raw) 0 := by
  refine ⟨⟨Value.faithful, Selector.faithful, NodeId.faithful, DatumId.faithful,
    ClosureId.faithful, SubscriptionId.faithful, FunctionId.faithful⟩, ?_, ?_, ?_, ?_, ?_⟩
  · refine Codec.fromParity_of_read fun d id raw found same => ?_
    cases same
    exact ⟨DatumId.asNat_of_ofDocument? found, id.raw_even⟩
  · refine Codec.fromParity_of_read fun d id raw found same => ?_
    cases same
    exact ⟨ClosureId.asNat_of_ofDocument? found, id.raw_odd⟩
  · refine Codec.fromParity_of_read fun d node raw found same => ?_
    obtain ⟨family, content, case, number⟩ := NodeId.asNat_of_ofDocument? found
    cases node <;> cases same
    exact ⟨by rw [case]; exact number, DatumId.raw_even _⟩
  · refine Codec.fromParity_of_read fun d node raw found same => ?_
    obtain ⟨family, content, case, number⟩ := NodeId.asNat_of_ofDocument? found
    cases node <;> cases same
    exact ⟨by rw [case]; exact number, ClosureId.raw_odd _⟩
  · refine Codec.fromParity_of_read fun d v raw found same => ?_
    cases v <;> cases same
    obtain ⟨content, place, read⟩ := Value.content?_of_ofDocument? found
    exact ⟨by rw [place]; exact DatumId.asNat_of_ofDocument? read, DatumId.raw_even _⟩

/-- Texts that are spelled in another way than they would be written: a datum with its content first
and a member that nobody asks for, a text with escapes in a list, and names out of order and
repeated. -/
theorem texts_faithful_respelled :
    let datum := " \x7b\"value\" : 8, \"note\": [1.5e3], \"kind\": \"datum\"\x7d"
    let text := "[\"str\", \"\\u0041\\n\\ud83d\\ude00\"]"
    let names := "\x7b\"one_of\": [\"b\", \"a\", \"b\"]\x7d"
    Value.codec.parse? datum = some (.datum ⟨4⟩) ∧
      Value.codec.canonical? datum = some "\x7b\"kind\":\"datum\",\"value\":8\x7d" ∧
      Value.codec.parse? (Value.codec.text (.datum ⟨4⟩)) = some (.datum ⟨4⟩) ∧
      Value.codec.parse? text = some (.text "A\n😀") ∧
      Value.codec.parse? (Value.codec.text (.text "A\n😀")) = some (.text "A\n😀") ∧
      Selector.codec.canonical? names = some "\x7b\"one_of\":[\"a\",\"b\"]\x7d" ∧
      Selector.codec.parse? (Selector.codec.text (.ofNames ["b", "a", "b"])) =
        some (.ofNames ["b", "a", "b"]) ∧
      DatumId.codec.parse? "7" = none ∧ ClosureId.codec.parse? "7" = some ⟨3⟩ := by
  have value := texts_faithful.1.1
  have selector := texts_faithful.1.2.1
  have datum : Value.codec.parse? " \x7b\"value\" : 8, \"note\": [1.5e3], \"kind\": \"datum\"\x7d" =
      some (.datum ⟨4⟩) := by decide +kernel
  have text : Value.codec.parse? "[\"str\", \"\\u0041\\n\\ud83d\\ude00\"]" =
      some (.text "A\n😀") := by decide +kernel
  refine ⟨datum, by decide +kernel, (value.again _ _ datum rfl).1, text,
    (value.again _ _ text rfl).1, by decide +kernel, selector.back _ trivial trivial,
    by decide +kernel, by decide +kernel⟩

end ReactiveKernel
