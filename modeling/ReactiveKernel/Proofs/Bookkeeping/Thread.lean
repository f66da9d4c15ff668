import ReactiveKernel.Proofs.Bookkeeping.Balance

/-!
# Writes thread through the values of a field

Between two moments of a run, what could be read in a field at the first one, the writes that are
told, and what can be read at the second one are one thread: each write has found what the one
before has left. A node that is made meanwhile begins with a thread of its own. Every run keeps its
books in balance and its threads unbroken.
-/

namespace ReactiveKernel

variable {κ : Type}

open TraceEvent

/-- Writes that lead from one value to another: each has found what the one before has left. -/
def Threads : Value → List (Value × Value) → Value → Prop
  | v, [], w => v = w
  | v, (old, new) :: rest, w => v = old ∧ Threads new rest w

/-- Writes in a row lead from the first value to the last one. -/
theorem Threads.append {u v w : Value} {writes more : List (Value × Value)}
    (h : Threads u writes v) (h' : Threads v more w) : Threads u (writes ++ more) w := by
  induction writes generalizing u with
  | nil =>
    cases h
    exact h'
  | cons write rest ih => exact ⟨h.1, ih h.2⟩

namespace Slot

/-- What is written at a node becomes something else by the writes that are told, and keeps its
shape. -/
structure Becomes (n : NodeId) (events : List TraceEvent) (u v : Slot) : Prop where
  /-- A datum keeps its shape. -/
  shape : v.shape? = u.shape?
  /-- All fields that could be read can be read. -/
  reads : ∀ name x, u.read? name = some x →
    ∃ y, v.read? name = some y ∧ Threads x (writesTo n name events) y

variable {n : NodeId} {events more : List TraceEvent} {u v w : Slot}

/-- What is written at a node stays as it is if nothing is told of the node. -/
theorem Becomes.of_silent (silent : ∀ e ∈ events, e.changed? ≠ some n) (u : Slot) :
    u.Becomes n events u := by
  refine ⟨rfl, fun name x read => ⟨x, read, ?_⟩⟩
  rw [writesTo_of_silent silent]
  rfl

theorem Becomes.trans (h : u.Becomes n events v) (h' : v.Becomes n more w) :
    u.Becomes n (events ++ more) w := by
  refine ⟨h'.shape.trans h.shape, fun name x read => ?_⟩
  obtain ⟨y, read', threads⟩ := h.reads name x read
  obtain ⟨z, read'', threads'⟩ := h'.reads name y read'
  exact ⟨z, read'', writesTo_append n name events more ▸ threads.append threads'⟩

/-- A field that is written, and the others. -/
theorem threads_insert (fields : FieldMap) (field name : String) (value : Value) (generation : Nat)
    (n : NodeId) : Threads ((fields[name]?).getD .null)
      (writesTo n name [.fieldSet n field ((fields[field]?).getD .null) value generation])
      (((fields.insert field value)[name]?).getD .null) := by
  rw [Std.ExtTreeMap.getElem?_insert]
  by_cases same : field = name
  · subst same
    simp [writesTo, write?, Threads]
  · simp [writesTo, write?, Threads, same]

/-- A change that is told. -/
theorem Becomes.of_tells {generation : Nat} {e : TraceEvent} (h : e.Tells generation n u v) :
    u.Becomes n [e] v := by
  cases h with
  | datumField d fields status field value =>
    refine ⟨rfl, fun name x read => ⟨_, rfl, ?_⟩⟩
    cases read
    exact threads_insert fields field name value generation _
  | closureField c fields field value =>
    refine ⟨rfl, fun name x read => ⟨_, rfl, ?_⟩⟩
    cases read
    exact threads_insert fields field name value generation _
  | items d old items status => exact ⟨rfl, nofun⟩
  | status d content old status =>
    refine ⟨rfl, fun name x read => ⟨x, ?_, rfl⟩⟩
    cases content <;> exact read

end Slot

namespace State

/-- What becomes of what is written at nodes, and the events that say so. -/
structure Advances (s : State κ) (events : List TraceEvent) (t : State κ) : Prop where
  /-- What was given out stays so. -/
  given : ∀ n : NodeId, s.Given n.identity → t.Given n.identity
  /-- Changes are told of nodes that were given out. -/
  known : ∀ e ∈ events, ∀ n, e.changed? = some n → t.Given n.identity
  /-- A live node was live unless it is new, and its writes are told. -/
  nodes : ∀ n b, t.account? n = some b → ∃ u : Slot,
    (s.Given n.identity → ∃ a, s.account? n = some a ∧ a.slot = u) ∧ u.Becomes n events b.slot

variable {s t u : State κ} {events more : List TraceEvent}

theorem Advances.refl (s : State κ) : s.Advances [] s where
  given _ given := given
  known _ none := absurd none List.not_mem_nil
  nodes _ b live :=
    ⟨b.slot, fun _ => ⟨b, live, rfl⟩, .of_silent (fun _ none => absurd none List.not_mem_nil) _⟩

theorem Advances.trans (h : s.Advances events t) (h' : t.Advances more u) :
    s.Advances (events ++ more) u where
  given n given := h'.given n (h.given n given)
  known e he n changed := by
    rcases List.mem_append.mp he with old | new
    · exact h'.given n (h.known e old n changed)
    · exact h'.known e new n changed
  nodes n c live := by
    obtain ⟨v, was, later⟩ := h'.nodes n c live
    by_cases given : t.Given n.identity
    · obtain ⟨b, live', rfl⟩ := was given
      obtain ⟨w, was', first⟩ := h.nodes n b live'
      exact ⟨w, was', first.trans later⟩
    · have silent : ∀ e ∈ events, e.changed? ≠ some n := fun e he changed =>
        given (h.known e he n changed)
      exact ⟨v, fun before => absurd (h.given n before) given,
        (Slot.Becomes.of_silent silent v).trans later⟩

/-- A state advances by events that tell of no account. -/
theorem Keeps.advances (h : s.Keeps events t) : s.Advances events t where
  given n := (h.given n).mpr
  known e he n changed := absurd changed (h.unchanged n e he)
  nodes n b live :=
    ⟨b.slot, fun _ => ⟨b, h.accounts n b live, rfl⟩, .of_silent (h.unchanged n) _⟩

/-- A state advances by the event of a new node. -/
theorem Opens.advances {e : TraceEvent} {node : NodeId} {slot : Slot} {owner : Option ClosureId}
    (h : s.Opens e node slot owner t) : s.Advances [e] t where
  given n given := (h.given n).mpr (.inl given)
  known e' he n changed := absurd changed (h.unchanged n e' he)
  nodes n b live := by
    refine ⟨b.slot, fun given => ⟨b, ?_, rfl⟩, .of_silent (h.unchanged n) _⟩
    have old : n ≠ node := by
      rintro rfl
      exact h.fresh given
    rwa [h.accounts, if_neg old] at live

/-- A state advances by the event of a change. -/
theorem Alters.advances {e : TraceEvent} {node : NodeId} {a : Account} {slot : Slot}
    (h : s.Alters e node a slot t) (issued : s.Issued) : s.Advances [e] t where
  given n := (h.given n).mpr
  known e' he n changed := by
    rw [List.mem_singleton.mp he, h.tells.changed] at changed
    cases changed
    exact (h.given node).mpr (issued.given_of_account h.was)
  nodes n b live := by
    rcases h.before live with ⟨rfl, rfl⟩ | ⟨other, b', was, ⟨_, _, _, rfl⟩ | ⟨_, rfl⟩⟩
    · exact ⟨a.slot, fun _ => ⟨a, h.was, rfl⟩, .of_tells h.tells⟩
    · exact ⟨b'.slot, fun _ => ⟨b', was, rfl⟩, .of_silent (h.unchanged other) _⟩
    · exact ⟨b.slot, fun _ => ⟨b, was, rfl⟩, .of_silent (h.unchanged other) _⟩

end State

/-- The books are in balance, and what is written at nodes advances as it is told. -/
def Contract.bookkeeping (κ : Type) : Contract κ where
  holds k := k.toState.Consistent ∧ k.toState.Balanced k.told
  leads k k' := ∃ events, k'.told = k.told ++ events ∧ k.toState.Advances events k'.toState
  returns _ _ := True

namespace Kernel

variable {k k' : Kernel κ}

/-- What is posted keeps the books. -/
theorem Posts.passes (h : k.Posts k') (holds : (Contract.bookkeeping κ).holds k)
    (consistent : k'.toState.Consistent) : (Contract.bookkeeping κ).Passes k k' := by
  obtain ⟨events, told, posting⟩ := h
  obtain ⟨consistent₀, balanced⟩ := holds
  have both : k'.toState.Balanced (k.told ++ events) ∧ k.toState.Advances events k'.toState := by
    cases posting with
    | kept keeps => exact ⟨balanced.kept keeps, keeps.advances⟩
    | opened opens => exact ⟨balanced.opened opens, opens.advances⟩
    | changed alters =>
      exact ⟨balanced.changed alters consistent₀.issued, alters.advances consistent₀.issued⟩
  exact ⟨⟨consistent, told ▸ both.1⟩, ⟨events, told, both.2⟩, trivial⟩

/-- The books of a new kernel are in balance. -/
theorem balanced_create (settings : Settings) (templates : TemplateLibrary κ) :
    let k := Kernel.create settings templates
    k.toState.Balanced k.told := by
  intro k
  have told : k.told = [] := rfl
  have dead {n : NodeId} {a : Account} (live : k.toState.account? n = some a) : False := by
    have given := (consistent_create settings templates).issued.given_of_account live
    cases n <;> exact Nat.not_lt_zero _ given
  rw [told]
  exact ⟨⟨nofun, nofun, nofun, fun _ _ live => (dead live).elim⟩, fun _ _ live => (dead live).elim⟩

end Kernel

namespace Contract

open Kernel

/-- What is written at nodes advances from one holder of control to the next. -/
theorem bookkeeping_ordered : (bookkeeping κ).Ordered where
  refl k := ⟨[], (List.append_nil _).symm, .refl _⟩
  trans := by
    rintro k k' k'' ⟨events, told, advances⟩ ⟨more, told', advances'⟩
    exact ⟨events ++ more, by rw [told', told, List.append_assoc], advances.trans advances'⟩
  returns_refl _ := trivial
  returns_trans _ _ := trivial

/-- Operations keep the books. A closure that is made has its parameters from the beginning. -/
theorem bookkeeping_receptive : (bookkeeping κ).Receptive where
  toOrdered := bookkeeping_ordered
  found params made holds :=
    have kept := consistency_drainStable.toStable.receptive.found params made holds.1
    (posts_found params made).passes holds kept.holds
  remove order _ id holds :=
    have kept := consistency_drainStable.toStable.receptive.remove order id holds.1
    (posts_raze holds.1 order id).passes holds kept.holds
  announce _ _ _ holds := (posts_emit _ rfl).passes holds holds.1
  report _ _ holds := (posts_note _ rfl).passes holds holds.1
  apply _ _ _ c _ holds :=
    (perform_posts holds.1 c).passes holds ((perform_effect holds.1 c).consistent holds.1)
  take holds :=
    have kept := consistency_drainStable.toStable.receptive.take holds.1
    Posts.passes (.same rfl rfl rfl rfl) holds kept.holds
  applying _ holds := (posts_note _ rfl).passes holds holds.1

/-- All that drains and calls do keeps the books in balance. -/
theorem bookkeeping_drainable : (bookkeeping κ).Drainable where
  toOrdered := bookkeeping_ordered
  drainAct action holds :=
    action.posts.passes holds (consistency_drainStable.drainAct action holds.1).holds

/-- Every run keeps the books. -/
theorem bookkeeping_sound : (bookkeeping κ).Sound :=
  bookkeeping_receptive.sound
    (fun _ c _ holds =>
      (perform_posts holds.1 c).passes holds ((perform_effect holds.1 c).consistent holds.1))
    (fun p k holds => (posts_probe p k).passes holds (consistency_sound.probe p k holds.1).holds)
    fun _ holds => bookkeeping_drainable.drain holds

end Contract

end ReactiveKernel
