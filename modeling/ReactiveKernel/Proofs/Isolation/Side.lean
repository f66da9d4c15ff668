import ReactiveKernel.Proofs.Mutation

/-!
# Two sides without a link between them

The nodes are divided into two sides, and no subscription and no ownership leads from one to the
other. Two states are the same on one side if they have the same records of its nodes and the same
of its subscriptions pending. A mutation of a node of the other side makes no difference here, and a
mutation of a node of this side makes the same difference to states that look alike from it.
-/

namespace ReactiveKernel

variable {κ : Type}

namespace State

/-- Whether a subscription is not one of the other side: it starts on this side, or it is not
registered. -/
def keeps (side : NodeId → Bool) (s : State κ) (id : SubscriptionId) : Bool :=
  (s.edges.subscriptions[id]?).all fun e => side e.source

/-- No link leads from one side to the other. -/
structure Split (side : NodeId → Bool) (s : State κ) : Prop where
  /-- No subscription does. -/
  subscriptions : ∀ (id : SubscriptionId) (e : Subscription), s.edges.subscriptions[id]? = some e →
    side e.target = side e.source
  /-- No datum is owned by a closure of the other side. -/
  owners : ∀ (d : DatumId) (x : Datum) (c : ClosureId), s.datums[d]? = some x → x.owner = some c →
    side (.closure c) = side (.datum d)

instance (side : NodeId → Bool) (s : State κ) : Decidable (s.Split side) :=
  decidable_of_iff
    ((∀ p ∈ s.edges.subscriptions.toList, side p.2.target = side p.2.source) ∧
      ∀ p ∈ s.datums.toList, ∀ c ∈ p.2.owner, side (.closure c) = side (.datum p.1))
    ⟨fun ⟨edges, owners⟩ =>
      ⟨fun id e registered =>
        edges (id, e) (Std.ExtTreeMap.mem_toList_iff_getElem?_eq_some.mpr registered),
      fun d x c live =>
        owners (d, x) (Std.ExtTreeMap.mem_toList_iff_getElem?_eq_some.mpr live) c⟩,
    fun split =>
      ⟨fun p listed =>
        split.subscriptions p.1 p.2 (Std.ExtTreeMap.mem_toList_iff_getElem?_eq_some.mp listed),
      fun p listed c =>
        split.owners p.1 p.2 c (Std.ExtTreeMap.mem_toList_iff_getElem?_eq_some.mp listed)⟩⟩

/-- Two states with the same nodes and the same pending subscriptions on one side. They may differ
on the other side and in the schedule. -/
structure SameSide (side : NodeId → Bool) (s t : State κ) : Prop where
  /-- The datums of this side. -/
  datums : ∀ d : DatumId, side (.datum d) = true → t.datums[d]? = s.datums[d]?
  /-- The closures of this side. -/
  closures : ∀ c : ClosureId, side (.closure c) = true → t.closures[c]? = s.closures[c]?
  /-- The pending subscriptions that are not of the other side. -/
  pending : ∀ id, s.keeps side id = true → (id ∈ t.schedule.pending ↔ id ∈ s.schedule.pending)
  /-- Nothing else is different but the schedule. -/
  rest : t = { s with datums := t.datums, closures := t.closures, schedule := t.schedule }

/-- Two states that cannot be told apart from one side. -/
structure LooksLike (side : NodeId → Bool) (s t : State κ) : Prop extends s.SameSide side t where
  /-- The generation is the same, and so is whether a drain is running. -/
  clock : t.schedule = { s.schedule with pending := t.schedule.pending }

variable {side : NodeId → Bool} {s t u : State κ}

/-- The subscriptions are the same. -/
theorem SameSide.edges (h : s.SameSide side t) : t.edges = s.edges := by
  rw [h.rest]

/-- The settings are the same. -/
theorem SameSide.settings (h : s.SameSide side t) : t.settings = s.settings := by
  rw [h.rest]

/-- Which subscriptions a side keeps is determined by the table of subscriptions. -/
theorem keeps_congr (edges : t.edges = s.edges) (id : SubscriptionId) :
    t.keeps side id = s.keeps side id := by
  rw [keeps, keeps, edges]

theorem SameSide.refl (s : State κ) : s.SameSide side s :=
  ⟨fun _ _ => rfl, fun _ _ => rfl, fun _ _ => .rfl, rfl⟩

theorem SameSide.symm (h : s.SameSide side t) : t.SameSide side s := by
  refine ⟨fun d own => (h.datums d own).symm, fun c own => (h.closures c own).symm,
    fun id own => (h.pending id ?_).symm, ?_⟩
  · rw [← keeps_congr h.edges]
    exact own
  · rw [h.rest]

theorem SameSide.trans (h : s.SameSide side t) (h' : t.SameSide side u) : s.SameSide side u := by
  refine ⟨fun d own => (h'.datums d own).trans (h.datums d own),
    fun c own => (h'.closures c own).trans (h.closures c own), fun id own => ?_, ?_⟩
  · have own' : t.keeps side id = true := (keeps_congr h.edges id).trans own
    exact (h'.pending id own').trans (h.pending id own)
  · exact h'.rest.trans (by rw [h.rest])

theorem LooksLike.refl (s : State κ) : s.LooksLike side s := ⟨.refl s, rfl⟩

theorem LooksLike.symm (h : s.LooksLike side t) : t.LooksLike side s :=
  ⟨h.toSameSide.symm, by rw [h.clock]⟩

theorem LooksLike.trans (h : s.LooksLike side t) (h' : t.LooksLike side u) :
    s.LooksLike side u :=
  ⟨h.toSameSide.trans h'.toSameSide, h'.clock.trans (by rw [h.clock])⟩

/-- States that look alike are of the same generation. -/
theorem LooksLike.generation (h : s.LooksLike side t) : t.generation = s.generation := by
  rw [State.generation, h.clock]
  rfl

/-- A change of the schedules that is the same for both states. -/
theorem SameSide.reschedule (h : s.SameSide side t) {schedule schedule' : Schedule}
    (pending : ∀ id, s.keeps side id = true → (id ∈ schedule'.pending ↔ id ∈ schedule.pending)) :
    ({ s with schedule } : State κ).SameSide side { t with schedule := schedule' } :=
  ⟨h.datums, h.closures, pending, by rw [h.rest]⟩

/-- Whether there is a link is a matter of the subscriptions and the owners. -/
theorem Split.congr (split : s.Split side) (edges : t.edges = s.edges)
    (owners : ∀ d : DatumId, (t.datums[d]?).map Datum.owner = (s.datums[d]?).map Datum.owner) :
    t.Split side := by
  refine ⟨?_, ?_⟩
  · rw [edges]
    exact split.subscriptions
  · intro d x c hd owner
    have kept := owners d
    rw [hd] at kept
    obtain ⟨y, hy, same⟩ := Option.map_eq_some_iff.mp kept.symm
    exact split.owners d y c hy (same.trans owner)

/-! Mutations. -/

/-- The owner of a datum is on the same side. -/
theorem Split.owns (split : s.Split side) {c : ClosureId} {node : NodeId} (owns : s.Owns c node) :
    side (.closure c) = side node := by
  obtain ⟨d, x, rfl, hd, owner⟩ := owns
  exact split.owners d x c hd owner

/-- A side keeps a registered subscription if it starts there. -/
theorem keeps_of_subscription {id : SubscriptionId} {e : Subscription}
    (registered : s.edges.subscriptions[id]? = some e) : s.keeps side id = side e.source := by
  simp [keeps, registered]

/-- What a change reaches is on the side of the node that changed. -/
theorem Split.keeps_of_hears (split : s.Split side) {node : NodeId} {change : Change}
    {id : SubscriptionId} (hears : s.Hears node change id) : s.keeps side id = side node := by
  rcases hears_iff.mp hears with ⟨e, registered, source, _⟩ | ⟨c, e, owns, registered, source, _⟩
  · rw [keeps_of_subscription registered, source]
  · rw [keeps_of_subscription registered, source, split.owns owns]

/-- The same is written at the nodes of the side. -/
theorem SameSide.slot (h : s.SameSide side t) {node : NodeId} (own : side node = true) :
    t.slot? node = s.slot? node := by
  cases node with
  | datum d => rw [slot?, slot?, h.datums d own]
  | closure c => rw [slot?, slot?, h.closures c own]

/-- The fields of a node of this side are the same. -/
theorem SameSide.get (h : s.SameSide side t) {node : NodeId} (own : side node = true)
    (name : String) : t.get node name = s.get node name := by
  cases node with
  | datum d => simp only [State.get, field?, fieldsOf, requireDatum, h.datums d own]
  | closure c => simp only [State.get, field?, fieldsOf, requireClosure, h.closures c own]

variable {node : NodeId} {change : Change} {slot : Slot} {s' t' : State κ}

/-- A mutation leaves subscriptions alone. -/
theorem Mutates.edges (h : s.Mutates node change slot t) : t.edges = s.edges := by
  rw [h.rest]

/-- No datum gets another owner. -/
theorem Mutates.owners (h : s.Mutates node change slot t) (d : DatumId) :
    (t.datums[d]?).map Datum.owner = (s.datums[d]?).map Datum.owner := by
  by_cases here : node = .datum d
  · obtain ⟨x, content, status, was, _, is⟩ := h.datum d here
    rw [was, is]
    rfl
  · rw [h.other_datums d here]

/-- A mutation adds no link between the sides. -/
theorem Mutates.split (h : s.Mutates node change slot t) (split : s.Split side) :
    t.Split side :=
  split.congr h.edges h.owners

/-- A mutation on the other side cannot be seen. -/
theorem Mutates.unseen (h : s.Mutates node change slot t) (split : s.Split side)
    (other : side node = false) : s.LooksLike side t := by
  have apart {n : NodeId} (own : side n = true) : node ≠ n := by
    rintro rfl
    rw [other] at own
    cases own
  refine ⟨⟨fun d own => h.other_datums d (apart own), fun c own => ?_, fun id own => ?_, ?_⟩, ?_⟩
  · refine h.other_closures c (apart own) fun owns => ?_
    rw [split.owns owns, other] at own
    cases own
  · rw [h.mem_pending]
    refine or_iff_left fun hears => ?_
    rw [split.keeps_of_hears hears, other] at own
    cases own
  · exact h.rest.trans (by rw [h.rest])
  · rw [h.rest]

/-- The owner of a node of this side is the same in both states. -/
theorem SameSide.owns (h : s.SameSide side t) (own : side node = true) (c : ClosureId) :
    t.Owns c node ↔ s.Owns c node := by
  refine exists_congr fun d => exists_congr fun x => and_congr_right fun same => ?_
  rw [h.datums d (same ▸ own)]

/-- A change of a node of the side reaches the same subscriptions. -/
theorem SameSide.hears (h : s.SameSide side t) (own : side node = true) (id : SubscriptionId) :
    t.Hears node change id ↔ s.Hears node change id := by
  simp only [Hears, Matches, h.edges, h.owns own]

/-- A mutation on this side makes the same difference to both states. -/
theorem Mutates.alike (looks : s.LooksLike side t) (own : side node = true)
    (h : s.Mutates node change slot s') (h' : t.Mutates node change slot t') :
    s'.LooksLike side t' := by
  have owns := looks.owns own
  refine ⟨⟨fun d mine => ?_, fun c mine => ?_, fun id kept => ?_, ?_⟩, ?_⟩
  · by_cases here : node = .datum d
    · obtain ⟨x, content, status, was, wrote, is⟩ := h.datum d here
      obtain ⟨x', content', status', was', wrote', is'⟩ := h'.datum d here
      cases (was'.symm.trans (looks.datums d mine)).trans was
      cases wrote'.symm.trans wrote
      rw [is, is', looks.generation]
    · rw [h.other_datums d here, h'.other_datums d here, looks.datums d mine]
  · by_cases here : node = .closure c
    · obtain ⟨x, fields, was, wrote, is⟩ := h.closure c here
      obtain ⟨x', fields', was', wrote', is'⟩ := h'.closure c here
      cases (was'.symm.trans (looks.closures c mine)).trans was
      cases wrote'.symm.trans wrote
      rw [is, is', looks.generation]
    · by_cases owned : s.Owns c node
      · obtain ⟨x, was, is⟩ := h.owner c owned
        obtain ⟨x', was', is'⟩ := h'.owner c ((owns c).mpr owned)
        cases (was'.symm.trans (looks.closures c mine)).trans was
        rw [is, is']
      · rw [h.other_closures c here owned, h'.other_closures c here (mt (owns c).mp owned),
          looks.closures c mine]
  · have kept' : s.keeps side id = true := (keeps_congr h.edges id).symm.trans kept
    rw [h.mem_pending, h'.mem_pending, looks.pending id kept', looks.hears own]
  · rw [h'.rest, h.rest, looks.rest]
  · rw [h'.rest, h.rest, looks.clock]

end State

end ReactiveKernel
