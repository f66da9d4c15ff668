import ReactiveKernel.Proofs.State.Invariant

/-!
# New nodes and new subscriptions

Each kind of creation is a function on states. The identity that it gives out comes from a
counter and is older than nothing that is live, so the new entry hides no old one and goes to the
end of the list that it joins.
-/

namespace ReactiveKernel

variable {κ : Type}

namespace State

/-- The identity that the next datum gets. -/
def nextDatum (s : State κ) : DatumId := ⟨s.counters.datums⟩

/-- The identity that the next closure gets. -/
def nextClosure (s : State κ) : ClosureId := ⟨s.counters.closures⟩

/-- The identity that the next subscription gets. -/
def nextSubscription (s : State κ) : SubscriptionId := ⟨s.counters.subscriptions⟩

/-- The identity that the next callback gets. -/
def nextFunction (s : State κ) : FunctionId := ⟨s.counters.functions⟩

/-- The state with one more datum. -/
def addDatum (s : State κ) (typeName : String) (content : Content) (owner : Option ClosureId) :
    State κ :=
  { s with
    counters := { s.counters with datums := s.counters.datums + 1 }
    datums := s.datums.insert s.nextDatum (.create typeName content owner s.generation)
    closures := s.closures.map fun c x =>
      if owner = some c then { x with owned := x.owned ++ [s.nextDatum] } else x }

/-- The state with one more closure. -/
def addClosure (s : State κ) (template : String) (parent : Option ClosureId) : State κ :=
  { s with
    counters := { s.counters with closures := s.counters.closures + 1 }
    closures := (s.closures.map fun c x =>
      if parent = some c then { x with children := x.children ++ [s.nextClosure] } else x).insert
        s.nextClosure (.create template parent s.generation) }

/-- The state with one more subscription. -/
def addEdge (s : State κ) (source target : NodeId) (selector : Selector) (code : κ) : State κ :=
  { s.atEnds source target (·.insert s.nextSubscription) with
    counters := { s.counters with
      subscriptions := s.counters.subscriptions + 1
      functions := s.counters.functions + 1 }
    edges := s.edges.insert s.nextSubscription ⟨source, target, selector, s.nextFunction⟩ code }

/-- The closure that a new node is attached to, if there is one, is live. -/
def HolderLive (s : State κ) (holder : Option ClosureId) : Prop :=
  ∀ c, holder = some c → c ∈ s.closures

variable {s : State κ}

/-- The new datum has a fresh record, and all others stay as they are. -/
theorem getElem?_datums_addDatum (typeName : String) (content : Content)
    (owner : Option ClosureId) (d : DatumId) :
    (s.addDatum typeName content owner).datums[d]? =
      if s.nextDatum = d then some (.create typeName content owner s.generation)
      else s.datums[d]? := by
  simp [addDatum, Std.ExtTreeMap.getElem?_insert]

/-- The new datum is last in the list of its owner, and all other closures stay as they are. -/
theorem getElem?_closures_addDatum (typeName : String) (content : Content)
    (owner : Option ClosureId) (c : ClosureId) :
    (s.addDatum typeName content owner).closures[c]? = (s.closures[c]?).map fun x =>
      if owner = some c then { x with owned := x.owned ++ [s.nextDatum] } else x := by
  simp [addDatum]

/-- The new closure has a fresh record and is last in the list of its parent; all others stay as
they are. -/
theorem getElem?_closures_addClosure (template : String) (parent : Option ClosureId)
    (c : ClosureId) :
    (s.addClosure template parent).closures[c]? =
      if s.nextClosure = c then some (.create template parent s.generation)
      else (s.closures[c]?).map fun x =>
        if parent = some c then { x with children := x.children ++ [s.nextClosure] } else x := by
  simp [addClosure, Std.ExtTreeMap.getElem?_insert]

/-! The next identities are not in use. -/

/-- The identity of the next datum is not in use. -/
theorem Issued.nextDatum_dead (issued : s.Issued) : s.datums[s.nextDatum]? = none := by
  cases h : s.datums[s.nextDatum]? with
  | none => rfl
  | some x => exact absurd (issued.datums _ x h) (Nat.lt_irrefl _)

/-- The identity of the next closure is not in use. -/
theorem Issued.nextClosure_dead (issued : s.Issued) : s.closures[s.nextClosure]? = none := by
  cases h : s.closures[s.nextClosure]? with
  | none => rfl
  | some x => exact absurd (issued.closures _ x h) (Nat.lt_irrefl _)

/-- The identity of the next subscription is not in use. -/
theorem Issued.nextSubscription_free (issued : s.Issued) :
    s.edges.subscriptions[s.nextSubscription]? = none := by
  cases h : s.edges.subscriptions[s.nextSubscription]? with
  | none => rfl
  | some e => exact absurd (issued.registered _ e h) (Nat.lt_irrefl _)

/-! A new datum. -/

/-- A datum keeps its record when another one is added. -/
theorem Issued.datums_addDatum (issued : s.Issued) (typeName : String) (content : Content)
    (owner : Option ClosureId) {d : DatumId} {x : Datum} (h : s.datums[d]? = some x) :
    (s.addDatum typeName content owner).datums[d]? = some x := by
  rw [getElem?_datums_addDatum, if_neg]
  · exact h
  · rintro rfl
    rw [issued.nextDatum_dead] at h
    cases h

/-- A closure was there before a datum is added, with the same links but for the new datum. -/
theorem closures_addDatum {typeName : String} {content : Content} {owner : Option ClosureId}
    {c : ClosureId} {y : Closure} (h : (s.addDatum typeName content owner).closures[c]? = some y) :
    ∃ x, s.closures[c]? = some x ∧ y.parent = x.parent ∧ y.children = x.children ∧
      y.owned = if owner = some c then x.owned ++ [s.nextDatum] else x.owned := by
  rw [getElem?_closures_addDatum] at h
  obtain ⟨x, hx, rfl⟩ := Option.map_eq_some_iff.mp h
  refine ⟨x, hx, ?_⟩
  split
  · exact ⟨rfl, rfl, rfl⟩
  · exact ⟨rfl, rfl, rfl⟩

/-- A closure is still there after a datum is added, with the same links but for the new datum. -/
theorem closures_addDatum_of {typeName : String} {content : Content} {owner : Option ClosureId}
    {c : ClosureId} {x : Closure} (h : s.closures[c]? = some x) :
    ∃ y, (s.addDatum typeName content owner).closures[c]? = some y ∧ y.parent = x.parent ∧
      y.children = x.children ∧
      y.owned = if owner = some c then x.owned ++ [s.nextDatum] else x.owned := by
  refine ⟨_, by rw [getElem?_closures_addDatum, h]; rfl, ?_⟩
  split
  · exact ⟨rfl, rfl, rfl⟩
  · exact ⟨rfl, rfl, rfl⟩

/-- Subscriptions are indexed when a datum is added. -/
theorem EdgesIndexed.addDatum (indexed : s.EdgesIndexed) (issued : s.Issued) (typeName : String)
    (content : Content) (owner : Option ClosureId) :
    (s.addDatum typeName content owner).EdgesIndexed := by
  refine indexed.transfer rfl ?_ ?_ ?_
  · intro node
    cases node with
    | datum d =>
      simp only [State.outgoing, getElem?_datums_addDatum]
      by_cases h : s.nextDatum = d
      · subst h
        simp [issued.nextDatum_dead, Datum.create]
      · simp [h]
    | closure c =>
      simp only [State.outgoing, getElem?_closures_addDatum]
      cases s.closures[c]? with
      | none => rfl
      | some x => by_cases h : owner = some c <;> simp [h]
  · intro c
    simp only [State.incoming, getElem?_closures_addDatum]
    cases s.closures[c]? with
    | none => rfl
    | some x => by_cases h : owner = some c <;> simp [h]
  · intro node h
    cases node with
    | datum d =>
      obtain ⟨x, hx⟩ := contains_datum.mp h
      exact contains_datum.mpr ⟨x, issued.datums_addDatum _ _ _ hx⟩
    | closure c =>
      obtain ⟨x, hx⟩ := contains_closure.mp h
      obtain ⟨y, hy, _⟩ := closures_addDatum_of hx
      exact contains_closure.mpr ⟨y, hy⟩

/-- Listed nodes refer back to their closure when a datum is added. -/
theorem ListsSound.addDatum (sound : s.ListsSound) (issued : s.Issued) (typeName : String)
    (content : Content) (owner : Option ClosureId) :
    (s.addDatum typeName content owner).ListsSound := by
  constructor
  · intro c y hy d hd
    obtain ⟨x, hx, _, _, owned⟩ := closures_addDatum hy
    have listed : d ∈ x.owned ∨ owner = some c ∧ d = s.nextDatum := by
      by_cases h : owner = some c <;> simpa [owned, h] using hd
    rcases listed with listed | ⟨holder, rfl⟩
    · obtain ⟨z, hz, back⟩ := sound.owned c x hx d listed
      exact ⟨z, issued.datums_addDatum _ _ _ hz, back⟩
    · exact ⟨_, by rw [getElem?_datums_addDatum, if_pos rfl], holder⟩
  · intro c y hy b hb
    obtain ⟨x, hx, _, children, _⟩ := closures_addDatum hy
    obtain ⟨younger, z, hz, back⟩ := sound.children c x hx b (children ▸ hb)
    obtain ⟨z', hz', parent, _⟩ := closures_addDatum_of hz
    exact ⟨younger, z', hz', parent ▸ back⟩

/-- Nodes are in the lists that they refer to when a datum is added. -/
theorem ListsComplete.addDatum (complete : s.ListsComplete) (typeName : String)
    (content : Content) {owner : Option ClosureId} (live : s.HolderLive owner) :
    (s.addDatum typeName content owner).ListsComplete := by
  constructor
  · intro d z hz c holder
    rw [getElem?_datums_addDatum] at hz
    split at hz
    · next new =>
      cases hz
      obtain ⟨x, hx⟩ := exists_closure (live c holder)
      obtain ⟨y, hy, _, _, owned⟩ := closures_addDatum_of hx
      have holder' : owner = some c := holder
      exact ⟨y, hy, by simp [owned, holder', ← new]⟩
    · obtain ⟨x, hx, listed⟩ := complete.owner d z hz c holder
      obtain ⟨y, hy, _, _, owned⟩ := closures_addDatum_of hx
      exact ⟨y, hy, by rw [owned]; split <;> simp [listed]⟩
  · intro b z hz c back
    obtain ⟨z', hz', parent, _⟩ := closures_addDatum hz
    obtain ⟨x, hx, listed⟩ := complete.parent b z' hz' c (parent ▸ back)
    obtain ⟨y, hy, _, children, _⟩ := closures_addDatum_of hx
    exact ⟨y, hy, children ▸ listed⟩

/-- Lists ascend when a datum is added, since its identity is the highest one. -/
theorem ListsAscend.addDatum (ascend : s.ListsAscend) (sound : s.ListsSound) (issued : s.Issued)
    (typeName : String) (content : Content) (owner : Option ClosureId) :
    (s.addDatum typeName content owner).ListsAscend := by
  constructor
  · intro c y hy
    obtain ⟨x, hx, _, _, owned⟩ := closures_addDatum hy
    have before := ascend.owned c x hx
    rw [owned]
    split
    · refine List.pairwise_append.mpr ⟨before, List.pairwise_singleton _ _, ?_⟩
      intro d hd d' hd'
      obtain rfl := List.mem_singleton.mp hd'
      obtain ⟨z, hz, _⟩ := sound.owned c x hx d hd
      exact issued.datums d z hz
    · exact before
  · intro c y hy
    obtain ⟨x, hx, _, children, _⟩ := closures_addDatum hy
    exact children ▸ ascend.children c x hx

/-- The tree is a forest when a datum is added. -/
theorem Forest.addDatum (forest : s.Forest) (issued : s.Issued) (typeName : String)
    (content : Content) {owner : Option ClosureId} (live : s.HolderLive owner) :
    (s.addDatum typeName content owner).Forest :=
  ⟨forest.sound.addDatum issued typeName content owner,
    forest.complete.addDatum typeName content live,
    forest.ascend.addDatum forest.sound issued typeName content owner⟩

/-- Identities in use were given out when a datum is added. -/
theorem Issued.addDatum (issued : s.Issued) (typeName : String) (content : Content)
    (owner : Option ClosureId) : (s.addDatum typeName content owner).Issued := by
  refine ⟨?_, ?_, issued.registered, issued.callbacks, issued.pending⟩
  · intro d x hx
    rw [getElem?_datums_addDatum] at hx
    split at hx
    · next new =>
      subst new
      exact Nat.lt_succ_self _
    · exact Nat.lt_succ_of_lt (issued.datums d x hx)
  · intro c y hy
    obtain ⟨x, hx, _⟩ := closures_addDatum hy
    exact issued.closures c x hx

/-- A state is consistent when a datum is added. -/
theorem Consistent.addDatum (consistent : s.Consistent) (typeName : String) (content : Content)
    {owner : Option ClosureId} (live : s.HolderLive owner) :
    (s.addDatum typeName content owner).Consistent :=
  ⟨consistent.indexed.addDatum consistent.issued typeName content owner,
    consistent.forest.addDatum consistent.issued typeName content live,
    consistent.issued.addDatum typeName content owner⟩

/-! A new closure. -/

/-- A closure is the new one, or it was there before, with the same links but for the new child. -/
theorem closures_addClosure {template : String} {parent : Option ClosureId} {c : ClosureId}
    {y : Closure} (h : (s.addClosure template parent).closures[c]? = some y) :
    c = s.nextClosure ∧ y = .create template parent s.generation ∨
      c ≠ s.nextClosure ∧ ∃ x, s.closures[c]? = some x ∧ y.parent = x.parent ∧ y.owned = x.owned ∧
        y.children = if parent = some c then x.children ++ [s.nextClosure] else x.children := by
  rw [getElem?_closures_addClosure] at h
  split at h
  · next new =>
    cases h
    exact .inl ⟨new.symm, rfl⟩
  · next other =>
    obtain ⟨x, hx, rfl⟩ := Option.map_eq_some_iff.mp h
    refine .inr ⟨fun eq => other eq.symm, x, hx, ?_⟩
    split
    · exact ⟨rfl, rfl, rfl⟩
    · exact ⟨rfl, rfl, rfl⟩

/-- A closure is still there after another one is added, with the same links but for the new child.
-/
theorem Issued.closures_addClosure_of (issued : s.Issued) {template : String}
    {parent : Option ClosureId} {c : ClosureId} {x : Closure} (h : s.closures[c]? = some x) :
    ∃ y, (s.addClosure template parent).closures[c]? = some y ∧ y.parent = x.parent ∧
      y.owned = x.owned ∧
      y.children = if parent = some c then x.children ++ [s.nextClosure] else x.children := by
  have other : ¬ s.nextClosure = c := by
    rintro rfl
    rw [issued.nextClosure_dead] at h
    cases h
  refine ⟨_, by rw [getElem?_closures_addClosure, if_neg other, h]; rfl, ?_⟩
  split
  · exact ⟨rfl, rfl, rfl⟩
  · exact ⟨rfl, rfl, rfl⟩

/-- Subscriptions are indexed when a closure is added. -/
theorem EdgesIndexed.addClosure (indexed : s.EdgesIndexed) (issued : s.Issued)
    (template : String) (parent : Option ClosureId) :
    (s.addClosure template parent).EdgesIndexed := by
  refine indexed.transfer rfl ?_ ?_ ?_
  · intro node
    cases node with
    | datum d => rfl
    | closure c =>
      simp only [State.outgoing, getElem?_closures_addClosure]
      by_cases h : s.nextClosure = c
      · subst h
        simp [issued.nextClosure_dead, Closure.create]
      · cases s.closures[c]? with
        | none => simp [h]
        | some x => by_cases h' : parent = some c <;> simp [h, h']
  · intro c
    simp only [State.incoming, getElem?_closures_addClosure]
    by_cases h : s.nextClosure = c
    · subst h
      simp [issued.nextClosure_dead, Closure.create]
    · cases s.closures[c]? with
      | none => simp [h]
      | some x => by_cases h' : parent = some c <;> simp [h, h']
  · intro node h
    cases node with
    | datum d => exact h
    | closure c =>
      obtain ⟨x, hx⟩ := contains_closure.mp h
      obtain ⟨y, hy, _⟩ := issued.closures_addClosure_of hx
      exact contains_closure.mpr ⟨y, hy⟩

/-- Listed nodes refer back to their closure when a closure is added. -/
theorem ListsSound.addClosure (sound : s.ListsSound) (issued : s.Issued) (template : String)
    (parent : Option ClosureId) : (s.addClosure template parent).ListsSound := by
  constructor
  · intro c y hy d hd
    rcases closures_addClosure hy with ⟨_, rfl⟩ | ⟨_, x, hx, _, owned, _⟩
    · simp [Closure.create] at hd
    · exact sound.owned c x hx d (owned ▸ hd)
  · intro c y hy b hb
    rcases closures_addClosure hy with ⟨_, rfl⟩ | ⟨_, x, hx, _, _, children⟩
    · simp [Closure.create] at hb
    · have listed : b ∈ x.children ∨ parent = some c ∧ b = s.nextClosure := by
        by_cases h : parent = some c <;> simpa [children, h] using hb
      rcases listed with listed | ⟨holder, rfl⟩
      · obtain ⟨younger, z, hz, back⟩ := sound.children c x hx b listed
        obtain ⟨z', hz', same, _⟩ := issued.closures_addClosure_of hz
        exact ⟨younger, z', hz', same ▸ back⟩
      · exact ⟨issued.closures c x hx, _, by rw [getElem?_closures_addClosure, if_pos rfl], holder⟩

/-- Nodes are in the lists that they refer to when a closure is added. -/
theorem ListsComplete.addClosure (complete : s.ListsComplete) (issued : s.Issued)
    (template : String) {parent : Option ClosureId} (live : s.HolderLive parent) :
    (s.addClosure template parent).ListsComplete := by
  constructor
  · intro d z hz c holder
    obtain ⟨x, hx, listed⟩ := complete.owner d z hz c holder
    obtain ⟨y, hy, _, owned, _⟩ := issued.closures_addClosure_of hx
    exact ⟨y, hy, owned ▸ listed⟩
  · intro b z hz c back
    rcases closures_addClosure hz with ⟨rfl, rfl⟩ | ⟨_, z', hz', same, _⟩
    · have holder : parent = some c := back
      obtain ⟨x, hx⟩ := exists_closure (live c holder)
      obtain ⟨y, hy, _, _, children⟩ := issued.closures_addClosure_of hx
      exact ⟨y, hy, by simp [children, holder]⟩
    · obtain ⟨x, hx, listed⟩ := complete.parent b z' hz' c (same ▸ back)
      obtain ⟨y, hy, _, _, children⟩ := issued.closures_addClosure_of hx
      exact ⟨y, hy, by rw [children]; split <;> simp [listed]⟩

/-- Lists ascend when a closure is added, since its identity is the highest one. -/
theorem ListsAscend.addClosure (ascend : s.ListsAscend) (sound : s.ListsSound) (issued : s.Issued)
    (template : String) (parent : Option ClosureId) :
    (s.addClosure template parent).ListsAscend := by
  constructor
  · intro c y hy
    rcases closures_addClosure hy with ⟨_, rfl⟩ | ⟨_, x, hx, _, owned, _⟩
    · exact .nil
    · exact owned ▸ ascend.owned c x hx
  · intro c y hy
    rcases closures_addClosure hy with ⟨_, rfl⟩ | ⟨_, x, hx, _, _, children⟩
    · exact .nil
    · have before := ascend.children c x hx
      rw [children]
      split
      · refine List.pairwise_append.mpr ⟨before, List.pairwise_singleton _ _, ?_⟩
        intro b hb b' hb'
        obtain rfl := List.mem_singleton.mp hb'
        obtain ⟨_, z, hz, _⟩ := sound.children c x hx b hb
        exact issued.closures b z hz
      · exact before

/-- The tree is a forest when a closure is added. -/
theorem Forest.addClosure (forest : s.Forest) (issued : s.Issued) (template : String)
    {parent : Option ClosureId} (live : s.HolderLive parent) :
    (s.addClosure template parent).Forest :=
  ⟨forest.sound.addClosure issued template parent,
    forest.complete.addClosure issued template live,
    forest.ascend.addClosure forest.sound issued template parent⟩

/-- Identities in use were given out when a closure is added. -/
theorem Issued.addClosure (issued : s.Issued) (template : String) (parent : Option ClosureId) :
    (s.addClosure template parent).Issued := by
  refine ⟨issued.datums, ?_, issued.registered, issued.callbacks, issued.pending⟩
  intro c y hy
  rcases closures_addClosure hy with ⟨rfl, _⟩ | ⟨_, x, hx, _⟩
  · exact Nat.lt_succ_self _
  · exact Nat.lt_succ_of_lt (issued.closures c x hx)

/-- A state is consistent when a closure is added. -/
theorem Consistent.addClosure (consistent : s.Consistent) (template : String)
    {parent : Option ClosureId} (live : s.HolderLive parent) :
    (s.addClosure template parent).Consistent :=
  ⟨consistent.indexed.addClosure consistent.issued template parent,
    consistent.forest.addClosure consistent.issued template live,
    consistent.issued.addClosure template parent⟩

/-! A new subscription. -/

/-- The same nodes are live when the sets at two ends are changed. -/
theorem contains_atEnds (s : State κ) (source target : NodeId)
    (f : SubscriptionSet → SubscriptionSet) (node : NodeId) :
    (s.atEnds source target f).contains node = s.contains node := by
  rw [Bool.eq_iff_iff]
  cases node with
  | datum d => simp [contains_datum, getElem?_datums_atEnds]
  | closure c => simp [contains_closure, getElem?_closures_atEnds]

/-- A subscription that is added at its ends goes out from its source, and others stay as they are.
-/
theorem mem_outgoing_atEnds {source target : NodeId} (live : s.contains source = true)
    {a id : SubscriptionId} {node : NodeId} :
    id ∈ (s.atEnds source target (·.insert a)).outgoing node ↔
      source = node ∧ id = a ∨ id ∈ s.outgoing node := by
  cases node with
  | datum d =>
    simp only [outgoing, getElem?_datums_atEnds]
    by_cases h : source = .datum d
    · subst h
      obtain ⟨x, hx⟩ := contains_datum.mp live
      simp [hx, @eq_comm _ id a]
    · cases s.datums[d]? <;> simp [h]
  | closure c =>
    simp only [outgoing, getElem?_closures_atEnds]
    by_cases h : source = .closure c
    · subst h
      obtain ⟨x, hx⟩ := contains_closure.mp live
      simp [hx, @eq_comm _ id a]
    · cases s.closures[c]? <;> simp [h]

/-- A subscription that is added at its ends comes in at its target, and others stay as they are. -/
theorem mem_incoming_atEnds {source target : NodeId} (live : s.contains target = true)
    {a id : SubscriptionId} {c : ClosureId} :
    id ∈ (s.atEnds source target (·.insert a)).incoming c ↔
      target = .closure c ∧ id = a ∨ id ∈ s.incoming c := by
  simp only [incoming, getElem?_closures_atEnds]
  by_cases h : target = .closure c
  · subst h
    obtain ⟨x, hx⟩ := contains_closure.mp live
    simp [hx, @eq_comm _ id a]
  · cases s.closures[c]? <;> simp [h]

/-- A subscription that is inserted is indexed by its target if that is a datum. -/
theorem mem_targeting_insert {table : EdgeTable κ} {a id : SubscriptionId} {e : Subscription}
    {code : κ} {d : DatumId} :
    id ∈ (table.insert a e code).targeting d ↔
      e.target = .datum d ∧ id = a ∨ id ∈ table.targeting d := by
  cases h : e.target with
  | closure c => simp [EdgeTable.targeting, EdgeTable.insert, EdgeTable.addTarget, h]
  | datum b =>
    simp only [EdgeTable.targeting, EdgeTable.insert, EdgeTable.addTarget, h,
      Std.ExtTreeMap.getElem?_insert]
    by_cases same : b = d
    · subst same
      simp [@eq_comm _ id a]
    · simp [same]

/-- The new subscription is registered, and all others stay as they are. -/
theorem getElem?_subscriptions_addEdge (source target : NodeId) (selector : Selector) (code : κ)
    (id : SubscriptionId) :
    (s.addEdge source target selector code).edges.subscriptions[id]? =
      if s.nextSubscription = id then some ⟨source, target, selector, s.nextFunction⟩
      else s.edges.subscriptions[id]? := by
  simp [addEdge, EdgeTable.insert, Std.ExtTreeMap.getElem?_insert]

/-- The new subscription is registered, and every old one still is. -/
theorem Issued.exists_addEdge (issued : s.Issued) {source target : NodeId} {selector : Selector}
    {code : κ} {id : SubscriptionId} {P : Subscription → Prop} :
    (∃ e, (s.addEdge source target selector code).edges.subscriptions[id]? = some e ∧ P e) ↔
      P ⟨source, target, selector, s.nextFunction⟩ ∧ id = s.nextSubscription ∨
        ∃ e, s.edges.subscriptions[id]? = some e ∧ P e := by
  rw [getElem?_subscriptions_addEdge]
  by_cases h : s.nextSubscription = id
  · subst h
    simp [issued.nextSubscription_free]
  · have h' : ¬ id = s.nextSubscription := fun eq => h eq.symm
    simp [h, h']

/-- The same nodes are live when a subscription is added. -/
theorem contains_addEdge (source target : NodeId) (selector : Selector) (code : κ)
    (node : NodeId) :
    (s.addEdge source target selector code).contains node = s.contains node := by
  rw [← s.contains_atEnds source target (·.insert s.nextSubscription) node]
  cases node <;> rfl

/-- A subscription is the new one or an old one. -/
theorem subscriptions_addEdge {source target : NodeId} {selector : Selector} {code : κ}
    {id : SubscriptionId} {e : Subscription}
    (he : (s.addEdge source target selector code).edges.subscriptions[id]? = some e) :
    id = s.nextSubscription ∧ e = ⟨source, target, selector, s.nextFunction⟩ ∨
      s.edges.subscriptions[id]? = some e := by
  rw [getElem?_subscriptions_addEdge] at he
  split at he
  · next new =>
    cases he
    exact .inl ⟨new.symm, rfl⟩
  · exact .inr he

/-- No entry of the index by target is empty when a subscription is added. -/
theorem EdgesIndexed.targeted_addEdge (indexed : s.EdgesIndexed) {source target : NodeId}
    {selector : Selector} {code : κ} {d : DatumId} {ids : SubscriptionSet}
    (h : (s.addEdge source target selector code).edges.datumTargets[d]? = some ids) :
    ∃ id, id ∈ ids := by
  cases ht : target with
  | closure c =>
    subst ht
    exact indexed.targeted d ids h
  | datum b =>
    subst ht
    simp only [State.addEdge, EdgeTable.insert, EdgeTable.addTarget,
      Std.ExtTreeMap.getElem?_insert] at h
    split at h
    · cases h
      exact ⟨s.nextSubscription, by simp⟩
    · exact indexed.targeted d ids h

/-- The callback of the new subscription is new. -/
theorem Issued.callback_addEdge (issued : s.Issued) {id : SubscriptionId} {e : Subscription}
    (he : s.edges.subscriptions[id]? = some e) : e.callback ≠ s.nextFunction := by
  intro same
  have older := issued.callbacks id e he
  rw [same] at older
  exact Nat.lt_irrefl _ older

/-- Subscriptions are indexed when one is added between live nodes. -/
theorem EdgesIndexed.addEdge (indexed : s.EdgesIndexed) (issued : s.Issued)
    {source target : NodeId} (source_live : s.contains source = true)
    (target_live : s.contains target = true) (selector : Selector) (code : κ) :
    (s.addEdge source target selector code).EdgesIndexed := by
  refine ⟨?_, ?_, ?_, ?_, ?_, ?_, ?_, ?_⟩
  · intro node id
    rw [issued.exists_addEdge, ← indexed.outgoing]
    exact mem_outgoing_atEnds source_live
  · intro c id
    rw [issued.exists_addEdge, ← indexed.incoming]
    exact mem_incoming_atEnds target_live
  · intro d id
    rw [issued.exists_addEdge, ← indexed.targeting]
    exact mem_targeting_insert
  · exact fun d ids h => indexed.targeted_addEdge h
  · intro id e he
    rw [contains_addEdge]
    rcases subscriptions_addEdge he with ⟨_, rfl⟩ | he
    · exact source_live
    · exact indexed.source_live id e he
  · intro id e he
    rw [contains_addEdge]
    rcases subscriptions_addEdge he with ⟨_, rfl⟩ | he
    · exact target_live
    · exact indexed.target_live id e he
  · intro f
    simp only [issued.exists_addEdge, exists_or, ← indexed.functions]
    simp [State.addEdge, EdgeTable.insert, Std.ExtTreeMap.mem_insert]
  · intro id id' e e' he he' same
    rcases subscriptions_addEdge he with ⟨rfl, rfl⟩ | he <;>
      rcases subscriptions_addEdge he' with ⟨rfl, rfl⟩ | he'
    · rfl
    · exact absurd same.symm (issued.callback_addEdge he')
    · exact absurd same (issued.callback_addEdge he)
    · exact indexed.callback_injective id id' e e' he he' same

/-- The tree is the same when a subscription is added. -/
theorem sameTree_addEdge (s : State κ) (source target : NodeId) (selector : Selector) (code : κ) :
    s.SameTree (s.addEdge source target selector code) := by
  constructor
  · intro d
    have entry := s.getElem?_datums_atEnds source target (·.insert s.nextSubscription) d
    rw [show (s.addEdge source target selector code).datums[d]? = _ from entry, Option.map_map]
    refine congrArg (Option.map · _) (funext fun x => ?_)
    simp only [Function.comp_apply]
    split <;> rfl
  · intro c
    have entry := s.getElem?_closures_atEnds source target (·.insert s.nextSubscription) c
    rw [show (s.addEdge source target selector code).closures[c]? = _ from entry, Option.map_map]
    rfl

/-- Identities in use were given out when a subscription is added. -/
theorem Issued.addEdge (issued : s.Issued) (source target : NodeId) (selector : Selector)
    (code : κ) : (s.addEdge source target selector code).Issued := by
  have tree := s.sameTree_addEdge source target selector code
  refine ⟨?_, ?_, ?_, ?_, fun id hid => Nat.lt_succ_of_lt (issued.pending id hid)⟩
  · intro d y hy
    obtain ⟨x, hx, _⟩ := tree.datum hy
    exact issued.datums d x hx
  · intro c y hy
    obtain ⟨x, hx, _⟩ := tree.closure hy
    exact issued.closures c x hx
  · intro id e he
    rw [getElem?_subscriptions_addEdge] at he
    split at he
    · next new =>
      subst new
      exact Nat.lt_succ_self _
    · exact Nat.lt_succ_of_lt (issued.registered id e he)
  · intro id e he
    rw [getElem?_subscriptions_addEdge] at he
    split at he
    · cases he
      exact Nat.lt_succ_self _
    · exact Nat.lt_succ_of_lt (issued.callbacks id e he)

/-- A state is consistent when a subscription is added between live nodes. -/
theorem Consistent.addEdge (consistent : s.Consistent) {source target : NodeId}
    (source_live : s.contains source = true) (target_live : s.contains target = true)
    (selector : Selector) (code : κ) : (s.addEdge source target selector code).Consistent :=
  ⟨consistent.indexed.addEdge consistent.issued source_live target_live selector code,
    (s.sameTree_addEdge source target selector code).forest consistent.forest,
    consistent.issued.addEdge source target selector code⟩

/-! A new closure with parameters. -/

/-- The state with the counter of closures further on. -/
def spend (s : State κ) (n : Nat) : State κ :=
  { s with counters := { s.counters with closures := s.counters.closures + n } }

/-- The state with a new closure that has been given its parameters. -/
def enroll (s : State κ) (template : String) (parent : Option ClosureId)
    (params : List (String × Value)) : State κ :=
  (s.addClosure template parent).updateClosure s.nextClosure fun c =>
    { c with fields := c.fields.insertAll params }

section

variable {template : String} {parent : Option ClosureId} {params : List (String × Value)}

/-- A new closure with parameters changes the table of closures and their counter alone. -/
theorem enroll_eq (s : State κ) (template : String) (parent : Option ClosureId)
    (params : List (String × Value)) : s.enroll template parent params =
      { s.spend 1 with closures := (s.enroll template parent params).closures } := by
  rw [enroll, updateClosure_eq]
  rfl

/-- Apart from its parameters, the new closure is made as any other one. -/
theorem getElem?_closures_enroll (c : ClosureId) :
    (s.enroll template parent params).closures[c]? =
      if s.nextClosure = c then some { Closure.create template parent s.generation with
        fields := FieldMap.insertAll ∅ params }
      else (s.addClosure template parent).closures[c]? := by
  rw [enroll, updateClosure_eq]
  change (Std.ExtTreeMap.modify _ _ _)[c]? = _
  rw [getElem?_modify_eq_map, getElem?_closures_addClosure]
  by_cases new : s.nextClosure = c
  · simp [new, Closure.create]
  · simp [new, Function.comp_def]

@[simp] theorem enroll_nil (s : State κ) (template : String) (parent : Option ClosureId) :
    s.enroll template parent [] = s.addClosure template parent := by
  refine ext_closures (fun c => ?_) (by rw [enroll_eq]; rfl)
  rw [getElem?_closures_enroll]
  split
  · next new =>
    rw [getElem?_closures_addClosure, if_pos new]
    rfl
  · rfl

/-- Giving parameters does not touch the links. -/
theorem sameLinks_enroll : (s.addClosure template parent).SameLinks
    (s.enroll template parent params) := by
  refine ⟨by rw [enroll_eq]; rfl, by rw [enroll_eq]; rfl, fun d => by rw [enroll_eq]; rfl,
    fun c => ?_⟩
  rw [getElem?_closures_enroll, getElem?_closures_addClosure]
  split <;> rfl

/-- A state is consistent when a closure with parameters is added. -/
theorem Consistent.enroll (consistent : s.Consistent) (live : s.HolderLive parent) :
    (s.enroll template parent params).Consistent :=
  sameLinks_enroll.consistent (consistent.addClosure template live) (by
    rw [enroll_eq]
    exact consistent.issued.pending)

end

end State

end ReactiveKernel
