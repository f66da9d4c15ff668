import ReactiveKernel.Proofs.Isolation.Bystander

/-!
# Two drains in tandem

A drain of a divided kernel and one of a kernel that looks like it from one side, with nothing of
the other side pending, go through their waves together. The second one skips the turns of the other
side. When it has nothing pending any more, the first one may go on with waves of the other side
alone.
-/

namespace ReactiveKernel

variable {κ α : Type} {side : NodeId → Bool}

namespace Kernel

open State

/-- Since some time two kernels have started the same callbacks of this side in the same order, and
the second one no others. -/
def ToldAlike (side : NodeId → Bool) (since k m : Kernel κ) : Prop :=
  ∃ ns, k.notified = since.notified ++ ns ∧
    m.notified = since.notified ++ ns.filter fun n => side n.source

/-- The second kernel is the first one as this side knows it: it looks alike, nothing of the other
side is pending, and since some time the same callbacks of this side have started. -/
structure Mirrors (h : Host κ) (side : NodeId → Bool) (since k m : Kernel κ) : Prop where
  /-- The sides of the first kernel are divided. -/
  divided : k.Divided h side
  /-- The sides of the second kernel are divided. -/
  divided' : m.Divided h side
  /-- The states look alike. -/
  looks : k.toState.LooksLike side m.toState
  /-- The subscriptions are still the same. -/
  edges : k.edges = since.edges
  /-- Nothing of the other side is pending. -/
  only : ∀ id ∈ m.schedule.pending, since.keeps side id = true
  /-- The same callbacks of this side have started. -/
  told : ToldAlike side since k m

/-- The second kernel is done, and in the first one only subscriptions of the other side are
pending. -/
structure Rests (h : Host κ) (side : NodeId → Bool) (since k m : Kernel κ) : Prop where
  /-- The sides of the first kernel are divided. -/
  divided : k.Divided h side
  /-- The nodes of this side are the same. -/
  same : k.toState.SameSide side m.toState
  /-- The subscriptions are still the same. -/
  edges : k.edges = since.edges
  /-- Only subscriptions of the other side are pending. -/
  others : ∀ id ∈ k.schedule.pending, since.keeps side id = false
  /-- The same callbacks of this side have started. -/
  told : ToldAlike side since k m

variable {h h' : Host κ} {since k k' m m' : Kernel κ}

theorem ToldAlike.refl (k : Kernel κ) : ToldAlike side k k k :=
  ⟨[], (List.append_nil _).symm, (List.append_nil _).symm⟩

/-- The same was told if only what cannot be seen has happened in the first kernel. -/
theorem ToldAlike.unseen (alike : ToldAlike side since k m) (unseen : k.Unseen h side k') :
    ToldAlike side since k' m := by
  obtain ⟨ns, was, was'⟩ := alike
  obtain ⟨more, now, others⟩ := unseen.notified
  refine ⟨ns ++ more, by rw [now, was, List.append_assoc], ?_⟩
  have nothing : (more.filter fun n => side n.source) = [] := by
    simpa using others
  rw [was', List.filter_append, nothing, List.append_nil]

/-- What starts in both is of this side. -/
theorem ToldAlike.append (alike : ToldAlike side since k m) (ns : List Notification)
    (own : ∀ n ∈ ns, side n.source = true) (now : k'.notified = k.notified ++ ns)
    (now' : m'.notified = m.notified ++ ns) : ToldAlike side since k' m' := by
  obtain ⟨before, was, was'⟩ := alike
  refine ⟨before ++ ns, by rw [now, was, List.append_assoc], ?_⟩
  rw [now', was', List.filter_append, List.filter_eq_self.mpr own, List.append_assoc]

/-- The same was told if nobody was notified in either kernel. -/
theorem ToldAlike.of_notified (alike : ToldAlike side since k m) (now : k'.notified = k.notified)
    (now' : m'.notified = m.notified) : ToldAlike side since k' m' := by
  obtain ⟨ns, was, was'⟩ := alike
  exact ⟨ns, now.trans was, now'.trans was'⟩

/-! One callback. -/

/-- What cannot be seen from this side happens to the first kernel alone. -/
theorem Mirrors.unseen (mirrors : Mirrors h side since k m) (unseen : k.Unseen h side k') :
    Mirrors h side since k' m :=
  ⟨unseen.divided, mirrors.divided', unseen.looks.symm.trans mirrors.looks,
    unseen.looks.edges.trans mirrors.edges, mirrors.only, mirrors.told.unseen unseen⟩

/-- An entry is written in both journals. -/
theorem Mirrors.note (mirrors : Mirrors h side since k m) (o o' : Occurrence κ)
    (same : o'.notice? = o.notice?) (own : ∀ n, o.notice? = some n → side n.source = true) :
    Mirrors h side since (k.note o) (m.note o') := by
  have starts : ∀ n ∈ o.notice?.toList, side n.source = true := by
    simpa using own
  have told := notified_note m o'
  rw [same] at told
  exact ⟨mirrors.divided.of_state rfl, mirrors.divided'.of_state rfl, mirrors.looks, mirrors.edges,
    mirrors.only, mirrors.told.append _ starts (notified_note k o) told⟩

/-- The second kernel still mirrors the first one when entries are written that tell of no
notification. -/
theorem Mirrors.quiet (mirrors : Mirrors h side since k m) (o o' : Occurrence κ)
    (quiet : o.notice? = none) (quiet' : o'.notice? = none) :
    Mirrors h side since (k.note o) (m.note o') :=
  mirrors.note o o' (quiet'.trans quiet.symm) (by simp [quiet])

/-- The second kernel still mirrors the first one when both make an announcement. -/
theorem Mirrors.emit (mirrors : Mirrors h side since k m) (e e' : TraceEvent) :
    Mirrors h side since (k.emit e) (m.emit e') :=
  ⟨mirrors.divided.of_state rfl, mirrors.divided'.of_state rfl, mirrors.looks, mirrors.edges,
    mirrors.only, mirrors.told.of_notified (notified_emit k e) (notified_emit m e')⟩

/-- The schedules change, and nothing new is pending in either. -/
theorem Mirrors.reschedule (mirrors : Mirrors h side since k m) (s t : Schedule)
    (fewer : ∀ id ∈ s.pending, id ∈ k.schedule.pending)
    (fewer' : ∀ id ∈ t.pending, id ∈ m.schedule.pending)
    (pending : ∀ id, since.keeps side id = true → (id ∈ t.pending ↔ id ∈ s.pending))
    (clock : t = { s with pending := t.pending }) :
    Mirrors h side since (k.mapState fun x => { x with schedule := s })
      (m.mapState fun x => { x with schedule := t }) := by
  refine ⟨mirrors.divided.reschedule s fewer rfl, mirrors.divided'.reschedule t fewer' rfl,
    ⟨mirrors.looks.reschedule fun id kept => ?_, clock⟩, mirrors.edges,
    fun id waits => mirrors.only id (fewer' id waits), mirrors.told.of_notified rfl rfl⟩
  rw [keeps_congr mirrors.edges] at kept
  exact pending id kept

/-- A mutation of this side is done in both. -/
theorem Mirrors.perform (mirrors : Mirrors h side since k m) (order order' : EdgeOrder κ)
    {c : Command κ} {node : NodeId} (on : c.mutates? = some node) (own : side node = true) :
    Mirrors h side since (c.perform order k).2 (c.perform order' m).2 := by
  have edges := edges_perform mirrors.divided.consistent order on
  have same : m.edges = since.edges := mirrors.looks.edges.trans mirrors.edges
  refine ⟨mirrors.divided.perform order on, mirrors.divided'.perform order' on,
    mirrors.divided.alike mirrors.divided' mirrors.looks order order' on own,
    edges.trans mirrors.edges, ?_,
    mirrors.told.of_notified (notified_perform mirrors.divided.consistent order c)
      (notified_perform mirrors.divided'.consistent order' c)⟩
  rcases state_perform mirrors.divided'.consistent order' on with still | ⟨change, slot, mutates⟩
  · rw [still]
    exact mirrors.only
  · intro id pending
    rcases (mutates.mem_pending id).mp pending with old | hears
    · exact mirrors.only id old
    · rw [← keeps_congr same, mirrors.divided'.split.keeps_of_hears hears, own]

/-- A program that minds this side does the same in both. -/
theorem Mirrors.exec {order order' : EdgeOrder κ}
    {call call' : (c : Call) → Kernel κ → Option (Except Fault c.Reply × Kernel κ)}
    {p : Program κ α} {r : α} (minds : p.Minds side) (mirrors : Mirrors h side since k m)
    (ends : p.exec order call k = some (r, k')) :
    ∃ m', p.exec order' call' m = some (r, m') ∧ Mirrors h side since k' m' := by
  induction p generalizing k m with
  | pure a =>
    cases ends
    exact ⟨m, rfl, mirrors⟩
  | inspect next ih =>
    have seen : next k.toState = next m.toState := minds.1 _ _ mirrors.looks
    rw [Program.exec, ← seen]
    exact ih _ (minds.2 _) mirrors ends
  | probe p next ih =>
    obtain ⟨⟨text, rfl⟩, minds⟩ := minds
    exact ih _ (minds _) (mirrors.quiet (.remarked text) (.remarked text) rfl rfl) ends
  | command c next ih =>
    obtain ⟨⟨node, on, mine⟩, minds⟩ := minds
    have reply := reply_eq order order' mirrors.looks.toSameSide on mine
    simp only [Program.exec, reply]
    exact ih _ (minds _) (mirrors.perform order order' on mine) ends
  | call c next ih => exact minds.elim

/-- Host code that minds this side comes to the same end in both. -/
theorem Mirrors.reacts (mirrors : Mirrors h side since k m) (same : h'.behave = h.behave)
    {code : κ} {occasion : Occasion} {r : Except Fault Unit}
    (minds : (h.behave code occasion).Minds side) (reacts : h.Reacts code occasion k r k') :
    ∃ m', h'.Reacts code occasion m r m' ∧ Mirrors h side since k' m' := by
  obtain ⟨depth, exec⟩ := Host.reacts_iff.mp reacts
  obtain ⟨m', exec', after⟩ : ∃ m', (h.behave code occasion).exec h'.order
      (fun c k => (h'.engine depth).call c k) m = some (r, m') ∧ Mirrors h side since k' m' :=
    mirrors.exec minds exec
  refine ⟨m', Host.reacts_iff.mpr ⟨depth, ?_⟩, after⟩
  rw [same]
  exact exec'

/-- The callback of a subscription of the other side cannot be seen. -/
theorem Divided.callback_unseen (divided : k.Divided h side) {id : SubscriptionId}
    {e : Subscription} {code : κ} {g : Nat} {r : Except Fault Unit}
    (here : k.edges.callback? id = some (e, code)) (other : side e.source = false)
    (reacts : h.Reacts code (.notified ⟨id, e.source, e.target, g⟩)
      (k.startCallback ⟨id, e.source, e.target, g⟩) r k') : k.Unseen h side k' := by
  have announced := Unseen.emit divided (.notified id g)
  have started := announced.trans
    (Unseen.note announced.divided (.started ⟨id, e.source, e.target, g⟩)
      fun n same => Option.some.inj same ▸ other)
  have minds := divided.heeds id e code g here
  obtain ⟨depth, exec⟩ := Host.reacts_iff.mp reacts
  exact started.trans (exec_unseen (by simp [other]) minds started.divided exec)

/-! One wave. -/

/-- The second kernel still mirrors the first one when a callback has ended in both. -/
theorem Mirrors.afterCallback (mirrors : Mirrors h side since k m) (n : Notification)
    (r : Except Fault Unit) :
    Mirrors h side since (k.afterCallback n r) (m.afterCallback n r) := by
  cases r with
  | ok u => exact mirrors.quiet (.finished n none) (.finished n none) rfl rfl
  | error fault =>
    have finished := mirrors.quiet (.finished n (some fault)) (.finished n (some fault)) rfl rfl
    exact finished.quiet _ _ rfl rfl

/-- The end of a callback cannot be seen. -/
theorem Divided.afterCallback (divided : k.Divided h side) (n : Notification)
    (r : Except Fault Unit) : k.Unseen h side (k.afterCallback n r) := by
  cases r with
  | ok u => exact .quiet divided (.finished n none) rfl
  | error fault =>
    have finished := Unseen.quiet divided (.finished n (some fault)) rfl
    exact finished.trans (.quiet finished.divided _ rfl)

/-- A side keeps the same subscriptions as at first. -/
theorem Mirrors.keeps (mirrors : Mirrors h side since k m) (id : SubscriptionId) :
    k.keeps side id = since.keeps side id :=
  keeps_congr mirrors.edges id

/-- A wave goes through its turns in both, without those of the other side in the second one. -/
theorem Mirrors.deliver (same : h'.behave = h.behave) {g : Nat} {wave : List SubscriptionId}
    {tally tally' : WaveTally} (mirrors : Mirrors h side since k m)
    (ends : h.Ends (k.deliver g wave tally) (.ok (), tally') k') (count : WaveTally) :
    ∃ count' m',
      h'.Ends (m.deliver g (wave.filter (since.keeps side)) count) (.ok (), count') m' ∧
      Mirrors h side since k' m' := by
  induction wave generalizing tally count k m with
  | nil =>
    obtain ⟨_, rfl⟩ := ends.of_done
    exact ⟨count, m, Host.ends_done _ _, mirrors⟩
  | cons id rest ih =>
    have table : m.edges = k.edges := mirrors.looks.edges
    cases found : k.edges.callback? id with
    | none =>
      have unregistered := mirrors.divided.consistent.indexed.callback_none found
      have kept : since.keeps side id = true := by
        rw [← mirrors.keeps, State.keeps, unregistered]
        rfl
      simp only [Kernel.deliver, found] at ends
      have skipped := mirrors.quiet (.logged (.stale id g)) (.logged (.stale id g)) rfl rfl
      obtain ⟨count', m', ends', after⟩ := ih skipped ends { count with stale := count.stale + 1 }
      refine ⟨count', m', ?_, after⟩
      rw [List.filter_cons_of_pos kept, Kernel.deliver, table, found]
      exact ends'
    | some subscription =>
      obtain ⟨e, code⟩ := subscription
      have registered : since.keeps side id = side e.source := by
        rw [← mirrors.keeps]
        exact keeps_of_subscription (callback_some found)
      obtain ⟨r, k₁, reacts, goes, ends⟩ := (ends_deliver_cons found).mp ends
      cases own : side e.source with
      | true =>
        have minds := mirrors.divided.heeds id e code g found
        have mine : (fun node => side node == side e.source) = side := by
          funext node
          rw [own, beq_true]
        rw [mine] at minds
        have started := (mirrors.emit (.notified id g) (.notified id g)).note
          (.started ⟨id, e.source, e.target, g⟩) (.started ⟨id, e.source, e.target, g⟩) rfl
          fun n is => Option.some.inj is ▸ own
        obtain ⟨m₁, reacts', after⟩ := started.reacts same minds reacts
        obtain ⟨count', m', ends', final⟩ := ih (after.afterCallback _ r) ends (tallyAfter count r)
        refine ⟨count', m', ?_, final⟩
        rw [List.filter_cons_of_pos (registered.trans own)]
        refine (ends_deliver_cons (table ▸ found)).mpr ⟨r, m₁, reacts', ?_, ends'⟩
        rw [after.looks.settings]
        exact goes
      | false =>
        have unseen := mirrors.divided.callback_unseen found own reacts
        have passed :=
          unseen.trans (unseen.divided.afterCallback ⟨id, e.source, e.target, g⟩ r)
        obtain ⟨count', m', ends', final⟩ := ih (mirrors.unseen passed) ends count
        refine ⟨count', m', ?_, final⟩
        rw [List.filter_cons_of_neg (by simp [registered, own])]
        exact ends'

/-- What two drains that started from one kernel have told alike, if the second one has stood still.
-/
theorem Mirrors.still (mirrors : Mirrors h side k k' k) : k.Unseen h side k' := by
  refine ⟨mirrors.divided, mirrors.looks.symm, ?_⟩
  obtain ⟨ns, now, still⟩ := mirrors.told
  refine ⟨ns, now, ?_⟩
  simpa using still

/-- A wave of the other side cannot be seen. It is followed beside the kernel itself, which has no
turn in it. -/
theorem Divided.deliver_unseen (divided : k.Divided h side) (idle : ∀ id, id ∉ k.schedule.pending)
    {g : Nat} {wave : List SubscriptionId} {tally tally' : WaveTally}
    (others : ∀ id ∈ wave, k.keeps side id = false)
    (ends : h.Ends (k.deliver g wave tally) (.ok (), tally') k') : k.Unseen h side k' := by
  have mirrors : Mirrors h side k k k :=
    ⟨divided, divided, .refl _, rfl, fun id pending => absurd pending (idle id), .refl k⟩
  obtain ⟨count', m', ends', after⟩ := mirrors.deliver rfl ends tally
  have nothing : wave.filter (k.keeps side) = [] :=
    List.filter_eq_nil_iff.mpr fun id turn => by simp [others id turn]
  rw [nothing] at ends'
  obtain ⟨_, rfl⟩ := ends'.of_done
  exact after.still

end Kernel

end ReactiveKernel
