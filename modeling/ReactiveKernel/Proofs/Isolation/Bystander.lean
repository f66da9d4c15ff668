import ReactiveKernel.Proofs.Effect.Murmurs
import ReactiveKernel.Proofs.Isolation.Side
import ReactiveKernel.Proofs.Run.Ending
import ReactiveKernel.Proofs.Starts

/-!
# Host code that minds one side

Host code that looks at the nodes of one side only and changes nodes of that side only cannot be
seen from the other side. From two kernels that look alike from its own side it comes to the same
result, and the kernels that it leaves behind look alike again.
-/

namespace ReactiveKernel

variable {κ α : Type} {side : NodeId → Bool}

/-- A program that looks at one side only, leaves nothing but remarks with the instruments, and
gives no commands but mutations of nodes of that side. -/
def Program.Minds (side : NodeId → Bool) : Program κ α → Prop
  | .pure _ => True
  | .inspect next =>
    (∀ s t : State κ, s.LooksLike side t → next s = next t) ∧ ∀ s, (next s).Minds side
  | .probe p next => (∃ text, p = .remark text) ∧ ∀ r, (next r).Minds side
  | .command c next =>
    (∃ node, c.mutates? = some node ∧ side node = true) ∧ ∀ r, (next r).Minds side
  | .call _ _ => False

/-- The callback of every subscription minds the side on which the subscription starts. -/
def Host.Heeds (h : Host κ) (side : NodeId → Bool) (edges : EdgeTable κ) : Prop :=
  ∀ id e code generation, edges.callback? id = some (e, code) →
    (h.behave code (.notified ⟨id, e.source, e.target, generation⟩)).Minds
      fun node => side node == side e.source

namespace Kernel

open State

/-- The notifications of all callbacks that started so far. -/
def notified (k : Kernel κ) : List Notification := notices k.journal.toList

/-- An entry adds to the notifications the one that it tells of. -/
theorem notified_note (k : Kernel κ) (o : Occurrence κ) :
    (k.note o).notified = k.notified ++ o.notice?.toList := by
  rw [notified, journal_note, notices_snoc]
  rfl

/-- What others than drains write tells of no callback. -/
theorem Murmurs.notified {k k' : Kernel κ} (h : k.Murmurs k') : k'.notified = k.notified := by
  obtain ⟨entries, journal, silent⟩ := h
  have nothing : notices entries = [] := by
    refine silent.filterMap fun o outside => ?_
    cases o with
    | started n => cases outside
    | _ => rfl
  rw [Kernel.notified, journal, notices, List.filterMap_append]
  exact (congrArg _ nothing).trans (List.append_nil _)

/-- An announcement adds nothing to the notifications. -/
theorem notified_emit (k : Kernel κ) (e : TraceEvent) : (k.emit e).notified = k.notified :=
  Murmurs.notified ⟨_, journal_emit k e, silent_announcement k e⟩

/-! The answers to mutations. -/

section Replies

variable {k m : Kernel κ} (order order' : EdgeOrder κ)

/-- The answer to a command is that of its attempt. -/
theorem perform_reply (k : Kernel κ) (c : Command κ) :
    (c.perform order k).1 = (c.attempt order k).map Prod.fst := by
  rw [Command.perform_eq]
  cases c.attempt order k <;> rfl

/-- Two operations that go on from the same value give the same answer if they go on alike. -/
theorem reply_bind {β : Type} (a : Except Fault α) {f g : α → Except Fault (β × Kernel κ)}
    (alike : ∀ x, (f x).map Prod.fst = (g x).map Prod.fst) :
    (a >>= f).map Prod.fst = (a >>= g).map Prod.fst := by
  cases a with
  | error fault => rfl
  | ok x => exact alike x

/-- The answer to an update of a status depends on the datum alone. -/
theorem reply_updateStatus (d : DatumId) (x : Datum) (status : Status) :
    (m.updateStatus order' d x status).1 = (k.updateStatus order d x status).1 := by
  unfold updateStatus
  cases x.status.same status <;> rfl

/-- The answer to a mutation is decided by the record of the node. -/
theorem reply_eq (same : k.toState.SameSide side m.toState) {c : Command κ} {node : NodeId}
    (on : c.mutates? = some node) (own : side node = true) :
    (c.perform order' m).1 = (c.perform order k).1 := by
  rw [perform_reply, perform_reply]
  have datum {d : DatumId} (own : side (.datum d) = true) :
      m.requireDatum d = k.requireDatum d := by
    rw [requireDatum, requireDatum, same.datums d own]
  have closure {c : ClosureId} (own : side (.closure c) = true) :
      m.requireClosure c = k.requireClosure c := by
    rw [requireClosure, requireClosure, same.closures c own]
  cases c with
  | set n field value =>
    cases on
    cases node with
    | datum d =>
      simp only [Command.attempt, set, setDatumField, datum own]
      refine reply_bind _ fun x => reply_bind _ fun fields => ?_
      split <;> rfl
    | closure c =>
      simp only [Command.attempt, set, setClosureField, closure own]
      refine reply_bind _ fun x => ?_
      split <;> rfl
  | setItems d items =>
    cases on
    simp only [Command.attempt, setItems, datum own]
    exact reply_bind _ fun x => reply_bind _ fun items => rfl
  | setItem d index value =>
    cases on
    simp only [Command.attempt, setItem, datum own]
    refine reply_bind _ fun x => reply_bind _ fun items => ?_
    split
    · rfl
    · split <;> rfl
  | pushItem d value =>
    cases on
    simp only [Command.attempt, pushItem, datum own]
    exact reply_bind _ fun x => reply_bind _ fun items => rfl
  | removeItem d index =>
    cases on
    simp only [Command.attempt, removeItem, datum own]
    refine reply_bind _ fun x => reply_bind _ fun items => ?_
    split <;> rfl
  | setAvailability d a =>
    cases on
    simp only [Command.attempt, setAvailability, datum own]
    exact reply_bind _ fun x => congrArg Except.ok (reply_updateStatus order order' d x _)
  | setError d payload =>
    cases on
    simp only [Command.attempt, setError, datum own]
    exact reply_bind _ fun x => congrArg Except.ok (reply_updateStatus order order' d x _)
  | _ => cases on

end Replies

/-- A consistent kernel without a link between the sides, whose callbacks mind their sides. -/
structure Divided (h : Host κ) (side : NodeId → Bool) (k : Kernel κ) : Prop where
  /-- The state is consistent. -/
  consistent : k.toState.Consistent
  /-- There is no link between the sides. -/
  split : k.toState.Split side
  /-- Callbacks mind their sides. -/
  heeds : h.Heeds side k.edges

variable {h : Host κ} {k k' k'' m : Kernel κ} {order order' : EdgeOrder κ}

/-- Nothing new is pending, and nothing else is different but the schedule and the records. -/
theorem Divided.reschedule (divided : k.Divided h side) (s : Schedule)
    (fewer : ∀ id ∈ s.pending, id ∈ k.schedule.pending)
    (state : k'.toState = { k.toState with schedule := s }) : k'.Divided h side := by
  have action : k.DrainAction (k.mapState fun t => { t with schedule := s }) :=
    .reschedule s fewer
  refine ⟨?_, ?_, ?_⟩
  · rw [state]
    exact (Contract.consistency_drainStable.drainAct action divided.consistent).1
  · exact divided.split.congr (by rw [state]) (by simp [state])
  · rw [state]
    exact divided.heeds

/-- Whether a kernel is divided is determined by its state. -/
theorem Divided.of_state (divided : k.Divided h side) (state : k'.toState = k.toState) :
    k'.Divided h side :=
  divided.reschedule k.schedule (fun _ pending => pending) state

/-- A mutation changes nothing, or it changes its node. -/
theorem state_perform (consistent : k.toState.Consistent) (order : EdgeOrder κ) {c : Command κ}
    {node : NodeId} (on : c.mutates? = some node) :
    (c.perform order k).2.toState = k.toState ∨
      ∃ change slot, k.toState.Mutates node change slot (c.perform order k).2.toState := by
  have mutation : k.Mutation c node (c.perform order k) := perform_mutation consistent on
  generalize c.perform order k = result at mutation
  cases mutation with
  | refused fault cannot => exact .inl rfl
  | idle reply was asked there quiet => exact .inl rfl
  | effective reply was asked fresh changes answers mutates => exact .inr ⟨_, _, mutates⟩

/-- A mutation leaves subscriptions alone. -/
theorem edges_perform (consistent : k.toState.Consistent) (order : EdgeOrder κ) {c : Command κ}
    {node : NodeId} (on : c.mutates? = some node) : (c.perform order k).2.edges = k.edges := by
  rcases state_perform consistent order on with same | ⟨change, slot, mutates⟩
  · rw [same]
  · exact mutates.edges

/-- A mutation makes no link. -/
theorem Divided.perform (divided : k.Divided h side) (order : EdgeOrder κ) {c : Command κ}
    {node : NodeId} (on : c.mutates? = some node) : (c.perform order k).2.Divided h side := by
  have effect : k.Effect (c.change? (c.perform order k).1) (c.perform order k).2 :=
    perform_effect divided.consistent c
  have edges := edges_perform divided.consistent order on
  refine ⟨effect.consistent divided.consistent, ?_, edges ▸ divided.heeds⟩
  rcases state_perform divided.consistent order on with same | ⟨change, slot, mutates⟩
  · exact same ▸ divided.split
  · exact mutates.split divided.split

/-- No command notifies anybody. -/
theorem notified_perform (consistent : k.toState.Consistent) (order : EdgeOrder κ)
    (c : Command κ) : (c.perform order k).2.notified = k.notified :=
  (recounts_perform consistent order c).murmurs.notified

/-- A mutation of the other side cannot be seen. -/
theorem Divided.unseen (divided : k.Divided h side) (order : EdgeOrder κ) {c : Command κ}
    {node : NodeId} (on : c.mutates? = some node) (other : side node = false) :
    k.toState.LooksLike side (c.perform order k).2.toState := by
  rcases state_perform divided.consistent order on with same | ⟨change, slot, mutates⟩
  · rw [same]
    exact .refl _
  · exact mutates.unseen divided.split other

/-- A mutation of this side does the same to kernels that look alike. -/
theorem Divided.alike (divided : k.Divided h side) (divided' : m.Divided h side)
    (looks : k.toState.LooksLike side m.toState) (order order' : EdgeOrder κ) {c : Command κ}
    {node : NodeId} (on : c.mutates? = some node) (own : side node = true) :
    (c.perform order k).2.toState.LooksLike side (c.perform order' m).2.toState := by
  have reply := reply_eq order order' looks.toSameSide on own
  have slot := looks.slot own
  have mutation : k.Mutation c node (c.perform order k) :=
    perform_mutation divided.consistent on
  have mutation' : m.Mutation c node (c.perform order' m) :=
    perform_mutation divided'.consistent on
  generalize c.perform order k = result at mutation reply
  generalize c.perform order' m = result' at mutation' reply
  cases mutation with
  | refused fault cannot =>
    cases mutation' with
    | refused fault' cannot' => exact looks
    | idle => cases reply
    | effective => cases reply
  | idle reply was asked there quiet =>
    cases mutation' with
    | refused => cases reply
    | idle => exact looks
    | effective reply' was' asked' fresh' =>
      cases (was'.symm.trans slot).trans was
      rw [there] at fresh'
      cases fresh'
  | effective reply was asked fresh changes answers mutates =>
    cases mutation' with
    | refused => cases reply
    | idle reply' was' asked' there' =>
      cases (was'.symm.trans slot).trans was
      rw [there'] at fresh
      cases fresh
    | effective reply' was' asked' fresh' changes' answers' mutates' =>
      cases reply
      cases changes'.symm.trans changes
      cases (was'.symm.trans slot).trans was
      cases asked'.symm.trans asked
      exact mutates.alike looks own mutates'

/-! Programs. -/

/-- The second kernel is a later one, and nothing has happened that can be seen from this side. -/
structure Unseen (h : Host κ) (side : NodeId → Bool) (k k' : Kernel κ) : Prop where
  /-- The sides are divided as before. -/
  divided : k'.Divided h side
  /-- The states look alike. -/
  looks : k.toState.LooksLike side k'.toState
  /-- Callbacks have started for subscriptions of the other side only. -/
  notified : ∃ ns, k'.notified = k.notified ++ ns ∧ ∀ n ∈ ns, side n.source = false

theorem Unseen.refl (divided : k.Divided h side) : k.Unseen h side k :=
  ⟨divided, .refl _, [], (List.append_nil _).symm, by simp⟩

theorem Unseen.trans (first : k.Unseen h side k') (second : k'.Unseen h side k'') :
    k.Unseen h side k'' := by
  obtain ⟨ns, told, others⟩ := first.notified
  obtain ⟨more, told', others'⟩ := second.notified
  refine ⟨second.divided, first.looks.trans second.looks, ns ++ more, ?_, ?_⟩
  · rw [told', told, List.append_assoc]
  · intro n hn
    exact (List.mem_append.mp hn).elim (others n) (others' n)

/-- An entry cannot be seen if it tells of no notification of this side. -/
theorem Unseen.note (divided : k.Divided h side) (o : Occurrence κ)
    (other : ∀ n, o.notice? = some n → side n.source = false) :
    k.Unseen h side (k.note o) := by
  refine ⟨divided.of_state rfl, .refl _, o.notice?.toList, notified_note k o, ?_⟩
  simpa using other

/-- An entry cannot be seen if it tells of no notification. -/
theorem Unseen.quiet (divided : k.Divided h side) (o : Occurrence κ) (quiet : o.notice? = none) :
    k.Unseen h side (k.note o) :=
  .note divided o (by simp [quiet])

/-- An announcement cannot be seen. -/
theorem Unseen.emit (divided : k.Divided h side) (e : TraceEvent) :
    k.Unseen h side (k.emit e) :=
  ⟨divided.of_state rfl, .refl _, [], by rw [notified_emit, List.append_nil], by simp⟩

/-- A program that minds the other side cannot be seen. -/
theorem exec_unseen {theirs : NodeId → Bool}
    (apart : ∀ node, theirs node = true → side node = false)
    {call : (c : Call) → Kernel κ → Option (Except Fault c.Reply × Kernel κ)} {p : Program κ α}
    {r : α} (minds : p.Minds theirs) (divided : k.Divided h side)
    (ends : p.exec order call k = some (r, k')) : k.Unseen h side k' := by
  induction p generalizing k with
  | pure a =>
    cases ends
    exact .refl divided
  | inspect next ih => exact ih _ (minds.2 _) divided ends
  | probe p next ih =>
    obtain ⟨⟨text, rfl⟩, minds⟩ := minds
    have remarked := Unseen.quiet divided (.remarked text) rfl
    exact remarked.trans (ih _ (minds _) remarked.divided ends)
  | command c next ih =>
    obtain ⟨⟨node, on, mine⟩, minds⟩ := minds
    have performed : k.Unseen h side (c.perform order k).2 := by
      refine ⟨divided.perform order on, divided.unseen order on (apart node mine), [], ?_, by simp⟩
      rw [notified_perform divided.consistent, List.append_nil]
    exact performed.trans (ih _ (minds _) performed.divided ends)
  | call c next ih => exact minds.elim

end Kernel

end ReactiveKernel
