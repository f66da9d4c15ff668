import ReactiveKernel.Proofs.Trace.Narration
import ReactiveKernel.Proofs.Trace.Stretches
import ReactiveKernel.Proofs.Twins.Likeness

/-!
# Records up to the order of removals

When a set of subscriptions is walked in another order, the same subscriptions become pending and
the same ones are removed, but the removals are announced in another order. Nothing else is
announced between them. So the records of two kernels that walk differently stay the same once
every stretch of removals is sorted.
-/

namespace ReactiveKernel

variable {κ : Type}

namespace Tracer

/-- The same sink, and the same recordings once every stretch of removals is sorted. -/
structure Indistinct (t t' : Tracer) : Prop where
  /-- The sink in use. -/
  sink : t.sink = t'.sink
  /-- The number of recordings. -/
  size : t.recordings.size = t'.recordings.size
  /-- What is in each of them. -/
  events : ∀ i, TraceEvent.canonical (t.events i) = TraceEvent.canonical (t'.events i)

variable {t t' : Tracer}

/-- What a recording gains from some events. -/
def share (t : Tracer) (i : Nat) (events : List TraceEvent) : List TraceEvent :=
  if t.sink = some (.recording i) ∧ i < t.recordings.size then events else []

/-- No recording is new when an event is recorded. -/
theorem size_record (t : Tracer) (e : TraceEvent) :
    (t.record e).recordings.size = t.recordings.size := by
  unfold record
  split
  · exact Array.size_modify
  · rfl

/-- A recording gains its share of an event. -/
theorem events_record (t : Tracer) (e : TraceEvent) (i : Nat) :
    (t.record e).events i = t.events i ++ t.share i [e] := by
  unfold events record share
  cases t.sink with
  | none => simp
  | some sink =>
    cases sink with
    | log => simp
    | recording index =>
      simp only [Array.getElem?_modify, Option.some.injEq, Sink.recording.injEq]
      by_cases here : index = i
      · subst here
        cases kept : t.recordings[index]? with
        | none => simp [Array.getElem?_eq_none_iff.mp kept]
        | some events => simp [(Array.getElem?_eq_some_iff.mp kept).1]
      · simp [here]

/-- A new recording is as empty as one that was never made. -/
theorem events_newRecording (t : Tracer) (i : Nat) :
    { t with recordings := t.recordings.push #[] }.events i = t.events i := by
  simp only [events, Array.getElem?_push]
  split
  · next new =>
    subst new
    simp
  · rfl

/-- A recording that is cleared is empty, and all others stay as they are. -/
theorem events_clearRecording (t : Tracer) (index i : Nat) :
    { t with recordings := t.recordings.modify index fun _ => #[] }.events i =
      if index = i then [] else t.events i := by
  simp only [events, Array.getElem?_modify]
  split
  · cases t.recordings[i]? <;> rfl
  · rfl

/-- No recording is new when events are recorded. -/
theorem size_foldl_record (t : Tracer) (events : List TraceEvent) :
    (events.foldl record t).recordings.size = t.recordings.size := by
  induction events generalizing t with
  | nil => rfl
  | cons e events ih => rw [List.foldl_cons, ih, size_record]

/-- The sink stays in use when events are recorded. -/
theorem sink_foldl_record (t : Tracer) (events : List TraceEvent) :
    (events.foldl record t).sink = t.sink := by
  induction events generalizing t with
  | nil => rfl
  | cons e events ih => exact ih (t.record e)

/-- A recording gains its share of events one after another. -/
theorem events_foldl_record (t : Tracer) (events : List TraceEvent) (i : Nat) :
    (events.foldl record t).events i = t.events i ++ t.share i events := by
  induction events generalizing t with
  | nil => simp [share]
  | cons e events ih =>
    have same : (t.record e).share i events = t.share i events := by
      simp only [share, size_record]
      rfl
    rw [List.foldl_cons, ih, events_record, same, List.append_assoc]
    congr 1
    unfold share
    split <;> rfl

/-- Events that are the same up to the order of removals. -/
theorem Indistinct.foldl_record (h : t.Indistinct t') {events events' : List TraceEvent}
    (same : TraceEvent.canonical events = TraceEvent.canonical events') :
    (events.foldl record t).Indistinct (events'.foldl record t') := by
  refine ⟨?_, ?_, fun i => ?_⟩
  · rw [sink_foldl_record, sink_foldl_record, h.sink]
  · rw [size_foldl_record, size_foldl_record, h.size]
  · rw [events_foldl_record, events_foldl_record]
    refine TraceEvent.canonical_append (h.events i) ?_
    unfold share
    rw [← h.sink, ← h.size]
    split
    · exact same
    · rfl

end Tracer

namespace Kernel

/-- Everything that was announced and everything that was recorded is the same once every stretch of
removals is sorted. -/
structure RecordedAlike (k k' : Kernel κ) : Prop where
  /-- Sinks and recordings. -/
  tracer : k.tracer.Indistinct k'.tracer
  /-- All announcements. -/
  told : TraceEvent.canonical k.told = TraceEvent.canonical k'.told

/-- Some events are announced to the sink in use. -/
structure Announces (k : Kernel κ) (events : List TraceEvent) (k' : Kernel κ) : Prop where
  /-- All of them, and nothing else. -/
  told : k'.told = k.told ++ events
  /-- To the sink in use. -/
  tracer : k'.tracer = events.foldl Tracer.record k.tracer

variable {k k' k'' m m' : Kernel κ}

theorem Announces.refl (k : Kernel κ) : k.Announces [] k := ⟨(List.append_nil _).symm, rfl⟩

/-- A change of the state announces nothing. -/
theorem Announces.mapState (k : Kernel κ) (f : State κ → State κ) :
    k.Announces [] (k.mapState f) :=
  ⟨(List.append_nil _).symm, rfl⟩

/-- An announcement is announced. -/
theorem Announces.emit (k : Kernel κ) (e : TraceEvent) : k.Announces [e] (k.emit e) :=
  ⟨told_emit k e, rfl⟩

/-- A log entry announces nothing. -/
theorem Announces.log (k : Kernel κ) (e : LogEvent) : k.Announces [] (k.log e) :=
  ⟨told_note k _, rfl⟩

theorem Announces.trans {events more : List TraceEvent} (h : k.Announces events k')
    (h' : k'.Announces more k'') : k.Announces (events ++ more) k'' :=
  ⟨by rw [h'.told, h.told, List.append_assoc], by rw [h'.tracer, h.tracer, List.foldl_append]⟩

/-- Announcements that are the same up to the order of removals. -/
theorem RecordedAlike.announce (h : k.RecordedAlike k') {events events' : List TraceEvent}
    (same : TraceEvent.canonical events = TraceEvent.canonical events')
    (announces : k.Announces events m) (announces' : k'.Announces events' m') :
    m.RecordedAlike m' := by
  refine ⟨?_, ?_⟩
  · rw [announces.tracer, announces'.tracer]
    exact h.tracer.foldl_record same
  · rw [announces.told, announces'.told]
    exact TraceEvent.canonical_append h.told same

/-- A change makes subscriptions pending and announces nothing. -/
theorem announces_notifyAll (source : NodeId) (change : Change) (ids : List SubscriptionId)
    (k : Kernel κ) : k.Announces [] (ids.foldl (notifyOne source change) k) := by
  induction ids generalizing k with
  | nil => exact .refl k
  | cons id ids ih =>
    have one : k.Announces [] (notifyOne source change k id) := by
      unfold notifyOne
      split
      · exact .refl k
      · split
        · exact (Announces.mapState k _).trans (.log _ _)
        · exact .refl k
    exact one.trans (ih _)

/-- A subscription is registered after a removal if it was and is another one. -/
theorem mem_subscriptions_removeEdge (k : Kernel κ) (id a : SubscriptionId) :
    a ∈ (k.removeEdge id).edges.subscriptions ↔ a ≠ id ∧ a ∈ k.edges.subscriptions := by
  unfold removeEdge
  cases registered : k.edges.subscriptions[id]? with
  | none =>
    have absent : id ∉ k.edges.subscriptions := fun here => by
      obtain ⟨e, he⟩ := mem_subscriptions.mp here
      cases registered.symm.trans he
    exact ⟨fun here => ⟨fun same => absent (same ▸ here), here⟩, And.right⟩
  | some e =>
    have table : (State.unlinkEdge { k.toState with edges := k.edges.erase id e } id e.source
        e.target).edges.subscriptions = k.edges.subscriptions.erase id := by
      simp only [State.unlinkEdge_eq]
      rfl
    simp only [toState_emit, toState_mapState, table, Std.ExtTreeMap.mem_erase, ne_eq,
      Std.LawfulEqCmp.compare_eq_iff_eq]
    rw [eq_comm]

/-- The removal of a registered subscription is announced. -/
theorem announces_removeEdge {k : Kernel κ} {id : SubscriptionId}
    (registered : id ∈ k.edges.subscriptions) :
    k.Announces [.unsubscribed id] (k.removeEdge id) := by
  obtain ⟨e, he⟩ := mem_subscriptions.mp registered
  simp only [removeEdge, he]
  exact (Announces.mapState k _).trans (.emit _ _)

/-- The subscriptions that are registered and in a list are removed, each is announced once, and
nothing else is announced. -/
theorem announces_removeEdges (k : Kernel κ) (ids : List SubscriptionId) :
    ∃ cuts : List SubscriptionId, cuts.Nodup ∧
      (∀ id, id ∈ cuts ↔ id ∈ ids ∧ id ∈ k.edges.subscriptions) ∧
      k.Announces (cuts.map .unsubscribed) (k.removeEdges ids) := by
  induction ids generalizing k with
  | nil => exact ⟨[], List.nodup_nil, by simp, .refl k⟩
  | cons id ids ih =>
    obtain ⟨cuts, nodup, removed, announces⟩ := ih (k.removeEdge id)
    simp only [mem_subscriptions_removeEdge] at removed
    by_cases registered : id ∈ k.edges.subscriptions
    · refine ⟨id :: cuts, ?_, fun a => ?_, (announces_removeEdge registered).trans announces⟩
      · exact List.nodup_cons.mpr ⟨fun here => ((removed id).mp here).2.1 rfl, nodup⟩
      · simp only [List.mem_cons, removed]
        by_cases same : a = id
        · subst same
          simp [registered]
        · simp [same]
    · have untouched : k.Announces [] (k.removeEdge id) := by
        unfold removeEdge
        split
        · exact .refl k
        · next e he => exact absurd (mem_subscriptions.mpr ⟨e, he⟩) registered
      refine ⟨cuts, nodup, fun a => ?_, untouched.trans announces⟩
      simp only [List.mem_cons, removed]
      by_cases same : a = id
      · subst same
        simp [registered]
      · simp [same]

end Kernel

namespace Likeness

open Kernel

/-- Kernels that walk sets of subscriptions in any order. -/
def shuffled (κ : Type) : Likeness κ where
  alike := Kernel.RecordedAlike
  lists := List.Perm
  sees
    | .tracer => Tracer.Indistinct
    | .newRecording | .clearRecording _ | .install _ | .removeSink | .remark _ => Eq

/-- The instruments are used in the same way, and they show the same up to the order of removals. -/
theorem shuffled_probe (p : Probe) {k k' : Kernel κ} (same : k.RecordedAlike k') :
    (shuffled κ).sees p (p.perform k).1 (p.perform k').1 ∧
      (p.perform k).2.RecordedAlike (p.perform k').2 := by
  obtain ⟨⟨sink, size, events⟩, told⟩ := same
  cases p with
  | tracer => exact ⟨⟨sink, size, events⟩, ⟨sink, size, events⟩, told⟩
  | newRecording =>
    refine ⟨size, ⟨sink, ?_, fun i => ?_⟩, told⟩
    · simp only [Probe.perform, Array.size_push, size]
    · simp only [Probe.perform, Tracer.events_newRecording, events]
  | clearRecording index =>
    refine ⟨rfl, ⟨sink, ?_, fun i => ?_⟩, told⟩
    · simp only [Probe.perform, Array.size_modify, size]
    · simp only [Probe.perform, Tracer.events_clearRecording]
      split
      · rfl
      · exact events i
  | install other => exact ⟨rfl, ⟨rfl, size, events⟩, told⟩
  | removeSink => exact ⟨congrArg Option.isSome sink, ⟨rfl, size, events⟩, told⟩
  | remark text =>
    refine ⟨rfl, ⟨sink, size, events⟩, ?_⟩
    rw [Probe.perform, Probe.perform, told_note, told_note]
    exact TraceEvent.canonical_append told rfl

/-- Whatever is done alike keeps kernels that walk in any order alike. -/
theorem shuffled_sound : (shuffled κ).Sound where
  mapState _ _ same := ⟨same.tracer, same.told⟩
  note o same := ⟨same.tracer, by
    rw [told_note, told_note]
    exact TraceEvent.canonical_append same.told rfl⟩
  emit e same := same.announce rfl (.emit _ e) (.emit _ e)
  probe p same := shuffled_probe p same
  members same id := same.mem_iff
  append same same' := same.append same'
  notifyAll source change _ _ _ h :=
    h.records.announce rfl (announces_notifyAll source change _ _)
      (announces_notifyAll source change _ _)
  removeEdges {ids ids' k k'} same h := by
    obtain ⟨cuts, nodup, removed, announces⟩ := k.announces_removeEdges ids
    obtain ⟨cuts', nodup', removed', announces'⟩ := k'.announces_removeEdges ids'
    have perm : cuts.Perm cuts' := by
      refine (List.perm_ext_iff_of_nodup nodup nodup').mpr fun id => ?_
      rw [removed, removed', same.mem_iff, h.state]
    exact h.records.announce (TraceEvent.canonical_unsubscribed perm) announces announces'

end Likeness

end ReactiveKernel
