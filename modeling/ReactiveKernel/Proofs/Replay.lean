import ReactiveKernel.Proofs.Run.Scope
import ReactiveKernel.Proofs.Trace.Narration

/-!
# A recording replays to the live graph

In a run whose trace goes to a recording from the start, replaying the recording gives the live
nodes and the registered subscriptions, wherever the run has come to. Each recorded event is
admitted by the graph of those before it, and what it makes is named by none of them.
-/

namespace ReactiveKernel

variable {κ : Type}

namespace Tracer

/-- The trace goes to a recording, which has kept these events. -/
structure Records (t : Tracer) (i : Nat) (events : List TraceEvent) : Prop where
  /-- The recording is in use. -/
  sink : t.sink = some (.recording i)
  /-- These are its events. -/
  kept : t.recordings[i]? = some events.toArray

variable {t : Tracer} {i : Nat} {events : List TraceEvent}

/-- A recording holds the events that it has kept. -/
theorem Records.events_eq (h : t.Records i events) : t.events i = events := by
  simp [Tracer.events, h.kept]

/-- An event is recorded after those before it. -/
theorem Records.record (h : t.Records i events) (e : TraceEvent) :
    (t.record e).Records i (events ++ [e]) := by
  refine ⟨h.sink, ?_⟩
  simp only [Tracer.record, h.sink, Array.getElem?_modify, if_true, h.kept, Option.map_some,
    List.push_toArray]

/-- A recording keeps events that are announced one after another. -/
theorem Records.foldl (h : t.Records i events) (more : List TraceEvent) :
    (more.foldl Tracer.record t).Records i (events ++ more) := by
  induction more generalizing t events with
  | nil => simpa using h
  | cons e more ih => simpa using ih (h.record e)

end Tracer

/-- A request to the instruments that leaves the sink in use and does not empty the recording. -/
def Probe.Spares (i : Nat) : Probe → Prop
  | .clearRecording index => index ≠ i
  | .install sink => sink = .recording i
  | .removeSink => False
  | .tracer | .newRecording | .remark _ => True

/-- Host code may ask for anything, but it leaves the recording alone. -/
def Scope.recorded (κ : Type) (i : Nat) : Scope κ where
  command _ _ := True
  probe p _ := p.Spares i
  call _ _ := True

namespace Kernel

variable {k k' : Kernel κ} {i : Nat}

/-- A recording that was in use keeps all that is announced. -/
theorem Narrates.records {entries : List (Occurrence κ)} (h : k.Narrates entries k')
    (records : k.tracer.Records i k.told) : k'.tracer.Records i k'.told := by
  have told : k'.told = k.told ++ announcements entries := by simp [Kernel.told, h.journal]
  rw [told, h.tracer]
  exact records.foldl _

/-- A probe that spares the recording leaves it faithful. -/
theorem records_probe {p : Probe} (spares : p.Spares i) (records : k.tracer.Records i k.told) :
    (p.perform k).2.tracer.Records i (p.perform k).2.told := by
  obtain ⟨sink, kept⟩ := records
  cases p with
  | tracer => exact ⟨sink, kept⟩
  | newRecording =>
    refine ⟨sink, ?_⟩
    have bound : i < k.tracer.recordings.size := (Array.getElem?_eq_some_iff.mp kept).1
    have old : i ≠ k.tracer.recordings.size := Nat.ne_of_lt bound
    exact Array.getElem?_push.trans ((if_neg old).trans kept)
  | clearRecording index =>
    refine ⟨sink, ?_⟩
    exact Array.getElem?_modify.trans ((if_neg spares).trans kept)
  | install other =>
    obtain rfl : other = .recording i := spares
    exact ⟨rfl, kept⟩
  | removeSink => exact absurd spares id
  | remark text => exact (narrates_note k rfl).records ⟨sink, kept⟩

/-- The trace goes to a recording, and nothing was announced yet. -/
structure Installed (k : Kernel κ) (i : Nat) : Prop where
  /-- The recording is in use, and it is empty. -/
  records : k.tracer.Records i []
  /-- Nothing was announced. -/
  untold : k.told = []

end Kernel

/-- The recording in use has kept all that was announced. -/
def Contract.recorded (κ : Type) (i : Nat) : Contract κ :=
  ⟨fun k => k.toState.Consistent ∧ k.tracer.Records i k.told, fun _ _ => True, fun _ _ => True⟩

namespace Contract

open Kernel

variable {i : Nat}

/-- All actions leave the recording faithful. -/
theorem recorded_drainStable : (recorded κ i).DrainStable where
  refl _ := trivial
  trans _ _ := trivial
  returns_refl _ := trivial
  returns_trans _ _ := trivial
  act order _ _ action holds := by
    obtain ⟨_, narrates, _⟩ := action.recounts holds.1
    have consistent := (consistency_drainStable.act order action holds.1).holds
    exact ⟨⟨consistent, narrates.records holds.2⟩, trivial, trivial⟩
  drainAct action holds := by
    obtain ⟨_, narrates⟩ := action.narrates
    have consistent := (consistency_drainStable.drainAct action holds.1).holds
    exact ⟨⟨consistent, narrates.records holds.2⟩, trivial, trivial⟩

/-- All that is within the scope leaves the recording faithful. -/
theorem recorded_kept : (recorded κ i).discipline.Kept (.recorded κ i) :=
  recorded_drainStable.kept (fun _ _ holds => ⟨holds, trivial, trivial⟩) fun p k holds spares =>
    ⟨(consistency_sound.probe p k holds.1).holds, records_probe spares holds.2⟩

end Contract

namespace Kernel

open Activity

variable {begin a : Activity κ (Except Fault Unit)} {p : Program κ (Except Fault Unit)}

/-- The recording has kept all that was announced, wherever the run has come to. -/
theorem Installed.records_told (starts : Starts begin) (steps : Steps begin (.host p k .done))
    (installed : k.Installed i) (later : StepsWithin (.recorded κ i) (.host p k .done) a) :
    a.kernel.tracer.Records i a.kernel.told := by
  have consistent := (Contract.consistency_sound.visited consistent_create starts steps).1
  have records : k.tracer.Records i k.told := installed.untold.symm ▸ installed.records
  let D := (Contract.recorded κ i).discipline
  have begun : (Activity.host p k .done).Obeys D fun _ k => D.holds k :=
    ⟨⟨consistent, records⟩, fun _ _ holds => holds⟩
  have obeys := Contract.recorded_kept.steps begun later
  exact obeys.holds_kernel.2

/-- In a run whose trace goes to a recording from the start, replaying the recording gives the live
nodes and the registered subscriptions wherever the run has come to. Every recorded event refers
only to what the events before it leave there, what goes is referred to by nothing that is left, and
what is made was named by no event before. -/
theorem trace_replays (starts : Starts begin) (steps : Steps begin (.host p k .done))
    (installed : k.Installed i) (later : StepsWithin (.recorded κ i) (.host p k .done) a) :
    Graph.replay (a.kernel.tracer.events i) = a.kernel.toState.graph ∧
      ∀ before e after, a.kernel.tracer.events i = before ++ e :: after →
        (Graph.replay before).Admits e ∧
          ∀ x, e.made? = some x → ∀ earlier ∈ before, x ∉ earlier.names := by
  obtain ⟨leads, once⟩ := starts.told (steps.trans later.steps)
  rw [(Installed.records_told starts steps installed later).events_eq]
  refine ⟨leads.foldl, fun before e after split => ?_⟩
  rw [split] at leads once
  refine ⟨leads.admits, fun x made earlier member named => ?_⟩
  have old : x ∈ before.filterMap TraceEvent.made? := leads.earlier.made_of_names member named
  rw [List.filterMap_append, List.filterMap_cons_some made] at once
  exact (List.nodup_append.mp once).2.2 x old x List.mem_cons_self rfl

/-- A new kernel whose trace goes to a recording that is empty. -/
def recorded : Kernel Unit :=
  { Kernel.create .standard .empty with tracer := ⟨some (.recording 0), #[#[]]⟩ }

/-- The commands that make a closure with a subscription from a datum that it owns, and destroy
it. -/
def razed : List (Command Unit) :=
  [.createClosure "Root" none, .createDatum "Cell" [] (some ⟨0⟩),
   .subscribe (.datum ⟨0⟩) (.closure ⟨0⟩) .structural (), .destroyClosure ⟨0⟩]

/-- The subscription goes before its ends, and the datum before its owner. -/
theorem trace_replays_razed :
    let told : List TraceEvent :=
      [.closureCreated ⟨0⟩ "Root" none, .datumCreated ⟨0⟩ "Cell" (some ⟨0⟩),
       .subscribed ⟨0⟩ (.datum ⟨0⟩) (.closure ⟨0⟩) .structural, .unsubscribed ⟨0⟩,
       .datumDestroyed ⟨0⟩]
    let k := recorded.performAll .ascending razed
    recorded.Installed 0 ∧ k.tracer.events 0 = told ++ [.closureDestroyed ⟨0⟩] ∧
      Graph.replay (k.tracer.events 0) = k.toState.graph ∧
      (Graph.replay told).Admits (.closureDestroyed ⟨0⟩) := by
  intro told k
  let begin : Activity Unit (Except Fault Unit) :=
    .host (.probe .newRecording fun _ => .probe (.install (.recording 0)) fun _ => .commands razed)
      (Kernel.create .standard .empty) .done
  have starts : Starts begin := ⟨.standard, .empty, _, rfl⟩
  have steps : Steps begin (.host (.commands razed) recorded .done) :=
    .tail (.single (.probe .newRecording _ _ _)) (.probe (.install (.recording 0)) _ _ _)
  have installed : recorded.Installed 0 := ⟨⟨rfl, rfl⟩, rfl⟩
  have later : StepsWithin (.recorded Unit 0) (.host (.commands razed) recorded .done)
      (.host (.commands []) k .done) :=
    stepsWithin_commands (fun _ _ => trivial) .ascending razed recorded .done
  have events : k.tracer.events 0 = told ++ [.closureDestroyed ⟨0⟩] := rfl
  obtain ⟨replays, admits⟩ := trace_replays starts steps installed later
  exact ⟨installed, events, replays, (admits told (.closureDestroyed ⟨0⟩) [] events).1⟩

end Kernel

end ReactiveKernel
