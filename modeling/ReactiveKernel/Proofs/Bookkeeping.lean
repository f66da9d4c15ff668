import ReactiveKernel.Proofs.Bookkeeping.Stamp
import ReactiveKernel.Proofs.Bookkeeping.Thread
import ReactiveKernel.Proofs.Replay

/-!
# Revisions, stamps and trace agree

In a run whose trace goes to a recording from the start, the recorded changes of a live node are
what its revisions count and what it is stamped with, and the recorded writes to a field lead from
each value that can be read there to the next one.
-/

namespace ReactiveKernel

variable {κ : Type}

open TraceEvent

namespace Kernel

/-- What the live nodes of a kernel have counted and are stamped with is what some events say. -/
structure Attested (k : Kernel κ) (events : List TraceEvent) : Prop where
  /-- A datum counts its changes in both of its revisions. -/
  datum : ∀ d : DatumId, k.contains (.datum d) = true → k.revisionsOf (.datum d) =
    .ok ⟨1 + (changesOf (.datum d) events).length, 1 + (changesOf (.datum d) events).length⟩
  /-- A closure counts its changes as well, and in its carried revision also the changes of all
  datums that it owns or has owned. -/
  closure : ∀ c : ClosureId, k.contains (.closure c) = true → k.revisionsOf (.closure c) =
    .ok ⟨1 + (changesOf (.closure c) events).length,
      1 + (changesOf (.closure c) events).length + (changesBelow c events).length⟩
  /-- The owners of live datums are those that the events tell. -/
  owner : ∀ (d : DatumId) (x : Datum), k.datums[d]? = some x →
    ∀ c, d ∈ ownedBy c events ↔ x.owner = some c
  /-- A node that was changed is stamped with the generation in the last of these events. -/
  changed : ∀ n e, k.contains n = true → (changesOf n events).getLast? = some e →
    ∃ g, e.stamp? = some g ∧ k.setGenerationOf n = .ok g
  /-- A node that was not changed is stamped with the generation in which it was made. -/
  unchanged : ∀ n, k.contains n = true → changesOf n events = [] →
    ∃ before e after, k.history = before ++ .announced e :: after ∧ e.made? = some n.identity ∧
      k.setGenerationOf n = .ok (taken before).length
  /-- The generation at any moment is the number of waves that were taken. -/
  generation : k.generation = (taken k.history).length
  /-- No stamp is ahead of it. -/
  bounded : ∀ n g, k.setGenerationOf n = .ok g → g ≤ k.generation
  /-- There is an error payload only while the availability is that of an error. -/
  payload : ∀ (d : DatumId) (x : Datum), k.datums[d]? = some x → x.status.payload ≠ none →
    x.status.availability = .error

/-- What can be read in the nodes of a kernel later on is what the writes say that some events tell
of. -/
structure Recalled (k : Kernel κ) (events : List TraceEvent) (k' : Kernel κ) : Prop where
  /-- What can be read in a field can be read as long as its node is live. The first write has found
  it, each other one has found what the one before has left, and what the last one has left can be
  read now. -/
  reads : ∀ n name v, k.get n name = .ok v → k'.contains n = true →
    ∃ w, k'.get n name = .ok w ∧ Threads v (writesTo n name events) w
  /-- What can be read now is what the writes have left of what could be read before, or of what the
  node was made with if it is new. -/
  written : ∀ n name w, k'.get n name = .ok w →
    ∃ v, (k.contains n = true → k.get n name = .ok v) ∧ Threads v (writesTo n name events) w
  /-- Datums keep their shapes. -/
  shape : ∀ (d : DatumId) (x y : Datum), k.datums[d]? = some x → k'.datums[d]? = some y →
    y.content.shape = x.content.shape

/-! What can be asked of a live node. -/

variable {k k' : Kernel κ} {events : List TraceEvent}

/-- The revisions of a live node where the books balance. -/
theorem revisionsOf_balanced {s : State κ} (balanced : s.Balanced events) {n : NodeId}
    (live : s.contains n = true) : s.revisionsOf n =
      .ok ⟨1 + (changesOf n events).length, 1 + (changesOf n events).length + n.below events⟩ := by
  obtain ⟨a, ha⟩ := State.contains_iff_account.mp live
  have tallies := balanced.tallies n a ha
  rw [State.revisionsOf_account ha, ← tallies.carried, ← tallies.structural]

/-- The stamp that is asked for at a live node is the one in its account. -/
theorem setGenerationOf_account {s : State κ} {n : NodeId} {a : Account}
    (live : s.account? n = some a) : s.setGenerationOf n = .ok a.setGeneration :=
  setGenerationOf_ok.mpr (State.stamp_account live)

/-- What the history says of a live node that was not changed. -/
theorem Recorded.made_in (recorded : k.Recorded) {n : NodeId} {g : Nat}
    (stamp : k.toState.stamp? n = some g) (silent : changesOf n k.told = []) :
    ∃ before e after, k.history = before ++ .announced e :: after ∧ e.made? = some n.identity ∧
      g = (taken before).length := by
  obtain ⟨before, o, after, split, ⟨e, rfl, stamps⟩, _, rfl⟩ :=
    Ledger.stamp_of (recorded.agrees.stamp n g stamp)
  have told : e ∈ k.told := by
    rw [told_eq_history, split]
    exact List.mem_filterMap.mpr ⟨.announced e, by simp, rfl⟩
  have made : e.made? = some n.identity := by
    refine stamps.resolve_left fun changed => ?_
    exact List.filter_eq_nil_iff.mp silent e told (decide_eq_true changed)
  have orderly : Orderly before := by
    have whole := recorded.orderly
    rw [split] at whole
    exact whole.of_append
  exact ⟨before, e, after, split, made, orderly.generation_eq⟩

/-- The books, the journal and the state are in agreement. -/
theorem attested (holds : (Contract.bookkeeping κ).holds k) (recorded : k.Recorded) :
    k.Attested k.told where
  datum _ live := revisionsOf_balanced holds.2 live
  closure _ live := revisionsOf_balanced holds.2 live
  owner d x hd c := holds.2.owner d _ (State.account_datum hd) c
  changed n e live last := by
    obtain ⟨a, ha⟩ := State.contains_iff_account.mp live
    exact ⟨_, (holds.2.tallies n a ha).stamp e last, setGenerationOf_account ha⟩
  unchanged n live silent := by
    obtain ⟨a, ha⟩ := State.contains_iff_account.mp live
    obtain ⟨before, e, after, split, made, stamp⟩ :=
      recorded.made_in (State.stamp_account ha) silent
    exact ⟨before, e, after, split, made, stamp ▸ setGenerationOf_account ha⟩
  generation := recorded.agrees.generation.symm.trans recorded.orderly.generation_eq
  bounded n g stamp := by
    have kept := recorded.agrees.stamp n g (setGenerationOf_ok.mp stamp)
    exact (recorded.orderly.stamp_le kept).trans_eq recorded.agrees.generation
  payload d x _ failed := by
    cases status : x.status with
    | failed payload => rfl
    | _ =>
      rw [status] at failed
      exact absurd rfl failed

/-- What advances as it is told can be recalled. -/
theorem recalled (consistent : k.toState.Consistent)
    (advances : k.toState.Advances events k'.toState) : k.Recalled events k' where
  reads n name v read live := by
    obtain ⟨a, ha, here⟩ := State.get_ok.mp read
    obtain ⟨b, hb⟩ := State.contains_iff_account.mp live
    obtain ⟨u, was, becomes⟩ := advances.nodes n b hb
    obtain ⟨a', ha', rfl⟩ := was (consistent.issued.given_of_account ha)
    cases ha.symm.trans ha'
    obtain ⟨w, there, threads⟩ := becomes.reads name v here
    exact ⟨w, State.get_ok.mpr ⟨b, hb, there⟩, threads⟩
  written n name w read := by
    obtain ⟨b, hb, there⟩ := State.get_ok.mp read
    obtain ⟨u, was, becomes⟩ := advances.nodes n b hb
    have readable : (u.read? name).isSome := by
      rw [Slot.isSome_read becomes.shape.symm, there]
      rfl
    obtain ⟨v, here⟩ := Option.isSome_iff_exists.mp readable
    obtain ⟨w', there', threads⟩ := becomes.reads name v here
    cases there.symm.trans there'
    refine ⟨v, fun live => ?_, threads⟩
    obtain ⟨a, ha⟩ := State.contains_iff_account.mp live
    obtain ⟨a', ha', rfl⟩ := was (consistent.issued.given_of_account ha)
    exact State.get_ok.mpr ⟨a', ha', here⟩
  shape d x y hx hy := by
    obtain ⟨u, was, becomes⟩ := advances.nodes _ _ (State.account_datum hy)
    obtain ⟨a, ha, rfl⟩ := was (consistent.issued.given_of_account (State.account_datum hx))
    cases (State.account_datum hx).symm.trans ha
    exact Option.some.inj becomes.shape

open Activity

variable {i : Nat} {begin a b : Activity κ (Except Fault Unit)}
  {p : Program κ (Except Fault Unit)}

/-- In a run whose trace goes to a recording from the start, wherever it has come to, the revisions
and the stamps of all live nodes are what the recorded changes say. Between any two moments, each
recorded write has found in its field what could be read there before, and what it has left can be
read until the next write; and no datum changes its shape. -/
theorem books_agree (starts : Starts begin) (steps : Steps begin (.host p k .done))
    (installed : k.Installed i) (later : StepsWithin (.recorded κ i) (.host p k .done) a)
    (further : StepsWithin (.recorded κ i) a b) :
    b.kernel.Attested (b.kernel.tracer.events i) ∧
      ∃ events, b.kernel.tracer.events i = a.kernel.tracer.events i ++ events ∧
        a.kernel.Recalled events b.kernel := by
  have fresh (settings : Settings) (templates : TemplateLibrary κ) :
      (Contract.bookkeeping κ).holds (Kernel.create settings templates) :=
    ⟨consistent_create settings templates, balanced_create settings templates⟩
  have before : Steps begin a := steps.trans later.steps
  have through : Steps begin b := before.trans further.steps
  have kept := Contract.bookkeeping_sound.steps (Contract.bookkeeping_sound.starts fresh starts)
    before
  have holds := (Contract.bookkeeping_sound.visited fresh starts through).1
  have recorded := (Contract.recording_sound.visited recorded_create starts through).1
  obtain ⟨events, told, advances⟩ :=
    (Contract.bookkeeping_sound.steps kept further.steps).leads_kernel
  have first := (Installed.records_told starts steps installed later).events_eq
  have last := (Installed.records_told starts steps installed (later.trans further)).events_eq
  rw [first, last]
  exact ⟨attested holds recorded, events, told, recalled kept.holds_kernel.1 advances⟩

/-- The commands that make a closure with a record. -/
def fill : List (Command Unit) :=
  [.createClosure "Root" none, .createDatum "Cell" [("x", .int 0)] (some ⟨0⟩)]

/-- The commands that change the record three times; the second one writes what is there already. -/
def rewrites : List (Command Unit) :=
  [.set (.datum ⟨0⟩) "x" (.int 1), .set (.datum ⟨0⟩) "x" (.int 1), .setAvailability ⟨0⟩ .loading,
   .set (.datum ⟨0⟩) "x" (.int 2)]

/-- The kernel with the record. -/
def filled : Kernel Unit := recorded.performAll .ascending fill

/-- The kernel with the record after its changes. -/
def rewritten : Kernel Unit := filled.performAll .ascending rewrites

/-- The closure carries what the record counts, and the writes lead from the value that the record
was made with to the one that it has. -/
theorem books_agree_rewritten :
    recorded.Installed 0 ∧ rewritten.revisionsOf (.datum ⟨0⟩) = .ok ⟨4, 4⟩ ∧
      rewritten.revisionsOf (.closure ⟨0⟩) = .ok ⟨1, 4⟩ ∧
      filled.get (.datum ⟨0⟩) "x" = .ok (.int 0) ∧
      ∃ w, rewritten.get (.datum ⟨0⟩) "x" = .ok w ∧
        Threads (.int 0) [(.int 0, .int 1), (.int 1, .int 2)] w := by
  let begin : Activity Unit (Except Fault Unit) :=
    .host (.probe .newRecording fun _ => .probe (.install (.recording 0)) fun _ =>
      .commands (fill ++ rewrites)) (Kernel.create .standard .empty) .done
  have starts : Starts begin := ⟨.standard, .empty, _, rfl⟩
  have steps : Steps begin (.host (.commands (fill ++ rewrites)) recorded .done) :=
    .tail (.single (.probe .newRecording _ _ _)) (.probe (.install (.recording 0)) _ _ _)
  have installed : recorded.Installed 0 := ⟨⟨rfl, rfl⟩, rfl⟩
  have later : StepsWithin (.recorded Unit 0)
      (.host (.commands (fill ++ rewrites)) recorded .done)
      (.host (.commands rewrites) filled .done) :=
    .tail (.single ⟨trivial, .command .ascending _ _ _ _⟩)
      ⟨trivial, .command .ascending _ (fun _ => Program.commands rewrites) _ _⟩
  have further : StepsWithin (.recorded Unit 0) (.host (.commands rewrites) filled .done)
      (.host (.commands []) rewritten .done) :=
    stepsWithin_commands (fun _ _ => trivial) .ascending rewrites filled .done
  let made : List TraceEvent :=
    [.closureCreated ⟨0⟩ "Root" none, .datumCreated ⟨0⟩ "Cell" (some ⟨0⟩)]
  let changes : List TraceEvent :=
    [.fieldSet (.datum ⟨0⟩) "x" (.int 0) (.int 1) 0, .availabilitySet ⟨0⟩ .loading 0,
     .fieldSet (.datum ⟨0⟩) "x" (.int 1) (.int 2) 0]
  have first : filled.tracer.events 0 = made := rfl
  have all : rewritten.tracer.events 0 = made ++ changes := rfl
  obtain ⟨attested, events, split, recalled⟩ := books_agree starts steps installed later further
  have attested : rewritten.Attested (made ++ changes) := all ▸ attested
  have more : events = changes := by
    have split : rewritten.tracer.events 0 = filled.tracer.events 0 ++ events := split
    rw [first, all] at split
    exact (List.append_cancel_left split).symm
  subst more
  have writes : writesTo (.datum ⟨0⟩) "x" changes = [(.int 0, .int 1), (.int 1, .int 2)] := rfl
  obtain ⟨w, read, threads⟩ := recalled.reads (.datum ⟨0⟩) "x" (.int 0) rfl rfl
  exact ⟨installed, attested.datum ⟨0⟩ rfl, attested.closure ⟨0⟩ rfl, rfl, w, read,
    writes ▸ threads⟩

end Kernel

end ReactiveKernel
