import ReactiveKernel.Proofs.Trace.Removal

/-!
# Runs tell what happens in them

In every run, whatever was announced between two moments leads from the graph of live nodes and
registered subscriptions at the first one to that at the second one. From the start of a run, what
was announced leads from nothing to what is there.
-/

namespace ReactiveKernel

variable {κ : Type}

namespace Kernel

/-- What was announced between two moments leads from what was there to what is there. -/
def Unfolds (k k' : Kernel κ) : Prop :=
  ∃ entries, k'.journal.toList = k.journal.toList ++ entries ∧
    k.toState.graph.Leads (announcements entries) k'.toState.graph

variable {k k' k'' : Kernel κ}

/-- What is narrated leads from what was there to what is there. -/
theorem Narrates.unfolds {entries : List (Occurrence κ)} (h : k.Narrates entries k') :
    k.Unfolds k' :=
  ⟨entries, h.journal, h.graph⟩

/-- What is recounted leads from what was there to what is there. -/
theorem Recounts.unfolds (h : k.Recounts k') : k.Unfolds k' := by
  obtain ⟨_, narrates, _⟩ := h
  exact narrates.unfolds

theorem Unfolds.refl (k : Kernel κ) : k.Unfolds k := (Recounts.refl k).unfolds

theorem Unfolds.trans (h : k.Unfolds k') (h' : k'.Unfolds k'') : k.Unfolds k'' := by
  obtain ⟨entries, journal, leads⟩ := h
  obtain ⟨more, journal', leads'⟩ := h'
  refine ⟨entries ++ more, by rw [journal', journal, List.append_assoc], ?_⟩
  rw [announcements_append]
  exact leads.append leads'

/-- The instruments leave the graph alone and announce nothing. -/
theorem unfolds_probe (p : Probe) (k : Kernel κ) : k.Unfolds (p.perform k).2 := by
  cases p with
  | remark text => exact (narrates_note k rfl).unfolds
  | tracer | newRecording | clearRecording index | install sink | removeSink =>
    exact ⟨[], (List.append_nil _).symm, .nil _⟩

end Kernel

/-- The state is consistent, and whatever happens is announced. -/
def Contract.narration (κ : Type) : Contract κ :=
  ⟨fun k => k.toState.Consistent, Kernel.Unfolds, fun _ _ => True⟩

namespace Contract

open Kernel

/-- All actions are announced. -/
theorem narration_drainStable : (narration κ).DrainStable where
  refl := Unfolds.refl
  trans := Unfolds.trans
  returns_refl _ := trivial
  returns_trans _ _ := trivial
  act order _ _ action consistent :=
    ⟨(consistency_drainStable.act order action consistent).holds,
      (action.recounts consistent).unfolds, trivial⟩
  drainAct action consistent := by
    obtain ⟨_, narrates⟩ := action.narrates
    exact ⟨(consistency_drainStable.drainAct action consistent).holds, narrates.unfolds, trivial⟩

/-- Whatever happens in a run is announced. -/
theorem narration_sound : (narration κ).Sound :=
  narration_drainStable.sound fun p k consistent =>
    ⟨(consistency_sound.probe p k consistent).holds, unfolds_probe p k, trivial⟩

end Contract

namespace Kernel

/-- What was announced so far. -/
def told (k : Kernel κ) : List TraceEvent := announcements k.journal.toList

@[simp] theorem told_mapState (k : Kernel κ) (f : State κ → State κ) :
    (k.mapState f).told = k.told := rfl

/-- An entry adds to what was announced if it is an announcement. -/
theorem told_note (k : Kernel κ) (o : Occurrence κ) :
    (k.note o).told = k.told ++ announcements [o] := by
  rw [told, journal_note, announcements_append, told]

/-- An announcement is added to what was announced. -/
theorem told_emit (k : Kernel κ) (e : TraceEvent) : (k.emit e).told = k.told ++ [e] := by
  rw [told, journal_emit, announcements_append, announcements_announcement, told]

/-- Quiet entries announce nothing. -/
theorem told_eq_history (k : Kernel κ) : k.told = announcements k.history := by
  rw [told, history, announcements, announcements, List.filterMap_filter]
  refine List.filterMap_congr fun o _ => ?_
  cases o with
  | logged e => simp [Occurrence.announced?]
  | _ => rfl

/-- Entries that are added to the history add their announcements. -/
theorem told_of_history {k k' : Kernel κ} {entries : List (Occurrence κ)}
    (history : k'.history = k.history ++ entries) : k'.told = k.told ++ announcements entries := by
  rw [told_eq_history, told_eq_history, history, announcements_append]

/-- What was announced in between leads from the first graph to the second one. -/
theorem Unfolds.told {k k' : Kernel κ} (h : k.Unfolds k') : ∃ events,
    k'.told = k.told ++ events ∧ k.toState.graph.Leads events k'.toState.graph := by
  obtain ⟨entries, journal, leads⟩ := h
  exact ⟨announcements entries, by simp [Kernel.told, journal], leads⟩

/-- What was made is what was announced to be made. -/
theorem made_eq_told (k : Kernel κ) : k.made = k.told.filterMap TraceEvent.made? := by
  rw [made, told, announcements, List.filterMap_filterMap]
  refine List.filterMap_congr fun o _ => ?_
  cases o <;> rfl

/-- Wherever a run has come to, what was announced leads from nothing to what is there, and nothing
was announced to be made twice. -/
theorem Starts.told {begin a : Activity κ (Except Fault Unit)} (starts : Starts begin)
    (steps : Activity.Steps begin a) :
    Graph.Leads .empty a.kernel.told a.kernel.toState.graph ∧
      (a.kernel.told.filterMap TraceEvent.made?).Nodup := by
  have accounted := (Contract.accounting_sound.visited accounted_create starts steps).1
  have unfolds := (Contract.narration_sound.visited consistent_create starts steps).2
  refine ⟨?_, made_eq_told _ ▸ accounted.nodup⟩
  obtain ⟨settings, templates, p, rfl⟩ := starts
  obtain ⟨events, told, leads⟩ := unfolds.told
  rw [told]
  exact leads

end Kernel

end ReactiveKernel
