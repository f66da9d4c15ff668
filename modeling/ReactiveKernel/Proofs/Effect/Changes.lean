import ReactiveKernel.Proofs.Effect.Consistency

/-!
# What the history says of changes

The history of a kernel only grows. A command adds the change that it makes, if it makes one, and no
other change; whether it makes one is what it answers.
-/

namespace ReactiveKernel

variable {κ : Type}

/-- The change that an entry announces, and its node. -/
def Occurrence.change? : Occurrence κ → Option (NodeId × Change)
  | .announced e => e.change?
  | _ => none

namespace Kernel

variable {k k' : Kernel κ} {order : EdgeOrder κ}

/-- Some entries were added to the history, and this is the change among them. -/
def Adds (k : Kernel κ) (change : Option (NodeId × Change)) (k' : Kernel κ) : Prop :=
  ∃ entries, k'.history = k.history ++ entries ∧
    entries.filterMap Occurrence.change? = change.toList

/-- Entries that announce no change add none. -/
theorem Adds.none_of {entries : List (Occurrence κ)} (history : k'.history = k.history ++ entries)
    (silent : ∀ o ∈ entries, o.change? = none) : k.Adds none k' :=
  ⟨entries, history, List.filterMap_eq_nil_iff.mpr silent⟩

/-- An effect adds the change that it makes. -/
theorem Effect.adds {change : Option (NodeId × Change)} (h : k.Effect change k') :
    k.Adds change k' := by
  cases h with
  | still _ _ history => exact .none_of (history.trans (List.append_nil _).symm) (by simp)
  | instantiated id template _ history => exact .none_of history (List.forall_mem_singleton.mpr rfl)
  | datumCreated typeName content owner _ _ history =>
    exact .none_of history (List.forall_mem_singleton.mpr rfl)
  | closureCreated template parent _ _ history =>
    exact .none_of history (List.forall_mem_singleton.mpr rfl)
  | subscribed source target selector code _ _ _ _ history =>
    exact .none_of history (List.forall_mem_singleton.mpr rfl)
  | changed e node change announces _ _ _ _ _ _ _ history =>
    exact ⟨[.announced e], history, by simp [Occurrence.change?, announces]⟩
  | removed lost gone _ _ _ removes =>
    obtain ⟨cuts, cut⟩ := removes
    refine .none_of cut.history ?_
    intro o ho
    obtain ⟨e, he, rfl⟩ := List.mem_map.mp ho
    have removal := cut.removals e he
    cases e <;> first | rfl | cases removal

/-- A command adds the change that it makes, as it answers. -/
theorem perform_adds (consistent : k.toState.Consistent) (order : EdgeOrder κ) (c : Command κ) :
    k.Adds (c.change? (c.perform order k).1) (c.perform order k).2 :=
  (perform_effect consistent c).adds

/-- The history grows by what drains do. -/
theorem DrainAction.history_grows (h : k.DrainAction k') : k.history <+: k'.history := by
  cases h with
  | emit e _ =>
    rw [history_emit]
    exact List.prefix_append _ _
  | note o _ =>
    rw [history_note]
    exact List.prefix_append _ _
  | reschedule s _ => exact List.prefix_rfl

/-- The history grows by what probes do. -/
theorem history_grows_probe (p : Probe) (k : Kernel κ) : k.history <+: (p.perform k).2.history := by
  cases p with
  | remark text =>
    rw [Probe.perform, history_note]
    exact List.prefix_append _ _
  | _ => exact List.prefix_rfl

end Kernel

/-- The history only grows. -/
def Contract.growth (κ : Type) : Contract κ :=
  ⟨fun k => k.toState.Consistent, fun k k' => k.history <+: k'.history, fun _ _ => True⟩

namespace Contract

open Kernel

/-- All actions make the history grow. -/
theorem growth_drainStable : (growth κ).DrainStable where
  refl _ := List.prefix_rfl
  trans := List.IsPrefix.trans
  returns_refl _ := trivial
  returns_trans _ _ := trivial
  act _ _ _ action consistent := by
    obtain ⟨_, effect⟩ := action.effect consistent
    obtain ⟨entries, history, _⟩ := effect.adds
    exact ⟨effect.consistent consistent, ⟨entries, history.symm⟩, trivial⟩
  drainAct action consistent :=
    ⟨(consistency_drainStable.drainAct action consistent).holds, action.history_grows, trivial⟩

/-- The history grows in every run. -/
theorem growth_sound : (growth κ).Sound :=
  growth_drainStable.sound fun p k consistent =>
    ⟨(consistency_sound.probe p k consistent).holds, history_grows_probe p k, trivial⟩

end Contract

/-- The history of an earlier moment is the beginning of the history of a later one. -/
theorem Kernel.Precedes.history_grows {k k' : Kernel κ} (h : k.Precedes k') :
    k.history <+: k'.history :=
  Contract.growth_sound.precedes Kernel.consistent_create h

end ReactiveKernel
