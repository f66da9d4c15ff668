import ReactiveKernel.Proofs.Run.Choice
import ReactiveKernel.Proofs.Twins.Run

/-!
# Host code that uses the instruments differently

Two pieces of host code make the same requests when they look at the state, give commands, make
calls and end alike, each with uses of the instruments of its own in between, and go on in the same
way whatever the instruments show. Kernels with the same state, whose journals agree apart from what
the instruments put there, remain so under the same requests.
-/

namespace ReactiveKernel

variable {κ α β : Type}

/-- Two pieces of host code with the same requests. Each may use the instruments in between, and
what they show makes no difference. -/
inductive Program.SameRequests : Program κ α → Program κ α → Prop
  /-- Both end alike. -/
  | pure (a : α) : SameRequests (.pure a) (.pure a)
  /-- Both look at the state. -/
  | inspect {f f' : State κ → Program κ α} : (∀ s, SameRequests (f s) (f' s)) →
    SameRequests (.inspect f) (.inspect f')
  /-- Both give the same command. -/
  | command (c : Command κ) {f f' : Except Fault c.Reply → Program κ α} :
    (∀ r, SameRequests (f r) (f' r)) → SameRequests (.command c f) (.command c f')
  /-- Both make the same call. -/
  | call (c : Call) {f f' : Except Fault c.Reply → Program κ α} :
    (∀ r, SameRequests (f r) (f' r)) → SameRequests (.call c f) (.call c f')
  /-- The first one uses the instruments. -/
  | left (q : Probe) {f : q.Reply → Program κ α} {p : Program κ α} :
    (∀ r, SameRequests (f r) p) → SameRequests (.probe q f) p
  /-- The second one uses the instruments. -/
  | right (q : Probe) {f : q.Reply → Program κ α} {p : Program κ α} :
    (∀ r, SameRequests p (f r)) → SameRequests p (.probe q f)

namespace Program.SameRequests

variable {p p' : Program κ α}

/-- Host code with the same requests, and more of it after that. -/
theorem bind (h : p.SameRequests p') {f f' : α → Program κ β}
    (rest : ∀ a, (f a).SameRequests (f' a)) : (p.bind f).SameRequests (p'.bind f') := by
  induction h with
  | pure a => exact rest a
  | inspect _ ih => exact .inspect ih
  | command c _ ih => exact .command c ih
  | call c _ ih => exact .call c ih
  | left q _ ih => exact .left q ih
  | right q _ ih => exact .right q ih

end Program.SameRequests

/-- Entries of the journal that the kernel makes itself. The others are the remarks of host code and
what a sink writes into the log. -/
def Occurrence.isOwn : Occurrence κ → Bool
  | .logged (.traced _) | .remarked _ => false
  | _ => true

/-- The journal apart from what the instruments put there. It tells of everything that happened,
callbacks that started among others. -/
def Kernel.chronicle (k : Kernel κ) : List (Occurrence κ) :=
  k.journal.toList.filter Occurrence.isOwn

/-- An entry is in the chronicle if the kernel makes it itself. -/
theorem Kernel.chronicle_note (k : Kernel κ) (o : Occurrence κ) :
    (k.note o).chronicle = k.chronicle ++ [o].filter Occurrence.isOwn := by
  simp [chronicle, note]

/-- An announcement is in the chronicle. -/
theorem Kernel.chronicle_emit (k : Kernel κ) (e : TraceEvent) :
    (k.emit e).chronicle = k.chronicle ++ [.announced e] := by
  unfold emit chronicle
  split
  · simp only [Array.toList_push, List.filter_append, List.append_assoc]
    rfl
  · simp only [Array.toList_push, List.filter_append]
    rfl

/-- A use of the instruments leaves no trace in it. -/
theorem Kernel.chronicle_probe (k : Kernel κ) (q : Probe) :
    (q.perform k).2.chronicle = k.chronicle := by
  cases q with
  | remark text => simp [Probe.perform, chronicle_note, Occurrence.isOwn]
  | tracer | newRecording | clearRecording | install | removeSink => rfl

namespace Likeness

/-- Records are alike when the journals agree apart from what the instruments put there. Sinks and
recordings may be any, and the instruments may show anything. -/
def bare (κ : Type) : Likeness κ where
  alike k k' := k.chronicle = k'.chronicle
  lists := Eq
  sees _ _ _ := True

/-- Whatever the kernel does itself keeps journals alike apart from the instruments. -/
theorem bare_sound : (bare κ).Sound := by
  refine sound_of_eq rfl (fun _ _ same => same) (fun o same => ?_) (fun e same => ?_)
    fun q same => ⟨trivial, ?_⟩
  · simp only [bare, Kernel.chronicle_note] at same ⊢
    rw [same]
  · simp only [bare, Kernel.chronicle_emit] at same ⊢
    rw [same]
  · simp only [bare, Kernel.chronicle_probe] at same ⊢
    exact same

/-- Host code that goes on in the same way whatever the instruments show has the same requests as
itself. -/
theorem sameRequests_of_blind {p : Program κ α} (h : p.Blind (bare κ)) : p.SameRequests p := by
  induction p with
  | pure a => exact .pure a
  | inspect next ih => exact .inspect fun s => ih s (h s)
  | command c next ih => exact .command c fun r => ih r (h r)
  | call c next ih => exact .call c fun r => ih r (h r)
  | probe q next ih =>
    refine .left q fun r => .right q fun r' => ?_
    rw [← h.1 r r' trivial]
    exact ih r (h.2 r)

variable {k k' : Kernel κ}

/-- The journals of twins agree either way round. -/
theorem Twins.flip (h : (bare κ).Twins k k') : (bare κ).Twins k' k :=
  ⟨⟨h.state.symm, h.records.symm⟩, h.state ▸ h.consistent⟩

/-- One of two kernels uses its instruments. -/
theorem Twins.probe_left (h : (bare κ).Twins k k') (q : Probe) :
    (bare κ).Twins (q.perform k).2 k' := by
  refine ⟨⟨?_, ?_⟩, ?_⟩
  · rw [Kernel.toState_probe, h.state]
  · exact (k.chronicle_probe q).trans h.records
  · rw [Kernel.toState_probe]
    exact h.consistent

/-- Twins stay twins when the instruments of the second one are used. -/
theorem Twins.probe_right (h : (bare κ).Twins k k') (q : Probe) :
    (bare κ).Twins k (q.perform k').2 :=
  (h.flip.probe_left q).flip

/-- A command gets the same answer from both and leaves both alike. -/
theorem Twins.bare_perform (h : (bare κ).Twins k k') (order : EdgeOrder κ) (c : Command κ) :
    (c.perform order k).1 = (c.perform order k').1 ∧
      (bare κ).Twins (c.perform order k).2 (c.perform order k').2 :=
  bare_sound.twins_perform (fun _ _ _ => rfl) c h

/-! What hosts compute. -/

/-- Host code with the same requests has the same result with twins if calls have. -/
theorem agree_requests (order : EdgeOrder κ)
    {call call' : (c : Call) → Kernel κ → Option (Except Fault c.Reply × Kernel κ)}
    (calls : ∀ c {k k'}, (bare κ).Twins k k' → (bare κ).Agree (call c k) (call' c k'))
    {p p' : Program κ α} (same : p.SameRequests p') (h : (bare κ).Twins k k') :
    (bare κ).Agree (p.exec order call k) (p'.exec order call' k') := by
  induction same generalizing k k' with
  | pure a => exact .both a h
  | inspect _ ih =>
    simp only [Program.exec, ← h.state]
    exact ih _ h
  | command c _ ih =>
    have performed := h.bare_perform order c
    simp only [Program.exec, ← performed.1]
    exact ih _ performed.2
  | call c _ ih =>
    simp only [Program.exec]
    rcases (calls c h).cases with ⟨ends, ends'⟩ | ⟨r, m, m', ends, ends', back⟩
    · simp only [ends, ends']
      exact .neither
    · simp only [ends, ends']
      exact ih r back
  | left q _ ih => exact ih _ (h.probe_left q)
  | right q _ ih => exact ih _ (h.probe_right q)

variable {host host' : Host κ}

/-- Hosts whose host code has the same requests have engines that agree at every depth. -/
theorem engines_agree_requests (order : host'.order = host.order)
    (same : ∀ code occasion, (host.behave code occasion).SameRequests (host'.behave code occasion))
    (depth : Nat) : (bare κ).EnginesAgree (host.engine depth) (host'.engine depth) := by
  induction depth with
  | zero => exact ⟨fun s site ids => by simp only [Host.engine, order, bare],
      fun _ _ _ _ _ => .neither, fun _ _ _ _ => .neither⟩
  | succ depth ih =>
    refine ⟨fun s site ids => by simp only [Host.engine, order, bare],
      fun code occasion k k' twins => ?_, fun c k k' twins => ?_⟩
    · simp only [Host.engine, order]
      exact agree_requests host.order ih.call (same code occasion) twins
    · refine agree_run bare_sound ih (bare_sound.paired_activity (fun s site ids => ?_) c twins)
      simp only [order, bare]

end Likeness

end ReactiveKernel
