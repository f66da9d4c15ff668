import ReactiveKernel.Proofs.Twins.Run
import ReactiveKernel.Proofs.Twins.Shuffled

/-!
# The order of walking cannot be observed

Sets of subscriptions are walked when a change is delivered and when a node is destroyed, in an
order that is not specified. Two runs of the same host code that walk in any orders go through the
same states with the same answers, they start the same callbacks in the same order, and what they
record is the same once every stretch of removals is sorted.
-/

namespace ReactiveKernel

variable {κ α : Type}

namespace Activity

/-- Commands are given one after another, and no callback starts. -/
theorem plays_commands (behave : κ → Occasion → Program κ (Except Fault Unit))
    (order : EdgeOrder κ) (cs cs' : List (Command κ)) (k : Kernel κ)
    (next : Except Fault Unit → Kernel κ → Activity κ α) :
    Plays behave cs.length (.host (.commands (cs ++ cs')) k next) []
      (.host (.commands cs') (k.performAll order cs) next) := by
  induction cs using List.reverseRecOn generalizing cs' with
  | nil => exact .refl _
  | append_singleton cs c ih =>
    have last : k.performAll order (cs ++ [c]) = (c.perform order (k.performAll order cs)).2 :=
      List.foldl_append
    rw [List.append_assoc, List.length_append, last]
    exact .tail (ih (c :: cs'))
      ⟨.command order c (fun _ => Program.commands cs') _ next, fun _ _ _ _ due => nomatch due⟩

end Activity

/-- Commands go on in the same way whatever the instruments show. -/
theorem Program.blind_commands (L : Likeness κ) (cs : List (Command κ)) :
    (Program.commands cs).Blind L := by
  induction cs with
  | nil => trivial
  | cons c cs ih => exact fun _ => ih

namespace Likeness

open Activity

/-- Paired activities are at the same point with kernels that are alike. -/
theorem Paired.abreast {L : Likeness κ} {a a' : Activity κ α} (h : L.Paired a a') :
    a.Abreast L.Alike a' :=
  Lockstep.abreast (fun _ _ twins => twins.toAlike) h

end Likeness

namespace Kernel

open Activity Likeness

/-- Whatever the orders are in which two runs of the same host code walk sets of subscriptions,
after the same number of steps they have started the same callbacks in the same order, they are at
the same point with the same state, and everything that was announced and recorded is the same once
every stretch of removals is sorted. And with hosts that differ in the order of walking, every
program has a result with both or with neither, the results are the same, and so are the states and
the records that they leave behind. Host code may look at all of the state, and at the records as
far as they are the same. -/
theorem walks_unobservable (h h' : Host κ) (same : h'.behave = h.behave)
    (blind : ∀ code occasion, (h.behave code occasion).Blind (shuffled κ)) (settings : Settings)
    (templates : TemplateLibrary κ) :
    (∀ p : Program κ (Except Fault Unit), p.Blind (shuffled κ) →
      ∀ {n ns ns' a a'}, Plays h.behave n (.host p (create settings templates) .done) ns a →
        Plays h.behave n (.host p (create settings templates) .done) ns' a' →
          ns' = ns ∧ a.Abreast (shuffled κ).Alike a') ∧
    ∀ (α : Type) (depth : Nat) (p : Program κ α), p.Blind (shuffled κ) →
      Option.Rel (fun x x' => x.1 = x'.1 ∧ (shuffled κ).Alike x.2 x'.2)
        (h.execute depth p (create settings templates))
        (h'.execute depth p (create settings templates)) := by
  have alike : (shuffled κ).Alike (create settings templates) (create settings templates) :=
    ⟨rfl, ⟨rfl, rfl, fun _ => rfl⟩, rfl⟩
  have twins : (shuffled κ).Twins (create settings templates) (create settings templates) :=
    ⟨alike, consistent_create settings templates⟩
  have orders (order order' : EdgeOrder κ) : (shuffled κ).Orders order order' :=
    fun s site ids => (order.perm s site ids).trans (order'.perm s site ids).symm
  refine ⟨fun p seen n ns ns' a a' plays plays' => ?_, fun α depth p seen => ?_⟩
  · have begin : (shuffled κ).Paired (.host p (create settings templates) .done)
        (.host p (create settings templates) .done) :=
      .host p seen twins fun r _ _ back => .done r back
    obtain ⟨same, paired⟩ := begin.plays shuffled_sound orders blind plays plays'
    exact ⟨same, paired.abreast⟩
  · have agree := agree_execute shuffled_sound (orders h.order h'.order) same blind depth seen twins
    rcases agree.cases with ⟨ends, ends'⟩ | ⟨x, k, k', ends, ends', back⟩
    · rw [ends, ends']
      exact .none
    · rw [ends, ends']
      exact .some ⟨rfl, back.toAlike⟩

/-- Walk every set in descending order. -/
def descending : EdgeOrder Unit := ⟨fun _ _ ids => ids.reverse, fun _ _ ids => ids.reverse_perm⟩

/-- A host whose code does nothing. -/
def walker (order : EdgeOrder Unit) : Host Unit := { behave := fun _ _ => .pure (.ok ()), order }

/-- A datum that watches itself in two ways is changed. -/
def watchedTwice : List (Command Unit) :=
  [.createDatum "Cell" [] none, .subscribe (.datum ⟨0⟩) (.datum ⟨0⟩) .everything (),
    .subscribe (.datum ⟨0⟩) (.datum ⟨0⟩) .everything (), .set (.datum ⟨0⟩) "value" (.bool true)]

/-- The changes are recorded and drained, and then the datum is destroyed. -/
def recordedTwice : Program Unit (Except Fault DrainReport) :=
  .probe .newRecording fun i => .probe (.install (.recording i)) fun _ =>
    (Program.commands watchedTwice).bind fun _ => .call .drain fun r =>
      .command (.destroyDatum ⟨0⟩) fun _ => .pure r

/-- Two orders of walking make a difference in the order of removals only. -/
theorem walks_unobservable_descending :
    ∃ (k k' n n' : Kernel Unit) (r : Except Fault DrainReport),
      Plays (walker .ascending).behave 5 (.host (.commands (watchedTwice ++ [.destroyDatum ⟨0⟩]))
        (create .standard .empty) .done) [] (.host (.commands []) k .done) ∧
      Plays (walker .ascending).behave 5 (.host (.commands (watchedTwice ++ [.destroyDatum ⟨0⟩]))
        (create .standard .empty) .done) [] (.host (.commands []) k' .done) ∧
      (walker .ascending).execute 2 recordedTwice (create .standard .empty) = some (r, n) ∧
      (walker descending).execute 2 recordedTwice (create .standard .empty) = some (r, n') ∧
      k.told.filterMap TraceEvent.removedSubscription? = [⟨0⟩, ⟨1⟩] ∧
      k'.told.filterMap TraceEvent.removedSubscription? = [⟨1⟩, ⟨0⟩] ∧
      (n.tracer.events 0).filterMap TraceEvent.removedSubscription? = [⟨0⟩, ⟨1⟩] ∧
      (n'.tracer.events 0).filterMap TraceEvent.removedSubscription? = [⟨1⟩, ⟨0⟩] ∧
      r.toOption.map DrainReport.callbacksRun = some 2 ∧
      (shuffled Unit).Alike k k' ∧ (shuffled Unit).Alike n n' := by
  obtain ⟨runs, results⟩ := walks_unobservable (walker .ascending) (walker descending) rfl
    (fun _ _ => trivial) .standard .empty
  have seen : recordedTwice.Blind (shuffled Unit) := by
    refine ⟨fun i i' same => ?_, fun _ => ⟨fun _ _ _ => rfl, fun _ _ _ _ _ _ _ => trivial⟩⟩
    obtain rfl : i = i' := same
    rfl
  have begun (order : EdgeOrder Unit) := plays_commands (walker .ascending).behave order
    (watchedTwice ++ [.destroyDatum ⟨0⟩]) [] (create .standard .empty) .done
  rw [List.append_nil] at begun
  obtain ⟨_, abreast⟩ := runs _ (Program.blind_commands _ _) (begun .ascending) (begun descending)
  have ran : ((walker .ascending).execute 2 recordedTwice (create .standard .empty)).map
      (fun x => (x.1.toOption.map DrainReport.callbacksRun,
        (x.2.tracer.events 0).filterMap TraceEvent.removedSubscription?)) =
      some (some 2, [⟨0⟩, ⟨1⟩]) := by decide +kernel
  have ran' : ((walker descending).execute 2 recordedTwice (create .standard .empty)).map
      (fun x => (x.2.tracer.events 0).filterMap TraceEvent.removedSubscription?) =
      some [⟨1⟩, ⟨0⟩] := by decide +kernel
  obtain ⟨⟨r, n⟩, ends, kept⟩ := Option.map_eq_some_iff.mp ran
  obtain ⟨⟨r', n'⟩, ends', kept'⟩ := Option.map_eq_some_iff.mp ran'
  obtain ⟨started, kept⟩ := Prod.mk.inj kept
  have agree := results _ 2 recordedTwice seen
  rw [ends, ends'] at agree
  obtain ⟨rfl, alike⟩ : r = r' ∧ (shuffled Unit).Alike n n' := by
    cases agree
    assumption
  exact ⟨_, _, n, n', r, begun .ascending, begun descending, ends, ends', by decide +kernel,
    by decide +kernel, kept, kept', started, abreast.kernels, alike⟩

end Kernel

end ReactiveKernel
