import ReactiveKernel.Proofs.Drain.Stop
import ReactiveKernel.Proofs.Starts
import ReactiveKernel.Proofs.Withdrawal.Leftover
import ReactiveKernel.Proofs.Withdrawal.Restoration

/-!
# Subscriptions that are taken back

Subscriptions that are made and then removed, in any order, leave nothing behind but identities that
were given out, and notifications that are pending. Their callbacks never start. The next report
counts each as skipped, unless its drain was cut short before the turn of that subscription.
-/

namespace ReactiveKernel

variable {κ : Type}

namespace Kernel

open Activity

variable {k k' m n : Kernel κ} {links : List (Link κ)} {ids removed : List SubscriptionId}
  {answers : List Bool}

/-- What subscriptions that were made at a kernel leave behind at another one, at which they are
removed. -/
structure Withdrawn (k : Kernel κ) (links : List (Link κ)) (ids : List SubscriptionId)
    (n : Kernel κ) : Prop where
  /-- Tables, contents, revisions and schedule are what they were, but for what is pending. -/
  state : n.toState = { k.toState with
    counters := { k.counters with
      subscriptions := k.counters.subscriptions + links.length
      functions := k.counters.functions + links.length }
    schedule := { k.schedule with pending := n.schedule.pending } }
  /-- Those whose source had changed in this generation are pending. -/
  pending : ∀ id, id ∈ n.schedule.pending ↔ id ∈ k.schedule.pending ∨
    ∃ link, (id, link) ∈ ids.zip links ∧ k.toState.stamp? link.source = some k.generation
  /-- None of their callbacks starts in any run that comes to this kernel. -/
  unstarted : ∀ begin ns a, Starts begin → Path begin ns a → a.kernel = n →
    ∀ ms b, Path a ms b → ∀ x ∈ ms, x.subscription ∉ ids
  /-- In such a run, the next report counts what was skipped since, with what had been skipped in
  the drain that was running, if one was. Each of them that was pending was skipped by then, unless
  that drain was cut short before its turn. -/
  reported : ∀ k' ahead report overrun after, n.Precedes k' →
    k'.history = n.history ++ ahead ++ .logged (.drainEnded report overrun) :: after →
    (∀ o ∈ ahead, o.isReport = false) →
      report.staleSkipped = skipCount n.history + (skips ahead).length ∧
      (n.schedule.draining = false → skipCount n.history = 0 ∧ waveCount n.history = 0) ∧
      ∀ id ∈ ids, id ∈ n.schedule.pending →
        id ∈ skips ahead ∨ CutShort n.settings n.history ahead id

/-- What a list of subscriptions leaves behind when it is taken back. -/
theorem Enlists.withdrawn (h : k.Enlists links ids m) (perm : removed.Perm ids) :
    k.Withdrawn links ids (m.removeEdges removed) := by
  have restored := h.restored perm
  have pending : (m.removeEdges removed).schedule.pending = m.schedule.pending :=
    congrArg (fun s => s.schedule.pending) restored
  have counters : (m.removeEdges removed).counters = m.counters := by rw [restored]
  have gone : ∀ id ∈ ids, id ∉ (m.removeEdges removed).edges.subscriptions := fun id listed live =>
    ((mem_subscriptions_removeEdges removed m id).mp live).1 (perm.mem_iff.mpr listed)
  refine ⟨?_, ?_, ?_, ?_⟩
  · rw [pending, ← h.counters, restored]
  · intro id
    rw [pending, h.pending]
  · intro begin ns a starts path same ms b later x hx listed
    have given : a.kernel.toState.Given (.subscription x.subscription) := by
      rw [same]
      exact (State.given_congr counters _).mpr (h.given listed)
    have dead : ¬ a.kernel.toState.Live (.subscription x.subscription) := same ▸ gone _ listed
    exact gone_unnotified starts path later given dead x hx (.inl rfl)
  · intro k' ahead report overrun after precedes history unreported
    obtain ⟨counted, handled⟩ := precedes.reported history unreported
    exact ⟨counted, precedes.reachable_first.audited.idle, fun id listed waiting =>
      handled id waiting (gone id listed)⟩

/-- A drain that returns a report has just written it down, if anything was due. -/
theorem report_written {report : DrainReport} (idle : k.schedule.draining = false)
    (due : k.schedule.pending.isEmpty = false)
    (steps : Steps k.drain (.done (.ok report) k')) :
    ∃ before overrun, k'.history = before ++ [.logged (.drainEnded report overrun)] := by
  obtain ⟨cs, follows⟩ := steps.follows
  rw [drain_of_due idle due] at follows
  obtain ⟨_, _, ⟨result, told⟩, m, _, _, rest⟩ := follows.of_bind
  obtain ⟨_, same⟩ := rest.of_done
  cases result with
  | error fault => cases same
  | ok u =>
    cases same
    obtain ⟨overrun, history⟩ := history_endDrain m (.ok u) told
    exact ⟨_, overrun, history⟩

/-- Subscriptions that were made in a reachable kernel and are removed in any order are all found,
are gone once they are removed, and leave behind only what is pending and what was given out. -/
theorem withdrawal_restores (h : k.Reachable) (made : k.subscribeAll links = .ok (ids, m))
    (perm : removed.Perm ids) (gone : m.unsubscribeAll removed = (answers, n)) :
    answers = removed.map (fun _ => true) ∧
    (∀ before after, removed = before ++ after → ∀ id ∈ before,
      (m.unsubscribeAll before).2.unsubscribe id = (false, (m.unsubscribeAll before).2)) ∧
    k.Withdrawn links ids n ∧
    ∀ (j j' : Kernel κ) report, j.schedule.draining = false → j.schedule.pending.isEmpty = false →
      Steps j.drain (.done (.ok report) j') →
        ∃ before overrun, j'.history = before ++ [.logged (.drainEnded report overrun)] := by
  have enlists := enlists_subscribeAll h.consistent made
  refine ⟨?_, ?_, ?_, fun j j' report idle due steps => report_written idle due steps⟩
  · have nodup : removed.Nodup := perm.nodup_iff.mpr enlists.nodup
    have registered : ∀ id ∈ removed, id ∈ m.edges.subscriptions := fun id listed =>
      (enlists.registered id).mpr (.inr (perm.mem_iff.mp listed))
    rw [← unsubscribeAll_fst nodup registered, gone]
  · intro before after _ id listed
    refine unsubscribe_gone fun live => ?_
    rw [unsubscribeAll_snd] at live
    exact ((mem_subscriptions_removeEdges before m id).mp live).1 listed
  · have same : n = m.removeEdges removed := by rw [← unsubscribeAll_snd, gone]
    exact same ▸ enlists.withdrawn perm

/-- What host code leads to from a kernel that commands led to comes after it. -/
theorem precedes_of_commands (h : Host κ) {depth : Nat} {p : Program κ (Except Fault Unit)}
    {settings : Settings} {templates : TemplateLibrary κ} {cs : List (Command κ)}
    {r : Except Fault Unit}
    (run : h.execute depth p ((Kernel.create settings templates).performAll h.order cs) =
      some (r, k)) : ((Kernel.create settings templates).performAll h.order cs).Precedes k := by
  have commands := stepsCalling_commands (fun _ _ => True) h.order cs p
    (Kernel.create settings templates) .done
  exact ⟨_, p, .done, .pure r, .done, ⟨settings, templates, _, rfl⟩,
    Relation.ReflTransGen.mono (fun _ _ step => step.2) _ _ commands,
    (h.follows depth).exec run .done⟩

/-- A host in which code fails or does nothing. -/
def failing : Host Bool where
  behave fails _ := .pure (if fails then .error .reentrant else .ok ())

/-- The kernel that commands lead to from a closure that owns a datum. -/
def household (policy : FailurePolicy) (cs : List (Command Bool)) : Kernel Bool :=
  (Kernel.create (Settings.standard.withOnFailure policy) .empty).performAll .ascending
    (.createClosure "Root" none :: .createDatum "Cell" [] (some ⟨0⟩) :: cs)

/-- Host code that calls for a drain. -/
def draining : Program Bool (Except Fault Unit) := .call .drain fun _ => .pure (.ok ())

/-- The kernel after a drain. -/
def drained (k : Kernel Bool) : Kernel Bool :=
  ((failing.execute 2 draining k).map (·.2)).getD k

/-- Subscriptions from each of the two to itself, one of them twice. -/
def selfLinks : List (Link Bool) :=
  [⟨.closure ⟨0⟩, .closure ⟨0⟩, .everything, false⟩, ⟨.datum ⟨0⟩, .datum ⟨0⟩, .everything, false⟩,
   ⟨.datum ⟨0⟩, .datum ⟨0⟩, .everything, false⟩]

/-- The commands that make them. -/
def linking : List (Command Bool) :=
  selfLinks.map fun l => .subscribe l.source l.target l.selector l.code

/-- The commands that remove them in another order. -/
def unlinking : List (Command Bool) := [.unsubscribe ⟨2⟩, .unsubscribe ⟨0⟩, .unsubscribe ⟨1⟩]

/-- Three subscriptions are taken back, and the next drain skips all of them. -/
theorem withdrawal_restores_selfLinks :
    (household .log []).Reachable ∧
    (household .log []).subscribeAll selfLinks =
      .ok ([⟨0⟩, ⟨1⟩, ⟨2⟩], household .log linking) ∧
    [⟨2⟩, ⟨0⟩, ⟨1⟩].Perm [(⟨0⟩ : SubscriptionId), ⟨1⟩, ⟨2⟩] ∧
    (household .log linking).unsubscribeAll [⟨2⟩, ⟨0⟩, ⟨1⟩] =
      ([true, true, true], household .log (linking ++ unlinking)) ∧
    (household .log []).Withdrawn selfLinks [⟨0⟩, ⟨1⟩, ⟨2⟩]
      (household .log (linking ++ unlinking)) ∧
    (household .log (linking ++ unlinking)).Precedes
      (drained (household .log (linking ++ unlinking))) ∧
    ∃ ahead report, (drained (household .log (linking ++ unlinking))).history =
        (household .log (linking ++ unlinking)).history ++ ahead ++
          [.logged (.drainEnded report false)] ∧
      (∀ o ∈ ahead, o.isReport = false) ∧ report.staleSkipped = 3 := by
  have reachable : (household .log []).Reachable := reachable_performAll _ _ _ _
  have made : (household .log []).subscribeAll selfLinks =
      .ok ([⟨0⟩, ⟨1⟩, ⟨2⟩], household .log linking) := rfl
  have perm : [⟨2⟩, ⟨0⟩, ⟨1⟩].Perm [(⟨0⟩ : SubscriptionId), ⟨1⟩, ⟨2⟩] := by decide
  have gone : (household .log linking).unsubscribeAll [⟨2⟩, ⟨0⟩, ⟨1⟩] =
      ([true, true, true], household .log (linking ++ unlinking)) := rfl
  obtain ⟨_, _, withdrawn, _⟩ := withdrawal_restores reachable made perm gone
  have run : failing.execute 2 draining (household .log (linking ++ unlinking)) =
      some (.ok (), drained (household .log (linking ++ unlinking))) := rfl
  have precedes := precedes_of_commands failing run
  have history : (drained (household .log (linking ++ unlinking))).history =
      (household .log (linking ++ unlinking)).history ++
        [.announced (.drainStarted 0 3), .waveTaken 1 [⟨0⟩, ⟨1⟩, ⟨2⟩], .logged (.stale ⟨0⟩ 1),
         .logged (.stale ⟨1⟩ 1), .logged (.stale ⟨2⟩ 1), .announced (.generationDrained 1 0),
         .announced (.drainFinished 1 1 false)] ++
        [.logged (.drainEnded ⟨0, 1, 1, 0, 3, 0, 0, 0⟩ false)] := rfl
  exact ⟨reachable, made, perm, gone, withdrawn, precedes, _, _, history, by decide, rfl⟩

/-- A subscription from the closure to itself. -/
def selfLink (code : Bool) : Link Bool := ⟨.closure ⟨0⟩, .closure ⟨0⟩, .everything, code⟩

/-- The command that makes it. -/
def linkSelf (code : Bool) : Command Bool :=
  .subscribe (.closure ⟨0⟩) (.closure ⟨0⟩) .everything code

/-- The closure has a subscription whose callback fails. Another one was made and is removed. -/
def overtaken : Kernel Bool := household .abort [linkSelf true, linkSelf false, .unsubscribe ⟨1⟩]

/-- A callback that aborts the drain keeps a subscription that was taken back from being skipped:
the next report does not count it, though it was pending and no drain was running. -/
theorem withdrawal_uncounted :
    (household .abort [linkSelf true]).Reachable ∧
    (household .abort [linkSelf true]).subscribeAll [selfLink false] =
      .ok ([⟨1⟩], household .abort [linkSelf true, linkSelf false]) ∧
    (household .abort [linkSelf true, linkSelf false]).unsubscribeAll [⟨1⟩] =
      ([true], overtaken) ∧
    overtaken.schedule.draining = false ∧ ⟨1⟩ ∈ overtaken.schedule.pending ∧
    overtaken.Precedes (drained overtaken) ∧
    ∃ ahead report, (drained overtaken).history =
        overtaken.history ++ ahead ++ [.logged (.drainEnded report false)] ∧
      (∀ o ∈ ahead, o.isReport = false) ∧ report.staleSkipped = 0 ∧ ⟨1⟩ ∉ skips ahead := by
  have run : failing.execute 2 draining overtaken = some (.ok (), drained overtaken) := rfl
  have history : (drained overtaken).history = overtaken.history ++
      [.announced (.drainStarted 0 2), .waveTaken 1 [⟨0⟩, ⟨1⟩], .announced (.notified ⟨0⟩ 1),
       .started ⟨⟨0⟩, .closure ⟨0⟩, .closure ⟨0⟩, 1⟩,
       .logged (.callbackAborted ⟨0⟩ 1 0 .reentrant), .announced (.drainFinished 1 1 false)] ++
      [.logged (.drainEnded ⟨0, 1, 1, 1, 0, 1, 0, 0⟩ false)] := rfl
  exact ⟨reachable_performAll _ _ _ _, rfl, rfl, rfl, by decide, precedes_of_commands failing run,
    _, _, history, by decide, rfl, by decide⟩

end Kernel

end ReactiveKernel
