import ReactiveKernel.Proofs.Drain.Block
import ReactiveKernel.Proofs.Drain.Count

/-!
# What the reports of drains tell

Every drain leaves a report. It counts the subscriptions that were skipped since the report before
it, whatever the callbacks do. When a drain ends, nothing is due any more, or what was due has just
been dropped: no wave remained for it, or a callback has aborted the drain, which happens under that
policy alone.
-/

namespace ReactiveKernel

variable {κ : Type}

/-- Whether an entry tells that what was due is dropped. -/
def LogEvent.drops : LogEvent → Bool
  | .callbackAborted .. | .cycleOverrun .. => true
  | _ => false

/-- What was due has just been dropped. -/
def Dropping (entries : List (Occurrence κ)) : Prop :=
  ∃ e, .logged e ∈ entries.getLast? ∧ e.drops = true

/-- Whether an entry is the report of a drain. -/
def Occurrence.isReport : Occurrence κ → Bool
  | .logged (.drainEnded ..) => true
  | _ => false

/-- The entries since the last report. -/
def sinceReport (entries : List (Occurrence κ)) : List (Occurrence κ) :=
  entries.foldl (fun span o => if o.isReport then [] else span ++ [o]) []

/-- How many subscriptions were skipped since the last report. -/
def skipCount (entries : List (Occurrence κ)) : Nat := (skips (sinceReport entries)).length

/-- How many waves were taken since the last report. -/
def waveCount (entries : List (Occurrence κ)) : Nat := (taken (sinceReport entries)).length

/-- What an entry says of a drain is so. -/
def Truthful (settings : Settings) (before : List (Occurrence κ)) : Occurrence κ → Prop
  | .announced (.drainFinished ..) => (∀ id, ¬ Due before id) ∨ Dropping before
  | .logged (.drainEnded report overrun) => report.staleSkipped = skipCount before ∧
      .announced (.drainFinished report.endGeneration report.waves overrun) ∈ before.getLast?
  | .logged (.callbackAborted ..) => settings.onFailure = .abort
  | .logged (.cycleOverrun ..) => waveCount before = settings.waveLimit
  | _ => True

/-- What the entries say of drains is so. -/
def AllTruthful (settings : Settings) (entries : List (Occurrence κ)) : Prop :=
  ∀ before o after, entries = before ++ o :: after → Truthful settings before o

section

variable {settings : Settings} {entries more : List (Occurrence κ)} {o : Occurrence κ}

/-- A report leaves nothing to be reported. -/
theorem sinceReport_report (h : o.isReport = true) : sinceReport (entries ++ [o]) = [] := by
  simp [sinceReport, h]

/-- An entry that is no report is to be reported. -/
theorem sinceReport_snoc (h : o.isReport = false) :
    sinceReport (entries ++ [o]) = sinceReport entries ++ [o] := by
  simp [sinceReport, h]

/-- Until the next report comes, all that happens counts for it. -/
theorem sinceReport_append (none : ∀ o ∈ more, o.isReport = false) :
    sinceReport (entries ++ more) = sinceReport entries ++ more := by
  induction more using List.reverseRecOn with
  | nil => simp
  | append_singleton more o ih =>
    rw [← List.append_assoc, sinceReport_snoc (none o (by simp)),
      ih fun a listed => none a (by simp [listed]), List.append_assoc]

/-- Until the next report comes, all skips count for it. -/
theorem skipCount_append (none : ∀ o ∈ more, o.isReport = false) :
    skipCount (entries ++ more) = skipCount entries + (skips more).length := by
  rw [skipCount, sinceReport_append none, skips_append, List.length_append]
  rfl

/-- Until the next report comes, all waves count for it. -/
theorem waveCount_append (none : ∀ o ∈ more, o.isReport = false) :
    waveCount (entries ++ more) = waveCount entries + (taken more).length := by
  rw [waveCount, sinceReport_append none, taken_append, List.length_append]
  rfl

/-- No lie is told where nothing is. -/
theorem allTruthful_nil : AllTruthful settings ([] : List (Occurrence κ)) := by
  intro before o after split
  cases before <;> cases split

/-- One more true entry is no lie. -/
theorem AllTruthful.snoc (h : AllTruthful settings entries) (truth : Truthful settings entries o) :
    AllTruthful settings (entries ++ [o]) := by
  intro before a after split
  rcases List.eq_nil_or_concat' after with rfl | ⟨after, last, rfl⟩
  · obtain ⟨rfl, same⟩ := List.append_inj' split rfl
    cases same
    exact truth
  · rw [← List.cons_append, ← List.append_assoc] at split
    obtain ⟨rfl, _⟩ := List.append_inj' split rfl
    exact h before a after rfl

/-- Announcements that drains do not make neither lie nor count. -/
theorem AllTruthful.announced {events : List TraceEvent} (h : AllTruthful settings entries)
    (ours : ∀ e ∈ events, e.isOfDrain = false) :
    AllTruthful settings (entries ++ events.map .announced) := by
  induction events using List.reverseRecOn with
  | nil => simpa using h
  | append_singleton events e ih =>
    have truthful := ih fun a ha => ours a (by simp [ha])
    have silent := ours e (by simp)
    rw [List.map_append, ← List.append_assoc, List.map_singleton]
    refine truthful.snoc ?_
    cases e <;> trivial

/-- Nothing was dropped at first. -/
theorem not_dropping_nil : ¬ Dropping ([] : List (Occurrence κ)) := by
  rintro ⟨e, last, _⟩
  cases last

/-- Nothing was just dropped if the last entry says nothing of it. -/
theorem not_dropping_snoc (none : ∀ e, o = .logged e → e.drops = false) :
    ¬ Dropping (entries ++ [o]) := by
  rintro ⟨e, last, drops⟩
  rw [List.getLast?_concat] at last
  rw [none e (Option.some.inj last)] at drops
  cases drops

/-- Announcements drop nothing. -/
theorem not_dropping_announced {events : List TraceEvent} (h : ¬ Dropping entries) :
    ¬ Dropping (entries ++ events.map .announced) := by
  rcases List.eq_nil_or_concat' events with rfl | ⟨events, e, rfl⟩
  · rwa [List.map_nil, List.append_nil]
  · rw [List.map_append, ← List.append_assoc]
    exact not_dropping_snoc nofun

/-- Announcements count for no report. -/
theorem counts_announced (entries : List (Occurrence κ)) (events : List TraceEvent) :
    skipCount (entries ++ events.map .announced) = skipCount entries ∧
      waveCount (entries ++ events.map .announced) = waveCount entries := by
  have none : ∀ o ∈ (events.map .announced : List (Occurrence κ)), o.isReport = false := by
    intro o ho
    obtain ⟨e, _, rfl⟩ := List.mem_map.mp ho
    rfl
  have nobody : skips (events.map .announced : List (Occurrence κ)) = [] := by
    simp [skips, List.filterMap_eq_nil_iff, Occurrence.skip?]
  have no_wave : taken (events.map .announced : List (Occurrence κ)) = [] := by
    simp [taken, List.filterMap_eq_nil_iff, Occurrence.wave?]
  rw [skipCount_append none, waveCount_append none, nobody, no_wave]
  exact ⟨rfl, rfl⟩

end

namespace Kernel

/-- What the history tells of drains is so. -/
structure Audited (k : Kernel κ) : Prop where
  /-- The journal tells what is due. -/
  recorded : k.Recorded
  /-- Every entry is true. -/
  truthful : AllTruthful k.settings k.history
  /-- Outside of drains all is reported. -/
  idle : k.schedule.draining = false → skipCount k.history = 0 ∧ waveCount k.history = 0
  /-- Nothing has just been dropped. -/
  undropped : ¬ Dropping k.history

/-- A drain is running in which so many subscriptions were skipped and so many waves were taken. -/
structure Drained (k : Kernel κ) (settings : Settings) (skipped waves : Nat) : Prop where
  /-- The settings. -/
  fixed : k.settings = settings
  /-- Every entry is true. -/
  truthful : AllTruthful settings k.history
  /-- How many were skipped. -/
  skipped : skipCount k.history = skipped
  /-- How many waves were taken. -/
  waves : waveCount k.history = waves

/-- Whoever has control skips nobody while a drain is running, and takes no wave. -/
structure Abstains (k k' : Kernel κ) : Prop extends k.Resumes k' where
  /-- Nobody was skipped. -/
  skipped : k.schedule.draining = true → skipCount k'.history = skipCount k.history
  /-- No wave was taken. -/
  waves : k.schedule.draining = true → waveCount k'.history = waveCount k.history

end Kernel

/-- What the history tells of drains is so, and whoever has control leaves a running drain alone. -/
def Contract.reporting (κ : Type) : Contract κ where
  holds := Kernel.Audited
  leads k k' := k.history <+: k'.history ∧ k'.settings = k.settings
  returns := Kernel.Abstains

namespace Contract

open Kernel

variable {k k' : Kernel κ}

/-- What holds of reports adds up, and whoever has control leaves a running drain alone. -/
theorem reporting_ordered : (reporting κ).Ordered where
  refl _ := ⟨List.prefix_rfl, rfl⟩
  trans h h' := ⟨h.1.trans h'.1, h'.2.trans h.2⟩
  returns_refl k := ⟨Resumes.refl k, fun _ => rfl, fun _ => rfl⟩
  returns_trans h h' := by
    refine ⟨h.toResumes.trans h'.toResumes, fun draining => ?_, fun draining => ?_⟩
    · exact (h'.skipped (h.draining.trans draining)).trans (h.skipped draining)
    · exact (h'.waves (h.draining.trans draining)).trans (h.waves draining)

/-- Whoever only adds announcements that drains do not make keeps the contract. -/
theorem reporting_announced (audited : k.Audited) (recorded : k'.Recorded) (resumes : k.Resumes k')
    (settings : k'.settings = k.settings) {events : List TraceEvent}
    (history : k'.history = k.history ++ events.map .announced)
    (ours : ∀ e ∈ events, e.isOfDrain = false) : (reporting κ).Passes k k' := by
  have truthful := audited.truthful.announced ours
  obtain ⟨skipped, waves⟩ := counts_announced k.history events
  rw [← history] at truthful skipped waves
  refine ⟨⟨recorded, settings ▸ truthful, fun idle => ?_, ?_⟩, ⟨?_, settings⟩, resumes,
    fun _ => skipped, fun _ => waves⟩
  · rw [skipped, waves]
    exact audited.idle (resumes.draining ▸ idle)
  · exact history ▸ not_dropping_announced audited.undropped
  · exact history ▸ List.prefix_append _ _

/-- Operations other than drains leave reports as they are. -/
theorem reporting_stable : (reporting κ).Stable where
  toOrdered := reporting_ordered
  act order k k' action audited := by
    obtain ⟨_, effect⟩ := action.effect (Recorded.consistent (Audited.recorded audited))
    obtain ⟨recorded, resumes⟩ := Recorded.effect (Audited.recorded audited) effect
    obtain ⟨events, history, ours⟩ := effect.announces
    exact reporting_announced audited recorded resumes effect.settings history ours

/-- Probes leave reports as they are. -/
theorem reporting_probe (p : Probe) (audited : k.Audited) :
    (reporting κ).Passes k (p.perform k).2 := by
  have quiet : (p.perform k).2.history = k.history ++ [].map .announced := by
    cases p with
    | remark text => simp [Probe.perform, history_note, Occurrence.isQuiet]
    | _ => exact (List.append_nil _).symm
  have back := recording_probe p audited.recorded
  exact reporting_announced audited back.holds back.returns
    (congrArg State.settings (toState_probe p k)) quiet (by simp)

end Contract

namespace Kernel

variable {k k' : Kernel κ} {settings : Settings} {g skipped waves : Nat} {id : SubscriptionId}
  {rest : List SubscriptionId}

namespace Drained

/-- One more entry, other than a report. -/
theorem next {o : Occurrence κ} (h : k.Drained settings skipped waves)
    (history : k'.history = k.history ++ [o]) (same : k'.settings = k.settings)
    (truth : Truthful settings k.history o) (inside : o.isReport = false) :
    k'.Drained settings (skipped + (skips [o]).length) (waves + (taken [o]).length) := by
  have none : ∀ a ∈ [o], a.isReport = false := List.forall_mem_singleton.mpr inside
  refine ⟨same.trans h.fixed, ?_, ?_, ?_⟩
  · rw [history]
    exact h.truthful.snoc truth
  · rw [history, skipCount_append none, h.skipped]
  · rw [history, waveCount_append none, h.waves]

/-- The history and the settings are all that matters. -/
theorem congr (h : k.Drained settings skipped waves) (history : k'.history = k.history)
    (same : k'.settings = k.settings) : k'.Drained settings skipped waves :=
  ⟨same.trans h.fixed, history ▸ h.truthful, history ▸ h.skipped, history ▸ h.waves⟩

/-- The turn of a subscription that is gone. -/
theorem stale (h : k.Drained settings skipped waves) (id : SubscriptionId) (g : Nat) :
    (k.log (.stale id g)).Drained settings (skipped + 1) waves := by
  have history : (k.log (.stale id g)).history = k.history ++ [.logged (.stale id g)] :=
    history_log k _
  exact h.next history rfl trivial rfl

/-- The turn of a subscription whose callback starts. -/
theorem start (h : k.Drained settings skipped waves) (n : Notification) :
    (k.startCallback n).Drained settings skipped waves := by
  have notified : (k.emit (.notified n.subscription n.generation)).Drained settings skipped waves :=
    h.next (history_emit k _) rfl trivial rfl
  exact notified.next (history_note _ (.started n)) rfl trivial rfl

/-- The end of a callback. -/
theorem finish (h : k.Drained settings skipped waves) (n : Notification)
    (outcome : Except Fault Unit) : (k.finishCallback n outcome).Drained settings skipped waves :=
  h.congr (by simp [finishCallback, history_note, Occurrence.isQuiet]) rfl

/-- The report of a callback that failed. -/
theorem failed (h : k.Drained settings skipped waves) (id : SubscriptionId) (g : Nat)
    (fault : Fault) : (k.log (.callbackFailed id g fault)).Drained settings skipped waves := by
  have history : (k.log (.callbackFailed id g fault)).history =
      k.history ++ [.logged (.callbackFailed id g fault)] := history_log k _
  exact h.next history rfl trivial rfl

/-- A drain goes on when control comes back. -/
theorem resume (h : k.Drained settings skipped waves) (draining : k.schedule.draining = true)
    (back : (Contract.reporting κ).Passes k k') : k'.Drained settings skipped waves := by
  have abstains : k.Abstains k' := back.returns
  have same : k'.settings = settings := back.leads.2.trans h.fixed
  exact ⟨same, same ▸ back.holds.truthful, (abstains.skipped draining).trans h.skipped,
    (abstains.waves draining).trans h.waves⟩

/-- What is due is taken as a wave. -/
theorem takeWave (h : k.Drained settings skipped waves) :
    k.takeWave.2.Drained settings skipped (waves + 1) := by
  have history : k.takeWave.2.history =
      k.history ++ [.waveTaken (k.generation + 1) k.schedule.pending.toList] := history_note _ _
  exact h.next history rfl trivial rfl

/-- The report of a wave that was delivered. -/
theorem delivered (h : k.Drained settings skipped waves) (g callbacks : Nat) :
    (k.emit (.generationDrained g callbacks)).Drained settings skipped waves :=
  h.next (history_emit k _) rfl trivial rfl

end Drained

/-- A drain is about to end in which so many subscriptions were skipped. -/
structure Closing (k : Kernel κ) (settings : Settings) (skipped : Nat) : Prop extends k.Ending where
  /-- The settings. -/
  fixed : k.settings = settings
  /-- Every entry is true. -/
  truthful : AllTruthful settings k.history
  /-- How many were skipped. -/
  skipped : skipCount k.history = skipped
  /-- Nothing is due, or what was due has been dropped. -/
  settled : (∀ id, ¬ Due k.history id) ∨ Dropping k.history

namespace Drained

/-- Nothing is pending. -/
theorem done (h : k.Drained settings skipped waves) (inWave : k.InWave g [])
    (empty : k.schedule.pending.isEmpty = true) : k.Closing settings skipped := by
  refine ⟨inWave.done empty, h.fixed, h.truthful, h.skipped, .inl fun id due => ?_⟩
  exact SubscriptionSet.isEmpty_iff.mp empty id ((inWave.recorded.due id).mpr due)

/-- What was due is dropped. -/
theorem drop {e : LogEvent} (h : k.Drained settings skipped waves)
    (ending : (k.discardPending.log e).Ending) (drops : e.drops = true)
    (truth : Truthful settings k.history (.logged e)) :
    (k.discardPending.log e).Closing settings skipped := by
  have history : (k.discardPending.log e).history = k.history ++ [.logged e] := by
    rw [history_log]
    cases e <;> first | rfl | cases drops
  have more : (k.discardPending.log e).Drained settings
      (skipped + (skips [.logged e] : List SubscriptionId).length)
      (waves + (taken [(.logged e : Occurrence κ)]).length) :=
    h.next history rfl truth (by cases e <;> first | rfl | cases drops)
  have counts : skipCount (k.discardPending.log e).history = skipped := by
    rw [more.skipped]
    cases e <;> first | rfl | cases drops
  have last : .logged e ∈ (k.discardPending.log e).history.getLast? := by
    rw [history, List.getLast?_concat]
    exact rfl
  exact ⟨ending, more.fixed, more.truthful, counts, .inr ⟨e, last, drops⟩⟩

/-- A callback has control. -/
theorem audited {n : Notification} (h : k.Drained settings skipped waves)
    (inWave : (k.startCallback n).InWave g rest) : (k.startCallback n).Audited where
  recorded := inWave.recorded
  truthful := (h.start n).fixed ▸ (h.start n).truthful
  idle outside := by
    rw [inWave.draining] at outside
    cases outside
  undropped := by
    rw [startCallback, history_note]
    exact not_dropping_snoc nofun

end Drained

/-- A drain starts. -/
theorem Audited.beginDrain (h : k.Audited) (idle : k.schedule.draining = false) :
    k.beginDrain.Drained k.settings 0 0 := by
  have history : k.beginDrain.history = k.history ++
      [.drainStarted k.generation k.schedule.pending.size].map .announced := history_emit k _
  obtain ⟨skipped, waves⟩ := counts_announced k.history
    [.drainStarted k.generation k.schedule.pending.size]
  obtain ⟨nobody, no_wave⟩ := h.idle idle
  refine ⟨rfl, ?_, ?_, ?_⟩
  · rw [history]
    exact h.truthful.snoc trivial
  · rw [history, skipped, nobody]
  · rw [history, waves, no_wave]

/-- A drain ends. -/
theorem Closing.endDrain (h : k.Closing settings skipped) (outcome : Except Fault Unit)
    {report : DrainReport} (counted : report.staleSkipped = skipped) :
    (k.endDrain outcome report).Audited := by
  obtain ⟨overrun, history⟩ := history_endDrain k outcome report
  have finished : AllTruthful settings (k.history ++
      [.announced (.drainFinished report.endGeneration report.waves overrun)]) :=
    h.truthful.snoc h.settled
  have counts : skipCount (k.history ++
      [.announced (.drainFinished report.endGeneration report.waves overrun)]) = skipped :=
    (counts_announced k.history [_]).1.trans h.skipped
  have same : (k.endDrain outcome report).settings = settings := h.fixed
  refine ⟨(h.toEnding.endDrain outcome report).1, ?_, fun _ => ?_, ?_⟩
  · rw [history, same]
    refine finished.snoc ⟨counted.trans counts.symm, ?_⟩
    rw [List.getLast?_concat]
    rfl
  · rw [history, skipCount, waveCount, sinceReport_report rfl]
    exact ⟨rfl, rfl⟩
  · rw [history]
    exact not_dropping_snoc (by rintro _ ⟨⟩; rfl)

end Kernel

namespace Contract

open Kernel

variable {k : Kernel κ} {settings : Settings} {g skipped waves : Nat}

/-- What the delivery of a wave comes to. -/
def Counted (settings : Settings) (g waves skipped stale : Nat) :
    Except Fault Unit × WaveTally → Kernel κ → Prop
  | (.ok (), tally), k => ∃ more, k.InWave g [] ∧ k.Drained settings (skipped + more) waves ∧
      tally.stale = stale + more
  | (.error _, tally), k => ∃ more, k.Closing settings (skipped + more) ∧
      tally.stale = stale + more

/-- One subscription was skipped, and then further ones. -/
theorem Counted.skip {stale : Nat} {r : Except Fault Unit × WaveTally}
    (h : Counted settings g waves (skipped + 1) (stale + 1) r k) :
    Counted settings g waves skipped stale r k := by
  obtain ⟨outcome, tally⟩ := r
  cases outcome with
  | ok u | error fault =>
    obtain ⟨more, h⟩ := h
    refine ⟨more + 1, ?_⟩
    rwa [Nat.add_right_comm skipped, Nat.add_right_comm stale, Nat.add_assoc, Nat.add_assoc] at h

/-- The history grows when an entry is written. -/
theorem reporting_note (k : Kernel κ) (o : Occurrence κ) : (reporting κ).leads k (k.note o) := by
  refine ⟨?_, rfl⟩
  rw [history_note]
  exact List.prefix_append _ _

/-- The history grows when an event is announced. -/
theorem reporting_emit (k : Kernel κ) (e : TraceEvent) : (reporting κ).leads k (k.emit e) := by
  refine ⟨?_, rfl⟩
  rw [history_emit]
  exact List.prefix_append _ _

/-- The delivery of a wave counts the subscriptions that it skips. By induction on the turns to
come. -/
theorem reporting_deliver (wave : List SubscriptionId) (tally : WaveTally)
    (inWave : k.InWave g wave) (h : k.Drained settings skipped waves) {stale : Nat}
    (counts : tally.stale = stale) :
    (k.deliver g wave tally).Keeps (reporting κ) (Counted settings g waves skipped stale) k := by
  induction wave generalizing skipped tally stale k with
  | nil => exact ⟨reporting_ordered.refl k, 0, inWave, h, counts⟩
  | cons id rest ih =>
    simp only [Kernel.deliver]
    split
    · next gone =>
      have others := ih { tally with stale := tally.stale + 1 } (inWave.stale gone) (h.stale id g)
        (congrArg (· + 1) counts)
      exact (others.mono fun _ _ counted => counted.skip).earlier reporting_ordered
        (reporting_note _ _)
    · next e code here =>
      let n : Notification := ⟨id, e.source, e.target, g⟩
      obtain ⟨started, turn⟩ := inWave.start here
      have begins : (reporting κ).leads k (k.startCallback n) :=
        reporting_ordered.trans (reporting_emit k _) (reporting_note _ _)
      refine ⟨begins, h.audited started, fun outcome k' back => ?_⟩
      have abstains : Kernel.Abstains _ k' := back.returns
      obtain ⟨finished, same⟩ :=
        (started.resume ⟨back.holds.recorded, trivial, abstains.toResumes⟩).finish n outcome
      have drained := ((h.start n).resume started.draining back).finish n outcome
      have noted : (reporting κ).leads k' (k'.finishCallback n outcome) := reporting_note k' _
      cases outcome with
      | ok u =>
        have others := ih { tally with callbacks := tally.callbacks + 1 } finished drained counts
        exact others.earlier reporting_ordered noted
      | error fault =>
        simp only
        split
        · have others := ih
            { tally with callbacks := tally.callbacks + 1, failures := tally.failures + 1 }
            (finished.failed fault) (drained.failed id g fault) counts
          exact others.earlier reporting_ordered
            (reporting_ordered.trans noted (reporting_note _ _))
        · next policy =>
          have ran : (k'.finishCallback n (.error fault)).ledger.turn = some id := by
            rw [same, abstains.turn started.draining, turn]
          have aborts : settings.onFailure = .abort := drained.fixed ▸ policy
          have ending := finished.abort (n := n) rfl ran fault
          exact ⟨reporting_ordered.trans noted (reporting_note _ _), 0,
            drained.drop ending rfl aborts, counts⟩

/-- What the waves of a drain come to. -/
def Reported (settings : Settings) (skipped stale : Nat) (r : Except Fault Unit × DrainReport)
    (k : Kernel κ) : Prop :=
  ∃ more, k.Closing settings (skipped + more) ∧ r.2.staleSkipped = stale + more

/-- The waves of a drain count the subscriptions that they skip. By induction on how many remain. -/
theorem reporting_waves (remaining : Nat) (report : DrainReport) (inWave : k.InWave g [])
    (h : k.Drained settings skipped waves) (room : waves + remaining = settings.waveLimit) :
    (k.waves remaining report).Keeps (reporting κ)
      (Reported settings skipped report.staleSkipped) k := by
  induction remaining generalizing report g skipped waves k with
  | zero =>
    unfold Kernel.waves
    split
    · next empty => exact ⟨reporting_ordered.refl k, 0, h.done inWave empty, rfl⟩
    · have truth : waveCount k.history = settings.waveLimit := h.waves.trans room
      exact ⟨reporting_note k.discardPending _, 0, h.drop inWave.overrun rfl truth, rfl⟩
  | succ remaining ih =>
    unfold Kernel.waves
    split
    · next empty => exact ⟨reporting_ordered.refl k, 0, h.done inWave empty, rfl⟩
    · have begun := inWave.takeWave
      have same : k.takeWave.2.generation = g + 1 := begun.generation
      have took : (reporting κ).leads k k.takeWave.2 :=
        reporting_note (k.mapState fun s => { s with schedule := s.schedule.takeWave }) _
      simp only [same]
      refine .earlier reporting_ordered took (.bind reporting_ordered
        ((reporting_deliver _ ⟨0, 0, 0⟩ begun h.takeWave rfl).mono ?_))
      rintro ⟨outcome, tally⟩ k' counted
      cases outcome with
      | error fault =>
        obtain ⟨more, closing, stale⟩ := counted
        refine ⟨reporting_ordered.refl k', more, closing, ?_⟩
        simp only [DrainReport.closeWave, DrainReport.openWave, stale, Nat.zero_add]
      | ok u =>
        obtain ⟨more, ended, drained, stale⟩ := counted
        have next := ended.drained tally.callbacks
        have others := ih ((report.openWave (g + 1)).closeWave tally) next
          (drained.delivered (g + 1) tally.callbacks) (by omega)
        refine (others.mono ?_).earlier reporting_ordered (reporting_emit _ _)
        rintro ⟨result, total⟩ k'' ⟨further, closing, sum⟩
        refine ⟨more + further, by rwa [← Nat.add_assoc], sum.trans ?_⟩
        simp only [DrainReport.closeWave, DrainReport.openWave, stale]
        omega

/-- The history grows when a drain ends. -/
theorem reporting_endDrain (k : Kernel κ) (outcome : Except Fault Unit) (report : DrainReport) :
    (reporting κ).leads k (k.endDrain outcome report) :=
  reporting_ordered.trans (reporting_emit (k.mapState fun s =>
    { s with schedule := { s.schedule with draining := false } }) _) (reporting_note _ _)

/-- A drain reports as it should. -/
theorem reporting_drain (audited : k.Audited) : k.drain.Safe (reporting κ) k := by
  unfold Kernel.drain
  split
  · exact .done (reporting_ordered.passes_refl audited)
  · next running =>
    have idle : k.schedule.draining = false := Bool.eq_false_iff.mpr running
    split
    · exact .done (reporting_ordered.passes_refl audited)
    · have begins : (reporting κ).leads k k.beginDrain := reporting_emit k _
      have went := reporting_waves k.settings.waveLimit (.startingAt k.generation)
        (audited.recorded.beginDrain idle) (audited.beginDrain idle) (Nat.zero_add _)
      refine Activity.Keeps.earlier reporting_ordered begins (.bind reporting_ordered
        ((went.led reporting_ordered begins).mono ?_))
      rintro ⟨outcome, report⟩ m ⟨leads, more, closing, counted⟩
      have same : report.staleSkipped = 0 + more := counted
      have ends := reporting_endDrain m outcome report
      have stopped := (closing.toEnding.endDrain outcome report).2
      refine ⟨ends, closing.endDrain outcome same, reporting_ordered.trans leads ends, ?_⟩
      refine ⟨⟨stopped.trans idle.symm, ?_, ?_, ?_⟩, ?_, ?_⟩ <;>
        exact fun draining => absurd draining running

/-- What the history tells of drains is so in every run. -/
theorem reporting_sound : (reporting κ).Sound :=
  reporting_stable.sound (fun p _ audited => reporting_probe p audited)
    fun _ audited => reporting_drain audited

end Contract

namespace Kernel

/-- What the history of a new kernel tells of drains is so. -/
theorem audited_create (settings : Settings) (templates : TemplateLibrary κ) :
    (Kernel.create settings templates).Audited := by
  have empty := history_create settings templates
  refine ⟨recorded_create settings templates, ?_, fun _ => ?_, ?_⟩
  · rw [empty]
    exact allTruthful_nil
  · rw [empty]
    exact ⟨rfl, rfl⟩
  · rw [empty]
    exact not_dropping_nil

/-- In every run the history tells the truth about drains. -/
theorem Reachable.audited {k : Kernel κ} (h : k.Reachable) : k.Audited :=
  Contract.reporting_sound.reachable audited_create h

end Kernel

end ReactiveKernel
