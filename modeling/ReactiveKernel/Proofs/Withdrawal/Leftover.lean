import ReactiveKernel.Proofs.Effect.Issuance
import ReactiveKernel.Proofs.Withdrawal.Reports

/-!
# What becomes of a subscription that is pending though it is gone

It is not registered again, so it is skipped when its turn comes. Its turn comes in the next wave,
and the next report counts it, unless a callback aborts the drain before that turn, or no wave
remains.
-/

namespace ReactiveKernel

variable {κ : Type}

section

variable {entries span ahead after : List (Occurrence κ)} {o : Occurrence κ} {id : SubscriptionId}
  {settings : Settings} {report : DrainReport} {overrun : Bool}

/-- What is due stays due until a boundary comes. -/
theorem Due.append (due : Due entries id) (unbroken : Unbroken span) :
    Due (entries ++ span) id := by
  obtain ⟨before, o, after, rfl, inside, calls⟩ := due
  refine ⟨before, o, after ++ span, by simp, fun b hb => ?_, calls⟩
  rcases List.mem_append.mp hb with old | new
  · exact inside b old
  · exact unbroken b new

/-- Some entry is the first boundary. -/
theorem exists_first_boundary (boundary : ∃ b ∈ span, b.isBoundary = true) :
    ∃ ahead b after, span = ahead ++ b :: after ∧ Unbroken ahead ∧ b.isBoundary = true := by
  have found : (span.find? Occurrence.isBoundary).isSome = true := List.find?_isSome.mpr boundary
  obtain ⟨b, first⟩ := Option.isSome_iff_exists.mp found
  obtain ⟨here, ahead, after, split, none⟩ := List.find?_eq_some_iff_append.mp first
  exact ⟨ahead, b, after, split, fun a ha => by simpa using none a ha, here⟩

/-- A subscription that is not registered is registered again only when it is made. -/
theorem Ledger.registered_record {l : Ledger} (gone : l.registered id = none)
    (unmade : o.made? ≠ some (.subscription id)) : (l.record o).registered id = none := by
  cases o with
  | announced e =>
    cases e with
    | subscribed i source target selector =>
      have other : id ≠ i := fun same => unmade (same ▸ rfl)
      simpa [record, announce, Function.update_of_ne other] using gone
    | unsubscribed i =>
      by_cases same : id = i
      · simp [record, announce, same]
      · simpa [record, announce, Function.update_of_ne same] using gone
    | _ => exact gone
  | logged e => cases e <;> exact gone
  | _ => exact gone

/-- No callback starts of a subscription that is not registered and is not made again. -/
theorem Orderly.not_mem_starts (orderly : Orderly (entries ++ span))
    (gone : (Ledger.of entries).registered id = none)
    (unmade : .subscription id ∉ span.filterMap Occurrence.made?) :
    (Ledger.of (entries ++ span)).registered id = none ∧ id ∉ starts span := by
  induction span using List.reverseRecOn with
  | nil => exact ⟨by rwa [List.append_nil], by simp [starts]⟩
  | append_singleton span o ih =>
    rw [← List.append_assoc] at orderly ⊢
    rw [List.filterMap_append, List.mem_append, not_or] at unmade
    obtain ⟨orderly', fits⟩ := Orderly.snoc_iff.mp orderly
    obtain ⟨still, others⟩ := ih orderly' unmade.1
    constructor
    · rw [Ledger.of_snoc]
      exact Ledger.registered_record still fun made => unmade.2 (by simp [made])
    · rw [starts_snoc, List.mem_append, not_or]
      refine ⟨others, fun started => ?_⟩
      cases o with
      | started n =>
        have same : id = n.subscription := by simpa [Occurrence.start?] using started
        obtain ⟨_, _, e, registered, _⟩ := fits
        rw [← same, still] at registered
        cases registered
      | _ => simp [Occurrence.start?] at started

/-- A callback aborts a drain under that policy alone. -/
theorem AllTruthful.abort (h : AllTruthful settings entries) {g discarded : Nat} {fault : Fault}
    (aborted : .logged (.callbackAborted id g discarded fault) ∈ entries) :
    settings.onFailure = .abort := by
  obtain ⟨before, after, split⟩ := List.append_of_mem aborted
  exact h before _ after split

/-- A drain was cut short before the turn of a subscription. -/
inductive CutShort (settings : Settings) (before ahead : List (Occurrence κ))
    (id : SubscriptionId) : Prop
  /-- A callback has aborted it before any wave was taken, or within the first wave, which the
  subscription belongs to, when its turn had not come. -/
  | aborted {span rest : List (Occurrence κ)} {a : SubscriptionId} {g discarded : Nat}
      {fault : Fault} (policy : settings.onFailure = .abort)
      (split : ahead = span ++ .logged (.callbackAborted a g discarded fault) :: rest)
      (course : taken span = [] ∨ ∃ wave, taken span = [(g, wave)] ∧ id ∈ wave)
      (waiting : id ∉ turns span) : CutShort settings before ahead id
  /-- It has overrun before any wave was taken: no wave remained after those it had taken before. -/
  | overrun {span rest : List (Occurrence κ)} {limit discarded g : Nat}
      (full : waveCount before = settings.waveLimit)
      (split : ahead = span ++ .logged (.cycleOverrun limit discarded g) :: rest)
      (course : taken span = []) : CutShort settings before ahead id

/-- No wave is taken before a boundary comes. -/
theorem Unbroken.taken (unbroken : Unbroken span) : taken span = [] := by
  refine List.filterMap_eq_nil_iff.mpr fun o ho => ?_
  have inside := unbroken o ho
  cases o <;> first | rfl | cases inside

/-- A drain has ended when its report comes, and nothing was due right after. -/
theorem AllTruthful.ended (h : AllTruthful settings
      (entries ++ ahead ++ .logged (.drainEnded report overrun) :: after))
    (due : Due entries id) : ∃ more, ahead =
      more ++ [.announced (.drainFinished report.endGeneration report.waves overrun)] := by
  obtain ⟨_, last⟩ := h _ _ _ rfl
  rcases List.eq_nil_or_concat' ahead with rfl | ⟨more, finish, rfl⟩
  · rw [List.append_nil] at last
    obtain ⟨before, rfl⟩ := List.getLast?_eq_some_iff.mp last
    exact absurd due (Due.snoc_boundary rfl)
  · rw [← List.append_assoc, List.getLast?_concat] at last
    exact ⟨more, by rw [Option.some.inj last]⟩

/-- If a drain ends before another wave is taken, what was due is dropped before its turn. -/
theorem AllTruthful.dropped {g waves : Nat} (h : AllTruthful settings
      (entries ++ ahead ++ .announced (.drainFinished g waves overrun) :: after))
    (due : Due entries id) (unbroken : Unbroken ahead) (undropped : ¬ Dropping entries)
    (unreported : ∀ o ∈ ahead, o.isReport = false) (waiting : id ∉ turns ahead)
    (rest : List (Occurrence κ)) : CutShort settings entries (ahead ++ rest) id := by
  have settled : (∀ id, ¬ Due (entries ++ ahead) id) ∨ Dropping (entries ++ ahead) := h _ _ _ rfl
  obtain ⟨e, last, drops⟩ := settled.resolve_left fun none => none id (due.append unbroken)
  rcases List.eq_nil_or_concat' ahead with rfl | ⟨more, o, rfl⟩
  · exact absurd ⟨e, by rwa [List.append_nil] at last, drops⟩ undropped
  · rw [← List.append_assoc, List.getLast?_concat] at last
    obtain rfl : o = .logged e := Option.some.inj last
    have truth := h (entries ++ more) (.logged e)
      (.announced (.drainFinished g waves overrun) :: after) (by simp)
    have no_wave : taken more = [] := Unbroken.taken fun o ho => unbroken o (by simp [ho])
    rw [turns_append, List.mem_append, not_or] at waiting
    rw [List.append_assoc]
    cases e with
    | callbackAborted a g' discarded fault => exact .aborted truth rfl (.inl no_wave) waiting.1
    | cycleOverrun limit discarded g' =>
      have full : waveCount (entries ++ more) = settings.waveLimit := truth
      rw [waveCount_append fun o ho => unreported o (by simp [ho]), no_wave] at full
      exact .overrun full rfl no_wave
    | _ => cases drops

/-- What is due belongs to the next wave. If its turn does not come in it, the drain is aborted. -/
theorem Orderly.aborted {g : Nat} {wave : List SubscriptionId} {b : Occurrence κ}
    (orderly : Orderly (entries ++ ahead ++ .waveTaken g wave :: (span ++ b :: after)))
    (due : Due entries id) (unbroken : Unbroken ahead) (within : Unbroken span)
    (boundary : b.isBoundary = true) (waiting : id ∉ turns span) :
    id ∈ wave ∧ Aborted g span := by
  have notifies := orderly.notifies
  have member : id ∈ wave := (notifies.due id).mpr (due.append unbroken)
  rcases (notifies.handled span b after rfl within boundary id).mp member with
    started | skipped | ⟨_, _, aborted⟩
  · exact absurd (mem_turns.mpr (.inl started)) waiting
  · exact absurd (mem_turns.mpr (.inr skipped)) waiting
  · exact ⟨member, aborted⟩

/-- If the turn of what is due does not come in the next wave, a callback has aborted the drain
before it. -/
theorem AllTruthful.aborted_before {g : Nat} {wave : List SubscriptionId} {b : Occurrence κ}
    (h : AllTruthful settings (entries ++ ahead ++ .waveTaken g wave :: (span ++ b :: after)))
    (orderly : Orderly (entries ++ ahead ++ .waveTaken g wave :: (span ++ b :: after)))
    (due : Due entries id) (unbroken : Unbroken ahead) (within : Unbroken span)
    (boundary : b.isBoundary = true) (waiting : id ∉ turns (ahead ++ .waveTaken g wave :: span))
    (rest : List (Occurrence κ)) :
    CutShort settings entries (ahead ++ .waveTaken g wave :: (span ++ rest)) id := by
  have turns_wave (more : List (Occurrence κ)) : turns (.waveTaken g wave :: more) = turns more :=
    rfl
  rw [turns_append, turns_wave, List.mem_append, not_or] at waiting
  obtain ⟨member, a, discarded, fault, entry, _⟩ :=
    orderly.aborted due unbroken within boundary waiting.2
  have policy : settings.onFailure = .abort :=
    h.abort (List.mem_append_right _ (List.mem_cons_of_mem _ (List.mem_append_left _ entry)))
  obtain ⟨earlier, later, rfl⟩ := List.append_of_mem entry
  have split : ahead ++ .waveTaken g wave ::
      (earlier ++ .logged (.callbackAborted a g discarded fault) :: later ++ rest) =
      (ahead ++ .waveTaken g wave :: earlier) ++
        .logged (.callbackAborted a g discarded fault) :: (later ++ rest) := by simp
  have course : taken (ahead ++ .waveTaken g wave :: earlier) = [(g, wave)] := by
    have quiet : taken earlier = [] := Unbroken.taken fun o ho => within o (by simp [ho])
    rw [taken_append, Unbroken.taken unbroken, List.nil_append, ← quiet]
    rfl
  refine .aborted policy split (.inr ⟨wave, course, member⟩) ?_
  rw [turns_append, List.mem_append, not_or] at waiting
  rw [turns_append, turns_wave, List.mem_append, not_or]
  exact ⟨waiting.1, waiting.2.1⟩

/-- What is due counts as skipped in the next report if its callback does not start, unless the
drain is cut short before its turn. -/
theorem skipped_or_cutShort (orderly : Orderly
      (entries ++ ahead ++ .logged (.drainEnded report overrun) :: after))
    (truthful : AllTruthful settings
      (entries ++ ahead ++ .logged (.drainEnded report overrun) :: after))
    (due : Due entries id) (undropped : ¬ Dropping entries)
    (unreported : ∀ o ∈ ahead, o.isReport = false) (unstarted : id ∉ starts ahead) :
    id ∈ skips ahead ∨ CutShort settings entries ahead id := by
  refine or_iff_not_imp_left.mpr fun unskipped => ?_
  have waiting : id ∉ turns ahead := fun turn => (mem_turns.mp turn).elim unstarted unskipped
  obtain ⟨more, last⟩ := truthful.ended due
  have finish : .announced (.drainFinished report.endGeneration report.waves overrun) ∈ ahead := by
    simp [last]
  obtain ⟨before, b, rest, rfl, unbroken, boundary⟩ := exists_first_boundary ⟨_, finish, rfl⟩
  cases b with
  | announced e =>
    cases e with
    | drainFinished g waves overrun' =>
      have regroup : AllTruthful settings (entries ++ before ++
          .announced (.drainFinished g waves overrun') ::
            (rest ++ .logged (.drainEnded report overrun) :: after)) := by
        simpa using truthful
      rw [turns_append, List.mem_append, not_or] at waiting
      exact regroup.dropped due unbroken undropped
        (fun o ho => unreported o (List.mem_append_left _ ho)) waiting.1 _
    | _ => cases boundary
  | waveTaken g wave =>
    have later : .announced (.drainFinished report.endGeneration report.waves overrun) ∈ rest := by
      rw [List.mem_append, List.mem_cons] at finish
      rcases finish with early | same | late
      · cases unbroken _ early
      · cases same
      · exact late
    obtain ⟨span, b, tail, rfl, within, ends⟩ := exists_first_boundary ⟨_, later, rfl⟩
    have regroup : entries ++ (before ++ .waveTaken g wave :: (span ++ b :: tail)) ++
        .logged (.drainEnded report overrun) :: after = entries ++ before ++
        .waveTaken g wave ::
          (span ++ b :: (tail ++ .logged (.drainEnded report overrun) :: after)) := by
      simp
    rw [regroup] at orderly truthful
    have not_yet : id ∉ turns (before ++ .waveTaken g wave :: span) := fun turn => waiting (by
      rw [← List.cons_append, ← List.append_assoc, turns_append]
      exact List.mem_append_left _ turn)
    exact truthful.aborted_before orderly due unbroken within ends not_yet _
  | _ => cases boundary

end

namespace Kernel

variable {k k' : Kernel κ} {id : SubscriptionId} {ahead after : List (Occurrence κ)}
  {report : DrainReport} {overrun : Bool}

/-- The next report after some moment of a run counts whatever was skipped since, with what had been
skipped in the drain before. What was pending at that moment, and was not registered any more, was
skipped by then, unless the drain was cut short before its turn. -/
theorem Precedes.reported (h : k.Precedes k')
    (history : k'.history = k.history ++ ahead ++ .logged (.drainEnded report overrun) :: after)
    (unreported : ∀ o ∈ ahead, o.isReport = false) :
    report.staleSkipped = skipCount k.history + (skips ahead).length ∧
      ∀ id, id ∈ k.schedule.pending → id ∉ k.edges.subscriptions →
        id ∈ skips ahead ∨ CutShort k.settings k.history ahead id := by
  have audited := h.reachable_first.audited
  have audited' := h.reachable.audited
  have settings : k'.settings = k.settings :=
    (Contract.reporting_sound.precedes audited_create h).2
  have truthful := audited'.truthful
  have orderly := audited'.recorded.orderly
  rw [settings, history] at truthful
  rw [history] at orderly
  obtain ⟨counted, _⟩ := truthful _ _ _ rfl
  refine ⟨counted.trans (skipCount_append unreported), fun id pending gone => ?_⟩
  have due := (audited.recorded.due id).mp pending
  have absent : (Ledger.of k.history).registered id = none := by
    have table : k.edges.subscriptions[id]? = none := Std.ExtTreeMap.getElem?_eq_none gone
    exact (audited.recorded.agrees.registered id).trans (by rw [table]; rfl)
  have unmade : .subscription id ∉ ahead.filterMap Occurrence.made? := by
    intro again
    have given : k.toState.Given (.subscription id) :=
      audited.recorded.consistent.issued.pending id pending
    have first : .subscription id ∈ k.history.filterMap Occurrence.made? := by
      rw [← made_eq_history]
      exact (h.reachable_first.accounted.given _).mpr given
    have once := h.reachable.accounted.nodup
    rw [made_eq_history, history, List.append_assoc, List.filterMap_append,
      List.filterMap_append, List.nodup_append] at once
    exact once.2.2 _ first _ (List.mem_append_left _ again) rfl
  have unstarted := (orderly.of_append.not_mem_starts absent unmade).2
  exact skipped_or_cutShort orderly truthful due audited.undropped unreported unstarted

end Kernel

end ReactiveKernel
