import ReactiveKernel.Proofs.Drain.Result
import ReactiveKernel.Proofs.Limit.Lockstep

/-!
# Waves and the limit

Waves that were run to their ends are also run under another limit, from the same kernels but for
the limit. If they came to their end for another reason than the limit, they do so in the same way
with more waves to go. Every wave that is taken opens a generation.
-/

namespace ReactiveKernel

variable {κ α β : Type}

namespace Activity

/-- What has ended is not under way any more. -/
theorem Ongoing.not_done {a : Activity κ α} {x : α} {k : Kernel κ} {cs : List (Choice κ)}
    (ongoing : a.Ongoing) (h : Follows cs (.done x k) a) : False := by
  obtain ⟨_, rfl⟩ := h.of_done
  exact ongoing

/-- Activities that have not ended are at the same point whatever comes after them. -/
theorem Ongoing.abreast_bind {R : Kernel κ → Kernel κ → Prop} {a a' : Activity κ α}
    {f f' : α → Kernel κ → Activity κ β} (ongoing : a.Ongoing) (h : a.Abreast R a') :
    (a.bind f).Abreast R (a'.bind f') := by
  cases h with
  | done x related => exact ongoing.elim
  | react code occasion related => exact .react code occasion related
  | host p related => exact .host p related
  | call c related => exact .call c related

end Activity

namespace Kernel

open Activity

variable {limit g n remaining remaining' : Nat} {k k' m : Kernel κ} {report report' : DrainReport}
  {tally : WaveTally} {cs : List (Choice κ)} {stop : Stop}
  {result : Except Fault Unit × DrainReport}

/-! One wave. -/

/-- The kernels are apart by the limit alone when a wave is taken. -/
theorem LimitApart.takeWave (h : LimitApart limit g k k') :
    LimitApart limit (g + 1) k.takeWave.2 k'.takeWave.2 := by
  obtain ⟨rfl, draining, rfl, consistent⟩ := h
  exact ⟨rfl, draining, rfl, consistent_takeWave consistent⟩

/-- The same wave is delivered under both limits. -/
theorem matched_nextWave (h : LimitApart limit g k k') :
    Matched limit (g + 1) k.nextWave k'.nextWave := by
  have taken := h.takeWave
  have wave : k'.takeWave.1 = k.takeWave.1 := by rw [h.same]; rfl
  have generation : k'.takeWave.2.generation = k.takeWave.2.generation := by rw [h.same]; rfl
  unfold nextWave
  rw [wave, generation, taken.generation]
  exact LimitApart.deliverable.deliver _ _ _ taken

/-- A wave that was delivered is delivered under another limit as well. -/
theorem LimitApart.delivered {r : Except Fault Unit × WaveTally} (h : LimitApart limit g k k')
    (blind : ∀ c ∈ cs, c.IgnoresLimit) (ended : Follows cs k.nextWave (.done r m)) :
    Follows cs k'.nextWave (.done r (m.withLimit limit)) ∧
      LimitApart limit (g + 1) m (m.withLimit limit) := by
  obtain ⟨b, ended', matched⟩ := ended.matched (matched_nextWave h) blind
  cases matched with
  | done _ apart => exact ⟨apart.same ▸ ended', apart.same ▸ apart⟩

/-! Waves that were run to their ends. -/

/-- Waves that were run under one limit are run under another one. -/
theorem Waved.withLimit (h : Waved n k report cs m report') (blind : ∀ c ∈ cs, c.IgnoresLimit)
    (apart : LimitApart limit g k (k.withLimit limit)) :
    Waved n (k.withLimit limit) report cs (m.withLimit limit) report' ∧
      LimitApart limit (g + n) m (m.withLimit limit) := by
  induction h generalizing g with
  | none k report => exact ⟨.none _ report, apart⟩
  | @next n k m k' report report' tally cs ds due delivered _ ih =>
    obtain ⟨first, others⟩ := List.forall_mem_append.mp blind
    obtain ⟨delivered', after⟩ := apart.delivered first delivered
    obtain ⟨rest', apart'⟩ := ih others (after.emit _)
    refine ⟨.next due delivered' rest', ?_⟩
    rwa [Nat.add_right_comm] at apart'

/-- Waves that come to their end for a reason other than the limit do so under a higher one. -/
theorem Halted.withLimit (h : Halted remaining k report cs stop result m)
    (apart : LimitApart limit g k (k.withLimit limit)) (blind : ∀ c ∈ cs, c.IgnoresLimit)
    (le : remaining ≤ remaining') (before : stop ≠ .limit) :
    Halted remaining' (k.withLimit limit) report cs stop result (m.withLimit limit) := by
  cases h with
  | exhausted waved within nothing =>
    exact .exhausted (waved.withLimit blind apart).1 (Nat.le_trans within le) nothing
  | limit waved due => exact absurd rfl before
  | aborted waved room due broken =>
    obtain ⟨first, last⟩ := List.forall_mem_append.mp blind
    obtain ⟨waved', apart'⟩ := waved.withLimit first apart
    have aborted := Halted.aborted waved' (Nat.lt_of_lt_of_le room le) due
      (apart'.delivered last broken).1
    exact aborted

/-- Waves under different limits are at the same point until those under the lower limit end. -/
theorem follows_waves {a : Activity κ (Except Fault Unit × DrainReport)}
    (h : Follows cs (k.waves remaining report) a) (ongoing : a.Ongoing)
    (apart : LimitApart limit g k k') (blind : ∀ c ∈ cs, c.IgnoresLimit)
    (le : remaining ≤ remaining') :
    ∃ a', Follows cs (k'.waves remaining' report) a' ∧
      a.Abreast (fun m m' => m' = m.withLimit limit) a' := by
  induction remaining generalizing remaining' g k k' report cs with
  | zero =>
    cases pending : k.schedule.pending.isEmpty with
    | true =>
      rw [waves_of_nothing 0 report pending] at h
      exact (ongoing.not_done h).elim
    | false =>
      rw [waves_zero report pending] at h
      exact (ongoing.not_done h).elim
  | succ remaining ih =>
    obtain ⟨more, rfl⟩ : ∃ more, remaining' = more + 1 := ⟨remaining' - 1, by omega⟩
    cases pending : k.schedule.pending.isEmpty with
    | true =>
      rw [waves_of_nothing _ report pending] at h
      exact (ongoing.not_done h).elim
    | false =>
      have pending' : k'.schedule.pending.isEmpty = false := by rw [apart.same]; exact pending
      rw [waves_succ remaining report pending] at h
      rw [waves_succ more report pending']
      rcases h.of_bind_cases with ⟨b, within, rfl, still⟩ |
        ⟨before, after, ⟨outcome, tally⟩, m, rfl, delivered, rest⟩
      · obtain ⟨b', within', matched⟩ := within.matched (matched_nextWave apart) blind
        exact ⟨_, within'.bind _, still.abreast_bind (matched.abreast fun _ _ h => h.same)⟩
      · obtain ⟨first, others⟩ := List.forall_mem_append.mp blind
        obtain ⟨delivered', apart'⟩ := apart.delivered first delivered
        obtain rfl := apart.same
        cases outcome with
        | error fault => exact (ongoing.not_done rest).elim
        | ok u =>
          obtain ⟨a', rest', abreast⟩ :=
            ih rest (apart'.emit _) others (Nat.le_of_succ_le_succ le)
          exact ⟨a', (delivered'.bind _).trans rest', abreast⟩

/-! Waves that were taken. -/

/-- Generations do not go down when one activity follows another. -/
theorem le_generation_bind {a : Activity κ α} {f : α → Kernel κ → Activity κ β}
    (rest : ∀ x m, m.generation ≤ (f x m).kernel.generation) :
    a.kernel.generation ≤ (a.bind f).kernel.generation := by
  cases a with
  | done x k => exact rest x k
  | react code occasion k next | host p k next | call c k next => exact Nat.le_refl _

/-- A wave is delivered within its generation. -/
theorem generation_deliver (wave : List SubscriptionId) (tally : WaveTally) :
    (k.deliver g wave tally).kernel.generation = k.generation := by
  induction wave generalizing tally k with
  | nil => rfl
  | cons id rest ih =>
    simp only [deliver]
    cases k.edges.callback? id with
    | none => exact ih _
    | some registered => rfl

/-- A wave that is taken opens the next generation. -/
theorem generation_nextWave : k.nextWave.kernel.generation = k.generation + 1 :=
  generation_deliver _ _

/-- No generation is taken back when waves go on. -/
theorem le_generation_goOn {r : Except Fault Unit × WaveTally}
    (rest : ∀ (k : Kernel κ) report,
      k.generation ≤ (k.waves remaining report).kernel.generation) :
    m.generation ≤ (k.goOn remaining report r m).kernel.generation := by
  obtain ⟨outcome, tally⟩ := r
  cases outcome with
  | error fault => exact Nat.le_refl _
  | ok u => exact rest (k.concludeWave m tally) _

/-- Waves do not go back in generations. -/
theorem le_generation_waves (remaining : Nat) (k : Kernel κ) (report : DrainReport) :
    k.generation ≤ (k.waves remaining report).kernel.generation := by
  induction remaining generalizing k report with
  | zero =>
    cases pending : k.schedule.pending.isEmpty with
    | true => exact waves_of_nothing 0 report pending ▸ Nat.le_refl _
    | false => exact waves_zero report pending ▸ Nat.le_refl _
  | succ remaining ih =>
    cases pending : k.schedule.pending.isEmpty with
    | true => exact waves_of_nothing _ report pending ▸ Nat.le_refl _
    | false =>
      rw [waves_succ _ _ pending]
      have taken : k.generation ≤ k.nextWave.kernel.generation :=
        generation_nextWave ▸ Nat.le_succ _
      exact Nat.le_trans taken (le_generation_bind fun _ _ => le_generation_goOn ih)

/-- What is due is taken as one more wave if one remains. -/
theorem generation_waves_succ (remaining : Nat) (report : DrainReport)
    (due : k.schedule.pending.isEmpty = false) :
    k.generation + 1 ≤ (k.waves (remaining + 1) report).kernel.generation := by
  rw [waves_succ _ _ due, ← generation_nextWave]
  exact le_generation_bind fun _ _ => le_generation_goOn (le_generation_waves remaining)

end Kernel

end ReactiveKernel
