import ReactiveKernel.Proofs.Twins.Likeness

/-!
# Commands do the same to twins

Twins are kernels with the same consistent state and like records. Removals follow the records that
they find, and these are the same in twins, so after every removal the states are the same again.
Every command therefore gets the same answer from twins and makes twins of them.
-/

namespace ReactiveKernel

variable {κ α : Type}

namespace Likeness

variable {L : Likeness κ} {k k' : Kernel κ} {order order' : EdgeOrder κ}

/-- Two kernels with the same consistent state and like records. -/
structure Twins (L : Likeness κ) (k k' : Kernel κ) : Prop extends L.Alike k k' where
  /-- The state is consistent. -/
  consistent : k.toState.Consistent

open Kernel State

/-! Removals. -/

/-- Removing several closures keeps kernels alike if removing one of them does. -/
theorem alike_razeClosures {fuel : Nat}
    (one : ∀ (k k' : Kernel κ) (c : ClosureId), k.toState.EdgesIndexed → k.toState.ListsSound →
      k.toState.rank c < fuel → L.Alike k k' →
        L.Alike (razeClosure order fuel k c) (razeClosure order' fuel k' c))
    (indexed : k.toState.EdgesIndexed) (lists : k.toState.ListsSound) (cs : List ClosureId)
    (enough : ∀ c ∈ cs, k.toState.rank c < fuel) (h : L.Alike k k') :
    L.Alike (cs.foldl (razeClosure order fuel) k) (cs.foldl (razeClosure order' fuel) k') := by
  induction cs generalizing k k' with
  | nil => exact h
  | cons c cs ih =>
    have here := enough c (by simp)
    have state := toState_razeClosure order fuel k c indexed lists here
    refine ih (state ▸ indexed.without _) (state ▸ lists.without _) (fun b hb => ?_)
      (one k k' c indexed lists here h)
    rw [state]
    exact Nat.lt_of_le_of_lt (k.toState.rank_without_le _ b) (enough b (by simp [hb]))

namespace Sound

variable (sound : L.Sound) (orders : L.Orders order order')

include sound orders

/-- The destruction of a datum keeps kernels alike. -/
theorem alike_razeDatum (indexed : k.toState.EdgesIndexed) (lists : k.toState.ListsSound)
    (d : DatumId) (h : L.Alike k k') :
    L.Alike (k.razeDatum order d) (k'.razeDatum order' d) := by
  have state : (k.razeDatum order d).toState = (k'.razeDatum order' d).toState := by
    rw [toState_razeDatum indexed lists, toState_razeDatum (h.state ▸ indexed) (h.state ▸ lists),
      h.state]
  refine ⟨state, ?_⟩
  unfold razeDatum
  rw [← h.state]
  cases k.datums[d]? with
  | none => exact h.records
  | some x =>
    have walks := sound.append (h.walk orders (.outgoing (.datum d)) x.outgoing)
      (h.walk orders (.targeting d) (k.edges.targeting d))
    exact sound.note _ (sound.emit _ (sound.mapState _ _ (sound.removeEdges walks h)))

/-- The destruction of datums one after another keeps kernels alike. -/
theorem alike_razeDatums (indexed : k.toState.EdgesIndexed) (lists : k.toState.ListsSound)
    (ds : List DatumId) (h : L.Alike k k') :
    L.Alike (ds.foldl (fun k d => k.razeDatum order d) k)
      (ds.foldl (fun k d => k.razeDatum order' d) k') := by
  induction ds generalizing k k' with
  | nil => exact h
  | cons d ds ih =>
    have state := toState_razeDatum indexed lists order d
    exact ih (state ▸ indexed.without _) (state ▸ lists.without _)
      (sound.alike_razeDatum orders indexed lists d h)

/-- Kernels stay alike when a closure is severed from its subscriptions. -/
theorem alike_severClosure (indexed : k.toState.EdgesIndexed) {c : ClosureId} {x : Closure}
    (hc : k.closures[c]? = some x) (h : L.Alike k k') :
    L.Alike (k.severClosure order c x) (k'.severClosure order' c x) := by
  have hc' : k'.closures[c]? = some x := h.state ▸ hc
  have state : (k.severClosure order c x).toState = (k'.severClosure order' c x).toState := by
    rw [toState_severClosure indexed hc, toState_severClosure (h.state ▸ indexed) hc', h.state]
  refine ⟨state, ?_⟩
  have walks := sound.append (h.walk orders (.outgoing (.closure c)) x.outgoing)
    (h.walk orders (.incoming c) x.incoming)
  have emptied := sound.alike_mapState (·.putClosure c x.emptied) h
  simp only [severClosure, Kernel.removeEdges, ← List.foldl_append]
  exact sound.removeEdges walks emptied

/-- Kernels stay alike when a closure is cleared. -/
theorem alike_clearClosure (indexed : k.toState.EdgesIndexed) (lists : k.toState.ListsSound)
    {c : ClosureId} {x : Closure} (hc : k.closures[c]? = some x) (h : L.Alike k k') :
    L.Alike (k.clearClosure order c x) (k'.clearClosure order' c x) := by
  have severed := toState_severClosure indexed hc order
  exact sound.alike_razeDatums orders (severed ▸ indexed.sever c) (severed ▸ lists.sever c) x.owned
    (sound.alike_severClosure orders indexed hc h)

/-- The walk down from a closure keeps kernels alike, if the fuel is enough. -/
theorem alike_razeClosure (fuel : Nat) (k k' : Kernel κ) (c : ClosureId)
    (indexed : k.toState.EdgesIndexed) (lists : k.toState.ListsSound)
    (enough : k.toState.rank c < fuel) (h : L.Alike k k') :
    L.Alike (razeClosure order fuel k c) (razeClosure order' fuel k' c) := by
  induction fuel generalizing k k' c with
  | zero => omega
  | succ fuel ih =>
    cases hc : k.closures[c]? with
    | none =>
      have hc' : k'.closures[c]? = none := h.state ▸ hc
      simp only [razeClosure, hc, hc']
      exact h
    | some x =>
      have hc' : k'.closures[c]? = some x := h.state ▸ hc
      have cleared := toState_clearClosure indexed lists hc order
      have enough' (b : ClosureId) (hb : b ∈ x.children) :
          (k.clearClosure order c x).toState.rank b < fuel := by
        have smaller := rank_clearClosure indexed lists hc order hb
        omega
      rw [razeClosure_of_live hc, razeClosure_of_live hc']
      refine sound.alike_log _ (sound.alike_emit _ (sound.alike_mapState _ ?_))
      exact alike_razeClosures ih (cleared ▸ (indexed.sever c).without _)
        (cleared ▸ (lists.sever c).without _) x.children enough'
        (sound.alike_clearClosure orders indexed lists hc h)

/-- The destruction of a closure keeps kernels alike. -/
theorem alike_raze (consistent : k.toState.Consistent) (c : ClosureId) (h : L.Alike k k') :
    L.Alike (k.raze order c) (k'.raze order' c) := by
  unfold raze
  rw [← h.state]
  exact sound.alike_razeClosure orders _ k k' c consistent.indexed consistent.forest.sound
    (Nat.lt_succ_of_le (k.toState.rank_le_size c)) h

/-! Commands. -/

/-- Two kernels that are alike refuse a command alike or do it alike. -/
theorem results_attempt (consistent : k.toState.Consistent) (c : Command κ)
    (h : L.Alike k k') : L.Results (c.attempt order k) (c.attempt order' k') := by
  cases c with
  | createDatum typeName fields owner => exact sound.results_createNode _ _ _ h
  | createCollection typeName items owner => exact sound.results_createNode _ _ _ h
  | createClosure template parent => exact sound.results_createClosure template parent h
  | subscribe source target selector code =>
    exact sound.results_subscribe source target selector code h
  | unsubscribe id =>
    simp only [Command.attempt, unsubscribe, ← h.state]
    exact .ok _ (sound.alike_removeEdge id h)
  | set node field value =>
    cases node with
    | datum d => exact sound.results_setDatumField orders d field value h
    | closure c => exact sound.results_setClosureField orders c field value h
  | setItems d items =>
    simp only [Command.attempt, setItems, ← h.state]
    exact .bind fun x _ => .bind fun _ _ => .ok () (sound.alike_replaceItems orders d x _ h)
  | setItem d index value =>
    simp only [Command.attempt, setItem, ← h.state]
    refine .bind fun x _ => .bind fun items _ => ?_
    cases items[index]? with
    | none => exact .error _
    | some old =>
      dsimp only
      split
      · exact .ok false h
      · exact .ok true (sound.alike_replaceItems orders d x _ h)
  | pushItem d value =>
    simp only [Command.attempt, pushItem, ← h.state]
    exact .bind fun x _ => .bind fun _ _ => .ok () (sound.alike_replaceItems orders d x _ h)
  | removeItem d index =>
    simp only [Command.attempt, removeItem, ← h.state]
    refine .bind fun x _ => .bind fun items _ => ?_
    cases items[index]? with
    | none => exact .error _
    | some removed => exact .ok removed (sound.alike_replaceItems orders d x _ h)
  | setAvailability d a =>
    simp only [Command.attempt, setAvailability, ← h.state]
    exact .bind fun x _ => sound.results_updateStatus orders d x _ h
  | setError d payload =>
    simp only [Command.attempt, setError, ← h.state]
    exact .bind fun x _ => sound.results_updateStatus orders d x _ h
  | destroyDatum d =>
    simp only [Command.attempt, destroyDatum, ← h.state]
    exact .bind fun _ _ => .ok ()
      (sound.alike_razeDatum orders consistent.indexed consistent.forest.sound d h)
  | destroyClosure c =>
    simp only [Command.attempt, destroyClosure, ← h.state]
    exact .bind fun _ _ => .ok () (sound.alike_raze orders consistent c h)
  | putEvent event => exact .ok () (sound.alike_note _ (sound.alike_mapState _ h))
  | register name template =>
    simp only [Command.attempt, register, ← h.state]
    exact .ok _ (sound.alike_mapState _ h)

/-- A command gets the same answer from twins and leaves twins behind. -/
theorem twins_perform (c : Command κ) (h : L.Twins k k') :
    (c.perform order k).1 = (c.perform order' k').1 ∧
      L.Twins (c.perform order k).2 (c.perform order' k').2 := by
  have effect : k.Effect _ (c.perform order k).2 := perform_effect h.consistent c
  have consistent := effect.consistent h.consistent
  rcases (sound.results_attempt orders h.consistent c h.toAlike).cases with
    ⟨fault, refused, refused'⟩ | ⟨reply, m, m', done, done', alike⟩
  · rw [Command.perform_of_error refused, Command.perform_of_error refused']
    exact ⟨rfl, h⟩
  · rw [Command.perform_of_ok done] at consistent
    rw [Command.perform_of_ok done, Command.perform_of_ok done']
    exact ⟨rfl, alike, consistent⟩

end Sound

end Likeness

end ReactiveKernel
