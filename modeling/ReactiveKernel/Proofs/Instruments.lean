import ReactiveKernel.Proofs.Instruments.Runs

/-!
# The instruments are inert

Whether trace events are recorded, logged or dropped makes no difference to anything else. Runs that
differ in the use of the instruments go through the same states with the same answers and start the
same callbacks in the same order, and so do sequences of operations before each of which a sink may
be put in or taken out.
-/

namespace ReactiveKernel

variable {κ α : Type}

/-- Something that can be asked of a kernel. -/
inductive Operation (κ : Type) where
  | command (c : Command κ)
  | call (c : Call)

namespace Operation

/-- The answer to an operation. -/
def Reply : Operation κ → Type
  | .command c => c.Reply
  | .call c => c.Reply

/-- Ask for an operation. -/
def request : (o : Operation κ) → Program κ (Except Fault o.Reply)
  | .command c => .command c .pure
  | .call c => .call c .pure

/-- What there is to see after an operation. -/
structure Sight (κ : Type) where
  /-- The operation. -/
  operation : Operation κ
  /-- Its answer. -/
  answer : Except Fault operation.Reply
  /-- The state that it leaves behind: all tables, what is pending, the generation, the counters of
  identities and the queue of events. -/
  state : State κ

end Operation

namespace Program

/-- Use the instruments first. -/
def probing (qs : List Probe) (p : Program κ α) : Program κ α :=
  qs.foldr (fun q p => .probe q fun _ => p) p

/-- Operations one after another, each with some uses of the instruments before it. The result is
what there is to see after each of them. -/
def observed : List (List Probe × Operation κ) → Program κ (List (Operation.Sight κ))
  | [] => .pure []
  | (qs, o) :: rest => .probing qs <| o.request.bind fun answer => .inspect fun state =>
      (observed rest).bind fun later => .pure (⟨o, answer, state⟩ :: later)

/-- Two programs with the same requests have the same requests if instruments are used first. -/
theorem SameRequests.probing {p p' : Program κ α} (h : p.SameRequests p') (qs qs' : List Probe) :
    (p.probing qs).SameRequests (p'.probing qs') := by
  have first : (p.probing qs).SameRequests p' := by
    induction qs with
    | nil => exact h
    | cons q qs ih => exact .left q fun _ => ih
  induction qs' with
  | nil => exact first
  | cons q qs' ih => exact .right q fun _ => ih

/-- An operation is the same request whenever it is asked for. -/
theorem sameRequests_request (o : Operation κ) : o.request.SameRequests o.request := by
  cases o with
  | command c => exact .command c fun r => .pure r
  | call c => exact .call c fun r => .pure r

/-- Sequences of the same operations have the same requests. -/
theorem sameRequests_observed {ops ops' : List (List Probe × Operation κ)}
    (same : ops.map Prod.snd = ops'.map Prod.snd) :
    (observed ops).SameRequests (observed ops') := by
  induction ops generalizing ops' with
  | nil =>
    obtain rfl := List.map_eq_nil_iff.mp same.symm
    exact .pure []
  | cons op ops ih =>
    obtain ⟨op', later, rfl, here, rest⟩ := List.map_eq_cons_iff.mp same.symm
    obtain ⟨qs, o⟩ := op
    obtain ⟨qs', o'⟩ := op'
    obtain rfl : o' = o := here
    refine .probing ((sameRequests_request o').bind fun answer => .inspect fun state => ?_) qs qs'
    exact (ih rest.symm).bind fun _ => .pure _

end Program

namespace Kernel

open Activity Likeness

/-- Instruments are inert. Host code may use them at any time, or be replaced by host code that uses
them otherwise and goes on in the same way whatever they show. A run of the one is then matched by a
run of the other that makes the same decisions: it is at the same point with the same state, its
journal says the same apart from what the instruments put there, so that the same callbacks have
started in the same order, and this will be so after every further answer. And with hosts whose host
code differs in its use of the instruments only, every program has a result with both or with
neither, and the results are the same; and of every sequence of operations, each operation gets the
same answer and leaves the same state behind, whatever is done to the instruments between the
operations. -/
theorem instruments_inert (settings : Settings) (templates : TemplateLibrary κ) :
    (∀ {p p' : Program κ (Except Fault Unit)}, p.SameRequests p' → ∀ {cs es a},
      Follows cs (.host p (create settings templates) .done) a →
      List.Forall₂ Choice.SameRequests (Choice.decisions cs) es →
      ∃ cs' a', Choice.decisions cs' = es ∧
        Follows cs' (.host p' (create settings templates) .done) a' ∧ a.Matches a' ∧
        (bare κ).Alike a.kernel a'.kernel) ∧
    ∀ h h' : Host κ, h'.order = h.order →
      (∀ code occasion, (h.behave code occasion).SameRequests (h'.behave code occasion)) →
      ∀ depth : Nat,
        (∀ (α : Type) (p p' : Program κ α), p.SameRequests p' →
          Option.Rel (fun x x' => x.1 = x'.1 ∧ (bare κ).Alike x.2 x'.2)
            (h.execute depth p (create settings templates))
            (h'.execute depth p' (create settings templates))) ∧
        ∀ ops ops' : List (List Probe × Operation κ), ops.map Prod.snd = ops'.map Prod.snd →
          Option.Rel (fun x x' => x.1 = x'.1 ∧ (bare κ).Alike x.2 x'.2)
            (h.execute depth (.observed ops) (create settings templates))
            (h'.execute depth (.observed ops') (create settings templates)) := by
  have twins : (bare κ).Twins (create settings templates) (create settings templates) :=
    ⟨⟨rfl, rfl⟩, consistent_create settings templates⟩
  refine ⟨fun same _ _ _ run alike => ?_, fun h h' order behave depth => ?_⟩
  · have begin := Matches.host same twins fun r _ _ back => .done r back
    obtain ⟨cs', a', decided, run', matched⟩ := begin.follows run alike
    exact ⟨cs', a', decided, run', matched, matched.twins.toAlike⟩
  · have engines := engines_agree_requests order behave depth
    have results {α : Type} {p p' : Program κ α} (same : p.SameRequests p') :
        Option.Rel (fun x x' => x.1 = x'.1 ∧ (bare κ).Alike x.2 x'.2)
          (h.execute depth p (create settings templates))
          (h'.execute depth p' (create settings templates)) := by
      have agree := agree_requests h.order engines.call same twins
      unfold Host.execute
      rw [order]
      rcases agree.cases with ⟨ends, ends'⟩ | ⟨x, k, k', ends, ends', back⟩
      · rw [ends, ends']
        exact .none
      · rw [ends, ends']
        exact .some ⟨rfl, back.toAlike⟩
    exact ⟨fun _ _ _ same => results same,
      fun _ _ same => results (Program.sameRequests_observed same)⟩

/-- A host whose callbacks mark a datum, and may leave a remark before that. -/
def marking (remarks : List Probe) : Host Unit where
  behave _ _ := .probing remarks <| .command (.set (.datum ⟨0⟩) "seen" (.bool true)) fun _ =>
    .pure (.ok ())

/-- A datum that watches itself is changed, the change is drained and the datum is destroyed. The
instruments are used at the beginning and before the datum is destroyed. -/
def tended (first last : List Probe) : List (List Probe × Operation Unit) :=
  [(first, .command (.createDatum "Cell" [] none)),
    ([], .command (.subscribe (.datum ⟨0⟩) (.datum ⟨0⟩) .everything ())),
    ([], .command (.set (.datum ⟨0⟩) "value" (.bool true))), ([], .call .drain),
    (last, .command (.destroyDatum ⟨0⟩))]

/-- Nothing but the recording differs when the operations are recorded up to the last one. -/
theorem instruments_inert_recorded :
    ∃ sights n n',
      (marking []).execute 2 (.observed (tended [] [])) (create .standard .empty) =
        some (sights, n) ∧
      (marking [.remark "called"]).execute 2
        (.observed (tended [.newRecording, .install (.recording 0)] [.removeSink]))
        (create .standard .empty) = some (sights, n') ∧
      sights.length = 5 ∧ n.tracer.events 0 = [] ∧
      (n'.tracer.events 0).map TraceEvent.tag = ["datum_created", "subscribed", "field_set",
        "drain_started", "notified", "field_set", "generation_drained", "notified",
        "generation_drained", "drain_finished"] ∧
      (bare Unit).Alike n n' := by
  have behave (code : Unit) (occasion : Occasion) : ((marking []).behave code occasion).SameRequests
      ((marking [.remark "called"]).behave code occasion) :=
    .probing (.command _ fun _ => .pure _) [] [.remark "called"]
  have agree := ((instruments_inert .standard .empty).2 (marking []) (marking [.remark "called"])
    rfl behave 2).2 (tended [] [])
    (tended [.newRecording, .install (.recording 0)] [.removeSink]) rfl
  have ran : ((marking []).execute 2 (.observed (tended [] [])) (create .standard .empty)).map
      (fun x => (x.1.length, (x.2.tracer.events 0).length)) = some (5, 0) := by decide +kernel
  have ran' : ((marking [.remark "called"]).execute 2
      (.observed (tended [.newRecording, .install (.recording 0)] [.removeSink]))
      (create .standard .empty)).map (fun x => (x.2.tracer.events 0).map TraceEvent.tag) =
      some ["datum_created", "subscribed", "field_set", "drain_started", "notified", "field_set",
        "generation_drained", "notified", "generation_drained", "drain_finished"] := by
    decide +kernel
  obtain ⟨⟨sights, n⟩, ends, kept⟩ := Option.map_eq_some_iff.mp ran
  obtain ⟨⟨sights', n'⟩, ends', kept'⟩ := Option.map_eq_some_iff.mp ran'
  obtain ⟨length, empty⟩ := Prod.mk.inj kept
  rw [ends, ends'] at agree
  obtain ⟨rfl, alike⟩ : sights = sights' ∧ (bare Unit).Alike n n' := by
    cases agree
    assumption
  exact ⟨sights, n, n', ends, ends', length, List.length_eq_zero_iff.mp empty, kept', alike⟩

end Kernel

end ReactiveKernel
