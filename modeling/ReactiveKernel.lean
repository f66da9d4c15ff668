import ReactiveKernel.Canonical
import ReactiveKernel.Change
import ReactiveKernel.Edge
import ReactiveKernel.Event
import ReactiveKernel.Execution.Activity
import ReactiveKernel.Execution.Depth
import ReactiveKernel.Execution.Drain
import ReactiveKernel.Execution.Engine
import ReactiveKernel.Execution.Host
import ReactiveKernel.Execution.Inbox
import ReactiveKernel.Execution.Instantiation
import ReactiveKernel.Fault
import ReactiveKernel.Identity
import ReactiveKernel.Interchange
import ReactiveKernel.Journal
import ReactiveKernel.Json.Basic
import ReactiveKernel.Json.Document
import ReactiveKernel.Json.Numeral
import ReactiveKernel.Kernel.Creation
import ReactiveKernel.Kernel.Destruction
import ReactiveKernel.Kernel.Mutation
import ReactiveKernel.Kernel.Notify
import ReactiveKernel.Kernel.Routine
import ReactiveKernel.Kernel.State
import ReactiveKernel.Kernel.Subscribing
import ReactiveKernel.Kernel.Summary
import ReactiveKernel.Node.Basic
import ReactiveKernel.Node.Closure
import ReactiveKernel.Node.Datum
import ReactiveKernel.Number.Binary64
import ReactiveKernel.Number.Layout
import ReactiveKernel.Number.Shortest
import ReactiveKernel.Program
import ReactiveKernel.Proofs.Arrival
import ReactiveKernel.Proofs.Blocks
import ReactiveKernel.Proofs.Bookkeeping
import ReactiveKernel.Proofs.Bookkeeping.Account
import ReactiveKernel.Proofs.Bookkeeping.Balance
import ReactiveKernel.Proofs.Bookkeeping.Posting
import ReactiveKernel.Proofs.Bookkeeping.Stamp
import ReactiveKernel.Proofs.Bookkeeping.Thread
import ReactiveKernel.Proofs.Cascade
import ReactiveKernel.Proofs.CatchUp
import ReactiveKernel.Proofs.Drain.Block
import ReactiveKernel.Proofs.Drain.Count
import ReactiveKernel.Proofs.Drain.Course
import ReactiveKernel.Proofs.Drain.Delivery
import ReactiveKernel.Proofs.Drain.Grammar
import ReactiveKernel.Proofs.Drain.Growth
import ReactiveKernel.Proofs.Drain.Result
import ReactiveKernel.Proofs.Drain.Stop
import ReactiveKernel.Proofs.DrainOutcome
import ReactiveKernel.Proofs.EdgeIndexes
import ReactiveKernel.Proofs.Effect.Basic
import ReactiveKernel.Proofs.Effect.Changes
import ReactiveKernel.Proofs.Effect.Consistency
import ReactiveKernel.Proofs.Effect.Cuts
import ReactiveKernel.Proofs.Effect.History
import ReactiveKernel.Proofs.Effect.Issuance
import ReactiveKernel.Proofs.Effect.Murmurs
import ReactiveKernel.Proofs.Effect.Notify
import ReactiveKernel.Proofs.Instantiation
import ReactiveKernel.Proofs.Instantiation.Aftermath
import ReactiveKernel.Proofs.Instantiation.Confinement
import ReactiveKernel.Proofs.Instantiation.Failure
import ReactiveKernel.Proofs.Instantiation.Survival
import ReactiveKernel.Proofs.Instantiation.Versions
import ReactiveKernel.Proofs.Instruments
import ReactiveKernel.Proofs.Instruments.Requests
import ReactiveKernel.Proofs.Instruments.Runs
import ReactiveKernel.Proofs.Intake
import ReactiveKernel.Proofs.Intake.Direct
import ReactiveKernel.Proofs.Intake.Patience
import ReactiveKernel.Proofs.Intake.Queue
import ReactiveKernel.Proofs.Interchange
import ReactiveKernel.Proofs.Isolation
import ReactiveKernel.Proofs.Isolation.Bystander
import ReactiveKernel.Proofs.Isolation.Side
import ReactiveKernel.Proofs.Isolation.Tandem
import ReactiveKernel.Proofs.Json.Numerals
import ReactiveKernel.Proofs.Json.Reading
import ReactiveKernel.Proofs.Json.Strings
import ReactiveKernel.Proofs.Json.Uniqueness
import ReactiveKernel.Proofs.Launch
import ReactiveKernel.Proofs.Ledger.Agreement
import ReactiveKernel.Proofs.Ledger.Basic
import ReactiveKernel.Proofs.Ledger.Course
import ReactiveKernel.Proofs.Ledger.Drain
import ReactiveKernel.Proofs.Ledger.Order
import ReactiveKernel.Proofs.Ledger.Recording
import ReactiveKernel.Proofs.Limit
import ReactiveKernel.Proofs.Limit.Command
import ReactiveKernel.Proofs.Limit.Lockstep
import ReactiveKernel.Proofs.Limit.Waves
import ReactiveKernel.Proofs.Mutation
import ReactiveKernel.Proofs.Network.Basic
import ReactiveKernel.Proofs.Network.Settling
import ReactiveKernel.Proofs.Network.Write
import ReactiveKernel.Proofs.Number.Digits
import ReactiveKernel.Proofs.Overrun
import ReactiveKernel.Proofs.Ownership
import ReactiveKernel.Proofs.Pardon
import ReactiveKernel.Proofs.Pardon.Beside
import ReactiveKernel.Proofs.Pardon.Contrast
import ReactiveKernel.Proofs.Pardon.Coupling
import ReactiveKernel.Proofs.Pardon.Course
import ReactiveKernel.Proofs.Pardon.Drain
import ReactiveKernel.Proofs.Refusal
import ReactiveKernel.Proofs.Repetition
import ReactiveKernel.Proofs.Replay
import ReactiveKernel.Proofs.Run.Accord
import ReactiveKernel.Proofs.Run.Action
import ReactiveKernel.Proofs.Run.Callback
import ReactiveKernel.Proofs.Run.Choice
import ReactiveKernel.Proofs.Run.Completion
import ReactiveKernel.Proofs.Run.Contract
import ReactiveKernel.Proofs.Run.Ending
import ReactiveKernel.Proofs.Run.Lockstep
import ReactiveKernel.Proofs.Run.Scope
import ReactiveKernel.Proofs.Run.Script
import ReactiveKernel.Proofs.Run.Step
import ReactiveKernel.Proofs.Run.Unwinding
import ReactiveKernel.Proofs.Settlement
import ReactiveKernel.Proofs.Snapshots
import ReactiveKernel.Proofs.Snapshots.Forms
import ReactiveKernel.Proofs.Starts
import ReactiveKernel.Proofs.State.Destruction
import ReactiveKernel.Proofs.State.EdgeRemoval
import ReactiveKernel.Proofs.State.Enclosure
import ReactiveKernel.Proofs.State.Growth
import ReactiveKernel.Proofs.State.Invariant
import ReactiveKernel.Proofs.State.Links
import ReactiveKernel.Proofs.State.Removal
import ReactiveKernel.Proofs.State.Resettling
import ReactiveKernel.Proofs.State.Rollback
import ReactiveKernel.Proofs.State.Severance
import ReactiveKernel.Proofs.State.Tables
import ReactiveKernel.Proofs.State.Tree
import ReactiveKernel.Proofs.Store
import ReactiveKernel.Proofs.Store.Answer
import ReactiveKernel.Proofs.Store.Writing
import ReactiveKernel.Proofs.Trace.Graph
import ReactiveKernel.Proofs.Trace.Lines
import ReactiveKernel.Proofs.Trace.Narration
import ReactiveKernel.Proofs.Trace.Removal
import ReactiveKernel.Proofs.Trace.Stretches
import ReactiveKernel.Proofs.Trace.Telling
import ReactiveKernel.Proofs.Transaction
import ReactiveKernel.Proofs.Twins.Command
import ReactiveKernel.Proofs.Twins.Likeness
import ReactiveKernel.Proofs.Twins.Lockstep
import ReactiveKernel.Proofs.Twins.Run
import ReactiveKernel.Proofs.Twins.Shuffled
import ReactiveKernel.Proofs.Unfolding
import ReactiveKernel.Proofs.Unfolding.Plan
import ReactiveKernel.Proofs.Unfolding.Planting
import ReactiveKernel.Proofs.Walks
import ReactiveKernel.Proofs.Waves
import ReactiveKernel.Proofs.Withdrawal
import ReactiveKernel.Proofs.Withdrawal.Leftover
import ReactiveKernel.Proofs.Withdrawal.Reports
import ReactiveKernel.Proofs.Withdrawal.Restoration
import ReactiveKernel.Schedule
import ReactiveKernel.Settings
import ReactiveKernel.Snapshot
import ReactiveKernel.Template
import ReactiveKernel.Text.Extender
import ReactiveKernel.Text.Printable
import ReactiveKernel.Text.Quoted
import ReactiveKernel.Text.Term
import ReactiveKernel.Trace
import ReactiveKernel.Value
