import TimedBatch.Config.Decode
import TimedBatch.Contention
import TimedBatch.Timer.Settle
import TimedBatch.Pipeline.Run
import TimedBatch.Proofs.Effect
import TimedBatch.Proofs.Agenda
import TimedBatch.Proofs.Outcome
import TimedBatch.Proofs.Conservation
import TimedBatch.Proofs.Frame
import TimedBatch.Proofs.Serial
import TimedBatch.PlainBuffer
import TimedBatch.Proofs.Alarms
import TimedBatch.Proofs.Places
import TimedBatch.Proofs.Refinement
import TimedBatch.Proofs.Demand
import TimedBatch.Proofs.Holding
import TimedBatch.Proofs.Watch
import TimedBatch.Proofs.Dropped
import TimedBatch.Proofs.Timeline
import TimedBatch.Proofs.Punctual
import TimedBatch.Proofs.Pruned
import TimedBatch.Proofs.Generations
import TimedBatch.Proofs.Detached
import TimedBatch.Proofs.Verdict
import TimedBatch.Proofs.Credit
import TimedBatch.Proofs.Prefetch
import TimedBatch.Proofs.AtHand
import TimedBatch.Proofs.Blame
import TimedBatch.Proofs.Callbacks
import TimedBatch.Proofs.Clock
import TimedBatch.Proofs.Advance
import TimedBatch.Proofs.Likeness
import TimedBatch.Proofs.Unmetered
import TimedBatch.Proofs.Sweeps
import TimedBatch.Proofs.CutShort
import TimedBatch.Proofs.Effort
import TimedBatch.Proofs.Returns
import TimedBatch.Proofs.Interlude
import TimedBatch.Proofs.Tokens
import TimedBatch.Proofs.HandOff
import TimedBatch.Proofs.Portions
import TimedBatch.Proofs.Unasked
import TimedBatch.Proofs.Decisions
import TimedBatch.Proofs.WorkerLife
import TimedBatch.Proofs.Working
import TimedBatch.Proofs.TextForm
import TimedBatch.Proofs.Overdue
import TimedBatch.Proofs.LateProducer
import TimedBatch.Proofs.Bookkeeping
import TimedBatch.Proofs.Descent
import TimedBatch.Proofs.Totals
