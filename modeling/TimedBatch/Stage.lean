import TimedBatch.Config
import TimedBatch.StreamError
import TimedBatch.Timer.CancelToken

/-!
# The buffering stage

A stage collects items into the open batch. The batch is handed off when it has reached its
greatest size, when its time span is over, or when the producer completes. Each hand-off begins a
new generation; the alarm that ends the time span carries the generation for which it was set, so
an alarm of an earlier one is recognised as stale.

Everything that changes the batch arrives as a signal. Signals are queued, and whoever finds the
work counter at zero works the queue off, so signals that arrive meanwhile wait for their turn.
-/

namespace TimedBatch

/-- Whether a stage works, and how it ended if it does not. -/
inductive Status where
  | active
  | cancelled
  | completed
  | errored
  deriving DecidableEq

namespace Status

def name : Status → String
  | active => "active"
  | cancelled => "cancelled"
  | completed => "completed"
  | errored => "errored"

/-- The name of a status where types are named. -/
def title : Status → String
  | active => "Active"
  | cancelled => "Cancelled"
  | completed => "Completed"
  | errored => "Errored"

/-- Whether the stage ended by completion or by an error. -/
def isTerminated : Status → Bool
  | active => false
  | cancelled => false
  | completed => true
  | errored => true

end Status

inductive Trigger where
  | size
  | time
  | completion
  deriving DecidableEq

namespace Trigger

def name : Trigger → String
  | size => "size"
  | time => "time"
  | completion => "completion"

/-- The name of a trigger where types are named. -/
def title : Trigger → String
  | size => "Size"
  | time => "Time"
  | completion => "Completion"

end Trigger

/-- Who found the failure that ends a stage. A producer that reports a failure has ended already;
otherwise the stage cancels it. -/
inductive Origin where
  | producer
  | stage
  deriving DecidableEq

/-- What a stage works off one after the other. -/
inductive Signal (α : Type) where
  /-- A producer subscribed; the first alarm is due to be set. -/
  | subscribed
  | item (item : α)
  /-- The time span of a generation is over. -/
  | tick (generation : UInt64)
  | completed
  | failed (error : StreamError) (origin : Origin)
  | cancelled

structure Stage (α : Type) where
  config : Config
  ledger : Ledger
  status : Status := .active
  /-- The producer that subscribed first. -/
  producer : Option Nat := none
  signals : List (Signal α) := []
  /-- How many signals were announced and not yet accounted for. -/
  work : Nat := 0
  batch : List α := []
  /-- How many items are in the open batch, as it is told to whoever asks. -/
  buffered : Nat := 0
  generation : UInt64 := 0
  /-- The generation as it is told to whoever declares its time span over. -/
  published : UInt64 := 0
  /-- The token of the alarm that ends the time span of the open batch. -/
  alarm : Option CancelToken := none

namespace Stage

variable {α : Type}

def opening (config : Config) : Stage α where
  config := config
  ledger := .opening config.policy config.maxSize

def isActive (stage : Stage α) : Bool :=
  stage.status = .active

/-- Whether the open batch has reached the greatest size. -/
def isFull (stage : Stage α) : Bool :=
  stage.config.maxSize.count ≤ stage.batch.length

/-- The stage with a new generation, which is published at once. -/
def nextGeneration (stage : Stage α) : Stage α :=
  { stage with generation := stage.generation + 1, published := stage.generation + 1 }

/-- The stage once the items were taken out of the open batch. -/
def emptied (stage : Stage α) : Stage α :=
  { stage with batch := [], buffered := 0 }

end Stage

structure Diagnostics where
  requested : Amount
  buffered : Nat
  capacity : Amount
  cancelled : Bool
  terminated : Bool
  runOn : String
  producerAttached : Bool
  status : Status
  deriving DecidableEq

/-- What a stage tells about itself, given the name of the worker of its timer. -/
def Stage.diagnostics {α : Type} (stage : Stage α) (worker : String) : Diagnostics where
  requested := stage.ledger.requested
  buffered := stage.buffered
  capacity := stage.config.maxSize
  cancelled := stage.status = .cancelled
  terminated := stage.status.isTerminated
  runOn := worker
  producerAttached := stage.producer.isSome
  status := stage.status

/-- The name of the way in which a stage runs. -/
def runStyleName : String :=
  "async"

end TimedBatch
