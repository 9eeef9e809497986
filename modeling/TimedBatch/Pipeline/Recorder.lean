import TimedBatch.Pipeline.Step

/-!
# Recording collaborators

What the collaborators of a pipeline saw can be read off the journal. A recording consumer asks for
a first number of batches at each subscription and may cancel at the arrival of one of its
batches; recording producers and a recording discard hook do nothing of their own.
-/

namespace TimedBatch

/-- A consumer that asks for batches when it is subscribed, and that cancels when it has received
a given number of batches. -/
structure RecordingConsumer where
  initialRequest : Amount := 0
  cancelAfter : Option Nat := none

/-- What a recording consumer does in the middle of calls. -/
def RecordingConsumer.reactions {α : Type} (consumer : RecordingConsumer) :
    CallKind → Nat → List (Action α)
  | .subscribe, _ =>
      if consumer.initialRequest = 0 then [] else [.request consumer.initialRequest]
  | .next, earlier => if consumer.cancelAfter = some (earlier + 1) then [.cancel] else []
  | _, _ => []

namespace Pipeline

variable {α : Type}

/-- Whether an event is seen from outside the stage. -/
def isVisible (pipeline : Pipeline α) : Event α → Bool
  | .called call => pipeline.isSeen call
  | .entered _ => false
  | .announced _ => false
  | .handled _ => false
  | .takenIn _ => false
  | _ => true

/-- The entries that are seen from outside the stage, in their order, without those that belong to
an earlier length of the journal. -/
def visibleSince (pipeline : Pipeline α) (length : Nat) : List (Entry α) :=
  (pipeline.journal.take (pipeline.journal.length - length)).reverse.filter fun entry =>
    pipeline.isVisible entry.event

/-- What happened, in the order in which it happened. -/
def chronicle (pipeline : Pipeline α) : List (Event α) :=
  pipeline.journal.reverse.map Entry.event

/-- The calls of collaborators, in their order. -/
def outboundCalls (pipeline : Pipeline α) : List (Outbound α) :=
  pipeline.chronicle.filterMap fun event =>
    match event with
    | .called call => some call
    | _ => none

/-- A signal that the consumer received. -/
inductive Received (α : Type) where
  | subscribed
  | next (batch : List α)
  | error (error : StreamError)
  | complete

/-- The signals that the consumer received, in their order. -/
def received (pipeline : Pipeline α) : List (Received α) :=
  pipeline.outboundCalls.filterMap fun call =>
    match call with
    | .subscribe => some .subscribed
    | .next batch => some (.next batch)
    | .error error => some (.error error)
    | .complete => some .complete
    | _ => none

def delivered (pipeline : Pipeline α) : List (List α) :=
  pipeline.received.filterMap fun signal =>
    match signal with
    | .next batch => some batch
    | _ => none

def errors (pipeline : Pipeline α) : List StreamError :=
  pipeline.received.filterMap fun signal =>
    match signal with
    | .error error => some error
    | _ => none

/-- How often the consumer was told of completion. -/
def completions (pipeline : Pipeline α) : Nat :=
  pipeline.received.countP fun signal =>
    match signal with
    | .complete => true
    | _ => false

/-- The items given to the discard hook, in their order. -/
def discarded (pipeline : Pipeline α) : List α :=
  pipeline.outboundCalls.flatMap fun call =>
    match call with
    | .discard discard => discard.items
    | _ => []

/-- The items of which a discard hook keeps a record. -/
def recordedDiscards (pipeline : Pipeline α) : List α :=
  if pipeline.hook.isObserved then pipeline.discarded else []

/-- The requests that a producer received, from the stage or past it. -/
def requestsOf (pipeline : Pipeline α) (producer : Nat) : List Amount :=
  pipeline.outboundCalls.filterMap fun call =>
    match call with
    | .request other items => if other = producer then some items else none
    | .bypass other items => if other = producer then some items else none
    | _ => none

/-- Whether a producer was cancelled. -/
def isProducerCancelled (pipeline : Pipeline α) (producer : Nat) : Bool :=
  pipeline.outboundCalls.any fun call =>
    match call with
    | .cancel other => other = producer
    | _ => false

end Pipeline

def Amount.total (amounts : List Amount) : Amount :=
  amounts.foldl (· + ·) 0

end TimedBatch
