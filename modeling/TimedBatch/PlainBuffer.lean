import TimedBatch.Pipeline.Run

/-!
# The plain buffer

A plain buffer has no queue, no generations and no alarms: only an open batch, the instant at which
the time of the batch is over, the demand of the consumer and a clock that is moved by hand. It
takes one input after the other, and what it says is what a consumer, a producer and a discard hook
see of it.
-/

namespace TimedBatch

variable {α : Type}

/-- What is seen of a buffer. -/
inductive Output (α : Type) where
  | heard (signal : Pipeline.Received α)
  /-- An item will not be delivered. -/
  | discarded (item : α)
  | producerCancelled

/-- What a buffer is told. -/
inductive Input (α : Type) where
  | next (item : α)
  | advance (span : Duration)
  | advanceTo (instant : Duration)
  | request (batches : Amount)
  | cancel
  | complete
  | error (error : StreamError)
  | flushNow

namespace Input

/-- The action by which the driver of a pipeline tells the same to a stage. -/
def action : Input α → Action α
  | .next item => .next [item]
  | .advance span => .advance span
  | .advanceTo instant => .advanceTo instant
  | .request batches => .request batches
  | .cancel => .cancel
  | .complete => .complete
  | .error failure => .error failure
  | .flushNow => .flushNow

/-- Where the clock stands after an input. -/
def target (now : Nat) : Input α → Nat
  | .advance span => now + span.nanos
  | .advanceTo instant => max now instant.nanos
  | _ => now

/-- Where the clock stands after each input of a script. -/
def targets (now : Nat) : List (Input α) → List Nat
  | [] => []
  | input :: script => input.target now :: targets (input.target now) script

end Input

/-- What a buffer shows when it ends with an error. -/
def Origin.outputs (origin : Origin) (error : StreamError) : List (Output α) :=
  match origin with
  | .producer => [.heard (.error error)]
  | .stage => [.producerCancelled, .heard (.error error)]

/-- The greatest size of a batch, and how long a batch stays open. -/
structure Limits where
  size : Nat
  span : Nat
  span_pos : 0 < span

/-- A buffer without a queue, generations or alarms. -/
structure PlainBuffer (α : Type) where
  limits : Limits
  now : Nat
  /-- The instant at which the time of the open batch is over. -/
  deadline : Nat
  batch : List α := []
  demand : Amount := 0
  status : Status := .active
  /-- What the buffer said, under the readings of its clock. -/
  said : List (Nat × Output α) := []

namespace PlainBuffer

/-- A buffer whose consumer is subscribed at some instant. -/
def opening (limits : Limits) (start : Nat) : PlainBuffer α where
  limits := limits
  now := start
  deadline := start + limits.span
  said := [(start, .heard .subscribed)]

def isActive (buffer : PlainBuffer α) : Bool :=
  buffer.status = .active

def say (buffer : PlainBuffer α) (outputs : List (Output α)) : PlainBuffer α :=
  { buffer with said := buffer.said ++ outputs.map (Prod.mk buffer.now) }

def discardBatch (buffer : PlainBuffer α) : PlainBuffer α :=
  { buffer.say (buffer.batch.map .discarded) with batch := [] }

/-- Discard the open batch and end with an error. -/
def endWith (buffer : PlainBuffer α) (error : StreamError) (origin : Origin) : PlainBuffer α :=
  { buffer.discardBatch.say (origin.outputs error) with status := .errored }

/-- Draw one batch from a demand. -/
def pay (demand : Amount) : Option Amount :=
  if demand = .unbounded then some demand else if demand = 0 then none else some (demand - 1)

/-- Deliver the open batch, which ends the buffer where there is no demand for it. -/
def deliver (buffer : PlainBuffer α) : PlainBuffer α :=
  match pay buffer.demand with
  | none => buffer.endWith .insufficientDemand .stage
  | some demand =>
      { buffer.say [.heard (.next buffer.batch)] with batch := [], demand := demand }

/-- Begin the time of a new batch. -/
def renew (buffer : PlainBuffer α) : PlainBuffer α :=
  { buffer with deadline := buffer.now + buffer.limits.span }

/-- The time of the open batch is over. -/
def tick (buffer : PlainBuffer α) : PlainBuffer α :=
  if buffer.batch.isEmpty then buffer.renew else buffer.renew.deliver

/-- Take an item in. -/
def push (buffer : PlainBuffer α) (item : α) : PlainBuffer α :=
  let filled := { buffer with batch := buffer.batch ++ [item] }
  if buffer.limits.size ≤ filled.batch.length then filled.renew.deliver else filled

/-- Complete unless the buffer has ended. -/
def finish (buffer : PlainBuffer α) : PlainBuffer α :=
  if buffer.isActive then { buffer.say [.heard .complete] with status := .completed } else buffer

/-- Deliver what is left, and complete. -/
def complete (buffer : PlainBuffer α) : PlainBuffer α :=
  if buffer.batch.isEmpty then buffer.finish else buffer.deliver.finish

/-- Cancel the producer and discard what is left. -/
def cancel (buffer : PlainBuffer α) : PlainBuffer α :=
  { (buffer.say [.producerCancelled]).discardBatch with status := .cancelled }

section Fields

variable (buffer : PlainBuffer α)

@[simp]
theorem limits_deliver : buffer.deliver.limits = buffer.limits := by
  unfold deliver
  split <;> rfl

@[simp]
theorem now_deliver : buffer.deliver.now = buffer.now := by
  unfold deliver
  split <;> rfl

@[simp]
theorem deadline_deliver : buffer.deliver.deadline = buffer.deadline := by
  unfold deliver
  split <;> rfl

@[simp]
theorem limits_finish : buffer.finish.limits = buffer.limits := by
  unfold finish
  split <;> rfl

@[simp]
theorem now_finish : buffer.finish.now = buffer.now := by
  unfold finish
  split <;> rfl

theorem isActive_finish : buffer.finish.isActive = false := by
  unfold finish
  split
  · rfl
  · rename_i ended
    exact eq_false_of_ne_true ended

@[simp]
theorem limits_tick : buffer.tick.limits = buffer.limits := by
  unfold tick
  split
  · rfl
  · exact limits_deliver buffer.renew

@[simp]
theorem now_tick : buffer.tick.now = buffer.now := by
  unfold tick
  split
  · rfl
  · exact now_deliver buffer.renew

@[simp]
theorem deadline_tick : buffer.tick.deadline = buffer.now + buffer.limits.span := by
  unfold tick
  split
  · rfl
  · exact deadline_deliver buffer.renew

end Fields

/-- Let time pass up to an instant. Each time that the time of the open batch is over on the way,
the clock stops there. -/
def elapse (buffer : PlainBuffer α) (target : Nat) : PlainBuffer α :=
  if buffer.isActive ∧ buffer.deadline ≤ target then
    elapse { buffer with now := buffer.deadline }.tick target
  else { buffer with now := target }
termination_by target + 1 - buffer.deadline
decreasing_by
  have positive := buffer.limits.span_pos
  simp only [deadline_tick]
  omega

/-- Take an input. After the end items are discarded, and nothing else is said. -/
def take (buffer : PlainBuffer α) : Input α → PlainBuffer α
  | .next item => if buffer.isActive then buffer.push item else buffer.say [.discarded item]
  | .advance span => buffer.elapse (buffer.now + span.nanos)
  | .advanceTo instant => buffer.elapse (max buffer.now instant.nanos)
  | .request batches => { buffer with demand := buffer.demand + batches }
  | .cancel => if buffer.isActive then buffer.cancel else buffer
  | .complete => if buffer.isActive then buffer.complete else buffer
  | .error error => if buffer.isActive then buffer.endWith error .producer else buffer
  | .flushNow => if buffer.isActive then buffer.tick else buffer

theorem now_elapse (buffer : PlainBuffer α) (target : Nat) :
    (buffer.elapse target).now = target := by
  fun_induction elapse buffer target with
  | case1 buffer due ih => exact ih
  | case2 buffer idle => rfl

theorem now_push (buffer : PlainBuffer α) (item : α) : (buffer.push item).now = buffer.now := by
  rw [push]
  dsimp only
  split
  · exact now_deliver _
  · rfl

theorem now_complete (buffer : PlainBuffer α) : buffer.complete.now = buffer.now := by
  rw [complete]
  split
  · exact now_finish buffer
  · rw [now_finish, now_deliver]

theorem now_take (buffer : PlainBuffer α) (input : Input α) :
    (buffer.take input).now = input.target buffer.now := by
  cases input with
  | next item =>
      rw [take]
      split
      · exact now_push buffer item
      · rfl
  | advance span => exact now_elapse buffer _
  | advanceTo instant => exact now_elapse buffer _
  | request batches => rfl
  | cancel =>
      rw [take]
      split <;> rfl
  | complete =>
      rw [take]
      split
      · exact now_complete buffer
      · rfl
  | error error =>
      rw [take]
      split <;> rfl
  | flushNow =>
      rw [take]
      split
      · exact now_tick buffer
      · rfl

def takeAll (buffer : PlainBuffer α) (script : List (Input α)) : PlainBuffer α :=
  script.foldl take buffer

end PlainBuffer

/-! ## What is seen of a pipeline -/

/-- What a call of a collaborator shows. -/
def Outbound.outputs : Outbound α → List (Output α)
  | .subscribe => [.heard .subscribed]
  | .next batch => [.heard (.next batch)]
  | .error failure => [.heard (.error failure)]
  | .complete => [.heard .complete]
  | .cancel _ => [.producerCancelled]
  | .discard call => call.items.map .discarded
  | .request _ _ => []
  | .bypass _ _ => []
  | .schedule _ _ => []

def Event.outputs : Event α → List (Output α)
  | .called call => call.outputs
  | _ => []

/-- What an entry of a journal shows, under the reading of the clock. -/
def Entry.outputs (entry : Entry α) : List (Nat × Output α) :=
  entry.event.outputs.map (Prod.mk entry.time.nanos)

/-- What is seen of a pipeline, under the readings of the clock. -/
def Pipeline.outputs (pipeline : Pipeline α) : List (Nat × Output α) :=
  pipeline.journal.reverse.flatMap Entry.outputs

/-- The signal that the consumer receives. -/
def Output.heard? : Output α → Option (Pipeline.Received α)
  | .heard signal => some signal
  | _ => none

/-- The item that will not be delivered. -/
def Output.discarded? : Output α → Option α
  | .discarded item => some item
  | _ => none

/-- The consumer receives what is heard, in the same order. -/
theorem Pipeline.received_eq_filterMap_outputs (pipeline : Pipeline α) :
    pipeline.received = pipeline.outputs.filterMap fun output => output.2.heard? := by
  rw [received, outboundCalls, chronicle, outputs]
  induction pipeline.journal.reverse with
  | nil => rfl
  | cons entry entries ih =>
      obtain ⟨time, event⟩ := entry
      rw [List.flatMap_cons, List.filterMap_append, ← ih]
      cases event with
      | called call =>
          cases call <;> simp [Entry.outputs, Event.outputs, Outbound.outputs, Output.heard?]
      | _ => rfl

/-- The discard hook gets what is discarded, in the same order. -/
theorem Pipeline.discarded_eq_filterMap_outputs (pipeline : Pipeline α) :
    pipeline.discarded = pipeline.outputs.filterMap fun output => output.2.discarded? := by
  have all : ∀ (time : Nat) (items : List α),
      ((items.map Output.discarded).map (Prod.mk time)).filterMap
        (fun output => output.2.discarded?) = items := by
    intro time items
    rw [List.map_map, List.filterMap_map]
    exact List.filterMap_some
  rw [discarded, outboundCalls, chronicle, outputs]
  induction pipeline.journal.reverse with
  | nil => rfl
  | cons entry entries ih =>
      obtain ⟨time, event⟩ := entry
      rw [List.flatMap_cons, List.filterMap_append, ← ih]
      cases event with
      | called call =>
          cases call with
          | discard discard => exact congrArg (· ++ _) (all time.nanos discard.items).symm
          | _ => rfl
      | _ => rfl

end TimedBatch
