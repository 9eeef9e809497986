import TimedBatch.Discard
import TimedBatch.Stage
import TimedBatch.Timer

/-!
# A stage among its collaborators

A pipeline is a stage together with the producers that subscribe to it, its consumer, its timer
and its discard hook. The stage calls them, and each of them may act in the middle of such a call:
push items, ask for more, cancel, move the clock or give the stage up. What they do is laid down
beforehand: the reaction to the n-th call of a kind is a list of actions.

What is still to be done stands on an agenda. A call that is made while others are under way puts
its tasks in front of the rest, so the agenda is the stack of the calls that have not returned. At
rest the agenda is empty.

The journal keeps what happened, with the newest entry first and each entry under the reading of
the clock. It also keeps what no collaborator sees: calls of the stage, signals announced and
worked off, and items taken into the open batch.
-/

namespace TimedBatch

/-- What a driver of the pipeline does, and what collaborators do in the middle of calls. -/
inductive Action (α : Type) where
  /-- A new producer subscribes to the stage. -/
  | subscribe
  /-- Items are pushed one after the other. -/
  | next (items : List α)
  | error (error : StreamError)
  | complete
  | tick (generation : UInt64)
  /-- The time span of the current generation is declared over. -/
  | flushNow
  /-- The consumer asks for batches through its subscription. -/
  | request (batches : Amount)
  | cancel
  | advance (span : Duration)
  | advanceTo (instant : Duration)
  | shutDownTimer
  /-- From now on every alarm is refused before the timer is asked. -/
  | refuse (rejection : TimerRejection)
  /-- From now on the timer is asked again. -/
  | accept
  | dropStage
  | diagnose
  | inform
  /-- The attached producer is asked for items past the stage. -/
  | requestProducer (items : Amount)
  | mark (content : α)

inductive Inbound (α : Type) where
  | subscribe (producer : Nat)
  | next (item : α)
  | error (error : StreamError)
  | complete
  | tick (generation : UInt64)
  | request (batches : Amount)
  | cancel

/-- Calls of the collaborators. All but one are made by the stage. -/
inductive Outbound (α : Type) where
  | subscribe
  | next (batch : List α)
  | error (error : StreamError)
  | complete
  | request (producer : Nat) (items : Amount)
  /-- Somebody asks a producer for items past the stage. -/
  | bypass (producer : Nat) (items : Amount)
  | cancel (producer : Nat)
  | discard (call : Discard α)
  | schedule (delay : Duration) (accepted : Bool)

/-- The kinds of calls to which collaborators react. -/
inductive CallKind where
  | subscribe
  | next
  | error
  | complete
  | request
  | cancel
  | discard
  | schedule
  deriving DecidableEq

def Outbound.kind {α : Type} : Outbound α → CallKind
  | .subscribe => .subscribe
  | .next _ => .next
  | .error _ => .error
  | .complete => .complete
  | .request _ _ => .request
  | .bypass _ _ => .request
  | .cancel _ => .cancel
  | .discard _ => .discard
  | .schedule _ _ => .schedule

/-- What the stage is made of and where it stands. -/
structure Information where
  maxSize : Amount
  timeSpan : Duration
  policy : Policy
  status : Status
  producer : Option Nat
  deriving DecidableEq

/-- What happens in a pipeline. -/
inductive Event (α : Type) where
  | entered (call : Inbound α)
  | called (call : Outbound α)
  | fired
  /-- A signal is put into the queue of the stage. -/
  | announced (signal : Signal α)
  | handled (signal : Signal α)
  | takenIn (item : α)
  | log (line : LogLine)
  | diagnosed (diagnostics : Diagnostics)
  | informed (information : Information)
  | marked (content : α)

/-- An event under the reading of the clock. -/
structure Entry (α : Type) where
  time : Duration
  event : Event α

/-- A batch that left the stage, and why it did. -/
structure HandOff (α : Type) where
  batch : List α
  trigger : Trigger

inductive Task (α : Type) where
  /-- Perform an action of the driver or of a reaction. -/
  | act (action : Action α)
  | enter (call : Inbound α)
  /-- Let go of the stage at the end of a call. -/
  | release
  /-- Put a signal into the queue of the stage, and work the queue off unless that is under way. -/
  | announce (signal : Signal α)
  /-- Work the queue off; the number tells which part of the work counter is accounted for. -/
  | workOff (missed : Nat)
  /-- Ask the first producer for items after its subscription. -/
  | firstRequest (producer : Nat)
  /-- Set the alarm of the current generation, for a batch that left the stage if there is one. -/
  | setAlarm (handOff : Option (HandOff α))
  | answered (outcome : Except TimerRejection CancelToken) (handOff : Option (HandOff α))
  | endWith (error : StreamError) (origin : Origin)
  | reportError (error : StreamError) (origin : Origin)
  | finish
  | call (call : Outbound α)
  | log (line : LogLine)
  /-- Start what is due up to an instant, then set the clock to it. -/
  | advance (instant : Duration)

/-- A stage among its collaborators. -/
structure Pipeline (α : Type) where
  stage : Stage α
  /-- The alarms carry the generation for which they were set. -/
  timer : Timer UInt64
  hook : DiscardHook := .each
  /-- Whether the tokens that the stage gets belong to no alarm. -/
  detached : Bool := false
  /-- The refusal that stands in for the timer. -/
  refusal : Option TimerRejection := none
  producers : Nat := 0
  subscribed : Bool := false
  /-- Whether the driver still holds the stage. -/
  owned : Bool := true
  /-- How many calls under way hold the stage. -/
  holders : Nat := 0
  /-- How many calls of each kind were made. -/
  calls : CallKind → Nat := fun _ => 0
  reactions : CallKind → Nat → List (Action α) := fun _ _ => []
  agenda : List (Task α) := []
  journal : List (Entry α) := []

namespace Pipeline

variable {α : Type}

/-- What a pipeline is set up with, beside the configuration of its stage. -/
structure Setup (α : Type) where
  style : TimerStyle := .simulated
  hook : DiscardHook := .each
  detached : Bool := false
  reactions : CallKind → Nat → List (Action α) := fun _ _ => []

/-- Note an event under the reading of the clock. -/
def note (pipeline : Pipeline α) (event : Event α) : Pipeline α :=
  { pipeline with journal := ⟨pipeline.timer.now, event⟩ :: pipeline.journal }

/-- A new pipeline, unless the configuration of the stage has a fault. -/
def opening? (config : Config) (setup : Setup α) : Except ConfigError (Pipeline α) :=
  match config.fault? with
  | some fault => .error fault
  | none =>
      let timer : Timer UInt64 := { style := setup.style }
      .ok
        { stage := .opening config
          timer := timer
          hook := setup.hook
          detached := setup.detached
          reactions := setup.reactions
          journal := setup.style.openingLine?.toList.map fun line => ⟨timer.now, .log line⟩ }

/-- Put tasks in front of all others. -/
def todo (pipeline : Pipeline α) (tasks : List (Task α)) : Pipeline α :=
  { pipeline with agenda := tasks ++ pipeline.agenda }

def withStage (pipeline : Pipeline α) (stage : Stage α) : Pipeline α :=
  { pipeline with stage := stage }

section Fields

variable (pipeline : Pipeline α)

@[simp]
theorem stage_note (event : Event α) : (pipeline.note event).stage = pipeline.stage :=
  rfl

@[simp]
theorem timer_note (event : Event α) : (pipeline.note event).timer = pipeline.timer :=
  rfl

@[simp]
theorem agenda_note (event : Event α) : (pipeline.note event).agenda = pipeline.agenda :=
  rfl

@[simp]
theorem hook_note (event : Event α) : (pipeline.note event).hook = pipeline.hook :=
  rfl

@[simp]
theorem owned_note (event : Event α) : (pipeline.note event).owned = pipeline.owned :=
  rfl

@[simp]
theorem calls_note (event : Event α) : (pipeline.note event).calls = pipeline.calls :=
  rfl

@[simp]
theorem stage_todo (tasks : List (Task α)) : (pipeline.todo tasks).stage = pipeline.stage :=
  rfl

@[simp]
theorem timer_todo (tasks : List (Task α)) : (pipeline.todo tasks).timer = pipeline.timer :=
  rfl

@[simp]
theorem agenda_todo (tasks : List (Task α)) :
    (pipeline.todo tasks).agenda = tasks ++ pipeline.agenda :=
  rfl

@[simp]
theorem owned_todo (tasks : List (Task α)) : (pipeline.todo tasks).owned = pipeline.owned :=
  rfl

@[simp]
theorem calls_todo (tasks : List (Task α)) : (pipeline.todo tasks).calls = pipeline.calls :=
  rfl

@[simp]
theorem stage_withStage (stage : Stage α) : (pipeline.withStage stage).stage = stage :=
  rfl

@[simp]
theorem timer_withStage (stage : Stage α) : (pipeline.withStage stage).timer = pipeline.timer :=
  rfl

@[simp]
theorem hook_withStage (stage : Stage α) : (pipeline.withStage stage).hook = pipeline.hook :=
  rfl

@[simp]
theorem agenda_withStage (stage : Stage α) :
    (pipeline.withStage stage).agenda = pipeline.agenda :=
  rfl

@[simp]
theorem owned_withStage (stage : Stage α) : (pipeline.withStage stage).owned = pipeline.owned :=
  rfl

@[simp]
theorem calls_withStage (stage : Stage α) : (pipeline.withStage stage).calls = pipeline.calls :=
  rfl

end Fields

/-- Whether anybody holds the stage. A stage that nobody holds is gone. -/
def alive (pipeline : Pipeline α) : Bool :=
  pipeline.owned || pipeline.holders ≠ 0

/-- Whether nothing is left to be done. -/
def atRest (pipeline : Pipeline α) : Bool :=
  pipeline.agenda.isEmpty

def diagnostics (pipeline : Pipeline α) : Diagnostics :=
  pipeline.stage.diagnostics pipeline.timer.workerName

/-- What the stage is made of and where it stands. -/
def information (pipeline : Pipeline α) : Information where
  maxSize := pipeline.stage.config.maxSize
  timeSpan := pipeline.stage.config.timeSpan
  policy := pipeline.stage.config.policy
  status := pipeline.stage.status
  producer := pipeline.stage.producer

end Pipeline

end TimedBatch
