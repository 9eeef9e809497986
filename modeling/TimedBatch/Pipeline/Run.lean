import TimedBatch.Pipeline.Recorder

/-!
# Runs of a pipeline

A run goes on step by step, and wherever it has come to rest the driver may begin another action.
What happened is read off the chronicle: the calls of the stage, the items passed to it, and the
signals announced and worked off. Between two tasks of the driver, of a reaction or of the clock no
call of the stage is under way.
-/

namespace TimedBatch

variable {α : Type}

/-! ## Kinds of events -/

namespace Event

def outbound? : Event α → Option (Outbound α)
  | .called call => some call
  | _ => none

def inbound? : Event α → Option (Inbound α)
  | .entered call => some call
  | _ => none

/-- The signal that is put into the queue. -/
def announced? : Event α → Option (Signal α)
  | .announced signal => some signal
  | _ => none

/-- The signal that begins to be worked off. -/
def handled? : Event α → Option (Signal α)
  | .handled signal => some signal
  | _ => none

end Event

/-- The item that a call passes to the stage. -/
def Inbound.item? : Inbound α → Option α
  | .next item => some item
  | _ => none

/-! ## Kinds of tasks -/

namespace Task

/-- Whether a task belongs to the driver, to a reaction or to the clock. Every other task is a part
of a call of the stage. -/
def isFree : Task α → Bool
  | .act _ => true
  | .enter _ => true
  | .release => true
  | .log _ => true
  | .advance _ => true
  | .call (.bypass _ _) => true
  | _ => false

def isWorkOff : Task α → Bool
  | .workOff _ => true
  | _ => false

end Task

namespace Pipeline

/-! ## What happened -/

@[simp]
theorem chronicle_note (pipeline : Pipeline α) (event : Event α) :
    (pipeline.note event).chronicle = pipeline.chronicle ++ [event] := by
  simp [chronicle, note]

@[simp]
theorem chronicle_todo (pipeline : Pipeline α) (tasks : List (Task α)) :
    (pipeline.todo tasks).chronicle = pipeline.chronicle :=
  rfl

@[simp]
theorem chronicle_withStage (pipeline : Pipeline α) (stage : Stage α) :
    (pipeline.withStage stage).chronicle = pipeline.chronicle :=
  rfl

@[simp]
theorem chronicle_cancelAlarm (pipeline : Pipeline α) :
    pipeline.cancelAlarm.chronicle = pipeline.chronicle := by
  simp [chronicle]

/-- The calls of the stage, in their order. -/
def inboundCalls (pipeline : Pipeline α) : List (Inbound α) :=
  pipeline.chronicle.filterMap Event.inbound?

/-- The items passed to the stage, in their order. -/
def passed (pipeline : Pipeline α) : List α :=
  pipeline.inboundCalls.filterMap Inbound.item?

/-- The signals put into the queue, in their order. -/
def announcedSignals (pipeline : Pipeline α) : List (Signal α) :=
  pipeline.chronicle.filterMap Event.announced?

/-- The signals that began to be worked off, in their order. -/
def handledSignals (pipeline : Pipeline α) : List (Signal α) :=
  pipeline.chronicle.filterMap Event.handled?

/-! ## Where a pipeline stands -/

/-- Whether no call of the stage is under way. -/
def isIdle (pipeline : Pipeline α) : Bool :=
  pipeline.agenda.all Task.isFree

/-- Whether a signal is being worked off: the work on the queue waits beneath other tasks. -/
def isDispatching (pipeline : Pipeline α) : Bool :=
  pipeline.agenda.tail.any Task.isWorkOff

/-! ## Runs -/

theorem run_zero (pipeline : Pipeline α) : pipeline.run 0 = pipeline :=
  rfl

theorem run_succ (bound : Nat) (pipeline : Pipeline α) :
    pipeline.run (bound + 1) =
      if pipeline.atRest then pipeline else pipeline.step.run bound :=
  rfl

theorem run_of_atRest {pipeline : Pipeline α} (rest : pipeline.atRest = true) (bound : Nat) :
    pipeline.run bound = pipeline := by
  cases bound with
  | zero => rfl
  | succ bound => rw [run_succ, if_pos rest]

/-- What every step keeps, a run keeps. -/
theorem preserve_run (holds : Pipeline α → Prop)
    (step : ∀ pipeline, holds pipeline → holds pipeline.step) {pipeline : Pipeline α}
    (before : holds pipeline) (bound : Nat) : holds (pipeline.run bound) := by
  induction bound generalizing pipeline with
  | zero => exact before
  | succ bound ih =>
      rw [run_succ]
      split
      · exact before
      · exact ih (step pipeline before)

/-- A run leads from one pipeline to another. -/
inductive Later (first : Pipeline α) : Pipeline α → Prop where
  | here : Later first first
  | step {last : Pipeline α} (earlier : Later first last) : Later first last.step
  | begin {last : Pipeline α} (earlier : Later first last) (rest : last.atRest = true)
      (action : Action α) : Later first (last.begin action)

/-- A pipeline is reachable if a run leads to it from a new pipeline. -/
def Reachable (config : Config) (setup : Setup α) (pipeline : Pipeline α) : Prop :=
  ∃ opening, opening? config setup = .ok opening ∧ Later opening pipeline

namespace Later

variable {first middle last : Pipeline α}

theorem trans (earlier : Later first middle) (later : Later middle last) : Later first last := by
  induction later with
  | here => exact earlier
  | step _ ih => exact ih.step
  | begin _ rest action ih => exact ih.begin rest action

theorem run (earlier : Later first middle) (bound : Nat) : Later first (middle.run bound) :=
  preserve_run (Later first) (fun _ earlier => earlier.step) earlier bound

theorem act (earlier : Later first middle) (rest : middle.atRest = true) (action : Action α)
    (bound : Nat) : Later first ((middle.begin action).run bound) :=
  (earlier.begin rest action).run bound

end Later

namespace Reachable

variable {config : Config} {setup : Setup α} {pipeline : Pipeline α}

theorem of_opening (made : opening? config setup = .ok pipeline) :
    Reachable config setup pipeline :=
  ⟨pipeline, made, .here⟩

theorem step (reachable : Reachable config setup pipeline) :
    Reachable config setup pipeline.step := by
  obtain ⟨opening, made, earlier⟩ := reachable
  exact ⟨opening, made, earlier.step⟩

theorem begin (reachable : Reachable config setup pipeline) (rest : pipeline.atRest = true)
    (action : Action α) : Reachable config setup (pipeline.begin action) := by
  obtain ⟨opening, made, earlier⟩ := reachable
  exact ⟨opening, made, earlier.begin rest action⟩

theorem act (reachable : Reachable config setup pipeline) (rest : pipeline.atRest = true)
    (action : Action α) (bound : Nat) :
    Reachable config setup ((pipeline.begin action).run bound) := by
  obtain ⟨opening, made, earlier⟩ := reachable
  exact ⟨opening, made, (earlier.begin rest action).run bound⟩

end Reachable

theorem run_add (first second : Nat) (pipeline : Pipeline α) :
    pipeline.run (first + second) = (pipeline.run first).run second := by
  induction first generalizing pipeline with
  | zero => rw [Nat.zero_add, run_zero]
  | succ first ih =>
      rw [Nat.succ_add, run_succ, run_succ]
      split
      · rename_i rest
        rw [run_of_atRest rest]
      · exact ih pipeline.step

theorem run_succ_of_busy {pipeline : Pipeline α} (busy : pipeline.atRest = false) (bound : Nat) :
    pipeline.run (bound + 1) = pipeline.step.run bound := by
  rw [run_succ, busy]
  rfl

/-! ## Calls that only announce a signal -/

end Pipeline

/-- A call of the stage that does nothing but announce a signal. -/
inductive Push (α : Type) where
  | next (item : α)
  | error (error : StreamError)
  | complete
  | tick (generation : UInt64)

namespace Push

def call : Push α → Inbound α
  | .next item => .next item
  | .error failure => .error failure
  | .complete => .complete
  | .tick generation => .tick generation

/-- The signal that it announces. -/
def signal : Push α → Signal α
  | .next item => .item item
  | .error failure => .failed failure .producer
  | .complete => .completed
  | .tick generation => .tick generation

/-- The action of the driver that makes the call. -/
def action : Push α → Action α
  | .next item => .next [item]
  | .error failure => .error failure
  | .complete => .complete
  | .tick generation => .tick generation

end Push

/-- Whether an action makes no other calls of the stage than those that announce a signal. -/
def Action.isPush : Action α → Bool
  | .next _ => true
  | .error _ => true
  | .complete => true
  | .tick _ => true
  | _ => false

/-- Whether an event passes a signal to the stage. -/
def Event.isPassing : Event α → Bool
  | .entered _ => true
  | .announced _ => true
  | _ => false

namespace Pipeline

/-- The driver acts again and again, each time when the pipeline has come to rest. -/
inductive InTurn : Pipeline α → List (Action α) → Pipeline α → Prop where
  | nil (pipeline : Pipeline α) : InTurn pipeline [] pipeline
  | cons {pipeline last : Pipeline α} {action : Action α} {actions : List (Action α)}
      (bound : Nat) (rest : ((pipeline.begin action).run bound).atRest = true)
      (others : InTurn ((pipeline.begin action).run bound) actions last) :
      InTurn pipeline (action :: actions) last

theorem InTurn.concat {first last : Pipeline α} {actions : List (Action α)} {action : Action α}
    (turns : InTurn first actions last) {bound : Nat}
    (rest : ((last.begin action).run bound).atRest = true) :
    InTurn first (actions ++ [action]) ((last.begin action).run bound) := by
  induction turns with
  | nil pipeline => exact .cons bound rest (.nil _)
  | cons earlier atRest _ ih => exact .cons earlier atRest (ih rest)

theorem InTurn.append {first middle last : Pipeline α} {actions others : List (Action α)}
    (turns : InTurn first actions middle) (later : InTurn middle others last) :
    InTurn first (actions ++ others) last := by
  induction turns with
  | nil pipeline => exact later
  | cons bound rest _ ih => exact .cons bound rest (ih later)

theorem run_eq_of_atRest {pipeline : Pipeline α} {first second : Nat}
    (firstRest : (pipeline.run first).atRest = true)
    (secondRest : (pipeline.run second).atRest = true) :
    pipeline.run first = pipeline.run second := by
  rcases Nat.le_total first second with longer | longer
  · obtain ⟨more, rfl⟩ := Nat.exists_eq_add_of_le longer
    rw [run_add, run_of_atRest firstRest]
  · obtain ⟨more, rfl⟩ := Nat.exists_eq_add_of_le longer
    rw [run_add, run_of_atRest secondRest]

/-- It does not matter how many steps the driver grants. -/
theorem InTurn.unique {first last other : Pipeline α} {actions : List (Action α)}
    (turns : InTurn first actions last) (otherTurns : InTurn first actions other) :
    last = other := by
  induction turns with
  | nil pipeline =>
      cases otherTurns
      rfl
  | cons bound rest others ih =>
      cases otherTurns with
      | cons otherBound otherRest otherOthers =>
          rw [run_eq_of_atRest otherRest rest] at otherOthers
          exact ih otherOthers

/-- A pipeline whose collaborators do nothing in the middle of calls. -/
def quiet (pipeline : Pipeline α) : Pipeline α :=
  { pipeline with reactions := fun _ _ => [] }

/-- A pipeline without its collaborators and without the record of what was passed to the stage. -/
def outline (pipeline : Pipeline α) : Pipeline α :=
  { pipeline.quiet with
    journal := pipeline.journal.filter fun entry => !entry.event.isPassing }

end Pipeline

end TimedBatch
