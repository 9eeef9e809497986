import TimedBatch.Timer

/-!
# Scripts of timer commands

The tasks of a timer are scripts of commands, and a command may set an alarm whose task is again
such a script. A run performs commands one at a time and keeps the errands that are still to be
done on an agenda, so tasks that move the clock themselves only add errands in front of those that
wait for them. A task that aborts drops the errands in front of the place that catches it: none for
the simulated timer, where the whole agenda is dropped, and the worker for the worker timer.
-/

namespace TimedBatch

/-- A command to a timer. The clock of the simulated timer is advanced by a span or up to an
instant; the worker timer is told to work until no task with a short delay waits. -/
inductive Command (ℓ : Type) where
  | schedule (delay : Duration) (label : ℓ) (body : List (Command ℓ))
  | cancel (slot : Nat)
  | isCancelled (slot : Nat)
  | forget (slot : Nat)
  | pending
  | isShutDown
  | workerName
  | now
  | record
  | shutDown
  | advance (span : Duration)
  | advanceTo (instant : Duration)
  | work
  | abort (message : String)

/-- The task of an alarm: a script with a label, and the delay with which it was set. -/
structure Job (ℓ : Type) where
  delay : Duration
  label : ℓ
  body : List (Command ℓ)

namespace Job

variable {ℓ : Type}

/-- Whether the delay of a job is short: below one second. -/
def isPrompt (job : Job ℓ) : Bool :=
  job.delay < .ofParts 1 0

end Job

inductive TimerReply where
  | nothing
  | slot (index : Nat)
  | refused (rejection : TimerRejection)
  | flag (value : Bool)
  | count (number : Nat)
  | text (content : String)
  | instant (reading : Duration)
  | aborted (message : String)
  deriving DecidableEq

/-- What a run reports: the alarms whose tasks start, with the reading of the clock, the commands
of tasks with their answers, and log lines. -/
inductive TimerNote (ℓ : Type) where
  | started (alarm : Alarm (Job ℓ)) (reading : Duration)
  | did (command : Command ℓ) (reply : TimerReply)
  | log (line : LogLine)

inductive Errand (ℓ : Type) where
  | perform (command : Command ℓ)
  /-- Report a command of a task that moved the clock. -/
  | conclude (command : Command ℓ)
  /-- Start what is due up to an instant, then set the clock to it. -/
  | advance (instant : Duration)
  /-- Start one task after the other as long as a task with a short delay waits. -/
  | work

/-- A run of timer commands. The tokens of the alarms stand in slots, one for each call that set or
failed to set an alarm. The clock of a worker moves on by a lag at each reading; the lags are
given in the order of the readings. Notes are kept with the newest first. -/
structure TimerRun (ℓ : Type) where
  timer : Timer (Job ℓ)
  lags : Nat → Duration := fun _ => .zero
  readings : Nat := 0
  slots : List (Option CancelToken) := []
  agenda : List (Errand ℓ) := []
  aborted : Option String := none
  notes : List (TimerNote ℓ) := []

namespace TimerRun

variable {ℓ : Type}

/-- A run of a new timer. A worker reports that it started. -/
def opening (style : TimerStyle) : TimerRun ℓ where
  timer := { style := style }
  notes := style.openingLine?.toList.map .log

def note (run : TimerRun ℓ) (entry : TimerNote ℓ) : TimerRun ℓ :=
  { run with notes := entry :: run.notes }

/-- The token in a slot, unless the slot is empty or was never made. -/
def token? (run : TimerRun ℓ) (slot : Nat) : Option CancelToken :=
  (run.slots[slot]?).join

/-- Read the clock. The clock of the simulated timer stands still. -/
def readClock (run : TimerRun ℓ) : TimerRun ℓ :=
  match run.timer.style with
  | .simulated => run
  | .worker _ =>
      { run with
        timer := run.timer.setClock (run.timer.now + run.lags run.readings)
        readings := run.readings + 1 }

/-- Set an alarm and keep its token in a new slot; a refusal leaves the new slot empty. -/
def schedule (run : TimerRun ℓ) (job : Job ℓ) : TimerReply × TimerRun ℓ :=
  let reading := run.readClock
  let (outcome, timer) := reading.timer.schedule job.delay job
  let next := { reading with timer := timer, slots := run.slots ++ [outcome.toOption] }
  match outcome with
  | .ok _ => (.slot run.slots.length, next)
  | .error rejection => (.refused rejection, next)

/-- Shut the timer down. A worker reports it the first time. -/
def shutDown (run : TimerRun ℓ) : TimerRun ℓ :=
  { run with
    timer := run.timer.shutDown
    notes := run.timer.closingLine?.toList.map .log ++ run.notes }

/-- The errand of a command that moves the clock. -/
def errand? (run : TimerRun ℓ) (command : Command ℓ) : Option (Errand ℓ) :=
  match run.timer.style, command with
  | .simulated, .advance span => some (.advance (run.timer.now + span))
  | .simulated, .advanceTo instant =>
      some (.advance (run.timer.now + (instant - run.timer.now)))
  | .worker _, .work => some .work
  | _, _ => none

/-- Perform a command that is done at once. -/
def answer (run : TimerRun ℓ) : Command ℓ → TimerReply × TimerRun ℓ
  | .schedule delay label body => run.schedule ⟨delay, label, body⟩
  | .cancel slot =>
      match run.token? slot with
      | none => (.nothing, run)
      | some token =>
          let (first, timer) := run.timer.cancel token
          (.flag first, { run with timer := timer })
  | .isCancelled slot =>
      match run.token? slot with
      | none => (.nothing, run)
      | some token => (.flag (run.timer.isCancelled token), run)
  | .forget slot => (.nothing, { run with slots := run.slots.set slot none })
  | .pending => (.count run.timer.pending, run)
  | .isShutDown => (.flag run.timer.isShutDown, run)
  | .workerName => (.text run.timer.workerName, run)
  | .now =>
      match run.timer.style with
      | .simulated => (.instant run.timer.now, run)
      | .worker _ => (.nothing, run)
  | .record => (.text run.timer.record, run)
  | .shutDown => (.nothing, run.shutDown)
  | .advance _ => (.nothing, run)
  | .advanceTo _ => (.nothing, run)
  | .work => (.nothing, run)
  | .abort message => (.aborted message, run)

/-- The errands behind the nearest place that catches an abort, that place included. -/
def catchers : List (Errand ℓ) → List (Errand ℓ)
  | [] => []
  | .work :: rest => .work :: rest
  | _ :: rest => catchers rest

/-- End a task before its script is done. The simulated timer catches nothing; the worker reports
the failure and goes on. -/
def abort (run : TimerRun ℓ) (message : String) : TimerRun ℓ :=
  match run.timer.style with
  | .simulated => { run with agenda := [], aborted := some message }
  | .worker name => { run with agenda := catchers run.agenda }.note (.log (.taskFailed name))

/-- Perform a command of a task and report it. -/
def perform (run : TimerRun ℓ) (command : Command ℓ) : TimerRun ℓ :=
  match run.errand? command with
  | some errand => { run with agenda := errand :: .conclude command :: run.agenda }
  | none =>
      match run.answer command with
      | (.aborted message, next) => next.abort message
      | (reply, next) => next.note (.did command reply)

/-- Start the task of an alarm that was taken from the queue, unless the alarm is cancelled. -/
def start (run : TimerRun ℓ) (alarm : Alarm (Job ℓ)) : TimerRun ℓ :=
  if run.timer.isCancelled alarm.token then run
  else
    { run with agenda := alarm.task.body.map Errand.perform ++ run.agenda }.note
      (.started alarm run.timer.now)

/-- Start one task that is due, or set the clock when none is left. -/
def advance (run : TimerRun ℓ) (instant : Duration) : TimerRun ℓ :=
  match run.timer.takeDue instant with
  | none => { run with timer := run.timer.setClock instant }
  | some (alarm, timer) =>
      { run with timer := timer, agenda := .advance instant :: run.agenda }.start alarm

/-- Wait for the first alarm of the queue and start its task, as long as a task with a short delay
waits. -/
def work (run : TimerRun ℓ) : TimerRun ℓ :=
  if run.timer.queue.any (·.task.isPrompt) then
    match run.timer.awaitFirst (run.lags run.readings) with
    | none => run
    | some (alarm, timer) =>
        { run with
          timer := timer
          readings := run.readings + 1
          agenda := .work :: run.agenda }.start alarm
  else run

def doErrand (run : TimerRun ℓ) : Errand ℓ → TimerRun ℓ
  | .perform command => run.perform command
  | .conclude command => run.note (.did command .nothing)
  | .advance instant => run.advance instant
  | .work => run.work

def step (run : TimerRun ℓ) : TimerRun ℓ :=
  match run.agenda with
  | [] => run
  | errand :: rest => { run with agenda := rest }.doErrand errand

end TimerRun

end TimedBatch
