import TimedBatch.Pipeline

/-!
# Steps of a pipeline

A step does the first task of the agenda. The sections follow the tasks: holding and letting go of
the stage, the alarm, the ways in which a stage ends, the hand-off of a batch, the signals, the
calls of the stage, and what collaborators and the driver do.
-/

namespace TimedBatch.Pipeline

variable {α : Type}

/-! ## Log lines of the stage -/

def staleTickLine (generation current : UInt64) : LogLine :=
  ⟨.trace, "stale timer tick ignored",
    [("generation", .number generation.toNat), ("current", .number current.toNat)]⟩

def emptyTickLine (generation : UInt64) : LogLine :=
  ⟨.trace, "empty batch on timer tick, rescheduling",
    [("generation", .number generation.toNat)]⟩

def flushedLine (handOff : HandOff α) (generation : UInt64) : LogLine :=
  ⟨.debug, "buffer flushed",
    [("trigger", .text handOff.trigger.name), ("batch_len", .number handOff.batch.length),
      ("generation", .number generation.toNat)]⟩

def completedLine : LogLine :=
  ⟨.debug, "buffer timeout stage completed", []⟩

def lateErrorLine (error : StreamError) : LogLine :=
  ⟨.debug, "error dropped after termination", [("code", .text error.code)]⟩

/-- The stage failed on its own account. -/
def failedLine (error : StreamError) : LogLine :=
  ⟨.warn, "buffer timeout stage failed",
    [("code", .text error.code), ("message", .text error.message)]⟩

/-- The consumer cancelled while items were buffered. -/
def discardedLine (count : Nat) : LogLine :=
  ⟨.debug, "buffer discarded on cancel", [("discarded", .number count)]⟩

def secondProducerLine : LogLine :=
  ⟨.error, "on_subscribe called more than once",
    [("code", .text StreamError.duplicateSubscriptionCode)]⟩

/-! ## The alarm of the stage -/

/-- Cancel the alarm of the stage if it has one. -/
def cancelAlarm (pipeline : Pipeline α) : Pipeline α :=
  match pipeline.stage.alarm with
  | none => pipeline
  | some token =>
      { pipeline with
        timer := (pipeline.timer.cancel token).2
        stage := { pipeline.stage with alarm := none } }

@[simp]
theorem stage_cancelAlarm (pipeline : Pipeline α) :
    pipeline.cancelAlarm.stage = { pipeline.stage with alarm := none } := by
  unfold cancelAlarm
  split
  · rename_i unset
    rw [← unset]
  · rfl

theorem timer_cancelAlarm (pipeline : Pipeline α) :
    pipeline.cancelAlarm.timer =
      pipeline.stage.alarm.elim pipeline.timer fun token => (pipeline.timer.cancel token).2 := by
  unfold cancelAlarm
  split
  · rename_i unset
    rw [unset]
    rfl
  · rename_i token set
    rw [set]
    rfl

@[simp]
theorem hook_cancelAlarm (pipeline : Pipeline α) : pipeline.cancelAlarm.hook = pipeline.hook := by
  unfold cancelAlarm
  split <;> rfl

@[simp]
theorem agenda_cancelAlarm (pipeline : Pipeline α) :
    pipeline.cancelAlarm.agenda = pipeline.agenda := by
  unfold cancelAlarm
  split <;> rfl

@[simp]
theorem owned_cancelAlarm (pipeline : Pipeline α) :
    pipeline.cancelAlarm.owned = pipeline.owned := by
  unfold cancelAlarm
  split <;> rfl

@[simp]
theorem calls_cancelAlarm (pipeline : Pipeline α) :
    pipeline.cancelAlarm.calls = pipeline.calls := by
  unfold cancelAlarm
  split <;> rfl

@[simp]
theorem journal_cancelAlarm (pipeline : Pipeline α) :
    pipeline.cancelAlarm.journal = pipeline.journal := by
  unfold cancelAlarm
  split <;> rfl

/-- Ask the timer for an alarm of the current generation, after the time span of the stage. A
refusal that stands in for the timer is answered without asking it. -/
def askTimer (pipeline : Pipeline α) :
    Except TimerRejection CancelToken × Timer UInt64 :=
  match pipeline.refusal with
  | some rejection => (.error rejection, pipeline.timer)
  | none =>
      match pipeline.timer.schedule pipeline.stage.config.timeSpan pipeline.stage.generation with
      | (.error rejection, timer) => (.error rejection, timer)
      | (.ok token, timer) =>
          if pipeline.detached then
            let (stray, next) := timer.strayToken
            (.ok stray, next)
          else (.ok token, timer)

/-- Set an alarm. The answer of the timer reaches the stage after those who saw the call
reacted. -/
def setAlarm (pipeline : Pipeline α) (handOff : Option (HandOff α)) : Pipeline α :=
  let (outcome, timer) := pipeline.askTimer
  let delay := pipeline.stage.config.timeSpan
  { pipeline with timer := timer }.todo
    [.call (.schedule delay outcome.isOk), .answered outcome handOff]

/-! ## Holding the stage -/

/-- Do some tasks on the stage while holding it. -/
def hold (pipeline : Pipeline α) (tasks : List (Task α)) : Pipeline α :=
  { pipeline with holders := pipeline.holders + 1 }.todo (tasks ++ [Task.release])

/-- A stage that nobody holds cancels its alarm, and its items are lost. -/
def sweep (pipeline : Pipeline α) : Pipeline α :=
  if pipeline.alive then pipeline
  else
    let cancelled := pipeline.cancelAlarm
    cancelled.withStage cancelled.stage.emptied

/-- Let go of the stage at the end of a call. -/
def release (pipeline : Pipeline α) : Pipeline α :=
  { pipeline with holders := pipeline.holders - 1 }.sweep

def dropStage (pipeline : Pipeline α) : Pipeline α :=
  { pipeline with owned := false }.sweep

/-! ## Discarding and ending -/

/-- The tasks that give items to the discard hook. -/
def discardTasks (pipeline : Pipeline α) (items : List α) : List (Task α) :=
  (pipeline.hook.batchCalls items).map fun call => .call (.discard call)

/-- The tasks that cancel the attached producer. -/
def cancelProducerTasks (pipeline : Pipeline α) : List (Task α) :=
  pipeline.stage.producer.toList.map fun producer => .call (.cancel producer)

/-- Take the items out of the open batch and give them to the discard hook. -/
def discardBatch (pipeline : Pipeline α) (behind : List (Task α)) : Pipeline α :=
  let items := pipeline.stage.batch
  (pipeline.withStage pipeline.stage.emptied).todo
    (pipeline.discardTasks items ++ behind)

/-- End the stage with an error. After the end an error is only logged. -/
def endWith (pipeline : Pipeline α) (error : StreamError) (origin : Origin) : Pipeline α :=
  if pipeline.stage.isActive then
    (pipeline.withStage { pipeline.stage with status := .errored }).cancelAlarm.discardBatch
      [.reportError error origin]
  else pipeline.note (.log (lateErrorLine error))

/-- Report the error that ended the stage. A failure that the stage found cancels the producer
first. -/
def reportError (pipeline : Pipeline α) (error : StreamError) (origin : Origin) : Pipeline α :=
  match origin with
  | .producer => pipeline.todo [.call (.error error)]
  | .stage =>
      (pipeline.note (.log (failedLine error))).todo
        (pipeline.cancelProducerTasks ++ [.call (.error error)])

/-- Complete the stage unless it has ended. -/
def finish (pipeline : Pipeline α) : Pipeline α :=
  if pipeline.stage.isActive then
    ((pipeline.withStage { pipeline.stage with status := .completed }).note
      (.log completedLine)).todo [.call .complete]
  else pipeline

/-! ## Handing off a batch -/

/-- Deliver a batch that left the stage, or discard it where the stage has ended or the consumer
asked for no batch. The last batch is followed by the completion. -/
def deliver (pipeline : Pipeline α) (handOff : HandOff α) : Pipeline α :=
  if pipeline.stage.isActive then
    match pipeline.stage.ledger.payBatch with
    | none =>
        pipeline.cancelAlarm.todo
          (pipeline.discardTasks handOff.batch ++ [.endWith .insufficientDemand .stage])
    | some ledger =>
        let behind : List (Task α) := if handOff.trigger = .completion then [.finish] else []
        ((pipeline.withStage { pipeline.stage with ledger := ledger }).note
          (.log (flushedLine handOff pipeline.stage.generation))).todo
          (.call (.next handOff.batch) :: behind)
  else pipeline.todo (pipeline.discardTasks handOff.batch)

/-- Close the open batch and begin a new generation: the batch waits for the alarm of the new
generation to be set. -/
def closeBatch (pipeline : Pipeline α) (trigger : Trigger) : Pipeline α :=
  let batch := pipeline.stage.batch
  let renewed := (pipeline.withStage pipeline.stage.nextGeneration).cancelAlarm
  (renewed.withStage renewed.stage.emptied).todo
    [.setAlarm (some ⟨batch, trigger⟩)]

/-- Take the answer of the timer, and go on with the batch that waits for it. -/
def answered (pipeline : Pipeline α) (outcome : Except TimerRejection CancelToken)
    (handOff : Option (HandOff α)) : Pipeline α :=
  match outcome with
  | .ok token =>
      let armed := pipeline.withStage { pipeline.stage with alarm := some token }
      match handOff with
      | none => armed
      | some waiting => armed.deliver waiting
  | .error rejection =>
      let waiting := (handOff.map HandOff.batch).map pipeline.discardTasks
      pipeline.todo (waiting.getD [] ++ [.endWith (.timerRejected rejection) .stage])

/-! ## Signals -/

/-- Put a signal into the queue. Whoever finds the work counter at zero works the queue off. -/
def announce (pipeline : Pipeline α) (signal : Signal α) : Pipeline α :=
  let stage := pipeline.stage
  let queued :=
    (pipeline.withStage
      { stage with signals := stage.signals ++ [signal], work := stage.work + 1 }).note
      (.announced signal)
  if stage.work = 0 then queued.todo [.workOff 1] else queued

/-- Set the first alarm, unless one is set already. -/
def setFirstAlarm (pipeline : Pipeline α) : Pipeline α :=
  if pipeline.stage.isActive ∧ pipeline.stage.alarm = none then
    pipeline.todo [.setAlarm none]
  else pipeline

/-- Take an item in. An item that was not asked for ends the stage, and a stage that has ended
discards the item. -/
def takeIn (pipeline : Pipeline α) (item : α) : Pipeline α :=
  let discarded : Task α := .call (.discard (.item item))
  if pipeline.stage.isActive then
    match pipeline.stage.ledger.receiveItem with
    | none => pipeline.todo [discarded, .endWith .unrequestedElement .stage]
    | some ledger =>
        let stage :=
          { pipeline.stage with
            ledger := ledger
            batch := pipeline.stage.batch ++ [item]
            buffered := (pipeline.stage.batch ++ [item]).length }
        let taken := (pipeline.withStage stage).note (.takenIn item)
        if stage.isFull then taken.closeBatch .size else taken
  else pipeline.todo [discarded]

/-- The time span of a generation is over. A stale tick changes nothing; a tick that finds no item
only sets the alarm anew. -/
def endSpan (pipeline : Pipeline α) (generation : UInt64) : Pipeline α :=
  if pipeline.stage.isActive then
    if generation ≠ pipeline.stage.generation then
      pipeline.note (.log (staleTickLine generation pipeline.stage.generation))
    else if pipeline.stage.batch.isEmpty then
      (pipeline.note (.log (emptyTickLine generation))).cancelAlarm.todo [.setAlarm none]
    else pipeline.closeBatch .time
  else pipeline

/-- The producer completed: what is buffered is delivered first. -/
def deliverRest (pipeline : Pipeline α) : Pipeline α :=
  if pipeline.stage.isActive then
    let idle := pipeline.cancelAlarm
    if idle.stage.batch.isEmpty then idle.todo [.finish]
    else
      (idle.withStage idle.stage.emptied).deliver ⟨idle.stage.batch, .completion⟩
  else pipeline

/-- The consumer cancelled: what is buffered is discarded. -/
def discardRest (pipeline : Pipeline α) : Pipeline α :=
  let idle := pipeline.cancelAlarm
  let noted :=
    if idle.stage.batch.isEmpty then idle
    else idle.note (.log (discardedLine idle.stage.batch.length))
  noted.discardBatch []

/-- Work a signal off. -/
def handle (pipeline : Pipeline α) : Signal α → Pipeline α
  | .subscribed => pipeline.setFirstAlarm
  | .item item => pipeline.takeIn item
  | .tick generation => pipeline.endSpan generation
  | .completed => pipeline.deliverRest
  | .failed error origin => pipeline.endWith error origin
  | .cancelled => pipeline.discardRest

/-- Work the first signal off, or account for the signals that were announced. The work ends when
none were announced since the last account. -/
def workOff (pipeline : Pipeline α) (missed : Nat) : Pipeline α :=
  match pipeline.stage.signals with
  | signal :: rest =>
      (((pipeline.withStage { pipeline.stage with signals := rest }).note
        (.handled signal)).todo [.workOff missed]).handle signal
  | [] =>
      let left := pipeline.stage.work - missed
      let accounted := pipeline.withStage { pipeline.stage with work := left }
      if left = 0 then accounted else accounted.todo [.workOff left]

/-! ## Calls of the stage -/

/-- A producer subscribes. Only the first one is attached; another one is cancelled and ends the
stage. -/
def subscribe (pipeline : Pipeline α) (producer : Nat) : Pipeline α :=
  if pipeline.stage.producer.isSome then
    pipeline.todo
      [.call (.cancel producer), .log secondProducerLine,
        .announce (.failed .duplicateSubscription .stage)]
  else
    (pipeline.withStage { pipeline.stage with producer := some producer }).todo
      [.call .subscribe, .announce .subscribed, .firstRequest producer]

/-- Ask the first producer for items, unless the stage has ended. -/
def firstRequest (pipeline : Pipeline α) (producer : Nat) : Pipeline α :=
  if pipeline.stage.isActive then
    match pipeline.stage.ledger.firstRequest with
    | none => pipeline
    | some (credit, ledger) =>
        (pipeline.withStage { pipeline.stage with ledger := ledger }).todo
          [.call (.request producer credit)]
  else pipeline

/-- The consumer asks for batches. The attached producer is asked for what the batches lack. -/
def request (pipeline : Pipeline α) (batches : Amount) : Pipeline α :=
  if batches = 0 then pipeline
  else
    let asked :=
      pipeline.withStage
        { pipeline.stage with ledger := pipeline.stage.ledger.ask batches }
    if asked.stage.isActive then
      match asked.stage.producer, asked.stage.ledger.topUp with
      | some producer, some (credit, ledger) =>
          (asked.withStage { asked.stage with ledger := ledger }).todo
            [.call (.request producer credit)]
      | _, _ => asked
    else asked

/-- The consumer cancels. The status changes at once; the batch is discarded in its turn. -/
def cancel (pipeline : Pipeline α) : Pipeline α :=
  if pipeline.stage.isActive then
    (pipeline.withStage { pipeline.stage with status := .cancelled }).todo
      (pipeline.cancelProducerTasks ++ [.announce .cancelled])
  else pipeline

def enter (pipeline : Pipeline α) (call : Inbound α) : Pipeline α :=
  let entered := pipeline.note (.entered call)
  match call with
  | .subscribe producer => entered.subscribe producer
  | .next item => entered.announce (.item item)
  | .error error => entered.announce (.failed error .producer)
  | .complete => entered.announce .completed
  | .tick generation => entered.announce (.tick generation)
  | .request batches => entered.request batches
  | .cancel => entered.cancel

/-! ## Collaborators and the driver -/

/-- Whether a call is seen by somebody who may react to it. -/
def isSeen (pipeline : Pipeline α) : Outbound α → Bool
  | .discard _ => pipeline.hook.isObserved
  | _ => true

/-- Call a collaborator. It reacts in the middle of the call. -/
def call (pipeline : Pipeline α) (call : Outbound α) : Pipeline α :=
  let noted := pipeline.note (.called call)
  if pipeline.isSeen call then
    let kind := call.kind
    let count := pipeline.calls kind
    { noted with
      subscribed := noted.subscribed || kind = CallKind.subscribe
      calls := fun other => if other = kind then count + 1 else pipeline.calls other }.todo
      ((pipeline.reactions kind count).map Task.act)
  else noted

/-- Start one alarm that is due, or set the clock when none is left. The task of an alarm does
nothing when the stage is gone. -/
def advance (pipeline : Pipeline α) (instant : Duration) : Pipeline α :=
  match pipeline.timer.takeDue instant with
  | none => { pipeline with timer := pipeline.timer.setClock instant }
  | some (alarm, timer) =>
      let taken := { pipeline with timer := timer }.todo [.advance instant]
      if timer.isCancelled alarm.token then taken
      else
        let fired := taken.note .fired
        if fired.alive then fired.hold [.enter (.tick alarm.task)] else fired

/-- Call the stage on behalf of the driver, unless the driver gave it up. -/
def onStage (pipeline : Pipeline α) (tasks : List (Task α)) : Pipeline α :=
  if pipeline.owned then pipeline.hold tasks else pipeline

/-- Call the stage through the subscription of the consumer, unless there is none or the stage is
gone. -/
def onSubscription (pipeline : Pipeline α) (call : Inbound α) : Pipeline α :=
  if pipeline.subscribed ∧ pipeline.alive then pipeline.hold [.enter call] else pipeline

/-- Move the clock up to an instant, where it is moved by hand. -/
def moveClock (pipeline : Pipeline α) (instant : Duration) : Pipeline α :=
  match pipeline.timer.style with
  | .simulated => pipeline.todo [.advance instant]
  | .worker _ => pipeline

def act (pipeline : Pipeline α) : Action α → Pipeline α
  | .subscribe =>
      if pipeline.owned then
        { pipeline with producers := pipeline.producers + 1 }.hold
          [.enter (.subscribe pipeline.producers)]
      else pipeline
  | .next items => pipeline.onStage (items.map fun item => .enter (.next item))
  | .error error => pipeline.onStage [.enter (.error error)]
  | .complete => pipeline.onStage [.enter .complete]
  | .tick generation => pipeline.onStage [.enter (.tick generation)]
  | .flushNow => pipeline.onStage [.enter (.tick pipeline.stage.published)]
  | .request batches => pipeline.onSubscription (.request batches)
  | .cancel => pipeline.onSubscription .cancel
  | .advance span => pipeline.moveClock (pipeline.timer.now + span)
  | .advanceTo instant =>
      pipeline.moveClock (pipeline.timer.now + (instant - pipeline.timer.now))
  | .shutDownTimer =>
      let lines := pipeline.timer.closingLine?.toList
      { pipeline with timer := pipeline.timer.shutDown }.todo (lines.map .log)
  | .refuse rejection => { pipeline with refusal := some rejection }
  | .accept => { pipeline with refusal := none }
  | .dropStage => pipeline.dropStage
  | .diagnose =>
      if pipeline.owned then pipeline.note (.diagnosed pipeline.diagnostics) else pipeline
  | .inform =>
      if pipeline.owned then pipeline.note (.informed pipeline.information) else pipeline
  | .requestProducer items =>
      pipeline.onStage
        (pipeline.stage.producer.toList.map fun producer => .call (.bypass producer items))
  | .mark content => pipeline.note (.marked content)

def perform (pipeline : Pipeline α) : Task α → Pipeline α
  | .act action => pipeline.act action
  | .enter call => pipeline.enter call
  | .release => pipeline.release
  | .announce signal => pipeline.announce signal
  | .workOff missed => pipeline.workOff missed
  | .firstRequest producer => pipeline.firstRequest producer
  | .setAlarm handOff => pipeline.setAlarm handOff
  | .answered outcome handOff => pipeline.answered outcome handOff
  | .endWith error origin => pipeline.endWith error origin
  | .reportError error origin => pipeline.reportError error origin
  | .finish => pipeline.finish
  | .call call => pipeline.call call
  | .log line => pipeline.note (.log line)
  | .advance instant => pipeline.advance instant

/-- Do the first task of the agenda. At rest nothing happens. -/
def step (pipeline : Pipeline α) : Pipeline α :=
  match pipeline.agenda with
  | [] => pipeline
  | task :: rest => { pipeline with agenda := rest }.perform task

/-- Do tasks until none is left, but no more than a given number of them. -/
def run (bound : Nat) (pipeline : Pipeline α) : Pipeline α :=
  match bound with
  | 0 => pipeline
  | bound + 1 => if pipeline.atRest then pipeline else run bound pipeline.step

/-- Begin an action of the driver. -/
def begin (pipeline : Pipeline α) (action : Action α) : Pipeline α :=
  pipeline.todo [.act action]

end TimedBatch.Pipeline
