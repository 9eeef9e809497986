import TimedBatch.Pipeline.Run

/-!
# What a task does

Performing a task changes the stage and the timer, adds events to the chronicle and puts tasks in
front of the agenda. `Dispatch` lists what working a signal off can do, and `Effect` what any task
can do; `exists_effect` says that nothing else happens. An invariant of all runs is proved by a
look at each case, without opening the definition of a step again.
-/

namespace TimedBatch

variable {α : Type}

/-- Whether an event neither passes anything to the stage nor comes from its work. -/
def Event.isInert : Event α → Bool
  | .fired => true
  | .log _ => true
  | .diagnosed _ => true
  | .informed _ => true
  | .marked _ => true
  | _ => false

/-- Whether a task is an action, a line of the log or the end of a hold on the stage. -/
def Task.isAside : Task α → Bool
  | .act _ => true
  | .release => true
  | .log _ => true
  | _ => false

theorem Task.isFree_of_isAside {task : Task α} (aside : task.isAside = true) :
    task.isFree = true := by
  cases task <;> first | rfl | cases aside

/-- The call of a collaborator that a task makes. -/
def Task.outbound? : Task α → Option (Outbound α)
  | .call outbound => some outbound
  | _ => none

/-- The call of the stage that a task makes. -/
def Task.inbound? : Task α → Option (Inbound α)
  | .enter inbound => some inbound
  | _ => none

/-- The signal that a call of the stage announces, for the calls that do nothing else. -/
def Inbound.signal? : Inbound α → Option (Signal α)
  | .next item => some (.item item)
  | .error failure => some (.failed failure .producer)
  | .complete => some .completed
  | .tick generation => some (.tick generation)
  | _ => none

/-- Whether an event is neither a call nor a matter of the queue. -/
def Event.isAside : Event α → Bool
  | .entered _ => false
  | .called _ => false
  | .announced _ => false
  | .handled _ => false
  | _ => true

theorem Event.isAside_of_isInert {event : Event α} (inert : event.isInert = true) :
    event.isAside = true := by
  cases event <;> first | rfl | cases inert

theorem Event.inbound?_of_isAside {event : Event α} (aside : event.isAside = true) :
    event.inbound? = none := by
  cases event <;> first | rfl | cases aside

theorem Event.outbound?_of_isAside {event : Event α} (aside : event.isAside = true) :
    event.outbound? = none := by
  cases event <;> first | rfl | cases aside

theorem Event.announced?_of_isAside {event : Event α} (aside : event.isAside = true) :
    event.announced? = none := by
  cases event <;> first | rfl | cases aside

theorem Event.handled?_of_isAside {event : Event α} (aside : event.isAside = true) :
    event.handled? = none := by
  cases event <;> first | rfl | cases aside

/-- A view that is blind to what is neither a call nor a matter of the queue sees nothing of it. -/
theorem filterMap_eq_nil_of_isAside {β : Type} {view : Event α → Option β} {events : List (Event α)}
    (blind : ∀ {event}, event.isAside = true → view event = none)
    (aside : ∀ event ∈ events, event.isAside = true) : events.filterMap view = [] :=
  List.filterMap_eq_nil_iff.mpr fun event member => blind (aside event member)

theorem Stage.isActive_iff {stage : Stage α} : stage.isActive = true ↔ stage.status = .active := by
  simp [Stage.isActive]

theorem Stage.isActive_eq_false_iff {stage : Stage α} :
    stage.isActive = false ↔ stage.status ≠ .active := by
  simp [Stage.isActive]

namespace Pipeline

/-! ## Parts of effects -/

/-- The tasks that give items to a discard hook. -/
def hookTasks (hook : DiscardHook) (items : List α) : List (Task α) :=
  (hook.batchCalls items).map fun call => .call (.discard call)

/-- The tasks that discard a batch and let the stage fail. -/
def failureTasks (hook : DiscardHook) (items : List α) (error : StreamError) : List (Task α) :=
  hookTasks hook items ++ [.endWith error .stage]

/-- The task of whoever announces a signal while nobody is at work on the queue. -/
def wakeTasks (stage : Stage α) : List (Task α) :=
  if stage.work = 0 then [.workOff 1] else []

/-- The tasks that follow the delivery of a batch. -/
def closingTasks (handOff : HandOff α) : List (Task α) :=
  if handOff.trigger = .completion then [.finish] else []

/-- A stage with one more signal in its queue. -/
def queued (stage : Stage α) (signal : Signal α) : Stage α :=
  { stage with signals := stage.signals ++ [signal], work := stage.work + 1 }

/-- A stage with no alarm and no item. -/
def cleared (stage : Stage α) : Stage α :=
  { stage with alarm := none, batch := [], buffered := 0 }

/-- A stage that begins a new generation. -/
def renewed (stage : Stage α) : Stage α :=
  { cleared stage with
    generation := stage.generation + 1
    published := stage.generation + 1 }

/-- A timer on which the alarm of a stage is cancelled. -/
def idleTimer (stage : Stage α) (timer : Timer UInt64) : Timer UInt64 :=
  stage.alarm.elim timer fun token => (timer.cancel token).2

theorem idleTimer_eq (stage : Stage α) (timer : Timer UInt64) :
    idleTimer stage timer = { timer with register := (idleTimer stage timer).register } := by
  rw [idleTimer]
  cases stage.alarm <;> rfl

theorem now_idleTimer (stage : Stage α) (timer : Timer UInt64) :
    (idleTimer stage timer).now = timer.now := by
  rw [idleTimer_eq]

theorem queue_idleTimer (stage : Stage α) (timer : Timer UInt64) :
    (idleTimer stage timer).queue = timer.queue := by
  rw [idleTimer_eq]

theorem nextOrder_idleTimer (stage : Stage α) (timer : Timer UInt64) :
    (idleTimer stage timer).nextOrder = timer.nextOrder := by
  rw [idleTimer_eq]

section Work

variable (hook : DiscardHook) (stage : Stage α) (timer : Timer UInt64)

/-- What becomes of a batch that left the stage. -/
inductive Delivery (handOff : HandOff α) :
    Stage α → Timer UInt64 → List (Event α) → List (Task α) → Prop where
  | late (ended : stage.status ≠ .active) :
      Delivery handOff stage timer [] (hookTasks hook handOff.batch)
  | unpaid (active : stage.status = .active) (unpaid : stage.ledger.payBatch = none) :
      Delivery handOff { stage with alarm := none } (idleTimer stage timer) []
        (failureTasks hook handOff.batch .insufficientDemand)
  | paid {ledger : Ledger} (active : stage.status = .active)
      (paid : stage.ledger.payBatch = some ledger) :
      Delivery handOff { stage with ledger := ledger } timer
        [.log (flushedLine handOff stage.generation)]
        (.call (.next handOff.batch) :: closingTasks handOff)

inductive Failure (error : StreamError) (origin : Origin) :
    Stage α → Timer UInt64 → List (Event α) → List (Task α) → Prop where
  | late (ended : stage.status ≠ .active) :
      Failure error origin stage timer [.log (lateErrorLine error)] []
  | ended (active : stage.status = .active) :
      Failure error origin { cleared stage with status := .errored } (idleTimer stage timer) []
        (hookTasks hook stage.batch ++ [.reportError error origin])

inductive Dispatch :
    Signal α → Stage α → Timer UInt64 → List (Event α) → List (Task α) → Prop where
  | subscribedAgain (idle : stage.status ≠ .active ∨ stage.alarm ≠ none) :
      Dispatch .subscribed stage timer [] []
  | subscribed (active : stage.status = .active) (unset : stage.alarm = none) :
      Dispatch .subscribed stage timer [] [.setAlarm none]
  | itemLate {item : α} (ended : stage.status ≠ .active) :
      Dispatch (.item item) stage timer [] [.call (.discard (.item item))]
  | itemUnrequested {item : α} (active : stage.status = .active)
      (unrequested : stage.ledger.receiveItem = none) :
      Dispatch (.item item) stage timer []
        [.call (.discard (.item item)), .endWith .unrequestedElement .stage]
  | itemTaken {item : α} {ledger : Ledger} (active : stage.status = .active)
      (received : stage.ledger.receiveItem = some ledger)
      (room : stage.batch.length + 1 < stage.config.maxSize.count) :
      Dispatch (.item item)
        { stage with
          ledger := ledger
          batch := stage.batch ++ [item]
          buffered := (stage.batch ++ [item]).length }
        timer [.takenIn item] []
  | itemLast {item : α} {ledger : Ledger} (active : stage.status = .active)
      (received : stage.ledger.receiveItem = some ledger)
      (full : stage.config.maxSize.count ≤ stage.batch.length + 1) :
      Dispatch (.item item) (renewed { stage with ledger := ledger }) (idleTimer stage timer)
        [.takenIn item] [.setAlarm (some ⟨stage.batch ++ [item], .size⟩)]
  | tickLate {generation : UInt64} (ended : stage.status ≠ .active) :
      Dispatch (.tick generation) stage timer [] []
  | tickStale {generation : UInt64} (active : stage.status = .active)
      (stale : generation ≠ stage.generation) :
      Dispatch (.tick generation) stage timer
        [.log (staleTickLine generation stage.generation)] []
  | tickEmpty (active : stage.status = .active) (empty : stage.batch = []) :
      Dispatch (.tick stage.generation) { stage with alarm := none } (idleTimer stage timer)
        [.log (emptyTickLine stage.generation)] [.setAlarm none]
  | tickClosing (active : stage.status = .active) (filled : stage.batch ≠ []) :
      Dispatch (.tick stage.generation) (renewed stage) (idleTimer stage timer) []
        [.setAlarm (some ⟨stage.batch, .time⟩)]
  | completedLate (ended : stage.status ≠ .active) : Dispatch .completed stage timer [] []
  | completedEmpty (active : stage.status = .active) (empty : stage.batch = []) :
      Dispatch .completed { stage with alarm := none } (idleTimer stage timer) [] [.finish]
  | completed {next : Stage α} {clock : Timer UInt64} {events : List (Event α)}
      {tasks : List (Task α)} (active : stage.status = .active) (filled : stage.batch ≠ [])
      (delivery : Delivery hook (cleared stage) (idleTimer stage timer)
        ⟨stage.batch, .completion⟩ next clock events tasks) :
      Dispatch .completed next clock events tasks
  | failed {error : StreamError} {origin : Origin} {next : Stage α} {clock : Timer UInt64}
      {events : List (Event α)} {tasks : List (Task α)}
      (failure : Failure hook stage timer error origin next clock events tasks) :
      Dispatch (.failed error origin) next clock events tasks
  | cancelledEmpty (empty : stage.batch = []) :
      Dispatch .cancelled (cleared stage) (idleTimer stage timer) [] (hookTasks hook [])
  | cancelled (filled : stage.batch ≠ []) :
      Dispatch .cancelled (cleared stage) (idleTimer stage timer)
        [.log (discardedLine stage.batch.length)] (hookTasks hook stage.batch)

end Work

section Aside

variable {hook : DiscardHook} {stage next : Stage α} {timer clock : Timer UInt64}
  {events : List (Event α)} {tasks : List (Task α)}

theorem Delivery.aside {handOff : HandOff α}
    (delivery : Delivery hook stage timer handOff next clock events tasks) :
    ∀ event ∈ events, event.isAside = true := by
  cases delivery <;> simp [Event.isAside]

theorem Failure.aside {error : StreamError} {origin : Origin}
    (failure : Failure hook stage timer error origin next clock events tasks) :
    ∀ event ∈ events, event.isAside = true := by
  cases failure <;> simp [Event.isAside]

theorem isAside_of_mem_logs {lines : List LogLine} :
    ∀ event ∈ (lines.map .log : List (Event α)), event.isAside = true := by
  intro event member
  obtain ⟨line, _, rfl⟩ := List.mem_map.mp member
  rfl

theorem Dispatch.aside {signal : Signal α}
    (dispatch : Dispatch hook stage timer signal next clock events tasks) :
    ∀ event ∈ events, event.isAside = true := by
  cases dispatch with
  | completed active filled delivery => exact delivery.aside
  | failed failure => exact failure.aside
  | _ => simp [Event.isAside]

end Aside

/-- What performing a task does, where the task is no longer on the agenda. -/
inductive Effect (pipeline : Pipeline α) :
    Task α → Stage α → Timer UInt64 → List (Event α) → List (Task α) → Prop where
  /-- The driver, a reaction or the clock leaves the stage and the timer alone. -/
  | free {task : Task α} {events : List (Event α)} {tasks : List (Task α)}
      (aside : task.isAside = true) (inert : ∀ event ∈ events, event.isInert = true)
      (allFree : ∀ task ∈ tasks, task.isFree = true) :
      Effect pipeline task pipeline.stage pipeline.timer events tasks
  /-- Nobody holds the stage any more. -/
  | swept {task : Task α} (aside : task.isAside = true)
      (gone : (pipeline.perform task).owned = false) :
      Effect pipeline task (cleared pipeline.stage) (idleTimer pipeline.stage pipeline.timer) [] []
  | timerClosed :
      Effect pipeline (.act .shutDownTimer) pipeline.stage pipeline.timer.shutDown []
        (pipeline.timer.closingLine?.toList.map .log)
  | clockSet {instant : Duration} (idle : pipeline.timer.takeDue instant = none) :
      Effect pipeline (.advance instant) pipeline.stage (pipeline.timer.setClock instant) [] []
  | alarmPassedOver {instant : Duration} {alarm : Alarm UInt64} {timer : Timer UInt64}
      (due : pipeline.timer.takeDue instant = some (alarm, timer))
      (cancelled : timer.isCancelled alarm.token = true) :
      Effect pipeline (.advance instant) pipeline.stage timer [] [.advance instant]
  | alarmFiredLate {instant : Duration} {alarm : Alarm UInt64} {timer : Timer UInt64}
      (due : pipeline.timer.takeDue instant = some (alarm, timer))
      (live : timer.isCancelled alarm.token = false) (gone : pipeline.alive = false) :
      Effect pipeline (.advance instant) pipeline.stage timer [.fired] [.advance instant]
  | alarmFired {instant : Duration} {alarm : Alarm UInt64} {timer : Timer UInt64}
      (due : pipeline.timer.takeDue instant = some (alarm, timer))
      (live : timer.isCancelled alarm.token = false) (held : pipeline.alive = true) :
      Effect pipeline (.advance instant) pipeline.stage timer [.fired]
        [.enter (.tick alarm.task), .release, .advance instant]
  | called {call : Outbound α} (actions : List (Action α)) :
      Effect pipeline (.call call) pipeline.stage pipeline.timer [.called call]
        (actions.map .act)
  | enteredSignal {call : Inbound α} {signal : Signal α} (announces : call.signal? = some signal) :
      Effect pipeline (.enter call) (queued pipeline.stage signal) pipeline.timer
        [.entered call, .announced signal] (wakeTasks pipeline.stage)
  | announced {signal : Signal α} :
      Effect pipeline (.announce signal) (queued pipeline.stage signal) pipeline.timer
        [.announced signal] (wakeTasks pipeline.stage)
  | attached {producer : Nat} (first : pipeline.stage.producer = none) :
      Effect pipeline (.enter (.subscribe producer))
        { pipeline.stage with producer := some producer } pipeline.timer
        [.entered (.subscribe producer)]
        [.call .subscribe, .announce .subscribed, .firstRequest producer]
  | attachedTwice {producer : Nat} (second : pipeline.stage.producer ≠ none) :
      Effect pipeline (.enter (.subscribe producer)) pipeline.stage pipeline.timer
        [.entered (.subscribe producer)]
        [.call (.cancel producer), .log secondProducerLine,
          .announce (.failed .duplicateSubscription .stage)]
  | requestedNothing :
      Effect pipeline (.enter (.request 0)) pipeline.stage pipeline.timer [.entered (.request 0)] []
  | requested {batches : Amount} (some : batches ≠ 0)
      (unmoved : pipeline.stage.status ≠ .active ∨ pipeline.stage.producer = none ∨
        (pipeline.stage.ledger.ask batches).topUp = none) :
      Effect pipeline (.enter (.request batches))
        { pipeline.stage with ledger := pipeline.stage.ledger.ask batches } pipeline.timer
        [.entered (.request batches)] []
  | requestedMore {batches credit : Amount} {ledger : Ledger} {producer : Nat}
      (some : batches ≠ 0) (active : pipeline.stage.status = .active)
      (attached : pipeline.stage.producer = .some producer)
      (short : (pipeline.stage.ledger.ask batches).topUp = .some (credit, ledger)) :
      Effect pipeline (.enter (.request batches)) { pipeline.stage with ledger := ledger }
        pipeline.timer [.entered (.request batches)] [.call (.request producer credit)]
  | cancelled (active : pipeline.stage.status = .active) :
      Effect pipeline (.enter .cancel) { pipeline.stage with status := .cancelled } pipeline.timer
        [.entered .cancel] (pipeline.cancelProducerTasks ++ [.announce .cancelled])
  | cancelledLate (ended : pipeline.stage.status ≠ .active) :
      Effect pipeline (.enter .cancel) pipeline.stage pipeline.timer [.entered .cancel] []
  | firstRequestIdle {producer : Nat}
      (unmoved : pipeline.stage.status ≠ .active ∨ pipeline.stage.ledger.firstRequest = none) :
      Effect pipeline (.firstRequest producer) pipeline.stage pipeline.timer [] []
  | firstRequest {producer : Nat} {credit : Amount} {ledger : Ledger}
      (active : pipeline.stage.status = .active)
      (short : pipeline.stage.ledger.firstRequest = some (credit, ledger)) :
      Effect pipeline (.firstRequest producer) { pipeline.stage with ledger := ledger }
        pipeline.timer [] [.call (.request producer credit)]
  | accounted {missed : Nat} (empty : pipeline.stage.signals = [])
      (done : pipeline.stage.work ≤ missed) :
      Effect pipeline (.workOff missed) { pipeline.stage with work := 0 } pipeline.timer [] []
  | accountedMore {missed : Nat} (empty : pipeline.stage.signals = [])
      (more : missed < pipeline.stage.work) :
      Effect pipeline (.workOff missed)
        { pipeline.stage with work := pipeline.stage.work - missed } pipeline.timer []
        [.workOff (pipeline.stage.work - missed)]
  | handled {missed : Nat} {signal : Signal α} {rest : List (Signal α)} {stage : Stage α}
      {timer : Timer UInt64} {events : List (Event α)} {tasks : List (Task α)}
      (first : pipeline.stage.signals = signal :: rest)
      (dispatch : Dispatch pipeline.hook { pipeline.stage with signals := rest } pipeline.timer
        signal stage timer events tasks) :
      Effect pipeline (.workOff missed) stage timer (.handled signal :: events)
        (tasks ++ [.workOff missed])
  | alarmSet {handOff : Option (HandOff α)} :
      Effect pipeline (.setAlarm handOff) pipeline.stage pipeline.askTimer.2 []
        [.call (.schedule pipeline.stage.config.timeSpan pipeline.askTimer.1.isOk),
          .answered pipeline.askTimer.1 handOff]
  | accepted {token : CancelToken} :
      Effect pipeline (.answered (.ok token) none) { pipeline.stage with alarm := some token }
        pipeline.timer [] []
  | acceptedHandOff {token : CancelToken} {handOff : HandOff α} {stage : Stage α}
      {timer : Timer UInt64} {events : List (Event α)} {tasks : List (Task α)}
      (delivery : Delivery pipeline.hook { pipeline.stage with alarm := some token } pipeline.timer
        handOff stage timer events tasks) :
      Effect pipeline (.answered (.ok token) (some handOff)) stage timer events tasks
  | refused {rejection : TimerRejection} :
      Effect pipeline (.answered (.error rejection) none) pipeline.stage pipeline.timer []
        [.endWith (.timerRejected rejection) .stage]
  | refusedHandOff {rejection : TimerRejection} {handOff : HandOff α} :
      Effect pipeline (.answered (.error rejection) (some handOff)) pipeline.stage pipeline.timer
        [] (failureTasks pipeline.hook handOff.batch (.timerRejected rejection))
  | failed {error : StreamError} {origin : Origin} {stage : Stage α} {timer : Timer UInt64}
      {events : List (Event α)} {tasks : List (Task α)}
      (failure : Failure pipeline.hook pipeline.stage pipeline.timer error origin stage timer events
        tasks) :
      Effect pipeline (.endWith error origin) stage timer events tasks
  | reportedProducer {error : StreamError} :
      Effect pipeline (.reportError error .producer) pipeline.stage pipeline.timer []
        [.call (.error error)]
  | reportedStage {error : StreamError} :
      Effect pipeline (.reportError error .stage) pipeline.stage pipeline.timer
        [.log (failedLine error)] (pipeline.cancelProducerTasks ++ [.call (.error error)])
  | finished (active : pipeline.stage.status = .active) :
      Effect pipeline .finish { pipeline.stage with status := .completed } pipeline.timer
        [.log completedLine] [.call .complete]
  | finishedLate (ended : pipeline.stage.status ≠ .active) :
      Effect pipeline .finish pipeline.stage pipeline.timer [] []

/-! ## Every task has one of these effects -/

/-- A pipeline becomes another one: stage and timer are given, events are added to the chronicle,
and tasks are put in front of the agenda. -/
structure Becomes (pipeline next : Pipeline α) (stage : Stage α) (timer : Timer UInt64)
    (events : List (Event α)) (tasks : List (Task α)) : Prop where
  stage_eq : next.stage = stage
  timer_eq : next.timer = timer
  chronicle_eq : next.chronicle = pipeline.chronicle ++ events
  agenda_eq : next.agenda = tasks ++ pipeline.agenda
  owned_of : next.owned = true → pipeline.owned = true
  calls_le : ∀ kind, pipeline.calls kind ≤ next.calls kind

theorem timer_cancelAlarm_eq (pipeline : Pipeline α) :
    pipeline.cancelAlarm.timer = idleTimer pipeline.stage pipeline.timer :=
  pipeline.timer_cancelAlarm

theorem discardTasks_eq (pipeline : Pipeline α) (items : List α) :
    pipeline.discardTasks items = hookTasks pipeline.hook items :=
  rfl

section Work

variable (pipeline : Pipeline α)

theorem exists_delivery (handOff : HandOff α) :
    ∃ stage timer events tasks,
      Delivery pipeline.hook pipeline.stage pipeline.timer handOff stage timer events tasks ∧
      Becomes pipeline (pipeline.deliver handOff) stage timer events tasks := by
  by_cases active : pipeline.stage.status = .active
  · have works := Stage.isActive_iff.mpr active
    cases paid : pipeline.stage.ledger.payBatch with
    | none =>
        refine ⟨_, _, _, _, .unpaid active paid, ?_⟩
        constructor <;>
          simp [deliver, works, paid, failureTasks, discardTasks_eq, timer_cancelAlarm_eq]
    | some ledger =>
        refine ⟨_, _, _, _, .paid active paid, ?_⟩
        constructor <;> simp [deliver, works, paid, closingTasks]
  · have ended := Stage.isActive_eq_false_iff.mpr active
    refine ⟨_, _, _, _, .late active, ?_⟩
    constructor <;> simp [deliver, ended, discardTasks_eq]

theorem exists_failure (error : StreamError) (origin : Origin) :
    ∃ stage timer events tasks,
      Failure pipeline.hook pipeline.stage pipeline.timer error origin stage timer events tasks ∧
      Becomes pipeline (pipeline.endWith error origin) stage timer events tasks := by
  by_cases active : pipeline.stage.status = .active
  · have works := Stage.isActive_iff.mpr active
    refine ⟨_, _, _, _, .ended active, ?_⟩
    constructor <;>
      simp [endWith, discardBatch, works, cleared, Stage.emptied, discardTasks_eq,
        timer_cancelAlarm_eq, idleTimer]
  · have ended := Stage.isActive_eq_false_iff.mpr active
    refine ⟨_, _, _, _, .late active, ?_⟩
    constructor <;> simp [endWith, ended]

theorem exists_takeIn (item : α) :
    ∃ stage timer events tasks,
      Dispatch pipeline.hook pipeline.stage pipeline.timer (.item item) stage timer events tasks ∧
      Becomes pipeline (pipeline.takeIn item) stage timer events tasks := by
  by_cases active : pipeline.stage.status = .active
  · have works := Stage.isActive_iff.mpr active
    cases received : pipeline.stage.ledger.receiveItem with
    | none =>
        refine ⟨_, _, _, _, .itemUnrequested active received, ?_⟩
        constructor <;> simp [takeIn, works, received]
    | some ledger =>
        by_cases full : pipeline.stage.config.maxSize.count ≤ pipeline.stage.batch.length + 1
        · refine ⟨_, _, _, _, .itemLast active received full, ?_⟩
          constructor <;>
            simp [takeIn, works, received, Stage.isFull, full, closeBatch, renewed, cleared,
              Stage.emptied, Stage.nextGeneration, timer_cancelAlarm_eq, idleTimer]
        · refine ⟨_, _, _, _, .itemTaken active received (Nat.lt_of_not_le full), ?_⟩
          constructor <;> simp [takeIn, works, received, Stage.isFull, full]
  · have ended := Stage.isActive_eq_false_iff.mpr active
    refine ⟨_, _, _, _, .itemLate active, ?_⟩
    constructor <;> simp [takeIn, ended]

theorem exists_endSpan (generation : UInt64) :
    ∃ stage timer events tasks,
      Dispatch pipeline.hook pipeline.stage pipeline.timer (.tick generation) stage timer events
        tasks ∧
      Becomes pipeline (pipeline.endSpan generation) stage timer events tasks := by
  by_cases active : pipeline.stage.status = .active
  · have works := Stage.isActive_iff.mpr active
    by_cases current : generation = pipeline.stage.generation
    · subst current
      by_cases empty : pipeline.stage.batch = []
      · refine ⟨_, _, _, _, .tickEmpty active empty, ?_⟩
        constructor <;> simp [endSpan, works, empty, timer_cancelAlarm_eq]
      · refine ⟨_, _, _, _, .tickClosing active empty, ?_⟩
        constructor <;>
          simp [endSpan, works, empty, closeBatch, renewed, cleared, Stage.emptied,
            Stage.nextGeneration, timer_cancelAlarm_eq, idleTimer]
    · refine ⟨_, _, _, _, .tickStale active current, ?_⟩
      constructor <;> simp [endSpan, works, current]
  · have ended := Stage.isActive_eq_false_iff.mpr active
    refine ⟨_, _, _, _, .tickLate active, ?_⟩
    constructor <;> simp [endSpan, ended]

theorem exists_deliverRest :
    ∃ stage timer events tasks,
      Dispatch pipeline.hook pipeline.stage pipeline.timer .completed stage timer events tasks ∧
      Becomes pipeline pipeline.deliverRest stage timer events tasks := by
  by_cases active : pipeline.stage.status = .active
  · have works := Stage.isActive_iff.mpr active
    by_cases empty : pipeline.stage.batch = []
    · refine ⟨_, _, _, _, .completedEmpty active empty, ?_⟩
      constructor <;> simp [deliverRest, works, empty, timer_cancelAlarm_eq]
    · obtain ⟨stage, timer, events, tasks, delivery, becomes⟩ :=
        exists_delivery (pipeline.cancelAlarm.withStage (cleared pipeline.stage))
          ⟨pipeline.stage.batch, .completion⟩
      have same : pipeline.deliverRest =
          (pipeline.cancelAlarm.withStage (cleared pipeline.stage)).deliver
            ⟨pipeline.stage.batch, .completion⟩ := by
        simp [deliverRest, works, empty, cleared, Stage.emptied]
      refine ⟨stage, timer, events, tasks, .completed active empty ?_, ?_⟩
      · simpa [withStage, timer_cancelAlarm_eq] using delivery
      · rw [same]
        constructor
        · exact becomes.stage_eq
        · exact becomes.timer_eq
        · simpa using becomes.chronicle_eq
        · simpa using becomes.agenda_eq
        · simpa using becomes.owned_of
        · simpa using becomes.calls_le
  · have ended := Stage.isActive_eq_false_iff.mpr active
    refine ⟨_, _, _, _, .completedLate active, ?_⟩
    constructor <;> simp [deliverRest, ended]

theorem exists_discardRest :
    ∃ stage timer events tasks,
      Dispatch pipeline.hook pipeline.stage pipeline.timer .cancelled stage timer events tasks ∧
      Becomes pipeline pipeline.discardRest stage timer events tasks := by
  by_cases empty : pipeline.stage.batch = []
  · refine ⟨_, _, _, _, .cancelledEmpty empty, ?_⟩
    constructor <;>
      simp [discardRest, discardBatch, empty, cleared, Stage.emptied, discardTasks_eq,
        timer_cancelAlarm_eq]
  · refine ⟨_, _, _, _, .cancelled empty, ?_⟩
    constructor <;>
      simp [discardRest, discardBatch, empty, cleared, Stage.emptied, discardTasks_eq,
        timer_cancelAlarm_eq]

theorem exists_dispatch (signal : Signal α) :
    ∃ stage timer events tasks,
      Dispatch pipeline.hook pipeline.stage pipeline.timer signal stage timer events tasks ∧
      Becomes pipeline (pipeline.handle signal) stage timer events tasks := by
  cases signal with
  | subscribed =>
      by_cases idle : pipeline.stage.isActive ∧ pipeline.stage.alarm = none
      · refine ⟨_, _, _, _, .subscribed (Stage.isActive_iff.mp idle.1) idle.2, ?_⟩
        constructor <;> simp [handle, setFirstAlarm, idle]
      · have reason : pipeline.stage.status ≠ .active ∨ pipeline.stage.alarm ≠ none := by
          rw [Stage.isActive_iff] at idle
          exact Decidable.not_and_iff_or_not.mp idle
        refine ⟨_, _, _, _, .subscribedAgain reason, ?_⟩
        constructor <;> simp [handle, setFirstAlarm, if_neg idle]
  | item item => exact exists_takeIn pipeline item
  | tick generation => exact exists_endSpan pipeline generation
  | completed => exact exists_deliverRest pipeline
  | failed error origin =>
      obtain ⟨stage, timer, events, tasks, failure, becomes⟩ :=
        exists_failure pipeline error origin
      exact ⟨stage, timer, events, tasks, .failed failure, becomes⟩
  | cancelled => exact exists_discardRest pipeline

theorem exists_workOff (missed : Nat) :
    ∃ stage timer events added, Effect pipeline (.workOff missed) stage timer events added ∧
      Becomes pipeline (pipeline.workOff missed) stage timer events added := by
  cases queue : pipeline.stage.signals with
  | nil =>
      by_cases done : pipeline.stage.work ≤ missed
      · have nothing : pipeline.stage.work - missed = 0 := Nat.sub_eq_zero_of_le done
        refine ⟨_, _, _, _, .accounted queue done, ?_⟩
        constructor <;> simp [workOff, queue, nothing]
      · have something : pipeline.stage.work - missed ≠ 0 := by omega
        refine ⟨_, _, _, _, .accountedMore queue (Nat.lt_of_not_le done), ?_⟩
        constructor <;> simp [workOff, queue, something]
  | cons signal rest =>
      let taken := pipeline.withStage { pipeline.stage with signals := rest }
      obtain ⟨stage, timer, events, tasks, dispatch, becomes⟩ :=
        exists_dispatch ((taken.note (.handled signal)).todo [.workOff missed]) signal
      have same : pipeline.workOff missed =
          ((taken.note (.handled signal)).todo [.workOff missed]).handle signal := by
        rw [workOff, queue]
      refine ⟨stage, timer, .handled signal :: events, tasks ++ [Task.workOff missed],
        .handled queue dispatch, ?_⟩
      rw [same]
      constructor
      · exact becomes.stage_eq
      · exact becomes.timer_eq
      · simpa [taken] using becomes.chronicle_eq
      · simpa [taken] using becomes.agenda_eq
      · simpa [taken] using becomes.owned_of
      · simpa [taken] using becomes.calls_le

end Work

theorem becomes_self (pipeline : Pipeline α) :
    Becomes pipeline pipeline pipeline.stage pipeline.timer [] [] := by
  constructor <;> simp

/-- Holding the stage only puts tasks on the agenda. -/
theorem becomes_hold (pipeline : Pipeline α) (tasks : List (Task α)) :
    Becomes pipeline (pipeline.hold tasks) pipeline.stage pipeline.timer []
      (tasks ++ [Task.release]) := by
  constructor <;> simp [hold, chronicle, todo]

theorem becomes_sweep (pipeline : Pipeline α) :
    (pipeline.alive = true ∧ pipeline.sweep = pipeline) ∨
      (pipeline.owned = false ∧ Becomes pipeline pipeline.sweep (cleared pipeline.stage)
        (idleTimer pipeline.stage pipeline.timer) [] []) := by
  by_cases held : pipeline.alive = true
  · exact Or.inl ⟨held, by simp [sweep, held]⟩
  · refine Or.inr ⟨?_, ?_⟩
    · simp [alive] at held
      exact held.1
    · constructor <;> simp [sweep, held, cleared, Stage.emptied, timer_cancelAlarm_eq]

theorem owned_sweep (pipeline : Pipeline α) : pipeline.sweep.owned = pipeline.owned := by
  unfold sweep cancelAlarm
  split
  · rfl
  · split <;> rfl

section Free

variable (pipeline : Pipeline α)

theorem exists_quiet {task : Task α} (aside : task.isAside = true) (tasks : List (Task α))
    (allFree : ∀ task ∈ tasks, task.isFree = true) {next : Pipeline α}
    (becomes : Becomes pipeline next pipeline.stage pipeline.timer [] tasks) :
    ∃ stage timer events added, Effect pipeline task stage timer events added ∧
      Becomes pipeline next stage timer events added :=
  ⟨_, _, [], tasks, .free aside (by simp) allFree, becomes⟩

theorem exists_onStage {task : Task α} (aside : task.isAside = true) (tasks : List (Task α))
    (allFree : ∀ task ∈ tasks, task.isFree = true) :
    ∃ stage timer events added, Effect pipeline task stage timer events added ∧
      Becomes pipeline (pipeline.onStage tasks) stage timer events added := by
  unfold onStage
  split
  · refine exists_quiet pipeline aside _ ?_ (becomes_hold pipeline tasks)
    intro added member
    rcases List.mem_append.mp member with member | member
    · exact allFree added member
    · rw [List.mem_singleton.mp member]
      rfl
  · exact exists_quiet pipeline aside [] (by simp) (becomes_self pipeline)

theorem exists_onSubscription {task : Task α} (aside : task.isAside = true) (call : Inbound α) :
    ∃ stage timer events added, Effect pipeline task stage timer events added ∧
      Becomes pipeline (pipeline.onSubscription call) stage timer events added := by
  unfold onSubscription
  split
  · exact exists_quiet pipeline aside _ (by simp [Task.isFree])
      (becomes_hold pipeline [.enter call])
  · exact exists_quiet pipeline aside [] (by simp) (becomes_self pipeline)

theorem exists_moveClock {task : Task α} (aside : task.isAside = true) (instant : Duration) :
    ∃ stage timer events added, Effect pipeline task stage timer events added ∧
      Becomes pipeline (pipeline.moveClock instant) stage timer events added := by
  unfold moveClock
  split
  · apply exists_quiet pipeline aside [.advance instant] (by simp [Task.isFree])
    constructor <;> simp
  · exact exists_quiet pipeline aside [] (by simp) (becomes_self pipeline)

theorem exists_noted {task : Task α} (aside : task.isAside = true) {event : Event α}
    (inert : event.isInert = true) :
    ∃ stage timer events added, Effect pipeline task stage timer events added ∧
      Becomes pipeline (pipeline.note event) stage timer events added := by
  refine ⟨_, _, [event], [], .free aside (by simpa using inert) (by simp), ?_⟩
  constructor <;> simp

theorem exists_release :
    ∃ stage timer events added, Effect pipeline .release stage timer events added ∧
      Becomes pipeline pipeline.release stage timer events added := by
  rcases becomes_sweep { pipeline with holders := pipeline.holders - 1 } with
    ⟨held, same⟩ | ⟨gone, becomes⟩
  · apply exists_quiet pipeline rfl [] (by simp)
    rw [release, same]
    exact ⟨rfl, rfl, by simp [chronicle], rfl, id, fun _ => Nat.le_refl _⟩
  · refine ⟨_, _, _, _, .swept rfl ?_, ?_⟩
    · rw [perform, release, owned_sweep]
      exact gone
    · exact ⟨becomes.stage_eq, becomes.timer_eq, becomes.chronicle_eq, becomes.agenda_eq,
        becomes.owned_of, becomes.calls_le⟩

theorem exists_dropStage :
    ∃ stage timer events added, Effect pipeline (.act .dropStage) stage timer events added ∧
      Becomes pipeline pipeline.dropStage stage timer events added := by
  have dropped : pipeline.dropStage.owned = false := by
    rw [dropStage, owned_sweep]
  have owned_of : pipeline.dropStage.owned = true → pipeline.owned = true := by
    rw [dropped]
    exact fun impossible => absurd impossible (by decide)
  rcases becomes_sweep { pipeline with owned := false } with ⟨held, same⟩ | ⟨gone, becomes⟩
  · apply exists_quiet pipeline rfl [] (by simp)
    rw [dropStage, same] at owned_of ⊢
    exact ⟨rfl, rfl, by simp [chronicle], rfl, owned_of, fun _ => Nat.le_refl _⟩
  · exact ⟨_, _, _, _, .swept rfl dropped,
      becomes.stage_eq, becomes.timer_eq, becomes.chronicle_eq, becomes.agenda_eq, owned_of,
      becomes.calls_le⟩

theorem exists_act (action : Action α) :
    ∃ stage timer events added, Effect pipeline (.act action) stage timer events added ∧
      Becomes pipeline (pipeline.act action) stage timer events added := by
  cases action with
  | subscribe =>
      simp only [act]
      split
      · refine exists_quiet pipeline rfl [.enter (.subscribe pipeline.producers), .release]
          (by simp [Task.isFree]) ?_
        constructor <;> simp [hold, chronicle, todo]
      · exact exists_quiet pipeline rfl [] (by simp) (becomes_self pipeline)
  | next items => exact exists_onStage pipeline rfl _ (by simp [Task.isFree])
  | error error => exact exists_onStage pipeline rfl _ (by simp [Task.isFree])
  | complete => exact exists_onStage pipeline rfl _ (by simp [Task.isFree])
  | tick generation => exact exists_onStage pipeline rfl _ (by simp [Task.isFree])
  | flushNow => exact exists_onStage pipeline rfl _ (by simp [Task.isFree])
  | requestProducer items => exact exists_onStage pipeline rfl _ (by simp [Task.isFree])
  | request batches => exact exists_onSubscription pipeline rfl _
  | cancel => exact exists_onSubscription pipeline rfl _
  | advance span => exact exists_moveClock pipeline rfl _
  | advanceTo instant => exact exists_moveClock pipeline rfl _
  | shutDownTimer =>
      refine ⟨_, _, _, _, .timerClosed, ?_⟩
      constructor <;> simp [act, chronicle, todo]
  | refuse rejection =>
      apply exists_quiet pipeline rfl [] (by simp)
      constructor <;> simp [act, chronicle]
  | accept =>
      apply exists_quiet pipeline rfl [] (by simp)
      constructor <;> simp [act, chronicle]
  | dropStage => exact exists_dropStage pipeline
  | diagnose =>
      simp only [act]
      split
      · exact exists_noted pipeline rfl rfl
      · exact exists_quiet pipeline rfl [] (by simp) (becomes_self pipeline)
  | inform =>
      simp only [act]
      split
      · exact exists_noted pipeline rfl rfl
      · exact exists_quiet pipeline rfl [] (by simp) (becomes_self pipeline)
  | mark content => exact exists_noted pipeline rfl rfl

theorem exists_advance (instant : Duration) :
    ∃ stage timer events added, Effect pipeline (.advance instant) stage timer events added ∧
      Becomes pipeline (pipeline.advance instant) stage timer events added := by
  cases due : pipeline.timer.takeDue instant with
  | none =>
      refine ⟨_, _, _, _, .clockSet due, ?_⟩
      constructor <;> simp [advance, due, chronicle]
  | some taken =>
      obtain ⟨alarm, timer⟩ := taken
      cases cancelled : timer.isCancelled alarm.token with
      | true =>
          refine ⟨_, _, _, _, .alarmPassedOver due cancelled, ?_⟩
          constructor <;> simp [advance, due, cancelled, chronicle, todo]
      | false =>
          let noted :=
            ({ pipeline with timer := timer }.todo [.advance instant]).note .fired
          have same : pipeline.advance instant =
              if noted.alive then noted.hold [.enter (.tick alarm.task)] else noted := by
            simp [advance, due, cancelled, noted]
          have alive_eq : noted.alive = pipeline.alive := rfl
          cases held : pipeline.alive with
          | true =>
              refine ⟨_, _, _, _, .alarmFired due cancelled held, ?_⟩
              rw [same, if_pos (alive_eq.trans held)]
              constructor <;> simp [noted, hold, chronicle, todo, note]
          | false =>
              have gone : ¬noted.alive = true := ne_true_of_eq_false (alive_eq.trans held)
              refine ⟨_, _, _, _, .alarmFiredLate due cancelled held, ?_⟩
              rw [same, if_neg gone]
              constructor <;> simp [noted, chronicle, todo, note]

end Free

section Calls

variable (pipeline : Pipeline α)

theorem exists_announce (signal : Signal α) :
    ∃ stage timer events added, Effect pipeline (.announce signal) stage timer events added ∧
      Becomes pipeline (pipeline.announce signal) stage timer events added := by
  refine ⟨_, _, _, _, .announced, ?_⟩
  by_cases alone : pipeline.stage.work = 0 <;>
    constructor <;> simp [announce, alone, queued, wakeTasks]

theorem exists_enterSignal {call : Inbound α} {signal : Signal α}
    (announces : call.signal? = some signal) :
    ∃ stage timer events added, Effect pipeline (.enter call) stage timer events added ∧
      Becomes pipeline ((pipeline.note (.entered call)).announce signal) stage timer events
        added := by
  refine ⟨_, _, _, _, .enteredSignal announces, ?_⟩
  by_cases alone : pipeline.stage.work = 0 <;>
    constructor <;> simp [announce, alone, queued, wakeTasks]

theorem exists_subscribe (producer : Nat) :
    ∃ stage timer events added,
      Effect pipeline (.enter (.subscribe producer)) stage timer events added ∧
      Becomes pipeline (pipeline.enter (.subscribe producer)) stage timer events added := by
  cases first : pipeline.stage.producer with
  | none =>
      refine ⟨_, _, _, _, .attached first, ?_⟩
      constructor <;> simp [enter, subscribe, first]
  | some earlier =>
      refine ⟨_, _, _, _, .attachedTwice (by simp [first]), ?_⟩
      constructor <;> simp [enter, subscribe, first]

theorem exists_request (batches : Amount) :
    ∃ stage timer events added,
      Effect pipeline (.enter (.request batches)) stage timer events added ∧
      Becomes pipeline (pipeline.enter (.request batches)) stage timer events added := by
  by_cases nothing : batches = 0
  · subst nothing
    refine ⟨_, _, _, _, .requestedNothing, ?_⟩
    constructor <;> simp [enter, request]
  by_cases active : pipeline.stage.status = .active
  · have works := Stage.isActive_iff.mpr active
    cases attached : pipeline.stage.producer with
    | none =>
        refine ⟨_, _, _, _, .requested nothing (Or.inr (Or.inl attached)), ?_⟩
        constructor <;> simp [enter, request, nothing, Stage.isActive, active, attached]
    | some producer =>
        cases short : (pipeline.stage.ledger.ask batches).topUp with
        | none =>
            refine ⟨_, _, _, _, .requested nothing (Or.inr (Or.inr short)), ?_⟩
            constructor <;> simp [enter, request, nothing, Stage.isActive, active, attached, short]
        | some claim =>
            obtain ⟨credit, ledger⟩ := claim
            refine ⟨_, _, _, _, .requestedMore nothing active attached short, ?_⟩
            constructor <;> simp [enter, request, nothing, Stage.isActive, active, attached, short]
  · refine ⟨_, _, _, _, .requested nothing (Or.inl active), ?_⟩
    constructor <;> simp [enter, request, nothing, Stage.isActive, active]

theorem exists_cancel :
    ∃ stage timer events added, Effect pipeline (.enter .cancel) stage timer events added ∧
      Becomes pipeline (pipeline.enter .cancel) stage timer events added := by
  by_cases active : pipeline.stage.status = .active
  · refine ⟨_, _, _, _, .cancelled active, ?_⟩
    constructor <;> simp [enter, cancel, Stage.isActive, active, cancelProducerTasks]
  · refine ⟨_, _, _, _, .cancelledLate active, ?_⟩
    constructor <;> simp [enter, cancel, Stage.isActive, active]

theorem exists_enter (call : Inbound α) :
    ∃ stage timer events added, Effect pipeline (.enter call) stage timer events added ∧
      Becomes pipeline (pipeline.enter call) stage timer events added := by
  cases call with
  | subscribe producer => exact exists_subscribe pipeline producer
  | next item => exact exists_enterSignal pipeline rfl
  | error error => exact exists_enterSignal pipeline rfl
  | complete => exact exists_enterSignal pipeline rfl
  | tick generation => exact exists_enterSignal pipeline rfl
  | request batches => exact exists_request pipeline batches
  | cancel => exact exists_cancel pipeline

theorem exists_firstRequest (producer : Nat) :
    ∃ stage timer events added, Effect pipeline (.firstRequest producer) stage timer events added ∧
      Becomes pipeline (pipeline.firstRequest producer) stage timer events added := by
  by_cases active : pipeline.stage.status = .active
  · have works := Stage.isActive_iff.mpr active
    cases short : pipeline.stage.ledger.firstRequest with
    | none =>
        refine ⟨_, _, _, _, .firstRequestIdle (Or.inr short), ?_⟩
        constructor <;> simp [firstRequest, works, short]
    | some claim =>
        obtain ⟨credit, ledger⟩ := claim
        refine ⟨_, _, _, _, .firstRequest active short, ?_⟩
        constructor <;> simp [firstRequest, works, short]
  · have ended := Stage.isActive_eq_false_iff.mpr active
    refine ⟨_, _, _, _, .firstRequestIdle (Or.inl active), ?_⟩
    constructor <;> simp [firstRequest, ended]

theorem exists_call (call : Outbound α) :
    ∃ stage timer events added, Effect pipeline (.call call) stage timer events added ∧
      Becomes pipeline (pipeline.call call) stage timer events added := by
  by_cases seen : pipeline.isSeen call = true
  · refine ⟨_, _, _, _, .called (pipeline.reactions call.kind (pipeline.calls call.kind)), ?_⟩
    constructor
    case calls_le =>
      intro kind
      simp only [Pipeline.call, seen, if_true, calls_todo]
      split
      · rename_i same
        rw [same]
        exact Nat.le_succ _
      · exact Nat.le_refl _
    all_goals simp [Pipeline.call, seen, chronicle, note, todo]
  · refine ⟨_, _, _, _, .called [], ?_⟩
    constructor <;> simp [Pipeline.call, seen]

end Calls

/-! ## The step -/

theorem exists_answered (pipeline : Pipeline α) (outcome : Except TimerRejection CancelToken)
    (handOff : Option (HandOff α)) :
    ∃ stage timer events added,
      Effect pipeline (.answered outcome handOff) stage timer events added ∧
      Becomes pipeline (pipeline.answered outcome handOff) stage timer events added := by
  cases outcome with
  | ok token =>
      cases handOff with
      | none =>
          refine ⟨_, _, _, _, .accepted, ?_⟩
          constructor <;> simp [answered]
      | some waiting =>
          obtain ⟨stage, timer, events, tasks, delivery, becomes⟩ :=
            exists_delivery (pipeline.withStage { pipeline.stage with alarm := some token }) waiting
          refine ⟨stage, timer, events, tasks, .acceptedHandOff delivery, ?_⟩
          exact ⟨becomes.stage_eq, becomes.timer_eq, becomes.chronicle_eq, becomes.agenda_eq,
        becomes.owned_of, becomes.calls_le⟩
  | error rejection =>
      cases handOff with
      | none =>
          refine ⟨_, _, _, _, .refused, ?_⟩
          constructor <;> simp [answered]
      | some waiting =>
          refine ⟨_, _, _, _, .refusedHandOff, ?_⟩
          constructor <;> simp [answered, failureTasks, discardTasks_eq]

/-- A collaborator is called where its task is done, and nowhere else. -/
theorem Effect.outbound_eq {pipeline : Pipeline α} {task : Task α} {stage : Stage α}
    {timer : Timer UInt64} {events : List (Event α)} {tasks : List (Task α)}
    (effect : Effect pipeline task stage timer events tasks) :
    events.filterMap Event.outbound? = task.outbound?.toList := by
  cases effect with
  | free aside inert allFree =>
      have unseen := fun event member => Event.isAside_of_isInert (inert event member)
      rw [filterMap_eq_nil_of_isAside Event.outbound?_of_isAside unseen]
      cases task <;> first | rfl | cases aside
  | swept aside gone => cases task <;> first | rfl | cases aside
  | handled first dispatch =>
      have silent := filterMap_eq_nil_of_isAside Event.outbound?_of_isAside dispatch.aside
      exact silent
  | acceptedHandOff delivery =>
      exact filterMap_eq_nil_of_isAside Event.outbound?_of_isAside delivery.aside
  | failed failure => exact filterMap_eq_nil_of_isAside Event.outbound?_of_isAside failure.aside
  | _ => rfl

/-- The stage is called where the task of the call is done, and nowhere else. -/
theorem Effect.inbound_eq {pipeline : Pipeline α} {task : Task α} {stage : Stage α}
    {timer : Timer UInt64} {events : List (Event α)} {tasks : List (Task α)}
    (effect : Effect pipeline task stage timer events tasks) :
    events.filterMap Event.inbound? = task.inbound?.toList := by
  cases effect with
  | free aside inert allFree =>
      have unseen := fun event member => Event.isAside_of_isInert (inert event member)
      rw [filterMap_eq_nil_of_isAside Event.inbound?_of_isAside unseen]
      cases task <;> first | rfl | cases aside
  | swept aside gone => cases task <;> first | rfl | cases aside
  | handled first dispatch =>
      have silent := filterMap_eq_nil_of_isAside Event.inbound?_of_isAside dispatch.aside
      exact silent
  | acceptedHandOff delivery =>
      exact filterMap_eq_nil_of_isAside Event.inbound?_of_isAside delivery.aside
  | failed failure => exact filterMap_eq_nil_of_isAside Event.inbound?_of_isAside failure.aside
  | _ => rfl

/-- Every task does what one of the effects says, and nothing else. -/
theorem exists_effect (pipeline : Pipeline α) (task : Task α) :
    ∃ stage timer events tasks, Effect pipeline task stage timer events tasks ∧
      Becomes pipeline (pipeline.perform task) stage timer events tasks := by
  cases task with
  | act action => exact exists_act pipeline action
  | enter call => exact exists_enter pipeline call
  | release => exact exists_release pipeline
  | announce signal => exact exists_announce pipeline signal
  | workOff missed => exact exists_workOff pipeline missed
  | firstRequest producer => exact exists_firstRequest pipeline producer
  | setAlarm handOff =>
      refine ⟨_, _, _, _, .alarmSet, ?_⟩
      constructor <;> simp [perform, setAlarm, chronicle, todo]
  | answered outcome handOff => exact exists_answered pipeline outcome handOff
  | endWith error origin =>
      obtain ⟨stage, timer, events, tasks, failure, becomes⟩ :=
        exists_failure pipeline error origin
      exact ⟨stage, timer, events, tasks, .failed failure, becomes⟩
  | reportError error origin =>
      cases origin with
      | producer =>
          refine ⟨_, _, _, _, .reportedProducer, ?_⟩
          constructor <;> simp [perform, reportError]
      | stage =>
          refine ⟨_, _, _, _, .reportedStage, ?_⟩
          constructor <;> simp [perform, reportError]
  | finish =>
      by_cases active : pipeline.stage.status = .active
      · refine ⟨_, _, _, _, .finished active, ?_⟩
        constructor <;> simp [perform, finish, Stage.isActive, active]
      · refine ⟨_, _, _, _, .finishedLate active, ?_⟩
        constructor <;> simp [perform, finish, Stage.isActive, active]
  | call call => exact exists_call pipeline call
  | log line =>
      refine ⟨_, _, [.log line], [], .free rfl (by simp [Event.isInert]) (by simp), ?_⟩
      constructor <;> simp [perform]
  | advance instant => exact exists_advance pipeline instant

section Equations

variable {pipeline : Pipeline α}

theorem workOff_of_cons {signal : Signal α} {rest : List (Signal α)}
    (first : pipeline.stage.signals = signal :: rest) (missed : Nat) :
    pipeline.workOff missed =
      (((pipeline.withStage { pipeline.stage with signals := rest }).note
        (.handled signal)).todo [.workOff missed]).handle signal := by
  rw [workOff, first]

theorem workOff_of_nil (nothing : pipeline.stage.signals = []) (missed : Nat) :
    pipeline.workOff missed =
      (pipeline.withStage { pipeline.stage with work := pipeline.stage.work - missed }).todo
        (if pipeline.stage.work - missed = 0 then []
        else [.workOff (pipeline.stage.work - missed)]) := by
  rw [workOff, nothing]
  dsimp only
  split <;> rfl

theorem advance_of_due {instant : Duration} {alarm : Alarm UInt64} {timer : Timer UInt64}
    (due : pipeline.timer.takeDue instant = some (alarm, timer)) :
    pipeline.advance instant =
      if timer.isCancelled alarm.token then { pipeline with timer := timer }.todo [.advance instant]
      else if pipeline.alive then
        (({ pipeline with timer := timer }.todo [.advance instant]).note .fired).hold
          [.enter (.tick alarm.task)]
      else ({ pipeline with timer := timer }.todo [.advance instant]).note .fired := by
  rw [advance, due]
  rfl

end Equations

theorem step_of_agenda {pipeline : Pipeline α} {task : Task α} {rest : List (Task α)}
    (agenda_eq : pipeline.agenda = task :: rest) :
    pipeline.step = { pipeline with agenda := rest }.perform task := by
  rw [step, agenda_eq]

theorem busy_of_agenda {pipeline : Pipeline α} {task : Task α} {rest : List (Task α)}
    (agenda_eq : pipeline.agenda = task :: rest) : pipeline.atRest = false := by
  rw [atRest, agenda_eq]
  rfl

theorem run_of_agenda {pipeline : Pipeline α} {task : Task α} {rest : List (Task α)}
    (agenda_eq : pipeline.agenda = task :: rest) (steps : Nat) :
    pipeline.run (steps + 1) = ({ pipeline with agenda := rest }.perform task).run steps := by
  rw [run_succ_of_busy (busy_of_agenda agenda_eq), step_of_agenda agenda_eq]

theorem step_of_atRest {pipeline : Pipeline α} (rest : pipeline.atRest = true) :
    pipeline.step = pipeline := by
  rw [step, List.isEmpty_iff.mp rest]

theorem agenda_begin_of_atRest {pipeline : Pipeline α} (rest : pipeline.atRest = true)
    (action : Action α) : (pipeline.begin action).agenda = [.act action] := by
  rw [begin, agenda_todo, List.isEmpty_iff.mp rest, List.append_nil]

theorem exists_step_effect {pipeline : Pipeline α} {task : Task α} {rest : List (Task α)}
    (agenda_eq : pipeline.agenda = task :: rest) :
    ∃ stage timer events tasks,
      Effect { pipeline with agenda := rest } task stage timer events tasks ∧
      Becomes { pipeline with agenda := rest } pipeline.step stage timer events tasks := by
  rw [step_of_agenda agenda_eq]
  exact exists_effect _ task

/-- What every effect and every new action preserve holds from then on. -/
theorem Later.preserve {first last : Pipeline α} (later : Later first last)
    (holds : Stage α → List (Task α) → List (Event α) → Prop)
    (start : holds first.stage first.agenda first.chronicle)
    (begins : ∀ stage events action, holds stage [] events → holds stage [.act action] events)
    (effects : ∀ (pipeline : Pipeline α) task stage timer events tasks,
      Effect pipeline task stage timer events tasks →
      holds pipeline.stage (task :: pipeline.agenda) pipeline.chronicle →
      holds stage (tasks ++ pipeline.agenda) (pipeline.chronicle ++ events)) :
    holds last.stage last.agenda last.chronicle := by
  induction later with
  | here => exact start
  | @step last _ ih =>
      -- At rest a step does nothing; otherwise it has one of the effects of its first task.
      cases agenda_eq : last.agenda with
      | nil =>
          rw [step_of_atRest (List.isEmpty_iff.mpr agenda_eq)]
          exact ih
      | cons task rest =>
          obtain ⟨stage, timer, events, tasks, effect, becomes⟩ := exists_step_effect agenda_eq
          rw [becomes.stage_eq, becomes.agenda_eq, becomes.chronicle_eq]
          rw [agenda_eq] at ih
          exact effects _ task stage timer events tasks effect ih
  | @begin last _ rest action ih =>
      rw [agenda_begin_of_atRest rest]
      rw [List.isEmpty_iff.mp rest] at ih
      exact begins last.stage last.chronicle action ih

theorem opening?_eq_ok {config : Config} {setup : Setup α} {pipeline : Pipeline α}
    (made : opening? config setup = .ok pipeline) :
    config.fault? = none ∧ pipeline.stage = .opening config ∧ pipeline.agenda = [] ∧
      ∃ lines, pipeline.chronicle = List.map Event.log lines := by
  cases fault : config.fault? with
  | some found => simp [opening?, fault] at made
  | none =>
      simp only [opening?, fault] at made
      cases made
      refine ⟨rfl, rfl, rfl, setup.style.openingLine?.toList.reverse, ?_⟩
      simp [chronicle, Function.comp_def]

/-- What holds of every new pipeline, and what every effect and every new action preserve, holds
of every reachable one. -/
theorem Reachable.preserve {config : Config} {setup : Setup α} {pipeline : Pipeline α}
    (reachable : Reachable config setup pipeline)
    (holds : Stage α → List (Task α) → List (Event α) → Prop)
    (start : ∀ lines : List LogLine, holds (.opening config) [] (lines.map .log))
    (begins : ∀ stage events action, holds stage [] events → holds stage [.act action] events)
    (effects : ∀ (pipeline : Pipeline α) task stage timer events tasks,
      Effect pipeline task stage timer events tasks →
      holds pipeline.stage (task :: pipeline.agenda) pipeline.chronicle →
      holds stage (tasks ++ pipeline.agenda) (pipeline.chronicle ++ events)) :
    holds pipeline.stage pipeline.agenda pipeline.chronicle := by
  obtain ⟨opening, made, later⟩ := reachable
  obtain ⟨_, stage_eq, agenda_eq, lines, chronicle_eq⟩ := opening?_eq_ok made
  refine later.preserve holds ?_ begins effects
  rw [stage_eq, agenda_eq, chronicle_eq]
  exact start lines

end Pipeline

end TimedBatch
