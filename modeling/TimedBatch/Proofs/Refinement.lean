import TimedBatch.Proofs.Places

/-!
# A stage does what a plain buffer does

A stage that asks its producer for everything at once, on a simulated timer of its own, is seen to
do what a plain buffer does. At rest the stage keeps the batch, the demand and the status of the
buffer. While it works exactly one alarm waits on its timer: it carries the generation of the
stage, and its deadline is that of the buffer.
-/

namespace TimedBatch

variable {α : Type}

/-! ## The ledger of an unbounded stage -/

/-- The ledger of a stage that asked its producer for everything at once. -/
def Ledger.account (batchSize demand : Amount) : Ledger where
  policy := .unbounded
  batchSize := batchSize
  requested := demand
  outstanding := .unbounded

theorem Ledger.payBatch_account (batchSize demand : Amount) :
    (account batchSize demand).payBatch = (PlainBuffer.pay demand).map (account batchSize) := by
  rw [payBatch, PlainBuffer.pay]
  change (if demand = .unbounded then _ else if demand = 0 then _ else _) = _
  split
  · rfl
  · split <;> rfl

theorem Ledger.receiveItem_account (batchSize demand : Amount) :
    (account batchSize demand).receiveItem = some (account batchSize demand) :=
  if_pos rfl

namespace Pipeline

/-! ## Mirrors -/

/-- The stage of a pipeline with the batch, the demand and the status of a plain buffer. -/
def shape (config : Config) (buffer : PlainBuffer α) (generation : UInt64)
    (alarm : Option CancelToken) : Stage α where
  config := config
  ledger := .account config.maxSize buffer.demand
  status := buffer.status
  producer := some 0
  batch := buffer.batch
  buffered := buffer.batch.length
  generation := generation
  published := generation
  alarm := alarm

/-- A plain buffer has the limits of a stage, and its clock goes with that of a timer. -/
structure InStep (config : Config) (buffer : PlainBuffer α) (timer : Timer UInt64) : Prop where
  size_eq : buffer.limits.size = config.maxSize.count
  span_eq : buffer.limits.span = config.timeSpan.nanos
  now_eq : timer.now.nanos = buffer.now
  now_lt : buffer.now < Duration.longest.nanos

/-- How a stage and its timer stand between two calls, given a plain buffer. -/
inductive Standing (config : Config) (buffer : PlainBuffer α) : Stage α → Timer UInt64 → Prop where
  /-- One alarm waits, and it is due when the time of the batch is over. -/
  | working {timer : Timer UInt64} {alarm : Alarm UInt64} (active : buffer.isActive = true)
      (keeps : timer.Keeps [alarm]) (early : buffer.now < buffer.deadline)
      (deadline_eq : alarm.deadline.nanos = min buffer.deadline Duration.longest.nanos) :
      Standing config buffer (shape config buffer alarm.task (some alarm.token)) timer
  | ended {timer : Timer UInt64} {generation : UInt64} {alarm : Option CancelToken}
      (ended : buffer.isActive = false) (keeps : timer.Keeps []) :
      Standing config buffer (shape config buffer generation alarm) timer

/-- A stage and its timer mirror a plain buffer. -/
structure Mirrors (config : Config) (buffer : PlainBuffer α) (stage : Stage α)
    (timer : Timer UInt64) : Prop where
  inStep : InStep config buffer timer
  standing : Standing config buffer stage timer

theorem InStep.keep {config : Config} {buffer next : PlainBuffer α} {timer clock : Timer UInt64}
    (inStep : InStep config buffer timer) (limits_eq : next.limits = buffer.limits)
    (now_eq : next.now = buffer.now) (clock_eq : clock.now = timer.now) :
    InStep config next clock := by
  constructor
  · rw [limits_eq, inStep.size_eq]
  · rw [limits_eq, inStep.span_eq]
  · rw [clock_eq, inStep.now_eq, now_eq]
  · rw [now_eq]
    exact inStep.now_lt

section Work

variable {hook : DiscardHook} {config : Config} {buffer : PlainBuffer α} {timer : Timer UInt64}
  {lower : List (Task α)}

/-- An alarm that is set when the time of a batch begins is due when it is over. -/
theorem InStep.standing (inStep : InStep config buffer timer) (active : buffer.isActive = true)
    (fresh : buffer.deadline = buffer.now + buffer.limits.span) {clock : Timer UInt64}
    {alarm : Alarm UInt64} (keeps : clock.Keeps [alarm])
    (due_eq : alarm.deadline = timer.now + config.timeSpan) :
    Standing config buffer (shape config buffer alarm.task (some alarm.token)) clock := by
  refine .working active keeps ?_ ?_
  · rw [fresh]
    exact Nat.lt_add_of_pos_right buffer.limits.span_pos
  · rw [due_eq, fresh, Duration.nanos_add, inStep.now_eq, inStep.span_eq]
    rfl

/-! ## Flushes -/

variable (hook config lower) in
/-- The stage delivers a batch that left it, or fails, as the plain buffer does. -/
theorem delivered_or_failed (now_eq : timer.now.nanos = buffer.now)
    (active : buffer.isActive = true) (generation : UInt64) (alarm : Option CancelToken)
    (trigger : Trigger) :
    (buffer.deliver.isActive = true ∧
      LeadsBy hook (deliver · ⟨buffer.batch, trigger⟩)
        ⟨busy (shape config { buffer with batch := [] } generation alarm), timer, lower,
          buffer.said⟩
        ⟨busy (shape config buffer.deliver generation alarm), timer,
          closingTasks ⟨buffer.batch, trigger⟩ ++ lower, buffer.deliver.said⟩) ∨
    (buffer.deliver.isActive = false ∧
      LeadsBy hook (deliver · ⟨buffer.batch, trigger⟩)
        ⟨busy (shape config { buffer with batch := [] } generation alarm), timer, lower,
          buffer.said⟩
        ⟨busy (shape config buffer.deliver generation none),
          alarm.elim timer fun token => (timer.cancel token).2, lower, buffer.deliver.said⟩) := by
  let stage : Stage α := busy (shape config { buffer with batch := [] } generation alarm)
  have works : stage.isActive = true := active
  have payBatch_eq : stage.ledger.payBatch =
      (PlainBuffer.pay buffer.demand).map (.account config.maxSize) :=
    Ledger.payBatch_account config.maxSize buffer.demand
  rw [PlainBuffer.deliver]
  cases paid : PlainBuffer.pay buffer.demand with
  | none =>
      rw [paid] at payBatch_eq
      have attached : stage.producer = some 0 := rfl
      have empty : stage.batch = [] := rfl
      have failed : LeadsBy hook (deliver · ⟨buffer.batch, trigger⟩)
          ⟨stage, timer, lower, buffer.said⟩ _ :=
        leadsBy_deliver_unpaid _ works attached empty payBatch_eq
      rw [now_eq] at failed
      exact Or.inr ⟨rfl, failed⟩
  | some demand =>
      rw [paid] at payBatch_eq
      have delivered : LeadsBy hook (deliver · ⟨buffer.batch, trigger⟩)
          ⟨stage, timer, lower, buffer.said⟩ _ :=
        leadsBy_deliver _ works payBatch_eq
      rw [now_eq] at delivered
      exact Or.inl ⟨active, delivered⟩

variable (hook lower) in
/-- A batch that left the stage in the middle of its work is delivered as the plain buffer delivers
it, and the next alarm is set. -/
theorem exists_flushed (inStep : InStep config buffer timer) (active : buffer.isActive = true)
    (keeps : timer.Keeps []) (generation : UInt64) (trigger : Trigger)
    (midway : trigger ≠ .completion) :
    ∃ stage clock, Mirrors config buffer.renew.deliver stage clock ∧
      Leads hook
        ⟨busy (shape config { buffer with batch := [] } generation none), timer,
          .setAlarm (some ⟨buffer.batch, trigger⟩) :: lower, buffer.said⟩
        ⟨busy stage, clock, lower, buffer.renew.deliver.said⟩ := by
  obtain ⟨alarm, next, keeps, clock_eq, deadline_eq, task_eq, armed⟩ :=
    exists_armed (busy (shape config { buffer with batch := [] } generation none)) keeps
  have inStep' : InStep config buffer.renew.deliver next :=
    inStep.keep (PlainBuffer.limits_deliver _) (PlainBuffer.now_deliver _) clock_eq
  have now_eq : next.now.nanos = buffer.renew.now := by
    rw [clock_eq, inStep.now_eq]
    rfl
  have nothing : (closingTasks ⟨buffer.renew.batch, trigger⟩ : List (Task α)) = [] :=
    if_neg midway
  have outcome := delivered_or_failed hook config lower now_eq active generation
    (some alarm.token) trigger
  rcases outcome with ⟨works, delivered⟩ | ⟨ended, failed⟩
  · refine ⟨shape config buffer.renew.deliver generation (some alarm.token), next,
      ⟨inStep', ?_⟩, (armed _ _ _ _).trans (leads_answered_handOff ?_)⟩
    · have fresh : buffer.renew.deliver.deadline =
          buffer.renew.deliver.now + buffer.renew.deliver.limits.span := by
        rw [PlainBuffer.deadline_deliver, PlainBuffer.now_deliver, PlainBuffer.limits_deliver]
        rfl
      have standing := (inStep'.keep rfl rfl clock_eq.symm).standing works fresh keeps deadline_eq
      rw [task_eq] at standing
      exact standing
    · rw [nothing] at delivered
      exact delivered
  · refine ⟨shape config buffer.renew.deliver generation none, (next.cancel alarm.token).2,
      ⟨inStep'.keep rfl rfl rfl, ?_⟩, (armed _ _ _ _).trans (leads_answered_handOff failed)⟩
    exact .ended ended (keeps.cancel (by simp))

/-! ## Signals -/

/-- From a place a part of a task leads to where the stage mirrors a plain buffer, and what was on
the agenda at first is left. -/
def LeadsToMirror (config : Config) (hook : DiscardHook) (part : Pipeline α → Pipeline α)
    (first : Place α) (buffer : PlainBuffer α) : Prop :=
  ∃ stage timer, Mirrors config buffer stage timer ∧
    LeadsBy hook part first ⟨busy stage, timer, first.agenda, buffer.said⟩

variable (hook lower) in
/-- The end of the time of the open batch. The alarm of the stage is cancelled, whether it waits or
has started its task just now. -/
theorem leadsToMirror_tick (inStep : InStep config buffer timer)
    (active : buffer.isActive = true) {waiting : List (Alarm UInt64)} {token : CancelToken}
    (keeps : timer.Keeps waiting) (only : ∀ alarm ∈ waiting, alarm.token = token)
    (generation : UInt64) :
    LeadsToMirror config hook (handle · (.tick generation))
      ⟨busy (shape config buffer generation (some token)), timer, lower, buffer.said⟩
      buffer.tick := by
  have idle : (timer.cancel token).2.Keeps [] := keeps.cancel only
  have inStep' : InStep config buffer (timer.cancel token).2 := inStep.keep rfl rfl rfl
  have works : (busy (shape config buffer generation (some token))).isActive = true := active
  rw [PlainBuffer.tick]
  split
  · rename_i empty
    obtain ⟨alarm, next, keeps, clock_eq, deadline_eq, task_eq, armed⟩ :=
      exists_armed (busy (shape config buffer generation none)) idle
    refine ⟨shape config buffer.renew generation (some alarm.token), next,
      ⟨inStep'.keep rfl rfl clock_eq, ?_⟩,
      .of_stands (fun pipeline stands => stands.endSpanEmpty works empty)
        ((armed _ _ _ _).trans (leads_answered alarm.token))⟩
    have started : InStep config buffer.renew (timer.cancel token).2 := inStep'.keep rfl rfl rfl
    have standing := started.standing active rfl keeps deadline_eq
    rw [task_eq] at standing
    exact standing
  · rename_i filled
    obtain ⟨stage, clock, mirrors, flushed⟩ :=
      exists_flushed hook lower inStep' active idle (generation + 1) .time (by decide)
    exact ⟨stage, clock, mirrors,
      .of_stands (fun pipeline stands => stands.endSpan works filled) flushed⟩

variable {stage : Stage α}

/-- While the plain buffer works, one alarm waits. -/
theorem Mirrors.exists_alarm (mirrors : Mirrors config buffer stage timer)
    (active : buffer.isActive = true) :
    ∃ alarm, stage = shape config buffer alarm.task (some alarm.token) ∧ timer.Keeps [alarm] ∧
      buffer.now < buffer.deadline ∧
      alarm.deadline.nanos = min buffer.deadline Duration.longest.nanos := by
  cases mirrors.standing with
  | @working timer alarm active keeps early deadline_eq =>
      exact ⟨alarm, rfl, keeps, early, deadline_eq⟩
  | ended ended keeps =>
      rw [active] at ended
      cases ended

/-- When the plain buffer has ended, no alarm waits. -/
theorem Mirrors.exists_ended (mirrors : Mirrors config buffer stage timer)
    (ended : buffer.isActive = false) :
    ∃ generation alarm, stage = shape config buffer generation alarm ∧ timer.Keeps [] := by
  cases mirrors.standing with
  | working active keeps early deadline_eq =>
      rw [active] at ended
      cases ended
  | @ended timer generation alarm ended keeps => exact ⟨generation, alarm, rfl, keeps⟩

variable (hook lower) in
theorem leadsToMirror_push (mirrors : Mirrors config buffer stage timer)
    (active : buffer.isActive = true) (item : α) :
    LeadsToMirror config hook (handle · (.item item)) ⟨busy stage, timer, lower, buffer.said⟩
      (buffer.push item) := by
  obtain ⟨alarm, rfl, keeps, early, deadline_eq⟩ := mirrors.exists_alarm active
  let filled : PlainBuffer α := { buffer with batch := buffer.batch ++ [item] }
  let stage : Stage α := busy (shape config buffer alarm.task (some alarm.token))
  have works : stage.isActive = true := active
  have received : stage.ledger.receiveItem = some stage.ledger :=
    Ledger.receiveItem_account config.maxSize buffer.demand
  rw [PlainBuffer.push]
  dsimp only
  split
  · rename_i full
    rw [mirrors.inStep.size_eq] at full
    have idle : (timer.cancel alarm.token).2.Keeps [] := keeps.cancel (by simp)
    have inStep : InStep config filled (timer.cancel alarm.token).2 :=
      mirrors.inStep.keep rfl rfl rfl
    obtain ⟨next, clock, mirrors, flushed⟩ :=
      exists_flushed hook lower inStep active idle (alarm.task + 1) .size (by decide)
    exact ⟨next, clock, mirrors,
      .of_stands (fun pipeline stands => stands.takeInLast works received full) flushed⟩
  · rename_i room
    rw [mirrors.inStep.size_eq] at room
    exact ⟨shape config filled alarm.task (some alarm.token), timer,
      ⟨mirrors.inStep.keep rfl rfl rfl, .working active keeps early deadline_eq⟩,
      .of_stands (fun pipeline stands => stands.takeIn works received room) (.refl _ _)⟩

variable (hook lower) in
theorem leadsToMirror_complete (mirrors : Mirrors config buffer stage timer)
    (active : buffer.isActive = true) :
    LeadsToMirror config hook (handle · .completed) ⟨busy stage, timer, lower, buffer.said⟩
      buffer.complete := by
  obtain ⟨alarm, rfl, keeps, early, deadline_eq⟩ := mirrors.exists_alarm active
  have idle : (timer.cancel alarm.token).2.Keeps [] := keeps.cancel (by simp)
  have works : (busy (shape config buffer alarm.task (some alarm.token))).isActive = true := active
  have now_eq : (timer.cancel alarm.token).2.now.nanos = buffer.now := mirrors.inStep.now_eq
  -- The completion that follows the last batch, or that comes where there is none.
  have finished : ∀ {last : PlainBuffer α}, last.isActive = true → last.now = buffer.now →
      Leads hook
        ⟨busy (shape config last alarm.task none), (timer.cancel alarm.token).2,
          .finish :: lower, last.said⟩
        ⟨busy (shape config last.finish alarm.task none), (timer.cancel alarm.token).2, lower,
          last.finish.said⟩ := by
    intro last active same
    have finished : Leads hook
        ⟨busy (shape config last alarm.task none), (timer.cancel alarm.token).2,
          .finish :: lower, last.said⟩ _ := leads_finish active
    rw [now_eq, ← same] at finished
    rw [PlainBuffer.finish, if_pos active]
    exact finished
  refine ⟨shape config buffer.complete alarm.task none, (timer.cancel alarm.token).2, ?_⟩
  rw [PlainBuffer.complete]
  split
  · rename_i empty
    refine ⟨⟨mirrors.inStep.keep (PlainBuffer.limits_finish _) (PlainBuffer.now_finish _) rfl,
      .ended (PlainBuffer.isActive_finish _) idle⟩, ?_⟩
    exact .of_stands (fun pipeline stands => stands.deliverRestEmpty works empty)
      (finished active rfl)
  · rename_i filled
    have inStep : InStep config buffer.deliver.finish (timer.cancel alarm.token).2 :=
      mirrors.inStep.keep
        ((PlainBuffer.limits_finish _).trans (PlainBuffer.limits_deliver _))
        ((PlainBuffer.now_finish _).trans (PlainBuffer.now_deliver _)) rfl
    refine ⟨⟨inStep, .ended (PlainBuffer.isActive_finish _) idle⟩,
      leadsBy_deliverRest works filled ?_⟩
    have outcome := delivered_or_failed hook config lower now_eq active alarm.task none .completion
    rcases outcome with ⟨works, delivered⟩ | ⟨ended, failed⟩
    · exact delivered.trans (finished works (PlainBuffer.now_deliver _))
    · have same : buffer.deliver.finish = buffer.deliver := if_neg (by simp [ended])
      rw [same]
      exact failed

variable (hook lower) in
theorem leadsToMirror_error (mirrors : Mirrors config buffer stage timer)
    (active : buffer.isActive = true) (error : StreamError) :
    LeadsToMirror config hook (handle · (.failed error .producer))
      ⟨busy stage, timer, lower, buffer.said⟩ (buffer.endWith error .producer) := by
  obtain ⟨alarm, rfl, keeps, early, deadline_eq⟩ := mirrors.exists_alarm active
  let stage : Stage α := busy (shape config buffer alarm.task (some alarm.token))
  have attached : stage.producer = some 0 := rfl
  have works : stage.isActive = true := active
  have ended : LeadsBy hook (endWith · error .producer) ⟨stage, timer, lower, buffer.said⟩ _ :=
    leadsBy_endWith works attached error .producer
  rw [mirrors.inStep.now_eq] at ended
  exact ⟨shape config (buffer.endWith error .producer) alarm.task none,
    (timer.cancel alarm.token).2,
    ⟨mirrors.inStep.keep rfl rfl rfl, .ended rfl (keeps.cancel (by simp))⟩, ended⟩

theorem Mirrors.isActive_eq (mirrors : Mirrors config buffer stage timer) :
    (busy stage).isActive = buffer.isActive := by
  cases mirrors.standing <;> rfl

theorem Mirrors.signals_eq (mirrors : Mirrors config buffer stage timer) : stage.signals = [] := by
  cases mirrors.standing <;> rfl

theorem Mirrors.work_eq (mirrors : Mirrors config buffer stage timer) : stage.work = 0 := by
  cases mirrors.standing <;> rfl

theorem Mirrors.simulated (mirrors : Mirrors config buffer stage timer) :
    timer.style = .simulated := by
  cases mirrors.standing with
  | working active keeps early deadline_eq => exact keeps.simulated
  | ended ended keeps => exact keeps.simulated

variable (hook lower) in
/-- After the end of the stage most signals change nothing. -/
theorem leadsToMirror_late (mirrors : Mirrors config buffer stage timer)
    (ended : buffer.isActive = false) (signal : Signal α) (noItem : ∀ item, signal ≠ .item item)
    (notCancelled : signal ≠ .cancelled) :
    LeadsToMirror config hook (handle · signal) ⟨busy stage, timer, lower, buffer.said⟩ buffer := by
  have gone : (busy stage).isActive = false := mirrors.isActive_eq.trans ended
  exact ⟨stage, timer, mirrors, .of_stands
    (fun pipeline stands => stands.handleLate gone noItem notCancelled) (.refl _ _)⟩

variable (hook lower) in
theorem leadsToMirror_item_late (mirrors : Mirrors config buffer stage timer)
    (ended : buffer.isActive = false) (item : α) :
    LeadsToMirror config hook (handle · (.item item)) ⟨busy stage, timer, lower, buffer.said⟩
      (buffer.say [.discarded item]) := by
  have gone : (busy stage).isActive = false := mirrors.isActive_eq.trans ended
  obtain ⟨generation, alarm, rfl, keeps⟩ := mirrors.exists_ended ended
  have called : Leads hook ⟨busy (shape config buffer generation alarm), timer,
      .call (.discard (.item item)) :: lower, buffer.said⟩ _ := leads_call _
  rw [mirrors.inStep.now_eq] at called
  exact ⟨shape config (buffer.say [.discarded item]) generation alarm, timer,
    ⟨mirrors.inStep.keep rfl rfl rfl, .ended ended keeps⟩,
    .of_stands (fun pipeline stands => stands.takeInLate gone item) called⟩

variable (lower) in
/-- A call that announces a signal leads to where the signal leads. -/
theorem LeadsToMirror.exists_leads {next : PlainBuffer α} (push : Push α)
    (nothing : stage.signals = []) (idle : stage.work = 0)
    (leadsTo : LeadsToMirror config hook (handle · push.signal)
      ⟨busy stage, timer, .workOff 1 :: .release :: lower, buffer.said⟩ next) :
    ∃ last clock, Mirrors config next last clock ∧
      Leads hook ⟨stage, timer, .enter push.call :: .release :: lower, buffer.said⟩
        ⟨last, clock, lower, next.said⟩ := by
  obtain ⟨last, clock, mirrors, leads⟩ := leadsTo
  exact ⟨last, clock, mirrors,
    leads_push nothing idle mirrors.signals_eq mirrors.work_eq leads⟩

/-! ## Calls through the subscription -/

theorem exists_requested (mirrors : Mirrors config buffer stage timer) (batches : Amount) :
    ∃ last, Mirrors config { buffer with demand := buffer.demand + batches } last timer ∧
      Leads hook ⟨stage, timer, .enter (.request batches) :: lower, buffer.said⟩
        ⟨last, timer, lower, buffer.said⟩ := by
  have asked : ∀ generation alarm, stage = shape config buffer generation alarm →
      Leads hook ⟨stage, timer, .enter (.request batches) :: lower, buffer.said⟩
        ⟨shape config { buffer with demand := buffer.demand + batches } generation alarm, timer,
          lower, buffer.said⟩ := by
    rintro generation alarm rfl
    apply Leads.of_perform
    intro pipeline stands
    have entered := stands.noteSilent
      (show Event.outputs (.entered (.request batches)) = [] from rfl)
    rw [perform, enter, request]
    split
    · rename_i nothing
      rw [nothing, Amount.add_zero]
      rw [nothing] at entered
      exact entered
    · have asked := entered.withStage
        (shape config { buffer with demand := buffer.demand + batches } generation alarm)
      rw [entered.stage_is]
      dsimp only
      split <;> exact asked
  cases mirrors.standing with
  | @working timer alarm active keeps early deadline_eq =>
      exact ⟨_, ⟨mirrors.inStep.keep rfl rfl rfl, .working active keeps early deadline_eq⟩,
        asked _ _ rfl⟩
  | @ended timer generation alarm ended keeps =>
      exact ⟨_, ⟨mirrors.inStep.keep rfl rfl rfl, .ended ended keeps⟩,
        asked generation alarm rfl⟩

theorem exists_cancelled (mirrors : Mirrors config buffer stage timer)
    (active : buffer.isActive = true) :
    ∃ last clock, Mirrors config buffer.cancel last clock ∧
      Leads hook ⟨stage, timer, .enter .cancel :: lower, buffer.said⟩
        ⟨last, clock, lower, buffer.cancel.said⟩ := by
  obtain ⟨alarm, rfl, keeps, early, deadline_eq⟩ := mirrors.exists_alarm active
  let stage : Stage α := shape config buffer alarm.task (some alarm.token)
  let stopped : Stage α := { stage with status := .cancelled }
  have idle : (timer.cancel alarm.token).2.Keeps [] := keeps.cancel (by simp)
  have works : stage.isActive = true := active
  refine ⟨shape config buffer.cancel alarm.task none, (timer.cancel alarm.token).2,
    ⟨mirrors.inStep.keep rfl rfl rfl, .ended rfl idle⟩, ?_⟩
  have entered : Leads hook ⟨stage, timer, .enter .cancel :: lower, buffer.said⟩
      ⟨stopped, timer, .call (.cancel 0) :: .announce .cancelled :: lower, buffer.said⟩ := by
    apply Leads.of_perform
    intro pipeline stands
    have entered := stands.noteSilent (show Event.outputs (.entered .cancel) = [] from rfl)
    have attached : stage.producer = some 0 := rfl
    rw [perform, enter, cancel, entered.cancelProducerTasks_eq attached, entered.stage_is,
      if_pos works]
    exact (entered.withStage stopped).todo [.call (.cancel 0), .announce .cancelled]
  have called : Leads hook
      ⟨stopped, timer, .call (.cancel 0) :: .announce .cancelled :: lower, buffer.said⟩
      ⟨stopped, timer, .announce .cancelled :: lower, (buffer.say [.producerCancelled]).said⟩ := by
    have called : Leads hook
        ⟨stopped, timer, .call (.cancel 0) :: .announce .cancelled :: lower, buffer.said⟩ _ :=
      leads_call _
    rw [mirrors.inStep.now_eq] at called
    exact called
  have announced : Leads hook
      ⟨stopped, timer, .announce .cancelled :: lower, (buffer.say [.producerCancelled]).said⟩
      ⟨queued stopped .cancelled, timer, .workOff 1 :: lower,
        (buffer.say [.producerCancelled]).said⟩ :=
    .of_perform fun pipeline stands => stands.announce rfl .cancelled
  have discarded : LeadsBy hook (handle · .cancelled)
      ⟨busy stopped, timer, .workOff 1 :: lower, (buffer.say [.producerCancelled]).said⟩
      ⟨busy (shape config buffer.cancel alarm.task none), (timer.cancel alarm.token).2,
        .workOff 1 :: lower, buffer.cancel.said⟩ := by
    have emptied : Leads hook
        ⟨cleared (busy stopped), (timer.cancel alarm.token).2,
          hookTasks hook buffer.batch ++ .workOff 1 :: lower,
          (buffer.say [.producerCancelled]).said⟩ _ := leads_hookTasks buffer.batch
    have now_eq : (timer.cancel alarm.token).2.now.nanos = buffer.now := mirrors.inStep.now_eq
    rw [now_eq] at emptied
    exact .of_stands (fun pipeline stands => stands.discardRest) emptied
  exact entered.trans (called.trans (announced.trans (leads_announced rfl rfl rfl rfl discarded)))

theorem leads_cancel_late (mirrors : Mirrors config buffer stage timer)
    (ended : buffer.isActive = false) :
    Leads hook ⟨stage, timer, .enter .cancel :: lower, buffer.said⟩
      ⟨stage, timer, lower, buffer.said⟩ := by
  apply Leads.of_perform
  intro pipeline stands
  have entered := stands.noteSilent (show Event.outputs (.entered .cancel) = [] from rfl)
  have gone : ¬stage.isActive = true := by
    have same : stage.isActive = buffer.isActive := mirrors.isActive_eq
    rw [same, ended]
    exact Bool.false_ne_true
  rw [perform, enter, cancel, entered.stage_is, if_neg gone]
  exact entered

/-! ## The clock -/

/-- Time passes on a timer as it does for the plain buffer. -/
theorem exists_elapsed (mirrors : Mirrors config buffer stage timer) {instant : Duration}
    (later : buffer.now ≤ instant.nanos) (within : instant.nanos < Duration.longest.nanos) :
    ∃ last clock, Mirrors config (buffer.elapse instant.nanos) last clock ∧
      Leads hook ⟨stage, timer, .advance instant :: lower, buffer.said⟩
        ⟨last, clock, lower, (buffer.elapse instant.nanos).said⟩ := by
  generalize target_eq : instant.nanos = target at later within
  fun_induction PlainBuffer.elapse buffer target generalizing stage timer with
  | case1 buffer due ih =>
      obtain ⟨active, due⟩ := due
      obtain ⟨alarm, rfl, keeps, early, deadline_eq⟩ := mirrors.exists_alarm active
      have onTime : alarm.deadline.nanos = buffer.deadline := by omega
      let atDeadline : PlainBuffer α := { buffer with now := buffer.deadline }
      obtain ⟨next, rests | ⟨first, rest, waiting_eq, kept, _, now_eq, fired⟩⟩ :=
        exists_passed hook (shape config buffer alarm.task (some alarm.token)) lower buffer.said
          keeps instant
      · obtain ⟨_, _, notDue, _⟩ := rests
        have late : instant.nanos < alarm.deadline.nanos := notDue alarm List.mem_cons_self
        omega
      -- The only alarm of the stage has left the queue, and the clock stands at the deadline.
      · cases waiting_eq
        have inStep : InStep config atDeadline next := by
          refine ⟨mirrors.inStep.size_eq, mirrors.inStep.span_eq, ?_, ?_⟩
          · rw [now_eq, mirrors.inStep.now_eq]
            change _ = buffer.deadline
            omega
          · change buffer.deadline < _
            omega
        have nobody : ∀ other ∈ ([] : List (Alarm UInt64)), other.token = alarm.token := by simp
        have tick := leadsToMirror_tick hook (.workOff 1 :: .release :: .advance instant :: lower)
          inStep active kept nobody alarm.task
        obtain ⟨middle, clock, mirrors, ticked⟩ :=
          LeadsToMirror.exists_leads (.advance instant :: lower) (.tick alarm.task) rfl rfl tick
        have onTime : atDeadline.tick.now ≤ target := by
          rw [PlainBuffer.now_tick]
          exact due
        obtain ⟨last, clock, mirrors, leads⟩ := ih mirrors onTime
        exact ⟨last, clock, mirrors, fired.trans (ticked.trans leads)⟩
  | case2 buffer idle =>
      have inStep : ∀ {clock : Timer UInt64}, clock.now = instant →
          InStep config { buffer with now := target } clock := by
        intro clock now_eq
        refine ⟨mirrors.inStep.size_eq, mirrors.inStep.span_eq, ?_, within⟩
        rw [now_eq, target_eq]
      cases active : buffer.isActive with
      | true =>
          obtain ⟨alarm, rfl, keeps, early, deadline_eq⟩ := mirrors.exists_alarm active
          have early : target < buffer.deadline := by
            by_contra due
            exact idle ⟨active, Nat.le_of_not_lt due⟩
          obtain ⟨next, rests | ⟨first, rest, waiting_eq, _, onTime, _, _⟩⟩ :=
            exists_passed hook (shape config buffer alarm.task (some alarm.token)) lower
              buffer.said keeps instant
          · obtain ⟨kept, now_eq, _, leads⟩ := rests
            exact ⟨_, next, ⟨inStep now_eq, .working active kept early deadline_eq⟩, leads⟩
          · cases waiting_eq
            have due : alarm.deadline.nanos ≤ instant.nanos := onTime
            omega
      | false =>
          obtain ⟨generation, alarm, rfl, keeps⟩ := mirrors.exists_ended active
          obtain ⟨next, rests | ⟨first, rest, waiting_eq, _⟩⟩ :=
            exists_passed hook (shape config buffer generation alarm) lower buffer.said keeps
              instant
          · obtain ⟨kept, now_eq, _, leads⟩ := rests
            exact ⟨_, next, ⟨inStep now_eq, .ended active kept⟩, leads⟩
          · cases waiting_eq

/-! ## Inputs -/

/-- The driver makes a call that announces a signal. -/
theorem LeadsToMirror.exists_acted {next : PlainBuffer α} (push : Push α)
    (mirrors : Mirrors config buffer stage timer)
    (leadsTo : LeadsToMirror config hook (handle · push.signal)
      ⟨busy stage, timer, [.workOff 1, .release], buffer.said⟩ next) :
    ∃ last clock, Mirrors config next last clock ∧
      Leads hook ⟨stage, timer, [.act push.action], buffer.said⟩
        ⟨last, clock, [], next.said⟩ := by
  obtain ⟨last, clock, mirrors', leads⟩ :=
    exists_leads [] push mirrors.signals_eq mirrors.work_eq leadsTo
  exact ⟨last, clock, mirrors', (leads_act_push push).trans leads⟩

theorem leads_act_onSubscription {action : Action α} {call : Inbound α}
    (calls : ∀ pipeline : Pipeline α, pipeline.act action = pipeline.onSubscription call) :
    Leads hook ⟨stage, timer, [.act action], buffer.said⟩
      ⟨stage, timer, [.enter call, .release], buffer.said⟩ := by
  apply Leads.of_perform
  intro pipeline stands
  rw [perform, calls]
  exact stands.onSubscription call

theorem exists_moved (mirrors : Mirrors config buffer stage timer) {action : Action α}
    {instant : Duration}
    (moves : ∀ pipeline : Pipeline α, pipeline.timer = timer →
      pipeline.act action = pipeline.moveClock instant)
    (later : buffer.now ≤ instant.nanos) (within : instant.nanos < Duration.longest.nanos) :
    ∃ last clock, Mirrors config (buffer.elapse instant.nanos) last clock ∧
      Leads hook ⟨stage, timer, [.act action], buffer.said⟩
        ⟨last, clock, [], (buffer.elapse instant.nanos).said⟩ := by
  obtain ⟨last, clock, mirrors', leads⟩ := exists_elapsed mirrors later within
  refine ⟨last, clock, mirrors', Leads.trans (.of_perform fun pipeline stands => ?_) leads⟩
  rw [perform, moves pipeline stands.timer_eq]
  exact stands.moveClock mirrors.simulated instant

variable (hook) in
/-- At rest an action of the driver leads to where the stage mirrors the plain buffer that took the
input. -/
theorem exists_taken (mirrors : Mirrors config buffer stage timer) (input : Input α)
    (within : input.target buffer.now < Duration.longest.nanos) :
    ∃ last clock, Mirrors config (buffer.take input) last clock ∧
      Leads hook ⟨stage, timer, [.act input.action], buffer.said⟩
        ⟨last, clock, [], (buffer.take input).said⟩ := by
  cases input with
  | next item =>
      rw [PlainBuffer.take]
      split
      · rename_i active
        exact (leadsToMirror_push hook _ mirrors active item).exists_acted (.next item) mirrors
      · rename_i ended
        exact (leadsToMirror_item_late hook _ mirrors (eq_false_of_ne_true ended) item).exists_acted
          (.next item) mirrors
  | advance span =>
      have target_eq : (timer.now + span).nanos = buffer.now + span.nanos := by
        change buffer.now + span.nanos < 2 ^ 64 * 10 ^ 9 - 1 at within
        rw [Duration.nanos_add, mirrors.inStep.now_eq]
        omega
      rw [PlainBuffer.take, ← target_eq]
      apply exists_moved mirrors
      · rintro pipeline rfl
        rfl
      · rw [target_eq]
        exact Nat.le_add_right _ _
      · rw [target_eq]
        exact within
  | advanceTo instant =>
      have target_eq :
          (timer.now + (instant - timer.now)).nanos = max buffer.now instant.nanos := by
        change max buffer.now instant.nanos < 2 ^ 64 * 10 ^ 9 - 1 at within
        rw [Duration.nanos_add, Duration.nanos_sub, mirrors.inStep.now_eq]
        omega
      rw [PlainBuffer.take, ← target_eq]
      apply exists_moved mirrors
      · rintro pipeline rfl
        rfl
      · rw [target_eq]
        exact Nat.le_max_left _ _
      · rw [target_eq]
        exact within
  | request batches =>
      obtain ⟨last, mirrors', leads⟩ := exists_requested mirrors batches
      exact ⟨last, timer, mirrors',
        (leads_act_onSubscription fun _ => rfl).trans (leads.trans leads_release)⟩
  | cancel =>
      rw [PlainBuffer.take]
      split
      · rename_i active
        obtain ⟨last, clock, mirrors', leads⟩ := exists_cancelled mirrors active
        exact ⟨last, clock, mirrors',
          (leads_act_onSubscription fun _ => rfl).trans (leads.trans leads_release)⟩
      · rename_i ended
        have gone := eq_false_of_ne_true ended
        exact ⟨stage, timer, mirrors, (leads_act_onSubscription fun _ => rfl).trans
          ((leads_cancel_late mirrors gone).trans leads_release)⟩
  | complete =>
      rw [PlainBuffer.take]
      split
      · rename_i active
        exact (leadsToMirror_complete hook _ mirrors active).exists_acted .complete mirrors
      · rename_i ended
        have late := leadsToMirror_late hook [.workOff 1, .release] mirrors
          (eq_false_of_ne_true ended) .completed (by simp) (by simp)
        exact late.exists_acted .complete mirrors
  | error failure =>
      rw [PlainBuffer.take]
      split
      · rename_i active
        exact (leadsToMirror_error hook _ mirrors active failure).exists_acted (.error failure)
          mirrors
      · rename_i ended
        have late := leadsToMirror_late hook [.workOff 1, .release] mirrors
          (eq_false_of_ne_true ended) (.failed failure .producer) (by simp) (by simp)
        exact late.exists_acted (.error failure) mirrors
  | flushNow =>
      rw [PlainBuffer.take]
      split
      · rename_i active
        obtain ⟨alarm, rfl, keeps, _, _⟩ := mirrors.exists_alarm active
        have only : ∀ other ∈ [alarm], other.token = alarm.token := by simp
        have tick := leadsToMirror_tick hook [.workOff 1, .release] mirrors.inStep active keeps
          only alarm.task
        obtain ⟨last, clock, mirrors', leads⟩ :=
          LeadsToMirror.exists_leads [] (.tick alarm.task) rfl rfl tick
        exact ⟨last, clock, mirrors', leads_act_flushNow.trans leads⟩
      · rename_i ended
        have late := leadsToMirror_late hook [.workOff 1, .release] mirrors
          (eq_false_of_ne_true ended) (.tick stage.published) (by simp) (by simp)
        obtain ⟨last, clock, mirrors', leads⟩ :=
          late.exists_leads [] (.tick stage.published) mirrors.signals_eq mirrors.work_eq
        exact ⟨last, clock, mirrors', leads_act_flushNow.trans leads⟩

theorem exists_script {pipeline : Pipeline α} (mirrors : Mirrors config buffer stage timer)
    (stands : StandsAt hook ⟨stage, timer, [], buffer.said⟩ pipeline) (script : List (Input α))
    (within : ∀ target ∈ Input.targets buffer.now script, target < Duration.longest.nanos) :
    ∃ last, InTurn pipeline (script.map Input.action) last ∧
      last.outputs = (buffer.takeAll script).said := by
  induction script generalizing buffer stage timer pipeline with
  | nil => exact ⟨pipeline, .nil _, stands.outputs_eq⟩
  | cons input script ih =>
      obtain ⟨inTime, others⟩ := List.forall_mem_cons.mp within
      -- Each input leads from rest to rest, where the mirror holds again for the next one.
      obtain ⟨next, clock, mirrors, leads⟩ := exists_taken hook mirrors input inTime
      obtain ⟨bound, stands⟩ := leads _ (stands.todo [.act input.action])
      rw [← PlainBuffer.now_take] at others
      obtain ⟨last, turns, outputs_eq⟩ := ih mirrors stands others
      exact ⟨last, .cons bound (List.isEmpty_iff.mpr stands.agenda_eq) turns, outputs_eq⟩

end Work

/-! ## The subscription -/

theorem timeSpan_pos_of_made {config : Config} {setup : Setup α} {opening : Pipeline α}
    (made : opening? config setup = .ok opening) : 0 < config.timeSpan.nanos := by
  have sound := (opening?_eq_ok made).1
  rw [Nat.pos_iff_ne_zero]
  intro nothing
  have zero : config.timeSpan = .zero := Duration.ext nothing
  rw [Config.fault?, zero] at sound
  split at sound <;> cases sound

def limits {config : Config} {setup : Setup α} {opening : Pipeline α}
    (made : opening? config setup = .ok opening) : Limits where
  size := config.maxSize.count
  span := config.timeSpan.nanos
  span_pos := timeSpan_pos_of_made made

/-- A new stage that was told of its first producer sets its first alarm and asks for everything. -/
theorem exists_opened {hook : DiscardHook} {config : Config} {buffer : PlainBuffer α}
    {timer : Timer UInt64} (inStep : InStep config buffer timer) (active : buffer.isActive = true)
    (fresh : buffer.deadline = buffer.now + buffer.limits.span) (keeps : timer.Keeps []) :
    ∃ stage clock, Mirrors config buffer stage clock ∧
      Leads hook
        ⟨shape config buffer 0 none, timer, [.announce .subscribed, .firstRequest 0, .release],
          buffer.said⟩
        ⟨stage, clock, [], buffer.said⟩ := by
  let stage : Stage α := shape config buffer 0 none
  have works : stage.isActive = true := active
  obtain ⟨alarm, next, keeps, clock_eq, due_eq, task_eq, armed⟩ := exists_armed (busy stage) keeps
  let set : Stage α := shape config buffer 0 (some alarm.token)
  have announced : Leads hook
      ⟨stage, timer, [.announce .subscribed, .firstRequest 0, .release], buffer.said⟩
      ⟨queued stage .subscribed, timer, [.workOff 1, .firstRequest 0, .release], buffer.said⟩ :=
    .of_perform fun pipeline stands => stands.announce rfl .subscribed
  have handled : LeadsBy hook (handle · .subscribed)
      ⟨busy stage, timer, [.workOff 1, .firstRequest 0, .release], buffer.said⟩
      ⟨busy set, next, [.workOff 1, .firstRequest 0, .release], buffer.said⟩ := by
    refine .of_stands (fun pipeline stands => ?_)
      ((armed hook none _ _).trans (leads_answered alarm.token))
    have unset : (busy stage).isActive = true ∧ (busy stage).alarm = none := ⟨active, rfl⟩
    rw [handle, setFirstAlarm, stands.stage_is, if_pos unset]
    exact stands.todo [.setAlarm none]
  have requested : Leads hook ⟨set, next, [.firstRequest 0, .release], buffer.said⟩
      ⟨set, next, [.release], buffer.said ++ []⟩ := by
    refine Leads.trans ?_ (leads_call (.request 0 .unbounded))
    apply Leads.of_perform
    intro pipeline stands
    have works : set.isActive = true := active
    rw [perform, firstRequest, stands.stage_is, if_pos works]
    exact (stands.withStage set).todo [.call (.request 0 .unbounded)]
  rw [List.append_nil] at requested
  refine ⟨set, next, ⟨inStep.keep rfl rfl clock_eq, ?_⟩,
    announced.trans ((leads_announced rfl rfl rfl rfl handled).trans
      (requested.trans leads_release))⟩
  have standing := inStep.standing active fresh keeps due_eq
  rw [task_eq] at standing
  exact standing

theorem exists_subscribed {config : Config} {setup : Setup α} {opening : Pipeline α}
    (made : opening? config setup = .ok opening) (unbounded : config.policy = .unbounded)
    (simulated : setup.style = .simulated) (attached : setup.detached = false)
    (quiet : ∀ kind count, setup.reactions kind count = []) (start : Duration)
    (within : start.nanos < Duration.longest.nanos) :
    ∃ pipeline stage timer, InTurn opening [.advanceTo start, .subscribe] pipeline ∧
      Mirrors config (PlainBuffer.opening (limits made) start.nanos) stage timer ∧
      StandsAt setup.hook ⟨stage, timer, [], [(start.nanos, .heard .subscribed)]⟩ pipeline := by
  let buffer : PlainBuffer α := .opening (limits made) start.nanos
  have sound := (opening?_eq_ok made).1
  obtain ⟨maxSize, timeSpan, policy⟩ := config
  obtain ⟨style, hook, detached, reactions⟩ := setup
  cases unbounded
  cases simulated
  cases attached
  obtain rfl : reactions = fun _ _ => [] := funext fun kind => funext (quiet kind)
  have made' := made
  rw [opening?, sound] at made'
  cases made'
  have start_eq : Duration.zero + (start - .zero) = start := by
    rw [Duration.ext_iff, Duration.nanos_add, Duration.nanos_sub, Duration.nanos_zero]
    change start.nanos < 2 ^ 64 * 10 ^ 9 - 1 at within
    omega
  let opening : Pipeline α :=
    { stage := .opening ⟨maxSize, timeSpan, .unbounded⟩, timer := {}, hook := hook }
  let moved : Pipeline α := { opening with timer := { now := start } }
  have moves : (opening.begin (.advanceTo start)).run 2 = moved := by
    have passed : (opening.begin (.advanceTo start)).run 2 =
        { opening with timer := { now := .zero + (start - .zero) } } := rfl
    rw [passed, start_eq]
  have stands : StandsAt hook
      ⟨shape ⟨maxSize, timeSpan, .unbounded⟩ buffer 0 none, { now := start },
        [.announce .subscribed, .firstRequest 0, .release], buffer.said⟩
      ((moved.begin .subscribe).run 3) :=
    ⟨rfl, rfl, rfl, rfl, rfl, rfl, rfl, rfl, rfl, fun _ _ => rfl⟩
  let still : Timer UInt64 := { now := start }
  have inStep : InStep ⟨maxSize, timeSpan, .unbounded⟩ buffer still := ⟨rfl, rfl, rfl, within⟩
  have keeps : still.Keeps [] := ⟨⟨rfl, .nil, List.forall_mem_nil _, rfl⟩, rfl⟩
  obtain ⟨stage, timer, mirrors, leads⟩ := exists_opened inStep rfl rfl keeps
  obtain ⟨bound, stands⟩ := leads _ stands
  rw [← run_add] at stands
  have rests : ((moved.begin .subscribe).run (3 + bound)).atRest = true :=
    List.isEmpty_iff.mpr stands.agenda_eq
  refine ⟨_, stage, timer, .cons 2 ?_ ?_, mirrors, stands⟩
  · exact congrArg atRest moves
  · change InTurn ((opening.begin (.advanceTo start)).run 2) _ _
    rw [moves]
    exact .cons (3 + bound) rests (.nil _)

/-! ## The refinement -/

/-- A stage that asks for everything at once, on a simulated timer of its own, is seen to do what a
plain buffer does. -/
theorem outputs_eq_said {config : Config} {setup : Setup α} {opening : Pipeline α}
    (made : opening? config setup = .ok opening) (unbounded : config.policy = .unbounded)
    (simulated : setup.style = .simulated) (attached : setup.detached = false)
    (quiet : ∀ kind count, setup.reactions kind count = []) (start : Duration)
    (script : List (Input α))
    (within : ∀ target ∈ start.nanos :: Input.targets start.nanos script,
      target < Duration.longest.nanos) :
    (∃ last, InTurn opening (.advanceTo start :: .subscribe :: script.map Input.action) last) ∧
    ∀ last, InTurn opening (.advanceTo start :: .subscribe :: script.map Input.action) last →
      last.outputs = ((PlainBuffer.opening (limits made) start.nanos).takeAll script).said := by
  obtain ⟨startsInTime, othersInTime⟩ := List.forall_mem_cons.mp within
  obtain ⟨pipeline, stage, timer, subscribes, mirrors, stands⟩ :=
    exists_subscribed made unbounded simulated attached quiet start startsInTime
  obtain ⟨last, turns, outputs_eq⟩ := exists_script mirrors stands script othersInTime
  have all : InTurn opening (.advanceTo start :: .subscribe :: script.map Input.action) last :=
    subscribes.append turns
  refine ⟨⟨last, all⟩, fun other otherTurns => ?_⟩
  rw [otherTurns.unique all, outputs_eq]

theorem outputs_of_failure_after_flush :
    ∃ opening last : Pipeline Nat, ∃ made : opening? ⟨2, .ofNanos 10, .unbounded⟩ {} = .ok opening,
      InTurn opening
        [.advanceTo (.ofNanos 5), .subscribe, .request 1, .next [1], .advance (.ofNanos 10),
          .next [2], .next [3]] last ∧
      last.outputs = [(5, .heard .subscribed), (15, .heard (.next [1])), (15, .discarded 2),
        (15, .discarded 3), (15, .producerCancelled),
        (15, .heard (.error .insufficientDemand))] ∧
      last.outputs =
        ((PlainBuffer.opening (limits made) 5).takeAll
          [.request 1, .next 1, .advance (.ofNanos 10), .next 2, .next 3]).said := by
  have made : opening? ⟨2, .ofNanos 10, .unbounded⟩ ({} : Setup Nat) = .ok _ := rfl
  obtain ⟨⟨last, turns⟩, same⟩ := outputs_eq_said made rfl rfl rfl (fun _ _ => rfl) (.ofNanos 5)
    [.request 1, .next 1, .advance (.ofNanos 10), .next 2, .next 3] (by decide)
  refine ⟨_, last, made, turns, ?_, same last turns⟩
  have last_eq := turns.unique (.cons 2 rfl (.cons 20 rfl (.cons 20 rfl (.cons 20 rfl (.cons 20 rfl
    (.cons 20 rfl (.cons 40 rfl (.nil _))))))))
  rw [last_eq]
  rfl

end Pipeline

end TimedBatch
