import TimedBatch.Proofs.Watch

/-!
# How far a pipeline is from rest

Every task is given a toil that pays for the tasks that it may put on the agenda, and so is every
signal and every item that the stage keeps. A step lowers the toil that is left unless an alarm
starts or a collaborator makes calls in the middle of a call. So a run in which only so many alarms
start and only so many of these calls are made comes to rest.
-/

namespace TimedBatch

variable {α : Type}

/-! ## Calls in the middle of calls -/

/-- How many calls are made by an action. Whoever looks at the stage, gives it up or changes how
the timer answers calls nobody. -/
def Action.callCount : Action α → Nat
  | .subscribe => 1
  | .next items => items.length
  | .error _ => 1
  | .complete => 1
  | .tick _ => 1
  | .flushNow => 1
  | .request _ => 1
  | .cancel => 1
  | .advance _ => 1
  | .advanceTo _ => 1
  | .requestProducer _ => 1
  | _ => 0

def Event.isFired : Event α → Bool
  | .fired => true
  | _ => false

namespace Pipeline

/-- How many calls are made by some actions. -/
def callTotal : List (Action α) → Nat
  | [] => 0
  | action :: rest => action.callCount + callTotal rest

/-- How many calls are made in answer to the first calls of a kind. -/
def answersTo (reactions : Nat → List (Action α)) : Nat → Nat
  | 0 => 0
  | count + 1 => answersTo reactions count + callTotal (reactions count)

/-- How many calls collaborators make in the middle of the calls that were made so far. -/
def reentrantCalls (pipeline : Pipeline α) : Nat :=
  let answers := fun kind => answersTo (pipeline.reactions kind) (pipeline.calls kind)
  answers .subscribe + answers .next + answers .error + answers .complete + answers .request +
    answers .cancel + answers .discard + answers .schedule

/-- How many alarms have started their tasks. -/
def firings (pipeline : Pipeline α) : Nat :=
  pipeline.chronicle.countP Event.isFired

section Calls

variable {pipeline next : Pipeline α}

theorem answersTo_le_of_le (reactions : Nat → List (Action α)) {first second : Nat}
    (order : first ≤ second) : answersTo reactions first ≤ answersTo reactions second := by
  induction order with
  | refl => exact Nat.le_refl _
  | step _ ih => exact Nat.le_add_right_of_le ih

theorem reentrantCalls_le
    (each : ∀ kind, answersTo (pipeline.reactions kind) (pipeline.calls kind) ≤
      answersTo (next.reactions kind) (next.calls kind)) :
    pipeline.reentrantCalls ≤ next.reentrantCalls := by
  refine Nat.add_le_add (Nat.add_le_add (Nat.add_le_add (Nat.add_le_add (Nat.add_le_add
    (Nat.add_le_add (Nat.add_le_add ?_ ?_) ?_) ?_) ?_) ?_) ?_) ?_
  all_goals exact each _

theorem reactions_step (pipeline : Pipeline α) : pipeline.step.reactions = pipeline.reactions :=
  congrArg Nature.reactions (nature_step pipeline)

theorem reentrantCalls_le_step (pipeline : Pipeline α) :
    pipeline.reentrantCalls ≤ pipeline.step.reentrantCalls := by
  cases agenda_eq : pipeline.agenda with
  | nil => rw [step_of_atRest (List.isEmpty_iff.mpr agenda_eq)]
  | cons task rest =>
      obtain ⟨_, _, _, _, _, becomes⟩ := exists_step_effect agenda_eq
      refine reentrantCalls_le fun kind => ?_
      rw [reactions_step]
      exact answersTo_le_of_le _ (becomes.calls_le kind)

/-- A call that is seen is answered by the calls that its reaction makes. -/
theorem reentrantCalls_call {call : Outbound α} (seen : pipeline.isSeen call = true) :
    (pipeline.call call).reentrantCalls = pipeline.reentrantCalls +
      callTotal (pipeline.reactions call.kind (pipeline.calls call.kind)) := by
  simp only [Pipeline.call, seen, if_true, reentrantCalls, todo, note]
  cases call.kind <;> simp only [reduceCtorEq, if_true, if_false, answersTo] <;> omega

/-- Collaborators that are silent from some call of each kind on make only so many calls. -/
theorem answersTo_le_of_silent {reactions : Nat → List (Action α)} {bound : Nat}
    (silent : ∀ earlier, bound ≤ earlier → callTotal (reactions earlier) = 0) (count : Nat) :
    answersTo reactions count ≤ answersTo reactions bound := by
  induction count with
  | zero => exact Nat.zero_le _
  | succ count ih =>
      by_cases early : count < bound
      · exact answersTo_le_of_le reactions early
      · rw [answersTo, silent count (Nat.le_of_not_lt early)]
        exact ih

theorem Reachable.exists_reentrantCalls_le {config : Config} {setup : Setup α}
    (reachable : Reachable config setup pipeline) (bound : Nat)
    (silent : ∀ kind earlier, bound ≤ earlier → callTotal (setup.reactions kind earlier) = 0) :
    ∃ limit, ∀ moment, Later pipeline moment → moment.reentrantCalls ≤ limit := by
  refine ⟨reentrantCalls { pipeline with calls := fun _ => bound }, fun moment later => ?_⟩
  have initial_eq : pipeline.reactions = setup.reactions :=
    congrArg Nature.reactions reachable.nature_eq
  have reactions_eq : moment.reactions = pipeline.reactions :=
    congrArg Nature.reactions later.nature_eq
  refine reentrantCalls_le fun kind => ?_
  rw [reactions_eq, initial_eq]
  exact answersTo_le_of_silent (silent kind) (moment.calls kind)

theorem firings_le_step (pipeline : Pipeline α) : pipeline.firings ≤ pipeline.step.firings := by
  cases agenda_eq : pipeline.agenda with
  | nil => rw [step_of_atRest (List.isEmpty_iff.mpr agenda_eq)]
  | cons task rest =>
      obtain ⟨_, _, events, _, _, becomes⟩ := exists_step_effect agenda_eq
      rw [firings, firings, becomes.chronicle_eq, List.countP_append]
      exact Nat.le_add_right _ _

end Calls

/-! ## Alarms that start -/

section Firings

variable {pipeline : Pipeline α} {task : Task α}

theorem firings_sweep (pipeline : Pipeline α) : pipeline.sweep.firings = pipeline.firings := by
  rcases becomes_sweep pipeline with ⟨_, same⟩ | ⟨_, becomes⟩
  · rw [same]
  · rw [firings, becomes.chronicle_eq, List.append_nil, firings]

theorem firings_note (pipeline : Pipeline α) {event : Event α} (other : event.isFired = false) :
    (pipeline.note event).firings = pipeline.firings := by
  rw [firings, chronicle_note, List.countP_append, List.countP_singleton, other, firings]
  rfl

theorem firings_act (pipeline : Pipeline α) (action : Action α) :
    (pipeline.act action).firings = pipeline.firings := by
  cases action with
  | dropStage => exact firings_sweep _
  | diagnose =>
      rw [act]
      split
      · exact firings_note pipeline rfl
      · rfl
  | inform =>
      rw [act]
      split
      · exact firings_note pipeline rfl
      · rfl
  | mark content => exact firings_note pipeline rfl
  | _ =>
      simp only [act, onStage, onSubscription, moveClock]
      first
        | rfl
        | (split <;> rfl)

theorem Dispatch.firings_eq {hook : DiscardHook} {stage next : Stage α}
    {timer clock : Timer UInt64} {signal : Signal α} {events : List (Event α)}
    {tasks : List (Task α)}
    (dispatch : Dispatch hook stage timer signal next clock events tasks) :
    events.countP Event.isFired = 0 := by
  cases dispatch with
  | completed active filled delivery => cases delivery <;> rfl
  | failed failure => cases failure <;> rfl
  | _ => rfl

theorem Effect.firings_eq {stage : Stage α} {timer : Timer UInt64} {events : List (Event α)}
    {tasks : List (Task α)} (effect : Effect pipeline task stage timer events tasks)
    (inside : isOutside task = false) : events.countP Event.isFired = 0 := by
  cases effect with
  | free aside inert allFree =>
      rw [isOutside_of_isAside aside] at inside
      cases inside
  | swept aside gone => rfl
  | alarmFiredLate due live gone => cases inside
  | alarmFired due live held => cases inside
  | handled first dispatch => exact dispatch.firings_eq
  | acceptedHandOff delivery => cases delivery <;> rfl
  | failed failure => cases failure <;> rfl
  | _ => rfl

/-- Alarms are started by the clock, and by nothing else. -/
theorem firings_perform (pipeline : Pipeline α) (other : ∀ instant, task ≠ .advance instant) :
    (pipeline.perform task).firings = pipeline.firings := by
  have inner : isOutside task = false → (pipeline.perform task).firings = pipeline.firings := by
    intro inside
    obtain ⟨stage, timer, events, tasks, effect, becomes⟩ := exists_effect pipeline task
    rw [firings, becomes.chronicle_eq, List.countP_append, effect.firings_eq inside, firings]
    rfl
  cases task with
  | act action => exact firings_act pipeline action
  | release => exact firings_sweep _
  | log line => exact firings_note pipeline rfl
  | advance instant => exact absurd rfl (other instant)
  | _ => exact inner rfl

end Firings

/-! ## Toil -/

/-- The sum of a measure over some tasks. -/
def total (measure : Task α → Nat) : List (Task α) → Nat
  | [] => 0
  | task :: rest => measure task + total measure rest

@[simp]
theorem total_append (measure : Task α → Nat) (upper lower : List (Task α)) :
    total measure (upper ++ lower) = total measure upper + total measure lower := by
  induction upper with
  | nil => simp [total]
  | cons task rest ih => simp [total, ih, Nat.add_assoc]

theorem total_le_of_forall {measure : Task α → Nat} {bound : Nat} {tasks : List (Task α)}
    (each : ∀ task ∈ tasks, measure task ≤ bound) : total measure tasks ≤ bound * tasks.length := by
  induction tasks with
  | nil => simp [total]
  | cons task rest ih =>
      have ⟨first, others⟩ := List.forall_mem_cons.mp each
      have below := ih others
      simp only [total, List.length_cons, Nat.mul_succ]
      omega

def handOffSize (handOff : Option (HandOff α)) : Nat :=
  (handOff.map fun waiting => waiting.batch.length).getD 0

/-- The toil of a task pays for the tasks that it puts on the agenda. Actions that call nobody, the
end of a hold and lines of the log are for free. -/
def taskToil : Task α → Nat
  | .act action => 22 * action.callCount
  | .enter _ => 21
  | .release => 0
  | .announce _ => 16
  | .workOff _ => 1
  | .firstRequest _ => 2
  | .setAlarm handOff => handOffSize handOff + 11
  | .answered _ handOff => handOffSize handOff + 8
  | .endWith _ _ => 6
  | .reportError _ _ => 4
  | .finish => 2
  | .call _ => 1
  | .log _ => 0
  | .advance _ => 1

/-- What the tasks without toil take. -/
def trifle : Task α → Nat
  | .act _ => 2
  | .release => 1
  | .log _ => 1
  | _ => 0

/-- The toil that a stage has before it: its signals, the account of them, and the open batch. -/
def stageToil (stage : Stage α) : Nat :=
  13 * stage.signals.length + stage.work + stage.batch.length

/-- The toil that is left, that of the alarms in the queue included. -/
def toil (pipeline : Pipeline α) : Nat :=
  total taskToil pipeline.agenda + stageToil pipeline.stage + pipeline.timer.queue.length

def trifles (pipeline : Pipeline α) : Nat :=
  total trifle pipeline.agenda

section Toil

variable {pipeline : Pipeline α} {hook : DiscardHook} {stage next : Stage α}
  {timer clock : Timer UInt64} {events : List (Event α)} {task : Task α} {tasks : List (Task α)}

attribute [local simp] total taskToil

theorem total_hookTasks_le (hook : DiscardHook) (items : List α) :
    total taskToil (hookTasks hook items) ≤ items.length + 1 := by
  have each : ∀ task ∈ hookTasks hook items, taskToil task ≤ 1 := by
    intro task member
    obtain ⟨call, _, rfl⟩ := List.mem_map.mp member
    exact Nat.le_refl 1
  have count : (hookTasks hook items).length ≤ items.length + 1 := by
    rw [hookTasks, List.length_map]
    cases hook <;> simp [DiscardHook.batchCalls]
  have bound := total_le_of_forall each
  omega

theorem total_failureTasks_le (hook : DiscardHook) (items : List α) (error : StreamError) :
    total taskToil (failureTasks hook items error) ≤ items.length + 7 := by
  have bound := total_hookTasks_le hook items
  simp only [failureTasks, total_append, total, taskToil]
  omega

theorem total_cancelProducerTasks_le (pipeline : Pipeline α) :
    total taskToil pipeline.cancelProducerTasks ≤ 1 := by
  rw [cancelProducerTasks]
  cases pipeline.stage.producer <;> simp

theorem total_wakeTasks_le (stage : Stage α) : total taskToil (wakeTasks stage) ≤ 1 := by
  rw [wakeTasks]
  split <;> simp

theorem Delivery.toil_le {handOff : HandOff α}
    (delivery : Delivery hook stage timer handOff next clock events tasks) :
    total taskToil tasks + stageToil next + clock.queue.length ≤
      handOff.batch.length + 7 + stageToil stage + timer.queue.length := by
  cases delivery with
  | late ended =>
      have bound := total_hookTasks_le hook handOff.batch
      omega
  | unpaid active unpaid =>
      have bound := total_failureTasks_le hook handOff.batch .insufficientDemand
      rw [queue_idleTimer]
      simp only [stageToil]
      omega
  | paid active paid =>
      have closing : total taskToil (closingTasks handOff) ≤ 2 := by
        rw [closingTasks]
        split <;> simp
      simp only [total, taskToil, stageToil]
      omega

theorem Failure.toil_le {error : StreamError} {origin : Origin}
    (failure : Failure hook stage timer error origin next clock events tasks) :
    total taskToil tasks + stageToil next + clock.queue.length ≤
      5 + stageToil stage + timer.queue.length := by
  cases failure with
  | late ended =>
      simp only [total]
      omega
  | ended active =>
      have bound := total_hookTasks_le hook stage.batch
      rw [queue_idleTimer, total_append]
      simp only [total, taskToil, stageToil, cleared, List.length_nil]
      omega

theorem Dispatch.toil_le {signal : Signal α}
    (dispatch : Dispatch hook stage timer signal next clock events tasks) :
    total taskToil tasks + stageToil next + clock.queue.length ≤
      12 + stageToil stage + timer.queue.length := by
  cases dispatch with
  | completed active filled delivery =>
      have bound := delivery.toil_le
      rw [queue_idleTimer] at bound
      simp only [stageToil, cleared, List.length_nil] at bound ⊢
      omega
  | failed failure =>
      have bound := failure.toil_le
      omega
  | cancelledEmpty empty =>
      have bound := total_hookTasks_le hook ([] : List α)
      rw [queue_idleTimer]
      simp only [stageToil, cleared, List.length_nil] at bound ⊢
      omega
  | cancelled filled =>
      have bound := total_hookTasks_le hook stage.batch
      rw [queue_idleTimer]
      simp only [stageToil, cleared, List.length_nil]
      omega
  | _ =>
      simp only [total, taskToil, stageToil, handOffSize, renewed, cleared, queue_idleTimer,
        List.length_append, List.length_cons, List.length_nil, Option.map_some, Option.map_none,
        Option.getD_some, Option.getD_none]
      omega

theorem length_insert {β : Type} (alarm : Alarm β) (queue : List (Alarm β)) :
    (alarm.insert queue).length = queue.length + 1 := by
  induction queue with
  | nil => rfl
  | cons first rest ih =>
      rw [Alarm.insert_cons]
      split
      · rfl
      · rw [List.length_cons, ih, List.length_cons]

theorem length_queue_askTimer_le (pipeline : Pipeline α) :
    pipeline.askTimer.2.queue.length ≤ pipeline.timer.queue.length + 1 := by
  refine askTimer_induction
    (fun timer => timer.queue.length ≤ pipeline.timer.queue.length + 1) (Nat.le_succ _)
    (fun delay task => ?_) fun _ bound => bound
  rw [Timer.schedule]
  split
  · exact Nat.le_succ _
  · split
    · exact Nat.le_succ _
    · exact Nat.le_of_eq (length_insert _ _)

/-- A part of a call that calls nobody lowers the toil. -/
theorem Effect.toil_lt (effect : Effect pipeline task stage timer events tasks)
    (inside : isOutside task = false) (uncalled : task.outbound? = none)
    (accounts : ∀ missed, task = .workOff missed → 1 ≤ missed) :
    total taskToil tasks + stageToil stage + timer.queue.length <
      taskToil task + stageToil pipeline.stage + pipeline.timer.queue.length := by
  cases effect with
  | free aside inert allFree =>
      rw [isOutside_of_isAside aside] at inside
      cases inside
  | swept aside gone =>
      rw [isOutside_of_isAside aside] at inside
      cases inside
  | called actions => cases uncalled
  | @enteredSignal call signal announces =>
      have wake := total_wakeTasks_le pipeline.stage
      simp only [taskToil, stageToil, queued, List.length_append, List.length_singleton]
      omega
  | announced =>
      have wake := total_wakeTasks_le pipeline.stage
      simp only [taskToil, stageToil, queued, List.length_append, List.length_singleton]
      omega
  | cancelled active =>
      have bound := total_cancelProducerTasks_le pipeline
      simp only [total_append, total, taskToil, stageToil]
      omega
  | accountedMore empty more =>
      have some := accounts _ rfl
      simp only [total, taskToil, stageToil]
      omega
  | handled first dispatch =>
      have bound := dispatch.toil_le
      simp only [total_append, total, taskToil, stageToil, first, List.length_cons] at bound ⊢
      omega
  | @alarmSet handOff =>
      have bound := length_queue_askTimer_le pipeline
      simp only [total, taskToil]
      omega
  | acceptedHandOff delivery =>
      have bound := delivery.toil_le
      simp only [taskToil, handOffSize, stageToil, Option.map_some, Option.getD_some] at bound ⊢
      omega
  | @refusedHandOff rejection handOff =>
      have bound := total_failureTasks_le pipeline.hook handOff.batch (.timerRejected rejection)
      simp only [taskToil, handOffSize, Option.map_some, Option.getD_some]
      omega
  | failed failure =>
      have bound := failure.toil_le
      simp only [taskToil]
      omega
  | reportedStage =>
      have bound := total_cancelProducerTasks_le pipeline
      simp only [total_append, total, taskToil]
      omega
  | timerClosed => cases inside
  | clockSet idle => cases inside
  | alarmPassedOver due cancelled => cases inside
  | alarmFiredLate due live gone => cases inside
  | alarmFired due live held => cases inside
  | _ =>
      simp only [total, taskToil, stageToil]
      omega

end Toil

/-! ## Steps towards rest -/

section Actions

variable (pipeline : Pipeline α)

theorem toil_hold (tasks : List (Task α)) :
    (pipeline.hold tasks).toil = pipeline.toil + total taskToil tasks := by
  simp only [toil, hold, todo, total_append, total, taskToil]
  omega

theorem trifles_hold (tasks : List (Task α)) :
    (pipeline.hold tasks).trifles = pipeline.trifles + total trifle tasks + 1 := by
  simp only [trifles, hold, todo, total_append, total, trifle]
  omega

theorem toil_sweep_le : pipeline.sweep.toil ≤ pipeline.toil := by
  rcases becomes_sweep pipeline with ⟨_, same⟩ | ⟨_, becomes⟩
  · rw [same]
  · rw [toil, becomes.stage_eq, becomes.timer_eq, becomes.agenda_eq, queue_idleTimer]
    simp only [toil, stageToil, cleared, List.nil_append, List.length_nil]
    omega

theorem trifles_sweep : pipeline.sweep.trifles = pipeline.trifles := by
  rw [trifles, agenda_sweep, trifles]

/-- Calls of the stage that are passed on while it is held. -/
theorem toil_hold_le {action : Action α} {tasks : List (Task α)}
    (cheap : total taskToil tasks ≤ 21 * action.callCount) (earnest : total trifle tasks = 0) :
    (pipeline.hold tasks).toil ≤ pipeline.toil + 21 * action.callCount ∧
      (pipeline.hold tasks).trifles ≤ pipeline.trifles + 1 := by
  rw [toil_hold, trifles_hold]
  omega

theorem toil_moveClock_le {action : Action α} (moves : action.callCount = 1) (instant : Duration) :
    (pipeline.moveClock instant).toil ≤ pipeline.toil + 21 * action.callCount ∧
      (pipeline.moveClock instant).trifles ≤ pipeline.trifles + 1 := by
  rw [moveClock, moves]
  split
  · simp only [toil, trifles, todo, total_append, total, taskToil, trifle]
    omega
  · omega

theorem total_map_enter (calls : List (Inbound α)) :
    total taskToil (calls.map .enter) = 21 * calls.length ∧
      total trifle (calls.map .enter) = 0 := by
  induction calls with
  | nil => exact ⟨rfl, rfl⟩
  | cons call rest ih =>
      simp only [List.map_cons, total, taskToil, trifle, List.length_cons] at ih ⊢
      omega

/-- An action takes no more than its calls, and one trifle. -/
theorem toil_act_le (action : Action α) :
    (pipeline.act action).toil ≤ pipeline.toil + 21 * action.callCount ∧
      (pipeline.act action).trifles ≤ pipeline.trifles + 1 := by
  have nothing : pipeline.toil ≤ pipeline.toil + 21 * action.callCount ∧
      pipeline.trifles ≤ pipeline.trifles + 1 := ⟨Nat.le_add_right _ _, Nat.le_succ _⟩
  have enter : ∀ calls : List (Inbound α), calls.length = action.callCount →
      total taskToil (calls.map Task.enter) ≤ 21 * action.callCount ∧
        total trifle (calls.map Task.enter) = 0 := by
    intro calls count
    rw [← count, (total_map_enter calls).1]
    exact ⟨Nat.le_refl _, (total_map_enter calls).2⟩
  cases action with
  | advance span => exact toil_moveClock_le pipeline rfl _
  | advanceTo instant => exact toil_moveClock_le pipeline rfl _
  | next items =>
      rw [act, onStage]
      split
      · obtain ⟨cheap, earnest⟩ := enter (items.map .next) (List.length_map _)
        rw [List.map_map] at cheap earnest
        exact toil_hold_le pipeline cheap earnest
      · exact nothing
  | requestProducer items =>
      rw [act, onStage]
      split
      · apply toil_hold_le pipeline
        · cases pipeline.stage.producer <;> simp [total, taskToil, Action.callCount]
        · cases pipeline.stage.producer <;> simp [total, trifle]
      · exact nothing
  | shutDownTimer =>
      have cheap :
          total taskToil (pipeline.timer.closingLine?.toList.map .log : List (Task α)) = 0 ∧
            total trifle (pipeline.timer.closingLine?.toList.map .log : List (Task α)) ≤ 1 := by
        cases pipeline.timer.closingLine? <;> simp [total, taskToil, trifle]
      simp only [act, toil, trifles, todo, total_append, Timer.shutDown, List.length_nil]
      omega
  | dropStage =>
      rw [act, dropStage, trifles_sweep]
      have bound := toil_sweep_le { pipeline with owned := false }
      exact ⟨Nat.le_add_right_of_le bound, Nat.le_succ _⟩
  | refuse rejection => exact nothing
  | accept => exact nothing
  | mark content => exact nothing
  | diagnose =>
      rw [act]
      split <;> exact nothing
  | inform =>
      rw [act]
      split <;> exact nothing
  | _ =>
      simp only [act, onStage, onSubscription]
      split
      · obtain ⟨cheap, earnest⟩ := enter [_] rfl
        exact toil_hold_le _ cheap earnest
      · exact nothing

end Actions

section Steps

variable {pipeline : Pipeline α} {task : Task α} {rest : List (Task α)}

/-- A pipeline comes nearer to rest if less toil is left, or no more of it and fewer trifles. -/
def Nearer (pipeline next : Pipeline α) : Prop :=
  next.toil < pipeline.toil ∨ next.toil ≤ pipeline.toil ∧ next.trifles < pipeline.trifles

theorem toil_of_agenda (agenda_eq : pipeline.agenda = task :: rest) :
    pipeline.toil = taskToil task + toil { pipeline with agenda := rest } ∧
      pipeline.trifles = trifle task + trifles { pipeline with agenda := rest } := by
  simp only [toil, trifles, agenda_eq, total, Nat.add_assoc, and_self]

theorem toil_of_becomes {next : Pipeline α} {stage : Stage α} {timer : Timer UInt64}
    {events : List (Event α)} {tasks : List (Task α)}
    (becomes : Becomes pipeline next stage timer events tasks) :
    next.toil = total taskToil tasks + stageToil stage + timer.queue.length +
      total taskToil pipeline.agenda := by
  rw [toil, becomes.stage_eq, becomes.timer_eq, becomes.agenda_eq, total_append]
  omega

/-- The clock comes nearer to its target, unless an alarm starts. -/
theorem nearer_advance {instant : Duration} {stage : Stage α} {timer : Timer UInt64}
    {events : List (Event α)} {tasks : List (Task α)}
    (effect : Effect pipeline (.advance instant) stage timer events tasks) :
    events.countP Event.isFired = 1 ∨ total taskToil tasks + stageToil stage + timer.queue.length <
      1 + stageToil pipeline.stage + pipeline.timer.queue.length := by
  cases effect with
  | free aside inert allFree => cases aside
  | swept aside gone => cases aside
  | clockSet idle =>
      simp only [total, Timer.setClock]
      omega
  | alarmPassedOver due cancelled =>
      obtain ⟨_, later, queue_eq, rfl⟩ := Timer.eq_of_takeDue due
      rw [queue_eq]
      simp only [total, taskToil, List.length_cons]
      omega
  | alarmFiredLate due live gone => exact Or.inl rfl
  | alarmFired due live held => exact Or.inl rfl

/-- A call lowers the toil, unless calls are made in the middle of it. -/
theorem nearer_call (pipeline : Pipeline α) (call : Outbound α) :
    pipeline.reentrantCalls < (pipeline.call call).reentrantCalls ∨
      (pipeline.call call).toil ≤ pipeline.toil := by
  by_cases seen : pipeline.isSeen call = true
  · rw [reentrantCalls_call seen]
    let reaction := pipeline.reactions call.kind (pipeline.calls call.kind)
    have free : total taskToil (reaction.map Task.act) = 22 * callTotal reaction := by
      induction reaction with
      | nil => rfl
      | cons action others ih =>
          simp only [List.map_cons, total, taskToil, callTotal, ih]
          omega
    simp only [Pipeline.call, seen, if_true, toil, todo, note, total_append]
    show _ < _ + callTotal reaction ∨ total taskToil (reaction.map Task.act) + _ + _ + _ ≤ _
    omega
  · right
    simp only [Pipeline.call, seen]
    exact Nat.le_refl _

/-- A step comes nearer to rest, unless an alarm starts or calls are made in the middle of a
call. -/
theorem nearer_step (busy : pipeline.atRest = false)
    (order : InOrder pipeline.stage pipeline.agenda) :
    pipeline.reentrantCalls < pipeline.step.reentrantCalls ∨
      pipeline.firings < pipeline.step.firings ∨ Nearer pipeline pipeline.step := by
  cases agenda_eq : pipeline.agenda with
  | nil =>
      rw [atRest, agenda_eq] at busy
      cases busy
  | cons task rest =>
      obtain ⟨toil_eq, trifles_eq⟩ := toil_of_agenda agenda_eq
      have ofPart : isOutside task = false → task.outbound? = none →
          Nearer pipeline pipeline.step := by
        intro inside uncalled
        obtain ⟨stage, timer, events, tasks, effect, becomes⟩ := exists_step_effect agenda_eq
        have less := effect.toil_lt inside uncalled fun missed same =>
          (order.missed_le missed (agenda_eq ▸ same ▸ List.mem_cons_self)).1
        left
        rw [toil_of_becomes becomes, toil_eq]
        simp only [toil] at less ⊢
        omega
      have step_eq := step_of_agenda agenda_eq
      cases task with
      | act action =>
          obtain ⟨cheap, quick⟩ := toil_act_le { pipeline with agenda := rest } action
          right; right
          rw [Nearer, step_eq, perform, toil_eq, trifles_eq]
          simp only [taskToil, trifle]
          omega
      | release =>
          right; right; right
          have cheap := toil_sweep_le
            { pipeline with agenda := rest, holders := pipeline.holders - 1 }
          rw [step_eq, perform, release, trifles_sweep, toil_eq, trifles_eq]
          exact ⟨Nat.le_trans cheap (Nat.le_add_left _ _), Nat.lt_add_of_pos_left Nat.one_pos⟩
      | log line =>
          right; right; right
          rw [step_eq, toil_eq, trifles_eq]
          exact ⟨Nat.le_add_left _ _, Nat.lt_add_of_pos_left Nat.one_pos⟩
      | advance instant =>
          obtain ⟨stage, timer, events, tasks, effect, becomes⟩ := exists_step_effect agenda_eq
          right
          rcases nearer_advance effect with fired | less
          · left
            have before : firings { pipeline with agenda := rest } = pipeline.firings := rfl
            rw [firings, firings, becomes.chronicle_eq, List.countP_append, fired]
            exact Nat.lt_succ_of_le (Nat.le_of_eq before.symm)
          · right; left
            rw [toil_of_becomes becomes, toil_eq]
            simp only [toil, taskToil] at less ⊢
            omega
      | call call =>
          rcases nearer_call { pipeline with agenda := rest } call with more | less
          · left
            rw [step_eq]
            exact more
          · right; right; left
            rw [step_eq, perform, toil_eq]
            exact Nat.lt_of_le_of_lt less (Nat.lt_add_of_pos_left Nat.one_pos)
      | _ => exact Or.inr (Or.inr (ofPart rfl rfl))

end Steps

/-! ## Runs that come to rest -/

/-- A run works above some tasks: it has come from one moment to another before the first of them
was done. -/
inductive WorksAbove (below : List (Task α)) (first : Pipeline α) : Pipeline α → Prop where
  | here : WorksAbove below first first
  | step {last : Pipeline α} (earlier : WorksAbove below first last)
      (above : last.agenda ≠ below) : WorksAbove below first last.step

/-- A run has done everything above some tasks, and is about to do the first of them. -/
structure Clears (below : List (Task α)) (first last : Pipeline α) : Prop where
  works : WorksAbove below first last
  agenda_eq : last.agenda = below

section WorksAbove

variable {below : List (Task α)} {first middle last : Pipeline α}

theorem ne_below_of_agenda {task : Task α} {upper : List (Task α)}
    (agenda_eq : first.agenda = task :: upper ++ below) : first.agenda ≠ below := by
  rw [agenda_eq]
  exact fun same => List.cons_ne_nil task upper (List.append_left_eq_self.mp same)

theorem WorksAbove.trans (earlier : WorksAbove below first middle)
    (later : WorksAbove below middle last) : WorksAbove below first last := by
  induction later with
  | here => exact earlier
  | step _ above ih => exact ih.step above

theorem WorksAbove.of_step (above : first.agenda ≠ below)
    (works : WorksAbove below first.step last) : WorksAbove below first last :=
  WorksAbove.trans (.step .here above) works

theorem WorksAbove.later (works : WorksAbove below first last) : Later first last := by
  induction works with
  | here => exact .here
  | step _ _ ih => exact ih.step

theorem WorksAbove.reachable {config : Config} {setup : Setup α}
    (works : WorksAbove below first last) (reachable : Reachable config setup first) :
    Reachable config setup last := by
  obtain ⟨opening, made, earlier⟩ := reachable
  exact ⟨opening, made, earlier.trans works.later⟩

/-- What holds of the tasks above, and is preserved when the first of them is done, holds as long as
the run works above the same tasks. -/
theorem WorksAbove.preserve (works : WorksAbove below first last) {upper : List (Task α)}
    (agenda_eq : first.agenda = upper ++ below) (holds : Pipeline α → List (Task α) → Prop)
    (start : holds first upper)
    (steps : ∀ moment task left, WorksAbove below first moment →
      moment.agenda = task :: left ++ below → holds moment (task :: left) →
        ∃ next, moment.step.agenda = next ++ below ∧ holds moment.step next) :
    ∃ left, last.agenda = left ++ below ∧ holds last left := by
  induction works with
  | here => exact ⟨upper, agenda_eq, start⟩
  | @step moment earlier above ih =>
      obtain ⟨left, left_eq, before⟩ := ih
      match left, left_eq, before with
      | [], left_eq, _ => exact absurd left_eq above
      | task :: left, left_eq, before => exact steps moment task left earlier left_eq before

theorem WorksAbove.exists_run (works : WorksAbove [] first last) :
    ∃ steps, first.run steps = last := by
  induction works with
  | here => exact ⟨0, rfl⟩
  | @step last _ above ih =>
      obtain ⟨steps, rfl⟩ := ih
      have busy : (first.run steps).atRest = false := by
        rw [atRest, List.isEmpty_eq_false_iff]
        exact above
      exact ⟨steps + 1, by rw [run_add, run_succ_of_busy busy, run]⟩

end WorksAbove

/-- A run in which only so many alarms start and only so many calls are made in the middle of calls
does everything that stands above some tasks. -/
theorem Reachable.exists_clears {config : Config} {setup : Setup α} {pipeline : Pipeline α}
    (reachable : Reachable config setup pipeline) {upper below : List (Task α)}
    (agenda_eq : pipeline.agenda = upper ++ below) {callLimit firingLimit : Nat}
    (calls : ∀ moment, WorksAbove below pipeline moment → moment.reentrantCalls ≤ callLimit)
    (firings : ∀ moment, WorksAbove below pipeline moment → moment.firings ≤ firingLimit) :
    ∃ last, Clears below pipeline last := by
  match upper, agenda_eq with
  | [], agenda_eq => exact ⟨pipeline, .here, agenda_eq⟩
  | task :: upper, agenda_eq =>
      have busy : pipeline.atRest = false := busy_of_agenda agenda_eq
      have above : pipeline.agenda ≠ below := ne_below_of_agenda agenda_eq
      have fewCalls := calls _ (.step .here above)
      have fewFirings := firings _ (.step .here above)
      have moreCalls := reentrantCalls_le_step pipeline
      have moreFirings := firings_le_step pipeline
      have progress := nearer_step busy reachable.inOrder
      obtain ⟨_, _, _, tasks, _, becomes⟩ := exists_step_effect agenda_eq
      have next_eq : pipeline.step.agenda = tasks ++ upper ++ below :=
        becomes.agenda_eq.trans (List.append_assoc _ _ _).symm
      obtain ⟨last, works, rest⟩ := reachable.step.exists_clears next_eq
        (fun moment works => calls moment (works.of_step above))
        (fun moment works => firings moment (works.of_step above))
      exact ⟨last, works.of_step above, rest⟩
termination_by (callLimit - pipeline.reentrantCalls, firingLimit - pipeline.firings,
  pipeline.toil, pipeline.trifles)
decreasing_by
  simp only [Prod.lex_def, Nearer] at progress ⊢
  omega

theorem Reachable.exists_rest {config : Config} {setup : Setup α} {pipeline : Pipeline α}
    (reachable : Reachable config setup pipeline) {callLimit firingLimit : Nat}
    (calls : ∀ steps, (pipeline.run steps).reentrantCalls ≤ callLimit)
    (firings : ∀ steps, (pipeline.run steps).firings ≤ firingLimit) :
    ∃ steps, (pipeline.run steps).atRest = true := by
  have few : ∀ {limit : Nat} {count : Pipeline α → Nat},
      (∀ steps, count (pipeline.run steps) ≤ limit) →
        ∀ moment, WorksAbove [] pipeline moment → count moment ≤ limit := by
    intro limit count bound moment works
    obtain ⟨steps, rfl⟩ := works.exists_run
    exact bound steps
  obtain ⟨last, works, rest⟩ :=
    reachable.exists_clears (List.append_nil _).symm (few calls) (few firings)
  obtain ⟨steps, rfl⟩ := works.exists_run
  exact ⟨steps, List.isEmpty_iff.mpr rest⟩

end Pipeline

end TimedBatch
