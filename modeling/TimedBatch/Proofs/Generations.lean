import TimedBatch.Proofs.Pruned
import TimedBatch.Proofs.Timeline
import TimedBatch.Proofs.Watch

/-!
# Generations

Whether cancellation works or not, the alarms and ticks that are still to come belong to generations
that were begun. As long as the stage goes on, no more than one of them is of the current
generation. So an alarm that nobody cancelled is recognised by its generation, unless so many
generations were begun that their numbers repeat.
-/

namespace TimedBatch

variable {α : Type}

/-! ## Ticks to come -/

def Signal.ticks (generation : UInt64) : Signal α → Bool
  | .tick other => other == generation
  | _ => false

/-- Whether a task passes the tick of a generation to the stage. -/
def Task.ticks (generation : UInt64) : Task α → Bool
  | .enter (.tick other) => other == generation
  | .announce (.tick other) => other == generation
  | _ => false

/-- Whether an action passes a tick to the stage by hand. -/
def Action.isTick : Action α → Bool
  | .tick _ => true
  | .flushNow => true
  | _ => false

theorem Task.ticks_of_isInner {task : Task α} (inner : task.isInner = true)
    (generation : UInt64) : task.ticks generation = false := by
  cases task <;> first | rfl | cases inner

/-- A task after which the stage does not go on with the alarm that it has. -/
def Task.breaks : Task α → Bool
  | .setAlarm _ => true
  | .answered (.error _) _ => true
  | .endWith _ _ => true
  | .finish => true
  | _ => false

theorem Task.breaks_of_isOuter {task : Task α} (outer : task.isOuter = true) :
    task.breaks = false := by
  cases task <;> first | rfl | cases outer

namespace Pipeline

/-- How many alarms and ticks of a generation are still to come. -/
def toCome (stage : Stage α) (timer : Timer UInt64) (agenda : List (Task α))
    (generation : UInt64) : Nat :=
  timer.queue.countP (fun alarm => alarm.task == generation) +
    stage.signals.countP (Signal.ticks generation) + agenda.countP (Task.ticks generation)

/-- Whether the stage is held, works, and waits for the alarm of its generation. -/
def isGoing (pipeline : Pipeline α) : Bool :=
  pipeline.alive && pipeline.stage.isActive && pipeline.agenda.all fun task => !task.breaks

theorem countP_ticks {tasks : List (Task α)} {generation : UInt64}
    (silent : ∀ task ∈ tasks, task.ticks generation = false) :
    tasks.countP (Task.ticks generation) = 0 :=
  List.countP_eq_zero.mpr fun task member => Bool.eq_false_iff.mp (silent task member)

section Ticks

variable {pipeline : Pipeline α} {task : Task α} {stage : Stage α} {timer : Timer UInt64}
  {events : List (Event α)} {tasks : List (Task α)}

theorem toCome_append (stage : Stage α) (timer : Timer UInt64) (upper lower : List (Task α))
    (generation : UInt64) :
    toCome stage timer (upper ++ lower) generation =
      toCome stage timer upper generation + lower.countP (Task.ticks generation) := by
  rw [toCome, toCome, List.countP_append, ← Nat.add_assoc]

/-- Where a stage keeps its queue and a timer its alarms, no tick is added by tasks that pass
none. -/
theorem toCome_le {generation : UInt64} (signals_eq : stage.signals = pipeline.stage.signals)
    (queue_eq : timer.queue = pipeline.timer.queue)
    (silent : ∀ task ∈ tasks, task.ticks generation = false) :
    toCome stage timer tasks generation ≤
      toCome pipeline.stage pipeline.timer [task] generation := by
  rw [toCome, toCome, signals_eq, queue_eq, countP_ticks silent]
  exact Nat.le_add_right _ _

theorem ticks_wakeTasks (stage : Stage α) (generation : UInt64) :
    ∀ task ∈ wakeTasks stage, task.ticks generation = false := by
  rw [wakeTasks]
  split
  · exact List.forall_mem_singleton.mpr rfl
  · exact List.forall_mem_nil _

/-- A signal is announced by a task that passes the tick of a generation if the signal is one. -/
theorem toCome_queued {generation : UInt64} {signal : Signal α}
    (passes : signal.ticks generation = task.ticks generation) :
    toCome (queued pipeline.stage signal) pipeline.timer (wakeTasks pipeline.stage) generation ≤
      toCome pipeline.stage pipeline.timer [task] generation := by
  rw [toCome, toCome, countP_ticks (ticks_wakeTasks _ _), queued, List.countP_append,
    List.countP_singleton, List.countP_singleton, passes]
  omega

theorem toCome_takeDue {instant : Duration} {alarm : Alarm UInt64} {generation : UInt64}
    (due : pipeline.timer.takeDue instant = some (alarm, timer))
    (only : tasks.countP (Task.ticks generation) ≤ if alarm.task == generation then 1 else 0) :
    toCome pipeline.stage timer tasks generation ≤
      toCome pipeline.stage pipeline.timer [.advance instant] generation := by
  obtain ⟨_, rest, queue_eq, rfl⟩ := Timer.eq_of_takeDue due
  rw [toCome, toCome, queue_eq, List.countP_cons]
  dsimp only
  omega

/-- Ticks to come are added by new alarms only. -/
theorem Effect.toCome_le (effect : Effect pipeline task stage timer events tasks)
    (other : ∀ handOff, task ≠ .setAlarm handOff) {generation : UInt64}
    (silent : task.isAside = true → ∀ added ∈ tasks, added.ticks generation = false) :
    toCome stage timer tasks generation ≤
      toCome pipeline.stage pipeline.timer [task] generation := by
  cases effect with
  | free aside inert allFree => exact Pipeline.toCome_le rfl rfl (silent aside)
  | swept aside gone =>
      exact Pipeline.toCome_le rfl (queue_idleTimer _ _) (List.forall_mem_nil _)
  | timerClosed =>
      rw [toCome, toCome, countP_ticks (silent rfl)]
      exact Nat.add_le_add_right (Nat.add_le_add_right (Nat.zero_le _) _) 0
  | clockSet idle => exact Pipeline.toCome_le rfl rfl (List.forall_mem_nil _)
  | alarmPassedOver due cancelled => exact toCome_takeDue due (Nat.zero_le _)
  | alarmFiredLate due live gone => exact toCome_takeDue due (Nat.zero_le _)
  | alarmFired due live held =>
      refine toCome_takeDue due (Nat.le_of_eq ?_)
      rw [List.countP_cons]
      exact Nat.zero_add _
  | called actions =>
      refine Pipeline.toCome_le rfl rfl fun added member => ?_
      obtain ⟨action, _, rfl⟩ := List.mem_map.mp member
      rfl
  | @enteredSignal call signal announces =>
      refine toCome_queued ?_
      cases call <;> cases announces <;> rfl
  | announced =>
      refine toCome_queued ?_
      rename_i signal
      cases signal <;> rfl
  | handled first dispatch =>
      rename_i missed _ _ _ added
      have silent : ∀ task ∈ added ++ [Task.workOff missed], task.ticks generation = false :=
        List.forall_mem_append.mpr
          ⟨fun task member => Task.ticks_of_isInner (dispatch.isInner task member) generation,
            List.forall_mem_singleton.mpr rfl⟩
      have queue_eq : timer.queue = pipeline.timer.queue := by
        rcases dispatch.clock_eq with rfl | rfl
        · rfl
        · exact queue_idleTimer _ _
      rw [toCome, toCome, queue_eq, dispatch.queue_eq.1, first, countP_ticks silent,
        List.countP_cons]
      dsimp only
      omega
  | alarmSet => exact absurd rfl (other _)
  | acceptedHandOff delivery =>
      refine Pipeline.toCome_le delivery.queue_eq.1 ?_
        fun added member => Task.ticks_of_isInner (delivery.isInner added member) generation
      cases delivery <;> rfl
  | failed failure =>
      refine Pipeline.toCome_le failure.queue_eq.1 ?_
        fun added member => Task.ticks_of_isInner (failure.isInner added member) generation
      cases failure with
      | late ended => rfl
      | ended active => exact queue_idleTimer _ _
  | refusedHandOff =>
      exact Pipeline.toCome_le rfl rfl fun added member =>
        Task.ticks_of_isInner (isInner_failureTasks _ _ added member) generation
  | reportedStage =>
      refine Pipeline.toCome_le rfl rfl (List.forall_mem_append.mpr
        ⟨forall_cancelProducerTasks pipeline fun _ => rfl, List.forall_mem_singleton.mpr rfl⟩)
  | cancelled active =>
      refine Pipeline.toCome_le rfl rfl (List.forall_mem_append.mpr
        ⟨forall_cancelProducerTasks pipeline fun _ => rfl, List.forall_mem_singleton.mpr rfl⟩)
  | _ => exact Pipeline.toCome_le rfl rfl (by simp [Task.ticks])

/-- Alarms are added to the queue by setting one only. -/
theorem Effect.sublist_queue (effect : Effect pipeline task stage timer events tasks)
    (other : ∀ handOff, task ≠ .setAlarm handOff) :
    timer.nextOrder = pipeline.timer.nextOrder ∧ timer.queue.Sublist pipeline.timer.queue := by
  have same : ∀ {stage : Stage α} {timer : Timer UInt64},
      (idleTimer stage timer).nextOrder = timer.nextOrder ∧
        (idleTimer stage timer).queue.Sublist timer.queue := by
    intro stage timer
    rw [queue_idleTimer, nextOrder_idleTimer]
    exact ⟨rfl, List.Sublist.refl _⟩
  have taken : ∀ {instant : Duration} {alarm : Alarm UInt64},
      pipeline.timer.takeDue instant = some (alarm, timer) →
      timer.nextOrder = pipeline.timer.nextOrder ∧
        timer.queue.Sublist pipeline.timer.queue := by
    intro instant alarm due
    obtain ⟨_, rest, queue_eq, rfl⟩ := Timer.eq_of_takeDue due
    rw [queue_eq]
    exact ⟨rfl, List.sublist_cons_self _ _⟩
  cases effect with
  | swept aside gone => exact same
  | timerClosed => exact ⟨rfl, List.nil_sublist _⟩
  | alarmPassedOver due cancelled => exact taken due
  | alarmFiredLate due live gone => exact taken due
  | alarmFired due live held => exact taken due
  | handled first dispatch =>
      rcases dispatch.clock_eq with rfl | rfl
      · exact ⟨rfl, List.Sublist.refl _⟩
      · exact same
  | alarmSet => exact absurd rfl (other _)
  | acceptedHandOff delivery =>
      cases delivery with
      | unpaid active unpaid => exact same
      | _ => exact ⟨rfl, List.Sublist.refl _⟩
  | failed failure =>
      cases failure with
      | late ended => exact ⟨rfl, List.Sublist.refl _⟩
      | ended active => exact same
  | _ => exact ⟨rfl, List.Sublist.refl _⟩

end Ticks

/-! ## Turns -/

section Turns

variable {pipeline : Pipeline α} {task : Task α} {stage : Stage α} {timer : Timer UInt64}
  {events : List (Event α)} {tasks : List (Task α)}

/-- What a task means to the stage that waits for an alarm. -/
inductive Turn (before : Stage α) (clock : Timer UInt64) (task : Task α) (held : Bool)
    (stage : Stage α) (timer : Timer UInt64) (tasks : List (Task α)) : Prop where
  /-- The stage does not go on. -/
  | ends (generation_eq : stage.generation = before.generation)
      (unasked : ∀ handOff, .setAlarm handOff ∉ tasks)
      (broken : held = true → stage.status = .active → ∃ added ∈ tasks, added.breaks = true)
  /-- The stage goes on as before. An alarm that it did not have may be its own now. -/
  | goesOn (generation_eq : stage.generation = before.generation)
      (unasked : ∀ handOff, .setAlarm handOff ∉ tasks)
      (status_eq : stage.status = before.status) (calm : task.breaks = false)
      (register_eq : timer.register = clock.register)
      (unset : stage.alarm = none → before.alarm = none ∧
        ∀ token handOff, task ≠ .answered (.ok token) handOff)
  /-- A new generation begins, and its alarm is to be set. -/
  | renews {missed : Nat} {handOff : Option (HandOff α)} (works : task = .workOff missed)
      (active : before.status = .active)
      (generation_eq : stage.generation = before.generation + 1)
      (asks : tasks = [.setAlarm handOff, .workOff missed])
  /-- The alarm of the same generation is to be set for the first time, or anew after its tick. -/
  | repeats {missed : Nat} {handOff : Option (HandOff α)} (works : task = .workOff missed)
      (active : before.status = .active)
      (generation_eq : stage.generation = before.generation)
      (asks : tasks = [.setAlarm handOff, .workOff missed])
      (spent : before.alarm = none ∨
        toCome stage timer tasks stage.generation + 1 ≤
          toCome before clock [task] stage.generation)

theorem breaks_failureTasks {hook : DiscardHook} {items : List α} {error : StreamError} :
    ∃ task ∈ failureTasks hook items error, task.breaks = true :=
  ⟨.endWith error .stage, List.mem_append_right _ (List.mem_singleton_self _), rfl⟩

theorem unasked_of_isCalm (calm : ∀ task ∈ tasks, task.isCalm = true)
    (handOff : Option (HandOff α)) : .setAlarm handOff ∉ tasks :=
  fun member => nomatch calm _ member

/-- What working a signal off means to the stage. -/
theorem Dispatch.turn {signal : Signal α} {rest : List (Signal α)} {missed : Nat} {held : Bool}
    (noticed : Noticed pipeline.stage (.workOff missed :: pipeline.agenda))
    (first : pipeline.stage.signals = signal :: rest)
    (dispatch : Dispatch pipeline.hook { pipeline.stage with signals := rest } pipeline.timer signal
      stage timer events tasks) :
    Turn pipeline.stage pipeline.timer (.workOff missed) held stage timer
      (tasks ++ [Task.workOff missed]) := by
  have unasked : ∀ {tasks : List (Task α)}, (∀ task ∈ tasks, task.isCalm = true) →
      ∀ handOff, .setAlarm handOff ∉ tasks ++ [Task.workOff missed] := by
    intro tasks calm
    exact unasked_of_isCalm (List.forall_mem_append.mpr
      ⟨calm, List.forall_mem_singleton.mpr rfl⟩)
  have goesOn : ∀ {stage : Stage α} {tasks : List (Task α)},
      stage.generation = pipeline.stage.generation → stage.status = pipeline.stage.status →
      stage.alarm = pipeline.stage.alarm → (∀ task ∈ tasks, task.isCalm = true) →
      Turn pipeline.stage pipeline.timer (.workOff missed) held stage pipeline.timer
        (tasks ++ [Task.workOff missed]) :=
    fun generation_eq status_eq alarm_eq calm =>
      .goesOn generation_eq (unasked calm) status_eq rfl rfl
        fun unset => ⟨alarm_eq.symm.trans unset, by simp⟩
  -- A stage that is closed ends with a task that says so, or has ended already.
  have closes : ∀ {stage : Stage α} {timer : Timer UInt64} {tasks : List (Task α)},
      stage.generation = pipeline.stage.generation →
      (∀ handOff, .setAlarm handOff ∉ tasks) →
      (stage.status = .active → ∃ added ∈ tasks, added.breaks = true) →
      Turn pipeline.stage pipeline.timer (.workOff missed) held stage timer
        (tasks ++ [Task.workOff missed]) := by
    intro stage timer tasks generation_eq unasked broken
    refine .ends generation_eq (fun handOff member => ?_) fun _ active => ?_
    · rcases List.mem_append.mp member with member | member
      · exact unasked handOff member
      · cases List.mem_singleton.mp member
    · obtain ⟨added, member, breaks⟩ := broken active
      exact ⟨added, List.mem_append_left _ member, breaks⟩
  have spent : ∀ {stage : Stage α} {timer : Timer UInt64} {handOff : Option (HandOff α)}
      {generation : UInt64}, signal = .tick generation → stage.signals = rest →
      timer.queue = pipeline.timer.queue →
      toCome stage timer [.setAlarm handOff, .workOff missed] generation + 1 ≤
        toCome pipeline.stage pipeline.timer [.workOff missed] generation := by
    intro stage timer handOff generation ticks signals_eq queue_eq
    have here : (signal :: rest).countP (Signal.ticks generation) =
        rest.countP (Signal.ticks generation) + 1 := by
      rw [ticks]
      exact List.countP_cons_of_pos (beq_self_eq_true generation)
    rw [toCome, toCome, signals_eq, queue_eq, first, here]
    exact Nat.le_of_eq (Nat.add_assoc _ _ 1)
  cases dispatch with
  | subscribedAgain reason => exact goesOn rfl rfl rfl (List.forall_mem_nil _)
  | subscribed active unset => exact .repeats rfl active rfl rfl (Or.inl unset)
  | itemLate ended => exact goesOn rfl rfl rfl (List.forall_mem_singleton.mpr rfl)
  | itemUnrequested active unrequested =>
      exact goesOn rfl rfl rfl (by simp [Task.isCalm, Task.isArming, isClosing])
  | itemTaken active received room => exact goesOn rfl rfl rfl (List.forall_mem_nil _)
  | itemLast active received full => exact .renews rfl active rfl rfl
  | tickLate ended => exact goesOn rfl rfl rfl (List.forall_mem_nil _)
  | tickStale active stale => exact goesOn rfl rfl rfl (List.forall_mem_nil _)
  | tickEmpty active empty =>
      exact .repeats rfl active rfl rfl (Or.inr (spent rfl rfl (queue_idleTimer _ _)))
  | tickClosing active filled => exact .renews rfl active rfl rfl
  | completedLate ended => exact goesOn rfl rfl rfl (List.forall_mem_nil _)
  | completedEmpty active empty =>
      exact closes rfl (by simp) fun _ => ⟨.finish, List.mem_singleton_self _, rfl⟩
  | completed active filled delivery =>
      cases delivery with
      | late ended => exact absurd active ended
      | unpaid _ unpaid =>
          exact closes rfl (unasked_of_isCalm isCalm_failureTasks) fun _ => breaks_failureTasks
      | paid _ paid =>
          exact closes rfl (by simp [closingTasks]) fun _ =>
            ⟨.finish, by simp [closingTasks], rfl⟩
  | failed failure =>
      cases failure with
      | late ended => exact goesOn rfl rfl rfl (List.forall_mem_nil _)
      | ended active => exact closes rfl (unasked_of_isCalm isCalm_endingTasks) (by simp)
  | cancelledEmpty empty =>
      have ended := noticed.ended (Or.inl (by rw [first]; exact List.mem_cons_self))
      exact closes rfl (unasked_of_isCalm isCalm_hookTasks) fun active => absurd active ended
  | cancelled filled =>
      have ended := noticed.ended (Or.inl (by rw [first]; exact List.mem_cons_self))
      exact closes rfl (unasked_of_isCalm isCalm_hookTasks) fun active => absurd active ended

/-- What a task means to the stage, where it sets no alarm. -/
theorem Effect.turn {held : Bool} (effect : Effect pipeline task stage timer events tasks)
    (noticed : Noticed pipeline.stage (task :: pipeline.agenda))
    (other : ∀ handOff, task ≠ .setAlarm handOff)
    (same : held = true → task.isAside = true → stage = pipeline.stage) :
    Turn pipeline.stage pipeline.timer task held stage timer tasks := by
  have goesOn : ∀ {stage : Stage α} {timer : Timer UInt64} {tasks : List (Task α)},
      task.isArming = false → task.breaks = false → timer.register = pipeline.timer.register →
      stage.generation = pipeline.stage.generation → stage.status = pipeline.stage.status →
      stage.alarm = pipeline.stage.alarm → (∀ task ∈ tasks, task.isCalm = true) →
      Turn pipeline.stage pipeline.timer task held stage timer tasks := by
    intro stage timer tasks unarmed calm register_eq generation_eq status_eq alarm_eq added
    refine .goesOn generation_eq (unasked_of_isCalm added) status_eq calm register_eq
      fun unset => ⟨alarm_eq.symm.trans unset, ?_⟩
    rintro token handOff rfl
    cases unarmed
  have aside : task.isAside = true → task.isArming = false ∧ task.breaks = false := by
    intro aside
    cases task <;> first | exact ⟨rfl, rfl⟩ | cases aside
  have ends : ∀ {stage : Stage α} {timer : Timer UInt64} {tasks : List (Task α)},
      stage.generation = pipeline.stage.generation → (∀ task ∈ tasks, task.isCalm = true) →
      (held = true → stage.status = .active → ∃ added ∈ tasks, added.breaks = true) →
      Turn pipeline.stage pipeline.timer task held stage timer tasks :=
    fun generation_eq calm broken => .ends generation_eq (unasked_of_isCalm calm) broken
  have taken : ∀ {instant : Duration} {alarm : Alarm UInt64} {timer : Timer UInt64},
      pipeline.timer.takeDue instant = some (alarm, timer) →
      timer.register = pipeline.timer.register := by
    intro instant alarm timer due
    obtain ⟨_, rest, _, rfl⟩ := Timer.eq_of_takeDue due
    rfl
  cases effect with
  | free isAside inert allFree =>
      exact goesOn (aside isAside).1 (aside isAside).2 rfl rfl rfl rfl
        fun task member => Task.isCalm_of_isFree (allFree task member)
  | swept isAside gone =>
      cases held with
      | false => exact ends rfl (List.forall_mem_nil _) (by simp)
      | true =>
          have empty := same rfl isAside
          refine goesOn (aside isAside).1 (aside isAside).2 ?_ rfl rfl
            (congrArg Stage.alarm empty) (List.forall_mem_nil _)
          rw [idleTimer_of_cleared empty]
  | timerClosed =>
      refine goesOn rfl rfl rfl rfl rfl rfl fun task member => ?_
      obtain ⟨line, _, rfl⟩ := List.mem_map.mp member
      rfl
  | alarmPassedOver due cancelled =>
      exact goesOn rfl rfl (taken due) rfl rfl rfl (List.forall_mem_singleton.mpr rfl)
  | alarmFiredLate due live gone =>
      exact goesOn rfl rfl (taken due) rfl rfl rfl (List.forall_mem_singleton.mpr rfl)
  | alarmFired due live held =>
      exact goesOn rfl rfl (taken due) rfl rfl rfl
        (by simp [Task.isCalm, Task.isArming, isClosing])
  | called actions =>
      refine goesOn rfl rfl rfl rfl rfl rfl fun task member => ?_
      obtain ⟨action, _, rfl⟩ := List.mem_map.mp member
      rfl
  | enteredSignal announces => exact goesOn rfl rfl rfl rfl rfl rfl isCalm_wakeTasks
  | announced => exact goesOn rfl rfl rfl rfl rfl rfl isCalm_wakeTasks
  | handled first dispatch => exact dispatch.turn noticed first
  | alarmSet => exact absurd rfl (other _)
  | accepted =>
      exact .goesOn rfl (fun _ => List.not_mem_nil) rfl rfl rfl (by simp)
  | acceptedHandOff delivery =>
      cases delivery with
      | late ended => exact ends rfl isCalm_hookTasks fun _ active => absurd active ended
      | unpaid active unpaid =>
          exact ends rfl isCalm_failureTasks fun _ _ => breaks_failureTasks
      | paid active paid =>
          refine .goesOn rfl ?_ rfl rfl rfl (by simp)
          intro other member
          rcases List.mem_cons.mp member with same | member
          · cases same
          · rw [closingTasks] at member
            split at member
            · cases List.mem_singleton.mp member
            · cases member
  | refused =>
      exact ends rfl (List.forall_mem_singleton.mpr rfl)
        fun _ _ => ⟨_, List.mem_singleton_self _, rfl⟩
  | refusedHandOff => exact ends rfl isCalm_failureTasks fun _ _ => breaks_failureTasks
  | failed failure =>
      cases failure with
      | late ended => exact ends rfl (List.forall_mem_nil _) fun _ active => absurd active ended
      | ended active => exact ends rfl isCalm_endingTasks (by simp)
  | reportedStage =>
      exact goesOn rfl rfl rfl rfl rfl rfl (List.forall_mem_append.mpr
        ⟨forall_cancelProducerTasks pipeline fun _ => rfl, List.forall_mem_singleton.mpr rfl⟩)
  | finished active => exact ends rfl (List.forall_mem_singleton.mpr rfl) (by simp)
  | finishedLate ended =>
      exact ends rfl (List.forall_mem_nil _) fun _ active => absurd active ended
  | cancelled active =>
      refine .ends rfl (fun handOff member => ?_) (by simp)
      rcases List.mem_append.mp member with member | member
      · obtain ⟨producer, _, same⟩ := List.mem_map.mp member
        cases same
      · cases List.mem_singleton.mp member
  | _ => exact goesOn rfl rfl rfl rfl rfl rfl (by simp [Task.isCalm, Task.isArming, isClosing])

end Turns

/-! ## Setting an alarm -/

section Asking

variable {pipeline : Pipeline α}

/-- Whether an alarm can be set, and its deadline if so. -/
def verdict (pipeline : Pipeline α) : Except TimerRejection Duration :=
  match pipeline.refusal with
  | some rejection => .error rejection
  | none =>
      match pipeline.timer.deadline? pipeline.stage.config.timeSpan with
      | none => .error (.delayOutOfRange pipeline.timer.workerName)
      | some deadline =>
          if pipeline.timer.isShutDown then .error (.shutDown pipeline.timer.workerName)
          else .ok deadline

theorem askTimer_of_error {rejection : TimerRejection}
    (refused : pipeline.verdict = .error rejection) :
    pipeline.askTimer = (.error rejection, pipeline.timer) := by
  revert refused
  rw [verdict, askTimer, Timer.schedule]
  cases pipeline.refusal with
  | some refusal =>
      rintro ⟨⟩
      rfl
  | none =>
      cases pipeline.timer.deadline? pipeline.stage.config.timeSpan with
      | none =>
          rintro ⟨⟩
          rfl
      | some deadline =>
          dsimp only
          split <;> rintro ⟨⟩
          rfl

/-- An alarm that is set is put into the queue and is not cancelled. Nothing else is. -/
theorem exists_askTimer {deadline : Duration} (accepted : pipeline.verdict = .ok deadline) :
    ∃ (token own : CancelToken) (register : CancelRegister),
      pipeline.askTimer = (.ok token,
        { pipeline.timer with
          queue := (Alarm.mk deadline pipeline.timer.nextOrder own
            pipeline.stage.generation).insert pipeline.timer.queue
          nextOrder := pipeline.timer.nextOrder + 1
          register := register }) ∧
      register.isCancelled own = false ∧
      ∀ other, register.isCancelled other = pipeline.timer.register.isCancelled other := by
  let made := pipeline.timer.register.make
  have unmade : made.2.isCancelled made.1 = false :=
    pipeline.timer.register.isCancelled_make_self
  have same : ∀ other, made.2.isCancelled other = pipeline.timer.register.isCancelled other :=
    pipeline.timer.register.isCancelled_make
  revert accepted
  rw [verdict, askTimer, Timer.schedule]
  cases pipeline.refusal with
  | some refusal => rintro ⟨⟩
  | none =>
      cases pipeline.timer.deadline? pipeline.stage.config.timeSpan with
      | none => rintro ⟨⟩
      | some instant =>
          dsimp only
          split <;> rintro ⟨⟩
          cases pipeline.detached with
          | false => exact ⟨_, made.1, made.2, rfl, unmade, same⟩
          | true =>
              refine ⟨_, made.1, made.2.make.2, rfl, ?_, fun other => ?_⟩
              · exact (made.2.isCancelled_make _).trans unmade
              · exact (made.2.isCancelled_make other).trans (same other)

theorem setAlarm_of_error {rejection : TimerRejection}
    (refused : pipeline.verdict = .error rejection) (handOff : Option (HandOff α)) :
    pipeline.setAlarm handOff =
      pipeline.todo [.call (.schedule pipeline.stage.config.timeSpan false),
        .answered (.error rejection) handOff] := by
  rw [setAlarm, askTimer_of_error refused]
  rfl

/-- A pipeline whose timer has one more alarm, and other tokens. -/
def withAlarm (pipeline : Pipeline α) (deadline : Duration) (own : CancelToken)
    (register : CancelRegister) : Pipeline α :=
  { pipeline with
    timer :=
      { pipeline.timer with
        queue := (Alarm.mk deadline pipeline.timer.nextOrder own
          pipeline.stage.generation).insert pipeline.timer.queue
        nextOrder := pipeline.timer.nextOrder + 1
        register := register } }

@[simp]
theorem agenda_withAlarm (pipeline : Pipeline α) (deadline : Duration) (own : CancelToken)
    (register : CancelRegister) :
    (pipeline.withAlarm deadline own register).agenda = pipeline.agenda :=
  rfl

theorem toCome_withAlarm (pipeline : Pipeline α) (deadline : Duration) (own : CancelToken)
    (register : CancelRegister) (agenda : List (Task α)) (generation : UInt64) :
    toCome pipeline.stage (pipeline.withAlarm deadline own register).timer agenda generation =
      toCome pipeline.stage pipeline.timer agenda generation +
        if pipeline.stage.generation == generation then 1 else 0 := by
  rw [toCome, toCome, withAlarm, (Alarm.perm_insert _ _).countP_eq, List.countP_cons]
  dsimp only
  omega

theorem exists_setAlarm {deadline : Duration} (accepted : pipeline.verdict = .ok deadline)
    (handOff : Option (HandOff α)) :
    ∃ (token own : CancelToken) (register : CancelRegister),
      pipeline.setAlarm handOff =
        (pipeline.withAlarm deadline own register).todo
          [.call (.schedule pipeline.stage.config.timeSpan true),
            .answered (.ok token) handOff] ∧
      register.isCancelled own = false ∧
      ∀ other, register.isCancelled other = pipeline.timer.register.isCancelled other := by
  obtain ⟨token, own, register, askTimer_eq, live, same⟩ := exists_askTimer accepted
  refine ⟨token, own, register, ?_, live, same⟩
  rw [setAlarm, askTimer_eq]
  rfl

end Asking

/-! ## Generations that were begun -/

/-- How a stage that goes on stands to its generation. -/
structure Going (count : Nat) (pipeline : Pipeline α) : Prop where
  count_le : count ≤ pipeline.timer.nextOrder
  once : toCome pipeline.stage pipeline.timer pipeline.agenda pipeline.stage.generation ≤ 1
  uncancelled : ∀ alarm ∈ pipeline.timer.queue, alarm.task = pipeline.stage.generation →
    pipeline.timer.isCancelled alarm.token = false
  unset : pipeline.stage.alarm = none →
    (∀ token handOff, .answered (.ok token) handOff ∉ pipeline.agenda) →
      toCome pipeline.stage pipeline.timer pipeline.agenda pipeline.stage.generation = 0

/-- So many generations were begun after the first, and no other alarms and ticks are to come. -/
structure Fit (count : Nat) (pipeline : Pipeline α) : Prop where
  generation_eq : pipeline.stage.generation = .ofNat count
  aged : ∀ generation, toCome pipeline.stage pipeline.timer pipeline.agenda generation ≠ 0 →
    ∃ earlier ≤ count, generation = .ofNat earlier
  asking : ∀ handOff, .setAlarm handOff ∈ pipeline.agenda →
    count ≤ pipeline.timer.nextOrder + 1 ∧
      ∀ generation, toCome pipeline.stage pipeline.timer pipeline.agenda generation ≠ 0 →
        ∃ earlier < count, generation = .ofNat earlier
  going : pipeline.isGoing = true → Going count pipeline

section Fit

variable {config : Config} {pipeline : Pipeline α} {task : Task α} {rest : List (Task α)}
  {count : Nat}

theorem isGoing_iff : pipeline.isGoing = true ↔ pipeline.alive = true ∧
    pipeline.stage.status = .active ∧ ∀ task ∈ pipeline.agenda, task.breaks = false := by
  rw [isGoing, Bool.and_eq_true, Bool.and_eq_true, Stage.isActive_iff, List.all_eq_true, and_assoc]
  simp only [Bool.not_eq_true']

/-- A stage that works its queue off goes on, if it works. -/
theorem isGoing_of_workOff {missed : Nat} (order : InOrder pipeline.stage pipeline.agenda)
    (held : Held pipeline) (agenda_eq : pipeline.agenda = .workOff missed :: rest)
    (active : pipeline.stage.status = .active) : pipeline.isGoing = true := by
  rw [agenda_eq] at order
  refine isGoing_iff.mpr ⟨?_, active, ?_⟩
  · by_contra gone
    have outside := held.isOutside (Bool.eq_false_iff.mpr gone)
    rw [agenda_eq] at outside
    cases outside _ List.mem_cons_self
  · rw [agenda_eq]
    exact List.forall_mem_cons.mpr
      ⟨rfl, fun task member => Task.breaks_of_isOuter (order.outer_of_workOff task member)⟩

theorem ofNat_inj {first second : Nat} (firstFits : first < 2 ^ 64) (secondFits : second < 2 ^ 64)
    (same : UInt64.ofNat first = .ofNat second) : first = second := by
  have values := congrArg UInt64.toNat same
  rwa [UInt64.toNat_ofNat_of_lt' firstFits, UInt64.toNat_ofNat_of_lt' secondFits] at values

theorem Fit.opening {setup : Setup α} (made : opening? config setup = .ok pipeline) :
    Fit 0 pipeline := by
  rw [opening?] at made
  split at made <;> cases made
  refine ⟨rfl, fun _ some => absurd rfl some, fun _ member => absurd member List.not_mem_nil,
    fun _ => ?_⟩
  exact ⟨Nat.le_refl 0, Nat.zero_le 1, List.forall_mem_nil _, fun _ _ => rfl⟩

theorem Fit.begin (fit : Fit count pipeline) (atRest : pipeline.atRest = true) (action : Action α) :
    Fit count (pipeline.begin action) := by
  have empty : pipeline.agenda = [] := List.isEmpty_iff.mp atRest
  have agenda_eq : (pipeline.begin action).agenda = [.act action] :=
    agenda_begin_of_atRest atRest action
  have same : ∀ generation, toCome (pipeline.begin action).stage (pipeline.begin action).timer
      (pipeline.begin action).agenda generation =
      toCome pipeline.stage pipeline.timer pipeline.agenda generation := by
    intro generation
    rw [agenda_eq, empty]
    rfl
  refine ⟨fit.generation_eq, fun generation some => ?_, fun handOff member => ?_, fun going => ?_⟩
  · exact fit.aged generation (same generation ▸ some)
  · rw [agenda_eq] at member
    cases List.mem_singleton.mp member
  · have before : pipeline.isGoing = true := by
      have ⟨alive, active, _⟩ := isGoing_iff.mp going
      refine isGoing_iff.mpr ⟨alive, active, ?_⟩
      rw [empty]
      exact List.forall_mem_nil _
    have ⟨count_le, once, uncancelled, unset⟩ := fit.going before
    refine ⟨count_le, (same _).trans_le once, uncancelled, fun none _ => ?_⟩
    refine (same _).trans (unset none fun token handOff member => ?_)
    rw [empty] at member
    cases member

/-- What an action puts on the agenda passes no tick, where the action does not. -/
theorem FollowUp.ticks {action : Action α} (followUp : FollowUp pipeline action task)
    (tickless : action.isTick = false) (generation : UInt64) : task.ticks generation = false := by
  cases followUp with
  | enter made =>
      cases action with
      | tick other => cases tickless
      | flushNow => cases tickless
      | next items =>
          obtain ⟨item, _, rfl⟩ := List.mem_map.mp made
          rfl
      | subscribe => rw [List.mem_singleton.mp made]; rfl
      | error error => rw [List.mem_singleton.mp made]; rfl
      | complete => rw [List.mem_singleton.mp made]; rfl
      | request batches => rw [List.mem_singleton.mp made]; rfl
      | cancel => rw [List.mem_singleton.mp made]; rfl
      | _ => cases made
  | _ => rfl

/-- Nothing that is done outside the calls of the stage passes a tick to it, but by hand. -/
theorem ticks_of_isAside {tasks : List (Task α)}
    (agenda_eq : ({ pipeline with agenda := rest }.perform task).agenda = tasks ++ rest)
    (aside : task.isAside = true) (tickless : ∀ action, task = .act action → action.isTick = false)
    (generation : UInt64) : ∀ added ∈ tasks, added.ticks generation = false := by
  have nothing : ({ pipeline with agenda := rest }.perform task).agenda = rest →
      ∀ added ∈ tasks, added.ticks generation = false := by
    intro unchanged
    have empty : tasks = [] := List.append_left_eq_self.mp (agenda_eq.symm.trans unchanged)
    rw [empty]
    exact List.forall_mem_nil _
  cases task with
  | act action =>
      obtain ⟨others, others_eq, each, _⟩ := putsOn_act { pipeline with agenda := rest } action
      have same : tasks = others := List.append_cancel_right (agenda_eq.symm.trans others_eq)
      rw [same]
      exact fun added member => (each added member).ticks (tickless action rfl) generation
  | release => exact nothing (agenda_sweep _)
  | log line => exact nothing rfl
  | _ => cases aside

/-- When an alarm is about to be set, all that is to come is of earlier generations. -/
theorem Fit.toCome_of_asking {handOff : Option (HandOff α)} (fit : Fit count pipeline)
    (agenda_eq : pipeline.agenda = .setAlarm handOff :: rest) (fits : count < 2 ^ 64) :
    toCome pipeline.stage pipeline.timer rest pipeline.stage.generation = 0 := by
  have older := (fit.asking handOff (agenda_eq ▸ List.mem_cons_self)).2
  by_contra some
  have ahead : toCome pipeline.stage pipeline.timer pipeline.agenda
      pipeline.stage.generation ≠ 0 := by
    rw [agenda_eq, toCome, List.countP_cons_of_neg (by exact Bool.false_ne_true)]
    exact some
  obtain ⟨earlier, before, same⟩ := older _ ahead
  rw [fit.generation_eq] at same
  exact Nat.ne_of_gt before (ofNat_inj fits (Nat.lt_trans before fits) same)

/-- An alarm that is set is the only one of its generation. -/
theorem Fit.setAlarm {handOff : Option (HandOff α)} (fit : Fit count pipeline)
    (single : pipeline.agenda.countP Task.isPivot ≤ 1)
    (agenda_eq : pipeline.agenda = .setAlarm handOff :: rest)
    (bound : pipeline.step.timer.nextOrder < 2 ^ 64) : Fit count pipeline.step := by
  have ⟨generation_eq, aged, asking, _⟩ := fit
  have count_le := (asking handOff (agenda_eq ▸ List.mem_cons_self)).1
  have nobody : ∀ {other : Option (HandOff α)}, .setAlarm other ∉ rest := by
    intro other member
    rw [agenda_eq, List.countP_cons_of_pos rfl] at single
    have none : rest.countP Task.isPivot = 0 := Nat.le_zero.mp (Nat.le_of_succ_le_succ single)
    exact List.countP_eq_zero.mp none _ member rfl
  have toCome_eq : ∀ generation, toCome pipeline.stage pipeline.timer pipeline.agenda generation =
      toCome pipeline.stage pipeline.timer rest generation := by
    intro generation
    rw [agenda_eq, toCome, toCome, List.countP_cons_of_neg (by exact Bool.false_ne_true)]
  simp only [toCome_eq] at aged
  rw [step_of_agenda agenda_eq, perform] at bound ⊢
  cases asked : { pipeline with agenda := rest }.verdict with
  | error rejection =>
      rw [setAlarm_of_error asked]
      refine ⟨generation_eq, aged, fun other member => ?_, fun going => ?_⟩
      · exact absurd member (by simpa using nobody)
      · have calm := (isGoing_iff.mp going).2.2
        cases calm (.answered (.error rejection) handOff) (by simp)
  | ok deadline =>
      obtain ⟨token, own, register, next_eq, live, same⟩ := exists_setAlarm asked handOff
      rw [next_eq] at bound ⊢
      have fits : count < 2 ^ 64 := Nat.lt_of_le_of_lt count_le bound
      have toCome_next : ∀ generation, toCome pipeline.stage
          ({ pipeline with agenda := rest }.withAlarm deadline own register).timer
          ([.call (.schedule pipeline.stage.config.timeSpan true),
            .answered (.ok token) handOff] ++ rest) generation =
          toCome pipeline.stage pipeline.timer rest generation +
            if pipeline.stage.generation == generation then 1 else 0 := by
        intro generation
        rw [← toCome_withAlarm { pipeline with agenda := rest } deadline own register]
        rfl
      have none := fit.toCome_of_asking agenda_eq fits
      refine ⟨generation_eq, fun generation some => ?_, fun other member => ?_, fun _ => ?_⟩
      · by_cases current : pipeline.stage.generation = generation
        · exact ⟨count, Nat.le_refl _, current.symm.trans generation_eq⟩
        · refine aged generation fun nothing => some ((toCome_next generation).trans ?_)
          rw [nothing, if_neg (by simpa using current)]
      · exact absurd member (by simpa using nobody)
      · refine ⟨count_le, ?_, fun alarm member current => ?_, fun _ unanswered => ?_⟩
        · refine (toCome_next pipeline.stage.generation).trans_le ?_
          rw [none, if_pos (beq_self_eq_true _)]
        · rcases Alarm.mem_insert.mp member with rfl | member
          · exact live
          · have nothing :=
              Nat.eq_zero_of_add_eq_zero_right (Nat.eq_zero_of_add_eq_zero_right none)
            exact absurd (beq_iff_eq.mpr current) (List.countP_eq_zero.mp nothing alarm member)
        · exact absurd (by simp) (unanswered token handOff)

/-- No alarm and no tick is added to those that are still to come. -/
structure Fewer (pipeline next : Pipeline α) : Prop where
  nextOrder_eq : next.timer.nextOrder = pipeline.timer.nextOrder
  toCome_le : ∀ generation, toCome next.stage next.timer next.agenda generation ≤
    toCome pipeline.stage pipeline.timer pipeline.agenda generation
  sublist : next.timer.queue.Sublist pipeline.timer.queue

theorem Fewer.some_of {next : Pipeline α} (fewer : Fewer pipeline next) {generation : UInt64}
    (some : toCome next.stage next.timer next.agenda generation ≠ 0) :
    toCome pipeline.stage pipeline.timer pipeline.agenda generation ≠ 0 :=
  fun none => some (Nat.le_zero.mp (none ▸ fewer.toCome_le generation))

theorem fewer_step (agenda_eq : pipeline.agenda = task :: rest)
    (other : ∀ handOff, task ≠ .setAlarm handOff)
    (tickless : ∀ action, task = .act action → action.isTick = false) :
    Fewer pipeline pipeline.step := by
  obtain ⟨stage, timer, events, tasks, effect, becomes⟩ := exists_step_effect agenda_eq
  have after_eq : ({ pipeline with agenda := rest }.perform task).agenda = tasks ++ rest := by
    rw [← step_of_agenda agenda_eq]
    exact becomes.agenda_eq
  obtain ⟨nextOrder_eq, sublist⟩ := effect.sublist_queue other
  rw [← becomes.timer_eq] at nextOrder_eq sublist
  refine ⟨nextOrder_eq, fun generation => ?_, sublist⟩
  have le := effect.toCome_le other (ticks_of_isAside after_eq · tickless generation)
  have before := toCome_append pipeline.stage pipeline.timer [task] rest generation
  rw [becomes.stage_eq, becomes.timer_eq, becomes.agenda_eq, agenda_eq, toCome_append]
  exact (Nat.add_le_add_right le _).trans_eq before.symm

/-- A stage that does not begin a new generation, or sets no alarm for it. -/
theorem Fit.keep {next : Pipeline α} (fit : Fit count pipeline) (fewer : Fewer pipeline next)
    (generation_eq : next.stage.generation = pipeline.stage.generation)
    (asking : ∀ handOff, .setAlarm handOff ∈ next.agenda → .setAlarm handOff ∈ pipeline.agenda)
    (going : next.isGoing = true → Going count next) : Fit count next where
  generation_eq := generation_eq.trans fit.generation_eq
  aged := fun generation some => fit.aged generation (fewer.some_of some)
  asking := by
    intro handOff member
    obtain ⟨count_le, older⟩ := fit.asking handOff (asking handOff member)
    rw [fewer.nextOrder_eq]
    exact ⟨count_le, fun generation some => older generation (fewer.some_of some)⟩
  going := going

/-- A stage that goes on after a step went on before, with the same generation. -/
structure GoesOn (pipeline next : Pipeline α) : Prop where
  going : pipeline.isGoing = true
  generation_eq : next.stage.generation = pipeline.stage.generation
  register_eq : next.timer.register = pipeline.timer.register
  unset : next.stage.alarm = none → (∀ token handOff, .answered (.ok token) handOff ∉ next.agenda) →
    pipeline.stage.alarm = none ∧
      ∀ token handOff, .answered (.ok token) handOff ∉ pipeline.agenda

theorem Going.keep {next : Pipeline α} (going : Going count pipeline)
    (fewer : Fewer pipeline next) (goesOn : GoesOn pipeline next) : Going count next where
  count_le := fewer.nextOrder_eq ▸ going.count_le
  once := by
    rw [goesOn.generation_eq]
    exact (fewer.toCome_le _).trans going.once
  uncancelled := by
    intro alarm member current
    rw [Timer.isCancelled, goesOn.register_eq]
    exact going.uncancelled alarm (fewer.sublist.subset member) (goesOn.generation_eq ▸ current)
  unset := by
    intro none unanswered
    obtain ⟨noneBefore, unansweredBefore⟩ := goesOn.unset none unanswered
    rw [goesOn.generation_eq]
    exact Nat.le_zero.mp ((fewer.toCome_le _).trans_eq (going.unset noneBefore unansweredBefore))

/-- A stage that is about to set an alarm of a generation of which nothing is to come. -/
theorem fit_of_older {handOff : Option (HandOff α)}
    (generation_eq : pipeline.stage.generation = .ofNat count)
    (asks : .setAlarm handOff ∈ pipeline.agenda)
    (count_le : count ≤ pipeline.timer.nextOrder + 1)
    (older : ∀ generation, toCome pipeline.stage pipeline.timer pipeline.agenda generation ≠ 0 →
      ∃ earlier < count, generation = .ofNat earlier) : Fit count pipeline where
  generation_eq := generation_eq
  aged := by
    intro generation some
    obtain ⟨earlier, before, same⟩ := older generation some
    exact ⟨earlier, Nat.le_of_lt before, same⟩
  asking := fun _ _ => ⟨count_le, older⟩
  going := fun going => nomatch (isGoing_iff.mp going).2.2 _ asks

/-- What is to come of the current generation, after its alarm started or before it was first
set. -/
theorem Going.toCome_of_repeats {missed : Nat} {handOff : Option (HandOff α)}
    (going : Going count pipeline) (order : InOrder pipeline.stage (.workOff missed :: rest))
    (agenda_eq : pipeline.agenda = .workOff missed :: rest) (fewer : Fewer pipeline pipeline.step)
    (after_eq : pipeline.step.agenda = [Task.setAlarm handOff, .workOff missed] ++ rest)
    (generation_eq : pipeline.step.stage.generation = pipeline.stage.generation)
    (spent : pipeline.stage.alarm = none ∨
      toCome pipeline.step.stage pipeline.step.timer [.setAlarm handOff, .workOff missed]
          pipeline.step.stage.generation + 1 ≤
        toCome pipeline.stage pipeline.timer [.workOff missed] pipeline.step.stage.generation) :
    toCome pipeline.step.stage pipeline.step.timer pipeline.step.agenda
      pipeline.stage.generation = 0 := by
  have once := going.once
  rcases spent with unset | spent
  · refine Nat.le_zero.mp ((fewer.toCome_le _).trans_eq (going.unset unset ?_))
    intro token handOff member
    rw [agenda_eq] at member
    rcases List.mem_cons.mp member with same | member
    · cases same
    · cases order.outer_of_workOff _ member
  · rw [agenda_eq, ← List.singleton_append, toCome_append] at once
    rw [generation_eq] at spent
    rw [after_eq, toCome_append]
    omega

/-- What a step means to the stage, where it sets no alarm. -/
theorem exists_turn (steady : Steady config pipeline.stage pipeline.agenda)
    (agenda_eq : pipeline.agenda = task :: rest) (other : ∀ handOff, task ≠ .setAlarm handOff) :
    ∃ tasks, pipeline.step.agenda = tasks ++ rest ∧
      Turn pipeline.stage pipeline.timer task pipeline.step.alive pipeline.step.stage
        pipeline.step.timer tasks := by
  have noticed := steady.noticed
  rw [agenda_eq] at noticed
  obtain ⟨stage, timer, events, tasks, effect, becomes⟩ := exists_step_effect agenda_eq
  obtain ⟨rfl, rfl, _, after_eq, _⟩ := becomes
  have kept : pipeline.step.alive = true → task.isAside = true →
      pipeline.step.stage = pipeline.stage := by
    intro alive aside
    rw [step_of_agenda agenda_eq] at alive ⊢
    exact stage_perform_of_alive aside alive
  exact ⟨tasks, after_eq, effect.turn noticed other kept⟩

theorem goesOn_of_isGoing (steady : Steady config pipeline.stage pipeline.agenda)
    (agenda_eq : pipeline.agenda = task :: rest) (other : ∀ handOff, task ≠ .setAlarm handOff)
    (going : pipeline.step.isGoing = true) : GoesOn pipeline pipeline.step := by
  obtain ⟨tasks, after_eq, turn⟩ := exists_turn steady agenda_eq other
  obtain ⟨alive, active, still⟩ := isGoing_iff.mp going
  rw [after_eq] at still
  cases turn with
  | ends generation_eq unasked broken =>
      obtain ⟨added, member, breaks⟩ := broken alive active
      cases breaks.symm.trans (still added (List.mem_append_left _ member))
  | goesOn generation_eq unasked status_eq calm register_eq unset =>
      refine ⟨?_, generation_eq, register_eq, fun none unanswered => ?_⟩
      · refine isGoing_iff.mpr ⟨alive_of_step alive, status_eq ▸ active, ?_⟩
        rw [agenda_eq]
        exact List.forall_mem_cons.mpr
          ⟨calm, fun task member => still task (List.mem_append_right _ member)⟩
      · refine ⟨(unset none).1, fun token handOff => ?_⟩
        rw [after_eq] at unanswered
        rw [agenda_eq]
        exact List.not_mem_cons_of_ne_of_not_mem ((unset none).2 token handOff).symm
          fun member => unanswered token handOff (List.mem_append_right _ member)
  | renews works active generation_eq asks =>
      rw [asks] at still
      cases still _ List.mem_cons_self
  | repeats works active generation_eq asks spent =>
      rw [asks] at still
      cases still _ List.mem_cons_self

/-- The generations that were begun after a step, where their numbers do not repeat. -/
theorem Fit.step (fit : Fit count pipeline) (steady : Steady config pipeline.stage pipeline.agenda)
    (held : Held pipeline) (agenda_eq : pipeline.agenda = task :: rest)
    (tickless : ∀ action, task = .act action → action.isTick = false)
    (bound : pipeline.step.timer.nextOrder < 2 ^ 64) : ∃ count, Fit count pipeline.step := by
  by_cases sets : ∃ handOff, task = .setAlarm handOff
  · obtain ⟨handOff, rfl⟩ := sets
    exact ⟨count, fit.setAlarm steady.single agenda_eq bound⟩
  have other := not_exists.mp sets
  have fewer := fewer_step agenda_eq other tickless
  obtain ⟨tasks, after_eq, turn⟩ := exists_turn steady agenda_eq other
  -- Who is about to set an alarm was so before.
  have keep : pipeline.step.stage.generation = pipeline.stage.generation →
      (∀ handOff, .setAlarm handOff ∉ tasks) → Fit count pipeline.step := by
    intro generation_eq unasked
    refine fit.keep fewer generation_eq (fun handOff member => ?_) fun going => ?_
    · rw [after_eq] at member
      rw [agenda_eq]
      exact List.mem_cons_of_mem _ ((List.mem_append.mp member).resolve_left (unasked handOff))
    · have goesOn := goesOn_of_isGoing steady agenda_eq other going
      exact (fit.going goesOn.going).keep fewer goesOn
  cases turn with
  | ends generation_eq unasked broken => exact ⟨count, keep generation_eq unasked⟩
  | goesOn generation_eq unasked status_eq calm register_eq unset =>
      exact ⟨count, keep generation_eq unasked⟩
  | @renews missed handOff works active generation_eq asks =>
      subst works asks
      have going := fit.going (isGoing_of_workOff steady.order held agenda_eq active)
      have asks : .setAlarm handOff ∈ pipeline.step.agenda := by
        rw [after_eq]
        exact List.mem_cons_self
      refine ⟨count + 1, fit_of_older ?_ asks ?_ ?_⟩
      · rw [generation_eq, fit.generation_eq]
        exact (UInt64.ofNat_add count 1).symm
      · rw [fewer.nextOrder_eq]
        exact Nat.succ_le_succ going.count_le
      · intro generation some
        obtain ⟨earlier, le, same⟩ := fit.aged generation (fewer.some_of some)
        exact ⟨earlier, Nat.lt_succ_of_le le, same⟩
  | @repeats missed handOff works active generation_eq asks spent =>
      subst works asks
      have going := fit.going (isGoing_of_workOff steady.order held agenda_eq active)
      have asks : .setAlarm handOff ∈ pipeline.step.agenda := by
        rw [after_eq]
        exact List.mem_cons_self
      have order := steady.order
      rw [agenda_eq] at order
      have none := going.toCome_of_repeats order agenda_eq fewer after_eq generation_eq spent
      refine ⟨count, fit_of_older ?_ asks ?_ ?_⟩
      · exact generation_eq.trans fit.generation_eq
      · rw [fewer.nextOrder_eq]
        exact Nat.le_succ_of_le going.count_le
      · intro generation some
        obtain ⟨earlier, le, same⟩ := fit.aged generation (fewer.some_of some)
        refine ⟨earlier, Nat.lt_of_le_of_ne le ?_, same⟩
        rintro rfl
        rw [same, ← fit.generation_eq] at some
        exact some none

end Fit

/-! ## Tame runs -/

/-- Nobody passes ticks to the stage by hand. -/
def Tickless (reactions : CallKind → Nat → List (Action α)) : Prop :=
  ∀ kind earlier, ∀ action ∈ reactions kind earlier, action.isTick = false

section Tame

variable {config : Config} {setup : Setup α} {pipeline : Pipeline α} {task : Task α}
  {rest : List (Task α)}

/-- New actions are those with which somebody reacts. -/
theorem act_mem_step {action : Action α} (agenda_eq : pipeline.agenda = task :: rest)
    (member : .act action ∈ pipeline.step.agenda) :
    .act action ∈ rest ∨ ∃ kind earlier, action ∈ pipeline.reactions kind earlier := by
  have other : ∀ {tasks : List (Task α)}, pipeline.step.agenda = tasks ++ rest →
      .act action ∉ tasks → .act action ∈ rest := by
    intro tasks after_eq notAdded
    rw [after_eq] at member
    exact (List.mem_append.mp member).resolve_left notAdded
  have step_eq := step_of_agenda agenda_eq
  obtain ⟨stage, timer, events, tasks, effect, becomes⟩ := exists_step_effect agenda_eq
  by_cases inside : isOutside task = false
  · rcases effect.added inside with parts | ⟨call, actions, rfl, rfl⟩
    · exact Or.inl (other becomes.agenda_eq fun added => nomatch parts _ added)
    · rw [step_eq, perform, Pipeline.call] at member
      split at member
      · rcases List.mem_append.mp member with member | member
        · obtain ⟨reaction, reacts, same⟩ := List.mem_map.mp member
          cases same
          exact Or.inr ⟨_, _, reacts⟩
        · exact Or.inl member
      · exact Or.inl member
  · refine Or.inl ?_
    cases task with
    | act done =>
        obtain ⟨others, others_eq, each, _⟩ := putsOn_act { pipeline with agenda := rest } done
        refine other ((congrArg Pipeline.agenda step_eq).trans others_eq) fun added => ?_
        cases each _ added
    | release =>
        have agenda_eq : pipeline.step.agenda = rest :=
          (congrArg Pipeline.agenda step_eq).trans (agenda_sweep _)
        exact agenda_eq ▸ member
    | log line =>
        rw [step_eq] at member
        exact member
    | advance instant =>
        refine other becomes.agenda_eq ?_
        cases effect with
        | free aside inert allFree => cases aside
        | swept aside gone => cases aside
        | _ => simp
    | _ => exact absurd rfl inside

/-- Alarms are numbered as they are set. -/
theorem nextOrder_step_of_setAlarm {handOff : Option (HandOff α)}
    (agenda_eq : pipeline.agenda = .setAlarm handOff :: rest) :
    pipeline.step.timer.nextOrder =
      pipeline.timer.nextOrder + if pipeline.verdict.isOk then 1 else 0 := by
  have popped : { pipeline with agenda := rest }.verdict = pipeline.verdict := rfl
  rw [step_of_agenda agenda_eq, perform]
  cases asked : pipeline.verdict with
  | error rejection =>
      rw [setAlarm_of_error (popped.trans asked)]
      rfl
  | ok deadline =>
      obtain ⟨token, own, register, next_eq, _⟩ := exists_setAlarm (popped.trans asked) handOff
      rw [next_eq]
      rfl

theorem nextOrder_step_of_other (agenda_eq : pipeline.agenda = task :: rest)
    (other : ∀ handOff, task ≠ .setAlarm handOff) :
    pipeline.step.timer.nextOrder = pipeline.timer.nextOrder := by
  obtain ⟨stage, timer, events, tasks, effect, becomes⟩ := exists_step_effect agenda_eq
  rw [becomes.timer_eq]
  exact (effect.sublist_queue other).1

theorem nextOrder_le_step (pipeline : Pipeline α) :
    pipeline.timer.nextOrder ≤ pipeline.step.timer.nextOrder := by
  cases agenda_eq : pipeline.agenda with
  | nil => rw [step_of_atRest (List.isEmpty_iff.mpr agenda_eq)]
  | cons task rest =>
      by_cases sets : ∃ handOff, task = .setAlarm handOff
      · obtain ⟨handOff, rfl⟩ := sets
        rw [nextOrder_step_of_setAlarm agenda_eq]
        exact Nat.le_add_right _ _
      · exact Nat.le_of_eq (nextOrder_step_of_other agenda_eq (not_exists.mp sets)).symm

theorem nextOrder_le_run (pipeline : Pipeline α) (bound : Nat) :
    pipeline.timer.nextOrder ≤ (pipeline.run bound).timer.nextOrder :=
  preserve_run (fun last => pipeline.timer.nextOrder ≤ last.timer.nextOrder)
    (fun last before => before.trans (nextOrder_le_step last)) (Nat.le_refl _) bound

/-- The queue of the timer is in the order of the deadlines. -/
theorem Reachable.sorted (reachable : Reachable config setup pipeline) :
    pipeline.timer.queue.Pairwise fun first second => first.deadline ≤ second.deadline := by
  obtain ⟨opening, made, later⟩ := reachable
  induction later with
  | here =>
      rw [opening?] at made
      split at made <;> cases made
      exact List.Pairwise.nil
  | @step last earlier ih =>
      cases agenda_eq : last.agenda with
      | nil =>
          rw [step_of_atRest (List.isEmpty_iff.mpr agenda_eq)]
          exact ih
      | cons task rest =>
          by_cases sets : ∃ handOff, task = .setAlarm handOff
          · obtain ⟨handOff, rfl⟩ := sets
            rw [step_of_agenda agenda_eq, perform]
            cases asked : { last with agenda := rest }.verdict with
            | error rejection =>
                rw [setAlarm_of_error asked]
                exact ih
            | ok deadline =>
                obtain ⟨token, own, register, next_eq, _⟩ := exists_setAlarm asked handOff
                rw [next_eq]
                exact Alarm.pairwise_insert _ ih
          · obtain ⟨stage, timer, events, tasks, effect, becomes⟩ := exists_step_effect agenda_eq
            rw [becomes.timer_eq]
            exact ih.sublist (effect.sublist_queue (not_exists.mp sets)).2
  | begin _ _ _ ih => exact ih

/-- A pipeline on a run in which nobody passes ticks by hand and numbers of generations do not
repeat. -/
structure Tame (config : Config) (setup : Setup α) (pipeline : Pipeline α) : Prop where
  reachable : Reachable config setup pipeline
  tickless : ∀ action, .act action ∈ pipeline.agenda → action.isTick = false
  fit : ∃ count, Fit count pipeline

theorem Tame.opening (made : opening? config setup = .ok pipeline) :
    Tame config setup pipeline := by
  refine ⟨.of_opening made, fun action member => ?_, 0, .opening made⟩
  rw [(opening?_eq_ok made).2.2.1] at member
  cases member

theorem Tame.begin (tame : Tame config setup pipeline) (atRest : pipeline.atRest = true)
    {action : Action α} (tickless : action.isTick = false) :
    Tame config setup (pipeline.begin action) := by
  obtain ⟨count, fit⟩ := tame.fit
  refine ⟨tame.reachable.begin atRest action, fun other member => ?_, count,
    fit.begin atRest action⟩
  rw [agenda_begin_of_atRest atRest] at member
  cases List.mem_singleton.mp member
  exact tickless

theorem Tame.step (tame : Tame config setup pipeline) (tickless : Tickless setup.reactions)
    (bound : pipeline.step.timer.nextOrder < 2 ^ 64) : Tame config setup pipeline.step := by
  cases agenda_eq : pipeline.agenda with
  | nil =>
      rw [step_of_atRest (List.isEmpty_iff.mpr agenda_eq)]
      exact tame
  | cons task rest =>
      obtain ⟨count, fit⟩ := tame.fit
      have acts := tame.tickless
      rw [agenda_eq] at acts
      refine ⟨tame.reachable.step, fun action member => ?_, ?_⟩
      · rcases act_mem_step agenda_eq member with member | ⟨kind, earlier, reacts⟩
        · exact acts action (List.mem_cons_of_mem _ member)
        · have reactions_eq : pipeline.reactions = setup.reactions :=
            congrArg Nature.reactions tame.reachable.nature_eq
          rw [reactions_eq] at reacts
          exact tickless kind earlier action reacts
      · refine fit.step tame.reachable.steady tame.reachable.held agenda_eq ?_ bound
        rintro action rfl
        exact acts action List.mem_cons_self

theorem Tame.run (tame : Tame config setup pipeline) (tickless : Tickless setup.reactions)
    {steps : Nat} (bound : (pipeline.run steps).timer.nextOrder < 2 ^ 64) :
    Tame config setup (pipeline.run steps) := by
  induction steps generalizing pipeline with
  | zero => exact tame
  | succ steps ih =>
      rw [run_succ] at bound ⊢
      split
      · exact tame
      · rename_i busy
        rw [if_neg busy] at bound
        have before := Nat.lt_of_le_of_lt (nextOrder_le_run pipeline.step steps) bound
        exact ih (tame.step tickless before) bound

end Tame

end Pipeline

end TimedBatch
