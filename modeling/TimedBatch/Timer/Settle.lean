import TimedBatch.Timer.Script

/-!
# Settling a run of timer commands

Every step of a run lowers the effort that is left in its agenda and in the queue of its timer: a
command that sets an alarm pays for the task of the alarm in advance. So a run comes to rest, and
`settle` needs no bound on the number of steps.
-/

namespace TimedBatch.TimerRun

variable {ℓ : Type}

-- Sums of natural numbers are taken from the zero of the core library, whatever is imported.
attribute [local instance (high)] Zero.ofOfNat0

mutual

/-- The effort of a command: a command that sets an alarm also pays for its task. -/
def commandEffort : Command ℓ → Nat
  | .schedule _ _ body => bodyEffort body + 4
  | _ => 4

def bodyEffort : List (Command ℓ) → Nat
  | [] => 0
  | command :: rest => commandEffort command + bodyEffort rest

end

def errandEffort : Errand ℓ → Nat
  | .perform command => commandEffort command
  | _ => 1

def alarmEffort (alarm : Alarm (Job ℓ)) : Nat :=
  bodyEffort alarm.task.body + 1

/-- The effort that is left in a run. -/
def effort (run : TimerRun ℓ) : Nat :=
  (run.agenda.map errandEffort).sum + (run.timer.queue.map alarmEffort).sum

theorem four_le_commandEffort (command : Command ℓ) : 4 ≤ commandEffort command := by
  cases command <;> simp [commandEffort]

theorem sum_errandEffort_body (body : List (Command ℓ)) :
    ((body.map Errand.perform).map errandEffort).sum = bodyEffort body := by
  induction body with
  | nil => simp [bodyEffort]
  | cons command rest ih => simpa [bodyEffort, errandEffort] using ih

theorem sum_alarmEffort_insert (alarm : Alarm (Job ℓ)) (queue : List (Alarm (Job ℓ))) :
    ((alarm.insert queue).map alarmEffort).sum =
      alarmEffort alarm + (queue.map alarmEffort).sum := by
  induction queue with
  | nil => simp [Alarm.insert]
  | cons first rest ih =>
      by_cases order : alarm.precedes first = true
      · simp [Alarm.insert, order]
      · simp only [Alarm.insert, order, Bool.false_eq_true, ↓reduceIte, List.map_cons,
          List.sum_cons, ih]
        omega

theorem sum_errandEffort_catchers_le (agenda : List (Errand ℓ)) :
    ((catchers agenda).map errandEffort).sum ≤ (agenda.map errandEffort).sum := by
  induction agenda with
  | nil => simp [catchers]
  | cons errand rest ih =>
      cases errand with
      | work => simp [catchers]
      | perform command => simp only [catchers, List.map_cons, List.sum_cons]; omega
      | conclude command => simp only [catchers, List.map_cons, List.sum_cons]; omega
      | advance instant => simp only [catchers, List.map_cons, List.sum_cons]; omega

theorem effort_note (run : TimerRun ℓ) (entry : TimerNote ℓ) :
    (run.note entry).effort = run.effort :=
  rfl

theorem effort_readClock (run : TimerRun ℓ) : run.readClock.effort = run.effort := by
  unfold readClock
  split <;> rfl

theorem sum_alarmEffort_schedule_le (timer : Timer (Job ℓ)) (delay : Duration) (job : Job ℓ) :
    ((timer.schedule delay job).2.queue.map alarmEffort).sum ≤
      (timer.queue.map alarmEffort).sum + bodyEffort job.body + 1 := by
  unfold Timer.schedule
  split
  · simp only; omega
  · split
    · simp only; omega
    · simp only [sum_alarmEffort_insert, alarmEffort]
      omega

theorem effort_schedule_le (run : TimerRun ℓ) (job : Job ℓ) :
    (run.schedule job).2.effort ≤ run.effort + bodyEffort job.body + 1 := by
  have same := effort_readClock run
  have bound := sum_alarmEffort_schedule_le run.readClock.timer job.delay job
  simp only [schedule]
  split <;> simp only [effort] at same ⊢ <;> omega

theorem effort_shutDown_le (run : TimerRun ℓ) : run.shutDown.effort ≤ run.effort := by
  simp [shutDown, effort, Timer.shutDown]

theorem effort_answer_lt (run : TimerRun ℓ) (command : Command ℓ) :
    (run.answer command).2.effort < run.effort + commandEffort command := by
  have positive := four_le_commandEffort command
  cases command with
  | schedule delay label body =>
      have bound := effort_schedule_le run ⟨delay, label, body⟩
      simp only [answer, commandEffort] at bound ⊢
      omega
  | shutDown =>
      have bound := effort_shutDown_le run
      simp only [answer]
      omega
  | cancel slot =>
      simp only [answer]
      split
      · simp only; omega
      · simp only [effort, Timer.cancel]
        omega
  | isCancelled slot =>
      simp only [answer]
      split <;> simp only <;> omega
  | now =>
      simp only [answer]
      split <;> simp only <;> omega
  | forget slot =>
      simp only [answer, effort] at positive ⊢
      omega
  | pending => simp only [answer]; omega
  | isShutDown => simp only [answer]; omega
  | workerName => simp only [answer]; omega
  | record => simp only [answer]; omega
  | advance span => simp only [answer]; omega
  | advanceTo instant => simp only [answer]; omega
  | work => simp only [answer]; omega
  | abort message => simp only [answer]; omega

theorem effort_abort_le (run : TimerRun ℓ) (message : String) :
    (run.abort message).effort ≤ run.effort := by
  unfold abort
  split
  · simp [effort]
  · have bound := sum_errandEffort_catchers_le run.agenda
    simp only [effort, note]
    omega

theorem effort_perform_lt (run : TimerRun ℓ) (command : Command ℓ) :
    (run.perform command).effort < run.effort + commandEffort command := by
  have positive := four_le_commandEffort command
  have bound := effort_answer_lt run command
  unfold perform
  split
  · rename_i errand found
    have light : errandEffort errand = 1 := by
      unfold errand? at found
      split at found <;> cases found <;> rfl
    simp only [effort, List.map_cons, List.sum_cons, light] at positive ⊢
    simp only [errandEffort]
    omega
  · split
    · rename_i message next outcome
      rw [outcome] at bound
      exact Nat.lt_of_le_of_lt (effort_abort_le next message) bound
    · rename_i reply next _ outcome
      rw [outcome] at bound
      simpa only [effort_note] using bound

theorem effort_start_le (run : TimerRun ℓ) (alarm : Alarm (Job ℓ)) :
    (run.start alarm).effort ≤ run.effort + bodyEffort alarm.task.body := by
  unfold start
  split
  · omega
  · rw [effort_note]
    simp only [effort, List.map_append, List.sum_append, sum_errandEffort_body]
    omega

theorem effort_advance_le (run : TimerRun ℓ) (instant : Duration) :
    (run.advance instant).effort ≤ run.effort := by
  unfold advance Timer.takeDue
  split
  · simp only [effort, Timer.setClock]
    omega
  · rename_i alarm timer outcome
    split at outcome
    · simp at outcome
    · rename_i first rest queue
      split at outcome
      · simp only [Option.some.injEq, Prod.mk.injEq] at outcome
        obtain ⟨rfl, rfl⟩ := outcome
        refine Nat.le_trans (effort_start_le _ _) ?_
        simp only [effort, queue, List.map_cons, List.sum_cons, alarmEffort, errandEffort]
        omega
      · simp at outcome

theorem effort_work_le (run : TimerRun ℓ) : run.work.effort ≤ run.effort := by
  unfold work Timer.awaitFirst
  split
  · split
    · exact Nat.le_refl _
    · rename_i alarm timer outcome
      split at outcome
      · simp at outcome
      · rename_i first rest queue
        simp only [Option.some.injEq, Prod.mk.injEq] at outcome
        obtain ⟨rfl, rfl⟩ := outcome
        refine Nat.le_trans (effort_start_le _ _) ?_
        simp only [effort, queue, List.map_cons, List.sum_cons, alarmEffort, errandEffort]
        omega
  · exact Nat.le_refl _

theorem effort_step_lt (run : TimerRun ℓ) (busy : run.agenda ≠ []) :
    run.step.effort < run.effort := by
  unfold step
  split
  · contradiction
  · rename_i errand rest agenda
    have split_effort : run.effort =
        ({ run with agenda := rest } : TimerRun ℓ).effort + errandEffort errand := by
      simp only [effort, agenda, List.map_cons, List.sum_cons]
      omega
    cases errand with
    | perform command =>
        have bound := effort_perform_lt { run with agenda := rest } command
        simpa only [doErrand, split_effort, errandEffort] using bound
    | conclude command =>
        simp only [doErrand, effort_note, split_effort, errandEffort]
        omega
    | advance instant =>
        have bound := effort_advance_le { run with agenda := rest } instant
        simp only [doErrand, split_effort, errandEffort]
        omega
    | work =>
        have bound := effort_work_le { run with agenda := rest }
        simp only [doErrand, split_effort, errandEffort]
        omega

/-- Do errands until none is left. -/
def settle (run : TimerRun ℓ) : TimerRun ℓ :=
  if _busy : run.agenda ≠ [] then settle run.step else run
termination_by run.effort
decreasing_by exact effort_step_lt run _busy

/-- A run that has settled is at rest. -/
theorem agenda_settle (run : TimerRun ℓ) : run.settle.agenda = [] := by
  fun_induction settle run with
  | case1 run busy ih => exact ih
  | case2 run idle => simpa using idle

/-- Perform a command from outside, and everything that follows from it. -/
def submit (run : TimerRun ℓ) (command : Command ℓ) : TimerReply × TimerRun ℓ :=
  match run.errand? command with
  | none => run.answer command
  | some errand =>
      let settled := settle { run with agenda := [errand], aborted := none }
      match settled.aborted with
      | some message => (.aborted message, settled)
      | none => (.nothing, settled)

end TimedBatch.TimerRun
