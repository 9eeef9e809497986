import TimedBatch.Proofs.Advance

/-!
# Advances as a whole

An advance whose tasks leave the clock alone is over when nothing is due any more or when a task
aborts. Seen as a whole it is a relation between the run at its beginning and the run at its end,
which does not mention the agenda. An advance that stops on its way finds the same alarms in its
queue when it goes on: the clock that it set is overwritten by the next deadline.
-/

namespace TimedBatch

namespace Timer

variable {β : Type} {timer : Timer β} {stop target : Duration}

theorem style_of_takeDue {first : Alarm β} {next : Timer β}
    (due : timer.takeDue stop = some (first, next)) : next.style = timer.style := by
  obtain ⟨_, rest, _, rfl⟩ := eq_of_takeDue due
  rfl

theorem le_now_of_takeDue {first : Alarm β} {next : Timer β}
    (due : timer.takeDue stop = some (first, next)) : timer.now ≤ next.now := by
  obtain ⟨_, rest, _, rfl⟩ := eq_of_takeDue due
  simp only [Duration.le_def, Duration.nanos_max]
  omega

/-- The clock does not move beyond an instant up to which an alarm was due. -/
theorem now_le_of_takeDue (ahead : timer.now ≤ stop) {first : Alarm β} {next : Timer β}
    (due : timer.takeDue stop = some (first, next)) : next.now ≤ stop := by
  obtain ⟨onTime, rest, _, rfl⟩ := eq_of_takeDue due
  simp only [Duration.le_def, Duration.nanos_max] at ahead onTime ⊢
  omega

/-- What is due up to an instant is due up to a later one. -/
theorem takeDue_of_le (order : stop ≤ target) {first : Alarm β} {next : Timer β}
    (due : timer.takeDue stop = some (first, next)) :
    timer.takeDue target = some (first, next) := by
  obtain ⟨onTime, rest, queue_eq, rfl⟩ := eq_of_takeDue due
  simp only [takeDue, queue_eq]
  exact if_pos (Nat.le_trans onTime order)

/-- A stop at which nothing is due does not change what is due later. -/
theorem takeDue_setClock (ahead : timer.now ≤ stop) (none : timer.takeDue stop = none)
    (target : Duration) :
    (timer.setClock stop).takeDue target = timer.takeDue target := by
  cases queue_eq : timer.queue with
  | nil => simp only [takeDue, setClock, queue_eq]
  | cons first rest =>
      simp only [takeDue, queue_eq, ite_eq_right_iff, reduceCtorEq, imp_false] at none
      have early : stop.nanos < first.deadline.nanos := Nat.lt_of_not_le none
      have same : max stop first.deadline = max timer.now first.deadline := by
        rw [Duration.le_def] at ahead
        ext
        simp only [Duration.nanos_max]
        omega
      simp only [takeDue, setClock, queue_eq, same]

end Timer

namespace TimerRun

variable {ℓ : Type} {instant : Duration} {script : List (Command ℓ)} {run last : TimerRun ℓ}

/-! ## Sweeps -/

/-- An advance to an instant leads from one run to another: it performs what is left of the script
of a task and then starts what is due, until nothing is due or a task aborts. -/
inductive Sweeps (instant : Duration) :
    List (Command ℓ) → TimerRun ℓ → TimerRun ℓ → Prop where
  | answered {command : Command ℓ} {script : List (Command ℓ)} {run last : TimerRun ℓ}
      (still : run.errand? command = none) (goesOn : ∀ message, command ≠ .abort message)
      (later : Sweeps instant script
        ((run.answer command).2.note (.did command (run.answer command).1)) last) :
      Sweeps instant (command :: script) run last
  | aborted {message : String} {script : List (Command ℓ)} {run : TimerRun ℓ} :
      Sweeps instant (.abort message :: script) run { run with aborted := some message }
  | passedOver {run last : TimerRun ℓ} {alarm : Alarm (Job ℓ)} {timer : Timer (Job ℓ)}
      (due : run.timer.takeDue instant = some (alarm, timer))
      (cancelled : timer.isCancelled alarm.token = true)
      (later : Sweeps instant [] { run with timer := timer } last) : Sweeps instant [] run last
  | started {run last : TimerRun ℓ} {alarm : Alarm (Job ℓ)} {timer : Timer (Job ℓ)}
      (due : run.timer.takeDue instant = some (alarm, timer))
      (live : timer.isCancelled alarm.token = false)
      (later : Sweeps instant alarm.task.body
        (({ run with timer := timer } : TimerRun ℓ).note (.started alarm timer.now)) last) :
      Sweeps instant [] run last
  | arrived {run : TimerRun ℓ} (none : run.timer.takeDue instant = none) :
      Sweeps instant [] run { run with timer := run.timer.setClock instant }

/-- A property of scripts passes on to the rest of a script and to the tasks that it sets. -/
structure PassesOn (holds : List (Command ℓ) → Bool) : Prop where
  rest : ∀ {command : Command ℓ} {script : List (Command ℓ)},
    holds (command :: script) = true → holds script = true
  task : ∀ {delay : Duration} {label : ℓ} {body script : List (Command ℓ)},
    holds (.schedule delay label body :: script) = true → holds body = true

theorem passesOn_bodyLeavesClock : PassesOn (bodyLeavesClock (ℓ := ℓ)) where
  rest holds := by
    rw [bodyLeavesClock, Bool.and_eq_true] at holds
    exact holds.2
  task holds := by
    rw [bodyLeavesClock, Bool.and_eq_true, leavesClock] at holds
    exact holds.1

theorem passesOn_isMild : PassesOn (isMild (ℓ := ℓ)) where
  rest holds := (isMild_cons.mp holds).2
  task holds := by
    obtain ⟨⟨leaves, never⟩, _⟩ := isMild_cons.mp holds
    rw [leavesClock] at leaves
    rw [neverAborts] at never
    rw [isMild, leaves, never]
    rfl

/-- Every alarm in the queue has a task of some kind. -/
def AllQueued (holds : List (Command ℓ) → Bool) (run : TimerRun ℓ) : Prop :=
  ∀ alarm ∈ run.timer.queue, holds alarm.task.body = true

section PassesOn

variable {holds : List (Command ℓ) → Bool}

theorem PassesOn.answer (passesOn : PassesOn holds) {command : Command ℓ}
    (kind : holds (command :: script) = true) (queued : run.AllQueued holds) :
    (run.answer command).2.AllQueued holds := by
  intro alarm member
  rcases mem_queue_answer member with before | ⟨delay, label, body, rfl, task_eq⟩
  · exact queued alarm before
  · rw [task_eq]
    exact passesOn.task kind

theorem AllQueued.takeDue (queued : run.AllQueued holds) {alarm : Alarm (Job ℓ)}
    {timer : Timer (Job ℓ)} (due : run.timer.takeDue instant = some (alarm, timer)) :
    holds alarm.task.body = true ∧ AllQueued holds { run with timer := timer } := by
  obtain ⟨_, rest, queue_eq, rfl⟩ := Timer.eq_of_takeDue due
  rw [AllQueued, queue_eq] at queued
  exact List.forall_mem_cons.mp queued

theorem Sweeps.allQueued (sweeps : Sweeps instant script run last) (passesOn : PassesOn holds)
    (kind : holds script = true) (queued : run.AllQueued holds) : last.AllQueued holds := by
  induction sweeps with
  | answered still goesOn later ih => exact ih (passesOn.rest kind) (passesOn.answer kind queued)
  | aborted => exact queued
  | passedOver due cancelled later ih => exact ih kind (queued.takeDue due).2
  | started due live later ih =>
      obtain ⟨body, behind⟩ := queued.takeDue due
      exact ih body behind
  | arrived none => exact queued

end PassesOn

/-! ## Sweeps and steps -/

/-- What a command answers does not depend on the agenda, and leaves it. -/
theorem answer_of_agenda (run : TimerRun ℓ) (agenda : List (Errand ℓ)) (command : Command ℓ) :
    answer { run with agenda := agenda } command =
      ((run.answer command).1, { (run.answer command).2 with agenda := agenda }) := by
  cases command with
  | schedule delay label body =>
      have reading : readClock { run with agenda := agenda } =
          { run.readClock with agenda := agenda } := by
        simp only [readClock]
        cases run.timer.style <;> rfl
      simp only [answer, schedule, reading]
      cases (run.readClock.timer.schedule delay ⟨delay, label, body⟩).1 <;> rfl
  | cancel slot =>
      simp only [answer, token?]
      split <;> rfl
  | isCancelled slot =>
      simp only [answer, token?]
      split <;> rfl
  | now =>
      simp only [answer]
      split <;> rfl
  | _ => rfl

namespace Sweeps

theorem style_eq (sweeps : Sweeps instant script run last) :
    last.timer.style = run.timer.style := by
  induction sweeps with
  | answered still goesOn later ih => exact ih.trans (AtOnce.answer _ _).style_eq
  | aborted => rfl
  | passedOver due cancelled later ih => exact ih.trans (Timer.style_of_takeDue due)
  | started due live later ih => exact ih.trans (Timer.style_of_takeDue due)
  | arrived none => rfl

theorem agenda_eq (sweeps : Sweeps instant script run last) : last.agenda = run.agenda := by
  induction sweeps with
  | answered still goesOn later ih => exact ih.trans (AtOnce.answer _ _).agenda_eq
  | aborted => rfl
  | passedOver due cancelled later ih => exact ih
  | started due live later ih => exact ih
  | arrived none => rfl

/-- The steps of an advance that is under way lead to its end. -/
theorem leads (sweeps : Sweeps instant script run last)
    (simulated : run.timer.style = .simulated) :
    Leads { run with agenda := script.map .perform ++ [Errand.advance instant] }
      { last with agenda := [] } := by
  induction sweeps with
  | @answered command script run last still goesOn later ih =>
      refine Leads.of_step ?_
      have next := ih ((AtOnce.answer run command).style_eq.trans simulated)
      convert next using 1
      have moves : errand?
          { run with agenda := script.map .perform ++ [Errand.advance instant] } command = none :=
        still
      simp only [step, List.map_cons, List.cons_append, doErrand, perform, moves]
      rw [answer_of_agenda]
      split
      · rename_i message next aborted
        rw [Prod.mk.injEq] at aborted
        obtain ⟨same, _⟩ := eq_of_answer_aborted (Prod.ext aborted.1 rfl :
          run.answer command = (.aborted message, (run.answer command).2))
        exact absurd same (goesOn message)
      · rename_i reply next _ answered
        cases answered
        rfl
  | @aborted message script run =>
      refine Leads.of_step ?_
      simp only [step, List.map_cons, List.cons_append, doErrand, perform, errand?, answer, abort,
        simulated]
      exact .here
  | @passedOver run last alarm timer due cancelled later ih =>
      refine Leads.of_step ?_
      have next := ih ((Timer.style_of_takeDue due).trans simulated)
      simp only [step, List.map_nil, List.nil_append, doErrand, advance, due, start, cancelled,
        ↓reduceIte]
      exact next
  | @started run last alarm timer due live later ih =>
      refine Leads.of_step ?_
      have next := ih ((Timer.style_of_takeDue due).trans simulated)
      simp only [step, List.map_nil, List.nil_append, doErrand, advance, due, start, live,
        Bool.false_eq_true, ↓reduceIte]
      exact next
  | @arrived run none =>
      refine Leads.of_step ?_
      simp only [step, List.map_nil, List.nil_append, doErrand, advance, none]
      exact .here

/-- What an advance answers: it returns unless a task aborts. -/
theorem submit_eq (sweeps : Sweeps instant [] { run with agenda := [], aborted := none } last)
    (simulated : run.timer.style = .simulated) {command : Command ℓ}
    (moves : run.errand? command = some (.advance instant)) :
    run.submit command = (last.aborted.elim .nothing .aborted, last) := by
  have leads := sweeps.leads simulated
  have rest : last.agenda = [] := sweeps.agenda_eq
  have same : ({ last with agenda := [] } : TimerRun ℓ) = last := by rw [← rest]
  rw [same] at leads
  refine submit_of_leads moves ?_ rest
  rw [begin, moves]
  exact leads

end Sweeps

/-! ## The end of a sweep -/

theorem effort_takeDue {alarm : Alarm (Job ℓ)} {timer : Timer (Job ℓ)}
    (due : run.timer.takeDue instant = some (alarm, timer)) :
    run.effort = effort { run with timer := timer } + bodyEffort alarm.task.body + 1 := by
  obtain ⟨_, rest, queue_eq, rfl⟩ := Timer.eq_of_takeDue due
  simp only [effort, queue_eq, List.map_cons, List.sum_cons, alarmEffort]
  omega

/-- An advance comes to an end if no task moves the clock. -/
theorem exists_sweeps (instant : Duration) (script : List (Command ℓ)) (run : TimerRun ℓ)
    (simulated : run.timer.style = .simulated) (kind : bodyLeavesClock script = true)
    (queued : run.AllQueued bodyLeavesClock) : ∃ last, Sweeps instant script run last := by
  match script, kind with
  | command :: script, kind =>
      by_cases goesOn : ∀ message, command ≠ .abort message
      · have leaves := ((Bool.and_eq_true _ _).mp kind).1
        have shorter := effort_answer_lt run command
        obtain ⟨last, later⟩ := exists_sweeps instant script
          ((run.answer command).2.note (.did command (run.answer command).1))
          ((AtOnce.answer run command).style_eq.trans simulated)
          (passesOn_bodyLeavesClock.rest kind) (passesOn_bodyLeavesClock.answer kind queued)
        exact ⟨last, .answered (errand?_eq_none simulated leaves) goesOn later⟩
      · push Not at goesOn
        obtain ⟨message, rfl⟩ := goesOn
        exact ⟨_, .aborted⟩
  | [], _ =>
      cases due : run.timer.takeDue instant with
      | none => exact ⟨_, .arrived due⟩
      | some taken =>
          obtain ⟨alarm, timer⟩ := taken
          have shorter := effort_takeDue due
          obtain ⟨body, behind⟩ := queued.takeDue due
          have simulatedNext := (Timer.style_of_takeDue due).trans simulated
          cases cancelled : timer.isCancelled alarm.token with
          | true =>
              obtain ⟨last, later⟩ := exists_sweeps instant [] { run with timer := timer }
                simulatedNext rfl behind
              exact ⟨last, .passedOver due cancelled later⟩
          | false =>
              obtain ⟨last, later⟩ := exists_sweeps instant alarm.task.body
                (({ run with timer := timer } : TimerRun ℓ).note (.started alarm timer.now))
                simulatedNext body behind
              exact ⟨last, .started due cancelled later⟩
termination_by run.effort + bodyEffort script
decreasing_by
  all_goals
    simp only [effort_note, bodyEffort]
    omega

/-- An advance whose tasks come to their ends returns, at its target. -/
theorem Sweeps.returned (sweeps : Sweeps instant script run last) (kind : isMild script = true)
    (queued : run.AllQueued isMild) :
    last.aborted = run.aborted ∧ last.timer.now = instant := by
  induction sweeps with
  | answered still goesOn later ih =>
      obtain ⟨aborted_eq, now_eq⟩ :=
        ih (passesOn_isMild.rest kind) (passesOn_isMild.answer kind queued)
      exact ⟨aborted_eq.trans (aborted_answer _ _), now_eq⟩
  | aborted =>
      obtain ⟨⟨_, never⟩, _⟩ := isMild_cons.mp kind
      simp [neverAborts] at never
  | passedOver due cancelled later ih => exact ih kind (queued.takeDue due).2
  | started due live later ih =>
      obtain ⟨body, behind⟩ := queued.takeDue due
      exact ih body behind
  | arrived none => exact ⟨rfl, rfl⟩

theorem AllQueued.mono {holds weaker : List (Command ℓ) → Bool} (queued : run.AllQueued holds)
    (implies : ∀ body, holds body = true → weaker body = true) : run.AllQueued weaker :=
  fun alarm member => implies _ (queued alarm member)

theorem bodyLeavesClock_of_isMild (body : List (Command ℓ)) (mild : isMild body = true) :
    bodyLeavesClock body = true :=
  ((Bool.and_eq_true _ _).mp mild).1

/-! ## Two advances -/

/-- An advance to an instant and then on to a later one starts what one advance to the later one
starts. -/
theorem Sweeps.append {stop target : Duration} {middle : TimerRun ℓ}
    (sweeps : Sweeps stop script run middle) (simulated : run.timer.style = .simulated)
    (ahead : run.timer.now ≤ stop) (order : stop ≤ target) (running : run.aborted = none)
    (returned : middle.aborted = none) (later : Sweeps target [] middle last) :
    Sweeps target script run last := by
  induction sweeps with
  | @answered command script run middle still goesOn _ ih =>
      have atOnce := AtOnce.answer run command
      refine .answered still goesOn (ih ?_ ?_ ?_ returned later)
      · exact atOnce.style_eq.trans simulated
      · exact (atOnce.now_eq simulated).symm ▸ ahead
      · exact (aborted_answer run command).trans running
  | aborted => cases returned
  | passedOver due cancelled _ ih =>
      exact .passedOver (Timer.takeDue_of_le order due) cancelled
        (ih ((Timer.style_of_takeDue due).trans simulated) (Timer.now_le_of_takeDue ahead due)
          running returned later)
  | started due live _ ih =>
      exact .started (Timer.takeDue_of_le order due) live
        (ih ((Timer.style_of_takeDue due).trans simulated) (Timer.now_le_of_takeDue ahead due)
          running returned later)
  | @arrived run none =>
      -- The second advance begins here; its first alarm overwrites the clock.
      have same := Timer.takeDue_setClock ahead none target
      cases later with
      | passedOver due cancelled later => exact .passedOver (same ▸ due) cancelled later
      | started due live later => exact .started (same ▸ due) live later
      | arrived stillNone => exact .arrived (same ▸ stillNone)

/-- Advancing a simulated timer in two steps does what advancing it at once by their sum does: the
same tasks are started at the same readings of the clock, and the same run is left, with the same
clock, queue and numbers. -/
theorem submit_advance_add (run : TimerRun ℓ) (simulated : run.timer.style = .simulated)
    (mild : ∀ alarm ∈ run.timer.queue, isMild alarm.task.body = true) (first second : Duration) :
    ∃ middle last, run.submit (.advance first) = (.nothing, middle) ∧
      middle.submit (.advance second) = (.nothing, last) ∧
      run.submit (.advance (first + second)) = (.nothing, last) := by
  let start : TimerRun ℓ := { run with agenda := [], aborted := none }
  have queued : start.AllQueued isMild := mild
  obtain ⟨middle, sweeps⟩ := exists_sweeps (run.timer.now + first) [] start simulated rfl
    (queued.mono bodyLeavesClock_of_isMild)
  obtain ⟨returned, now_eq⟩ := sweeps.returned rfl queued
  have simulatedMiddle : middle.timer.style = .simulated := sweeps.style_eq.trans simulated
  have queuedMiddle := sweeps.allQueued passesOn_isMild rfl queued
  obtain ⟨last, later⟩ := exists_sweeps (middle.timer.now + second) [] middle simulatedMiddle rfl
    (queuedMiddle.mono bodyLeavesClock_of_isMild)
  have returnedLast := (later.returned rfl queuedMiddle).1.trans returned
  have target : middle.timer.now + second = run.timer.now + (first + second) := by
    rw [now_eq]
    ext
    simp only [Duration.nanos_add]
    omega
  refine ⟨middle, last, ?_, ?_, ?_⟩
  · rw [sweeps.submit_eq simulated (by simp only [errand?, simulated]), returned]
    rfl
  · have rest : middle.agenda = [] := sweeps.agenda_eq
    have same : ({ middle with agenda := [], aborted := none } : TimerRun ℓ) = middle := by
      rw [← rest, ← show middle.aborted = none from returned]
    rw [Sweeps.submit_eq (same.symm ▸ later) simulatedMiddle
      (by simp only [errand?, simulatedMiddle]), returnedLast]
    rfl
  · have whole : Sweeps (run.timer.now + (first + second)) [] start last := by
      refine sweeps.append simulated ?_ ?_ rfl returned (target ▸ later)
      · have bound := run.timer.now.nanos_le
        show run.timer.now ≤ run.timer.now + first
        simp only [Duration.le_def, Duration.nanos_add]
        omega
      · simp only [Duration.le_def, Duration.nanos_add]
        omega
    rw [whole.submit_eq simulated (by simp only [errand?, simulated]), returnedLast]
    rfl

/-- The stop comes between the task of an alarm and the alarm that this task sets, and the longest
durations are cut off. -/
theorem submit_advance_add_of_long_spans :
    ∃ run middle last : TimerRun String, run.timer.queue.length = 2 ∧
      run.submit (.advance (.ofMillis 15)) = (.nothing, middle) ∧
      middle.submit (.advance .longest) = (.nothing, last) ∧
      run.submit (.advance (.ofMillis 15 + .longest)) = (.nothing, last) := by
  obtain ⟨middle, last, answers⟩ := submit_advance_add
    (((opening .simulated).begin (.schedule (.ofMillis 10) "first"
      [.schedule (.ofMillis 10) "set by a task" [.now], .cancel 1])).begin
        (.schedule (.ofMillis 12) "cancelled" [.shutDown]))
    rfl (by decide) (.ofMillis 15) .longest
  exact ⟨_, middle, last, rfl, answers⟩

end TimerRun

end TimedBatch
