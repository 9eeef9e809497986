import TimedBatch.Proofs.Sweeps

/-!
# Advances that are called again

A task that aborts ends the advance that started it. Its alarm has left the queue by then and the
clock stands at its deadline, so that an advance that is called again goes on with the next alarm.
Calling it until it returns starts the tasks that one advance would start if every script were cut
short where it aborts.
-/

namespace TimedBatch

/-! ## Tasks that are changed -/

section Map

variable {β : Type} (change : β → β)

namespace Alarm

/-- The alarm with its task changed. -/
def map (alarm : Alarm β) : Alarm β :=
  { alarm with task := change alarm.task }

theorem map_insert (alarm : Alarm β) (queue : List (Alarm β)) :
    (alarm.insert queue).map (map change) = (alarm.map change).insert (queue.map (map change)) := by
  induction queue with
  | nil => rfl
  | cons first rest ih =>
      have same : (alarm.map change).precedes (first.map change) = alarm.precedes first := rfl
      rw [insert_cons, List.map_cons, insert_cons, same]
      split
      · rfl
      · rw [List.map_cons, ih]

end Alarm

namespace Timer

/-- The timer with the tasks in its queue changed. -/
def map (timer : Timer β) : Timer β :=
  { timer with queue := timer.queue.map (Alarm.map change) }

variable (timer : Timer β)

theorem map_schedule (delay : Duration) (task : β) :
    (timer.map change).schedule delay (change task) =
      ((timer.schedule delay task).1, (timer.schedule delay task).2.map change) := by
  have clock : (timer.map change).deadline? delay = timer.deadline? delay := rfl
  have down : (timer.map change).isShutDown = timer.isShutDown := rfl
  unfold schedule
  rw [clock, down]
  split
  · rfl
  · split
    · rfl
    · simp only [map, Alarm.map_insert]
      rfl

theorem map_takeDue (instant : Duration) : (timer.map change).takeDue instant =
    (timer.takeDue instant).map fun (alarm, next) => (alarm.map change, next.map change) := by
  cases queue_eq : timer.queue with
  | nil => simp [takeDue, map, queue_eq]
  | cons first rest =>
      simp only [takeDue, map, queue_eq, List.map_cons, Alarm.map]
      split <;> rfl

theorem pending_map : (timer.map change).pending = timer.pending :=
  List.countP_map

theorem record_map : (timer.map change).record = timer.record := by
  simp only [record, map, List.length_map]

end Timer

end Map

namespace TimerRun

variable {ℓ : Type} {instant : Duration} {script : List (Command ℓ)} {run last : TimerRun ℓ}

/-! ## Scripts that are cut short -/

mutual

/-- A command whose task is cut short if it sets an alarm. -/
def commandCutShort : Command ℓ → Command ℓ
  | .schedule delay label body => .schedule delay label (bodyCutShort body)
  | command => command

/-- A script up to the command at which it aborts. -/
def bodyCutShort : List (Command ℓ) → List (Command ℓ)
  | [] => []
  | .abort _ :: _ => []
  | command :: rest => commandCutShort command :: bodyCutShort rest

end

def jobCutShort (job : Job ℓ) : Job ℓ :=
  { job with body := bodyCutShort job.body }

def noteCutShort : TimerNote ℓ → TimerNote ℓ
  | .started alarm reading => .started (alarm.map jobCutShort) reading
  | .did command reply => .did (commandCutShort command) reply
  | .log line => .log line

/-- A run whose tasks are cut short, those in its queue and those that it reports. -/
def cutShort (run : TimerRun ℓ) : TimerRun ℓ :=
  { run with timer := run.timer.map jobCutShort, notes := run.notes.map noteCutShort }

theorem bodyCutShort_cons {command : Command ℓ} (goesOn : ∀ message, command ≠ .abort message) :
    bodyCutShort (command :: script) = commandCutShort command :: bodyCutShort script := by
  cases command with
  | abort message => exact absurd rfl (goesOn message)
  | _ => simp only [bodyCutShort]

theorem commandCutShort_ne_abort {command : Command ℓ}
    (goesOn : ∀ message, command ≠ .abort message) (message : String) :
    commandCutShort command ≠ .abort message := by
  cases command with
  | schedule delay label body => simp [commandCutShort]
  | _ => simpa only [commandCutShort] using goesOn message

theorem errand?_cutShort (run : TimerRun ℓ) (command : Command ℓ) :
    run.cutShort.errand? (commandCutShort command) = run.errand? command := by
  have style_eq : run.cutShort.timer.style = run.timer.style := rfl
  cases command with
  | schedule delay label body =>
      simp only [commandCutShort, errand?, style_eq]
      split <;> simp_all
  | _ =>
      simp only [commandCutShort]
      rfl

/-- What a command answers does not depend on the tasks of the alarms. -/
theorem answer_cutShort (simulated : run.timer.style = .simulated) (command : Command ℓ) :
    run.cutShort.answer (commandCutShort command) =
      ((run.answer command).1, (run.answer command).2.cutShort) := by
  have simulatedCut : run.cutShort.timer.style = .simulated := simulated
  cases command with
  | schedule delay label body =>
      have reading : run.readClock = run := by rw [readClock, simulated]
      have readingCut : run.cutShort.readClock = run.cutShort := by rw [readClock, simulatedCut]
      have set : run.cutShort.timer.schedule delay ⟨delay, label, bodyCutShort body⟩ = _ :=
        Timer.map_schedule jobCutShort run.timer delay ⟨delay, label, body⟩
      simp only [commandCutShort, answer, schedule, reading, readingCut, set]
      cases (run.timer.schedule delay ⟨delay, label, body⟩).1 <;> rfl
  | cancel slot =>
      simp only [commandCutShort, answer, token?, cutShort]
      split <;> rfl
  | isCancelled slot =>
      simp only [commandCutShort, answer, token?, cutShort]
      split <;> rfl
  | pending =>
      have same := run.timer.pending_map jobCutShort
      simp only [commandCutShort, answer, cutShort, same]
  | record =>
      have same := run.timer.record_map jobCutShort
      simp only [commandCutShort, answer, cutShort, same]
  | now =>
      simp only [commandCutShort, answer, simulated, simulatedCut]
      rfl
  | shutDown =>
      have quiet : run.timer.closingLine? = none := by simp only [Timer.closingLine?, simulated]
      have quietCut : run.cutShort.timer.closingLine? = none := by
        simp only [Timer.closingLine?, simulatedCut]
      simp only [commandCutShort, answer, shutDown, quiet, quietCut]
      rfl
  | _ =>
      simp only [commandCutShort]
      rfl

theorem takeDue_cutShort {alarm : Alarm (Job ℓ)} {timer : Timer (Job ℓ)}
    (due : run.timer.takeDue instant = some (alarm, timer)) :
    run.cutShort.timer.takeDue instant =
      some (alarm.map jobCutShort, timer.map jobCutShort) := by
  rw [cutShort, Timer.map_takeDue, due]
  rfl

/-- Where a script aborts, the rest of it is all that is lost: what it leaves is swept on as if it
had been cut short there. -/
theorem Sweeps.cutShort {final : TimerRun ℓ} (sweeps : Sweeps instant script run last)
    (simulated : run.timer.style = .simulated) (running : run.aborted = none)
    (later : last.aborted = none ∧ final = last.cutShort ∨
      last.aborted ≠ none ∧
        Sweeps instant [] (TimerRun.cutShort { last with aborted := none }) final) :
    Sweeps instant (bodyCutShort script) run.cutShort final := by
  induction sweeps with
  | @answered command script run last still goesOn _ ih =>
      have whole := ih ((AtOnce.answer run command).style_eq.trans simulated)
        ((aborted_answer run command).trans running) later
      rw [bodyCutShort_cons goesOn]
      refine .answered ((errand?_cutShort run command).trans still)
        (commandCutShort_ne_abort goesOn) ?_
      rw [answer_cutShort simulated]
      exact whole
  | @aborted message script run =>
      obtain ⟨returned, _⟩ | ⟨_, resumed⟩ := later
      · cases returned
      · have same : ({ run with aborted := none } : TimerRun ℓ) = run := by rw [← running]
        rwa [same] at resumed
  | @passedOver run last alarm timer due cancelled _ ih =>
      exact .passedOver (takeDue_cutShort due) cancelled
        (ih ((Timer.style_of_takeDue due).trans simulated) running later)
  | @started run last alarm timer due live _ ih =>
      exact .started (takeDue_cutShort due) live
        (ih ((Timer.style_of_takeDue due).trans simulated) running later)
  | @arrived run none =>
      obtain ⟨_, rfl⟩ | ⟨aborted, _⟩ := later
      · refine .arrived ?_
        rw [TimerRun.cutShort, Timer.map_takeDue, none]
        rfl
      · exact absurd running aborted

/-! ## Tasks that abort -/

/-- A moment at which the task of an alarm has just aborted: its script was performed up to there,
while the clock stood at the deadline of the alarm. -/
def AbortedIn (moment : TimerRun ℓ) (alarm : Alarm (Job ℓ)) : Prop :=
  ∃ (before rest : List (Command ℓ)) (message : String) (reports earlier : List (TimerNote ℓ)),
    alarm.task.body = before ++ .abort message :: rest ∧ moment.aborted = some message ∧
      moment.notes = reports.reverse ++ .started alarm alarm.deadline :: earlier ∧
      List.Forall₂ (Reports alarm.deadline) before reports ∧
      moment.timer.now = alarm.deadline

/-- An advance leaves the timer in order, also where a task aborts. -/
theorem Sweeps.orderly (sweeps : Sweeps instant script run last)
    (simulated : run.timer.style = .simulated) (orderly : run.timer.Orderly) :
    last.timer.Orderly := by
  induction sweeps with
  | @answered command script run last still goesOn _ ih =>
      exact ih ((AtOnce.answer run command).style_eq.trans simulated)
        ((touch_answer simulated command).1.orderly orderly)
  | aborted => exact orderly
  | passedOver due cancelled _ ih =>
      exact ih ((Timer.style_of_takeDue due).trans simulated) (orderly.takeDue due).1
  | started due live _ ih =>
      exact ih ((Timer.style_of_takeDue due).trans simulated) (orderly.takeDue due).1
  | arrived none => exact orderly.setClock none

/-- If a task aborts, it is the one whose script was being performed or one that was started. -/
theorem Sweeps.exists_aborted (sweeps : Sweeps instant script run last)
    (simulated : run.timer.style = .simulated) (orderly : run.timer.Orderly)
    (running : run.aborted = none) {message : String} (aborted : last.aborted = some message) :
    (∃ before rest reports, script = before ++ .abort message :: rest ∧
        last.notes = reports.reverse ++ run.notes ∧
        List.Forall₂ (Reports run.timer.now) before reports ∧
        last.timer.now = run.timer.now) ∨
      ∃ alarm, last.AbortedIn alarm := by
  induction sweeps with
  | @answered command script run last still goesOn _ ih =>
      obtain ⟨touch, notes_eq⟩ := touch_answer simulated command
      have atOnce := AtOnce.answer run command
      have now_eq := atOnce.now_eq simulated
      rcases ih (atOnce.style_eq.trans simulated) (touch.orderly orderly)
        ((aborted_answer run command).trans running) aborted with
        ⟨before, rest, reports, rfl, notes, reported, stands⟩ | later
      · left
        refine ⟨command :: before, rest, .did command (run.answer command).1 :: reports, rfl, ?_,
          .cons ⟨_, rfl, ?_⟩ (now_eq ▸ reported), stands.trans now_eq⟩
        · simp [notes, note, notes_eq]
        · rintro rfl
          simp [answer, simulated]
      · exact Or.inr later
  | @aborted other script run =>
      cases aborted
      exact Or.inl ⟨[], script, [], rfl, rfl, .nil, rfl⟩
  | passedOver due cancelled _ ih =>
      obtain ⟨orderlyNext, _⟩ := orderly.takeDue due
      rcases ih ((Timer.style_of_takeDue due).trans simulated) orderlyNext running aborted with
        ⟨before, rest, _, empty, _⟩ | later
      · simp at empty
      · exact Or.inr later
  | @started run last alarm timer due live _ ih =>
      obtain ⟨orderlyNext, now_eq, _⟩ := orderly.takeDue due
      rcases ih ((Timer.style_of_takeDue due).trans simulated) orderlyNext running aborted with
        ⟨before, rest, reports, body_eq, notes, reported, stands⟩ | later
      · right
        refine ⟨alarm, before, rest, message, reports, run.notes, body_eq, aborted, ?_,
          now_eq ▸ reported, stands.trans now_eq⟩
        rw [notes, note, now_eq]
      · exact Or.inr later
  | arrived none => cases running.symm.trans aborted

/-- A script that aborts leaves less to do than there was. -/
theorem Sweeps.effort_lt (sweeps : Sweeps instant script run last) (running : run.aborted = none)
    (aborted : last.aborted ≠ none) : last.effort < run.effort + bodyEffort script := by
  induction sweeps with
  | @answered command script run last still goesOn _ ih =>
      have less := ih ((aborted_answer run command).trans running) aborted
      have shorter := effort_answer_lt run command
      simp only [effort_note, bodyEffort] at less ⊢
      omega
  | @aborted message script run =>
      simp only [bodyEffort, commandEffort]
      show run.effort < _
      omega
  | passedOver due cancelled _ ih =>
      have less := ih running aborted
      have shorter := effort_takeDue due
      simp only [bodyEffort] at less ⊢
      omega
  | started due live _ ih =>
      have less := ih running aborted
      have shorter := effort_takeDue due
      simp only [effort_note, bodyEffort] at less ⊢
      omega
  | arrived none => exact absurd running aborted

/-- The clock stays between the beginning of an advance and its target. -/
theorem Sweeps.now_between (sweeps : Sweeps instant script run last)
    (simulated : run.timer.style = .simulated) (ahead : run.timer.now ≤ instant) :
    run.timer.now ≤ last.timer.now ∧ last.timer.now ≤ instant := by
  induction sweeps with
  | @answered command script run last still goesOn _ ih =>
      have atOnce := AtOnce.answer run command
      have now_eq := atOnce.now_eq simulated
      have between := ih (atOnce.style_eq.trans simulated) (now_eq ▸ ahead)
      rwa [note, now_eq] at between
  | aborted => exact ⟨Nat.le_refl _, ahead⟩
  | passedOver due cancelled _ ih =>
      have between := ih ((Timer.style_of_takeDue due).trans simulated)
        (Timer.now_le_of_takeDue ahead due)
      exact ⟨Nat.le_trans (Timer.le_now_of_takeDue due) between.1, between.2⟩
  | started due live _ ih =>
      have between := ih ((Timer.style_of_takeDue due).trans simulated)
        (Timer.now_le_of_takeDue ahead due)
      exact ⟨Nat.le_trans (Timer.le_now_of_takeDue due) between.1, between.2⟩
  | arrived none => exact ⟨ahead, Nat.le_refl _⟩

/-! ## Advances that are called again -/

/-- An advance to an instant is called again after each abort, until it returns. The moments after
the aborts are listed. -/
inductive Retries (instant : Duration) :
    TimerRun ℓ → List (TimerRun ℓ) → TimerRun ℓ → Prop where
  | returned {run last : TimerRun ℓ}
      (returns : run.submit (.advanceTo instant) = (.nothing, last)) : Retries instant run [] last
  | aborted {run moment last : TimerRun ℓ} {message : String} {moments : List (TimerRun ℓ)}
      (aborts : run.submit (.advanceTo instant) = (.aborted message, moment))
      (again : Retries instant moment moments last) : Retries instant run (moment :: moments) last

/-- Calling an advance again after each abort sweeps up to the target as one advance does if every
script is cut short. -/
theorem exists_retries {target : Duration} (run : TimerRun ℓ)
    (simulated : run.timer.style = .simulated) (orderly : run.timer.Orderly)
    (queued : run.AllQueued bodyLeavesClock) (target_eq : max run.timer.now target = instant) :
    ∃ moments last, Retries target run moments last ∧ last.aborted = none ∧
      Sweeps instant [] (TimerRun.cutShort { run with agenda := [], aborted := none })
        last.cutShort ∧
      ∀ moment ∈ moments, ∃ alarm, moment.AbortedIn alarm := by
  let start : TimerRun ℓ := { run with agenda := [], aborted := none }
  obtain ⟨next, sweeps⟩ := exists_sweeps instant [] start simulated rfl queued
  have moves : run.errand? (.advanceTo target) = some (.advance instant) :=
    errand?_of_target? simulated (congrArg some target_eq)
  have answered := sweeps.submit_eq simulated moves
  cases aborted : next.aborted with
  | none =>
      refine ⟨[], next, .returned ?_, aborted, ?_, nofun⟩
      · rw [answered, aborted]
        rfl
      · exact sweeps.cutShort simulated rfl (Or.inl ⟨aborted, rfl⟩)
  | some message =>
      have failed : next.aborted ≠ none := by simp [aborted]
      have less : next.effort < run.effort := by
        have shorter := sweeps.effort_lt rfl failed
        have fewer : start.effort ≤ run.effort := by simp [start, effort]
        simp only [bodyEffort] at shorter
        omega
      have rest : next.agenda = [] := sweeps.agenda_eq
      obtain ⟨begun, ended⟩ := sweeps.now_between simulated (le_of_errand? moves)
      have targetNext : max next.timer.now target = instant := by
        have between : run.timer.now.nanos ≤ next.timer.now.nanos := begun
        rw [← target_eq] at ended ⊢
        rw [Duration.le_def] at ended
        ext
        simp only [Duration.nanos_max] at ended ⊢
        omega
      obtain ⟨moments, last, again, returned, resumed, blamed⟩ := exists_retries next
        (sweeps.style_eq.trans simulated) (sweeps.orderly simulated orderly)
        (sweeps.allQueued passesOn_bodyLeavesClock rfl queued) targetNext
      have aborts : run.submit (.advanceTo target) = (.aborted message, next) := by
        rw [answered, aborted]
        rfl
      refine ⟨next :: moments, last, .aborted aborts again, returned, ?_, ?_⟩
      · rw [← rest] at resumed
        exact sweeps.cutShort simulated rfl (Or.inr ⟨failed, resumed⟩)
      · refine List.forall_mem_cons.mpr ⟨?_, blamed⟩
        rcases sweeps.exists_aborted simulated orderly rfl aborted with
          ⟨before, rest, _, empty, _⟩ | blame
        · simp at empty
        · exact blame
termination_by run.effort

/-- Calling an advance again after each abort, until it returns, starts the tasks that one advance
would start if every script were cut short where it aborts, at the same readings of the clock, and
leaves the timer that this advance would leave. After each abort the clock stands at the deadline
of the task that aborted. -/
theorem Later.retries {allowed : Command ℓ → Prop} {moment : TimerRun ℓ}
    (reached : (opening .simulated).Later allowed moment)
    (leaves : ∀ alarm ∈ moment.timer.queue, bodyLeavesClock alarm.task.body = true)
    (instant : Duration) :
    ∃ moments last, Retries instant moment moments last ∧
      moment.cutShort.submit (.advanceTo instant) = (.nothing, last.cutShort) ∧
      ∀ failed ∈ moments, ∃ alarm, failed.AbortedIn alarm := by
  obtain ⟨simulated, orderly, _⟩ := reached.orderly ⟨rfl, .opening _, nofun⟩
  obtain ⟨moments, last, retries, returned, sweeps, blamed⟩ :=
    exists_retries moment simulated orderly leaves rfl
  refine ⟨moments, last, retries, ?_, blamed⟩
  have simulatedCut : moment.cutShort.timer.style = .simulated := simulated
  have target : moment.cutShort.target? (.advanceTo instant) = _ := rfl
  have answered := Sweeps.submit_eq sweeps simulatedCut (errand?_of_target? simulatedCut target)
  have same : last.cutShort.aborted = none := returned
  rw [answered, same]
  rfl

/-- The first task sets an alarm and aborts, and so does the task that it set; the last task is
started after both aborts. -/
theorem retries_of_two_aborts :
    ∃ (run last : TimerRun String) (moments : List (TimerRun String)),
      (opening .simulated).Later (fun _ => True) run ∧ run.timer.queue.length = 2 ∧
        Retries (.ofMillis 30) run moments last ∧
        run.cutShort.submit (.advanceTo (.ofMillis 30)) = (.nothing, last.cutShort) ∧
        ∀ failed ∈ moments, ∃ alarm, failed.AbortedIn alarm := by
  have start : (opening .simulated).Later (fun _ : Command String => True) (opening .simulated) :=
    .here
  have set := @Later.begin _ _ _ _ (.schedule (.ofMillis 10) "first"
    [.schedule (.ofMillis 5) "inner" [.abort "again", .now], .abort "first", .cancel 1])
    start rfl trivial
  have reached := @Later.begin _ _ _ _ (.schedule (.ofMillis 20) "last" [.shutDown]) set rfl trivial
  obtain ⟨moments, last, retries⟩ := reached.retries (by decide) (.ofMillis 30)
  exact ⟨_, last, moments, reached, rfl, retries⟩

end TimerRun

end TimedBatch
