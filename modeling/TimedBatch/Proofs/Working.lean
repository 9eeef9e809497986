import TimedBatch.Proofs.Worker

/-!
# Work that nobody interrupts

A run of a worker timer that is told to work takes one alarm after the other, as long as a task
with a short delay waits, and performs the scripts of their tasks. Its steps are moves of the
worker with no other thread between them, so that what holds of every history holds of the run.
-/

namespace TimedBatch

namespace TimerRun

variable {ℓ : Type}

/-! ## Tasks that do not work themselves -/

mutual

/-- Whether a task may perform a command without working itself, then or in a later task. -/
def neverWorks : Command ℓ → Bool
  | .schedule _ _ body => bodyNeverWorks body
  | .work => false
  | _ => true

def bodyNeverWorks : List (Command ℓ) → Bool
  | [] => true
  | command :: rest => neverWorks command && bodyNeverWorks rest

end

theorem passesOn_bodyNeverWorks : PassesOn (bodyNeverWorks (ℓ := ℓ)) where
  rest holds := ((Bool.and_eq_true _ _).mp holds).2
  task holds := by
    have holds := ((Bool.and_eq_true _ _).mp holds).1
    simpa only [neverWorks] using holds

/-- The task of an alarm starts in front of what waits. -/
theorem start_append (run : TimerRun ℓ) (alarm : Alarm (Job ℓ)) (behind : List (Errand ℓ)) :
    start { run with agenda := run.agenda ++ behind } alarm =
      { run.start alarm with agenda := (run.start alarm).agenda ++ behind } := by
  simp only [start]
  split
  · rfl
  · simp only [note, List.append_assoc]

theorem errand?_of_neverWorks {name : String} {run : TimerRun ℓ}
    (worker : run.timer.style = .worker name) {command : Command ℓ}
    (never : neverWorks command = true) : run.errand? command = none := by
  cases command with
  | work => simp [neverWorks] at never
  | _ => simp [errand?, worker]

end TimerRun

namespace Worker

open TimerRun

variable {ℓ : Type} {name : String} {worker first middle last : Worker ℓ}

theorem Proceeds.trans {history later : List (Happening ℓ)}
    (proceeds : first.Proceeds history middle) (goesOn : middle.Proceeds later last) :
    first.Proceeds (history ++ later) last := by
  induction goesOn with
  | here => rwa [List.append_nil]
  | move _ move ih =>
      rw [← List.append_assoc]
      exact ih.move move

/-- The run of a worker that is told to work, where the script of a task may be under way. -/
def working (worker : Worker ℓ) : TimerRun ℓ :=
  { worker.toTimerRun with agenda := worker.agenda ++ [.work] }

/-- No alarm is in the hand of the worker, and no task works itself. -/
structure AtWork (name : String) (worker : Worker ℓ) : Prop where
  sound : worker.Sound name
  free : worker.inHand = none
  running : worker.aborted = none
  scripted : ∃ script : List (Command ℓ),
    worker.agenda = script.map .perform ∧ bodyNeverWorks script = true
  queued : worker.AllQueued bodyNeverWorks

namespace AtWork

theorem opening (name : String) (lags : Nat → Duration) :
    (Worker.opening name lags : Worker ℓ).AtWork name :=
  ⟨sound_opening name lags, rfl, rfl, ⟨[], rfl, rfl⟩, nofun⟩

/-- Another thread gives a command. -/
theorem outside (atWork : worker.AtWork name) {command : Command ℓ}
    (never : neverWorks command = true) :
    ∃ next, worker.Move (.outside command) next ∧ next.AtWork name ∧
      next.agenda = worker.agenda ∧ next.toTimerRun = (worker.submit command).2 := by
  have still := errand?_of_neverWorks atWork.sound.style_eq never
  have move := Move.outside command still
  have submitted : (worker.submit command).2 = (worker.answer command).2 := by
    rw [submit, still]
  have agenda_eq : (worker.submit command).2.agenda = worker.agenda := by
    rw [submitted]
    exact (AtOnce.answer worker.toTimerRun command).agenda_eq
  refine ⟨_, move, ⟨move.sound atWork.sound, atWork.free, ?_, ?_, ?_⟩, agenda_eq, rfl⟩
  · show (worker.submit command).2.aborted = none
    rw [submitted, aborted_answer]
    exact atWork.running
  · exact agenda_eq ▸ atWork.scripted
  · show (worker.submit command).2.AllQueued bodyNeverWorks
    have kind : bodyNeverWorks [command] = true := by
      rw [bodyNeverWorks, never]
      rfl
    rw [submitted]
    exact passesOn_bodyNeverWorks.answer kind atWork.queued

/-- The task that is under way gives its next command. -/
theorem inside (atWork : worker.AtWork name) {command : Command ℓ} {script : List (Command ℓ)}
    (agenda : worker.agenda = (command :: script).map .perform)
    (kind : bodyNeverWorks (command :: script) = true) :
    ∃ next, worker.Move (.inside command) next ∧ next.AtWork name ∧
      next.working = worker.working.step := by
  have never := ((Bool.and_eq_true _ _).mp kind).1
  have still := errand?_of_neverWorks atWork.sound.style_eq never
  have move : worker.Move (.inside command) _ := .inside agenda still
  have behind : worker.working.agenda =
      .perform command :: (script.map .perform ++ [Errand.work]) := by
    rw [working, agenda]
    rfl
  by_cases goesOn : ∀ message, command ≠ .abort message
  · have stepped := step_of_goesOn agenda still goesOn
    have stillBehind : worker.working.errand? command = none := still
    have answered : worker.working.answer command = _ :=
      answer_of_agenda worker.toTimerRun (worker.agenda ++ [Errand.work]) command
    refine ⟨_, move, ⟨move.sound atWork.sound, atWork.free, ?_,
      ⟨script, ?_, passesOn_bodyNeverWorks.rest kind⟩, ?_⟩, ?_⟩
    · rw [stepped]
      exact (aborted_answer worker.toTimerRun command).trans atWork.running
    · rw [stepped]
      rfl
    · rw [stepped]
      exact passesOn_bodyNeverWorks.answer kind atWork.queued
    · rw [step_of_goesOn behind stillBehind goesOn, answered, working, stepped]
      rfl
  · push Not at goesOn
    obtain ⟨message, rfl⟩ := goesOn
    have stepped := step_of_abort_last atWork.sound.style_eq agenda
    have style_eq : worker.working.timer.style = .worker name := atWork.sound.style_eq
    refine ⟨_, move, ⟨move.sound atWork.sound, atWork.free, ?_, ⟨[], ?_, rfl⟩, ?_⟩, ?_⟩
    · rw [stepped]
      exact atWork.running
    · rw [stepped]
      rfl
    · rw [stepped]
      exact atWork.queued
    · rw [step_of_abort style_eq behind, working, stepped]
      rfl

/-- The worker takes an alarm and looks at it, if a task with a short delay waits. -/
theorem take (atWork : worker.AtWork name) (rest : worker.agenda = [])
    (waits : worker.timer.queue.any (·.task.isPrompt) = true) :
    ∃ history next, worker.Proceeds history next ∧
      history.filterMap Happening.outside? = [] ∧ next.AtWork name ∧
      next.working = worker.working.step := by
  obtain ⟨alarm, timer, first⟩ : ∃ alarm timer,
      worker.timer.awaitFirst (worker.lags worker.readings) = some (alarm, timer) := by
    cases queue_eq : worker.timer.queue with
    | nil => simp [queue_eq] at waits
    | cons alarm behind =>
        rw [Timer.awaitFirst, queue_eq]
        exact ⟨_, _, rfl⟩
  have member : alarm ∈ worker.timer.queue := by
    rw [(Timer.of_awaitFirst first).2.2]
    exact List.mem_cons_self
  have queue_eq : timer.queue ⊆ worker.timer.queue := by
    rw [(Timer.of_awaitFirst first).2.2]
    exact List.subset_cons_self alarm timer.queue
  let taken : Worker ℓ :=
    { worker with timer := timer, readings := worker.readings + 1, inHand := some alarm }
  have take : worker.Move (.take alarm) taken := .take rest atWork.free first
  have look : taken.Move (.look alarm) { toTimerRun := taken.start alarm } := .look rfl
  refine ⟨_, _, (Proceeds.here.move take).move look, rfl, ⟨?_, rfl, ?_, ?_, ?_⟩, ?_⟩
  · exact look.sound (take.sound atWork.sound)
  · have aborted_eq : (taken.start alarm).aborted = worker.aborted := by
      rw [start]
      split <;> rfl
    exact aborted_eq.trans atWork.running
  · obtain ⟨commands, which, agenda⟩ := agenda_start taken.toTimerRun alarm
    refine ⟨commands, agenda.trans ?_, ?_⟩
    · rw [show taken.agenda = [] from rest, List.append_nil]
    · rcases which with rfl | rfl
      · rfl
      · exact atWork.queued alarm member
  · intro other among
    rw [timer_start] at among
    exact atWork.queued other (queue_eq among)
  · have agenda : worker.working.agenda = [.work] := by rw [working, rest]; rfl
    rw [step, agenda]
    simp only [doErrand, work, working, waits, first, ↓reduceIte]
    have started := start_append taken.toTimerRun alarm [.work]
    rw [show taken.agenda = [] from rest] at started
    exact started.symm

end AtWork

/-- The work goes on until no task with a short delay waits. -/
theorem exists_proceeds_settle (worker : Worker ℓ) (atWork : worker.AtWork name) :
    ∃ history last, worker.Proceeds history last ∧
      history.filterMap Happening.outside? = [] ∧ last.AtWork name ∧
      last.toTimerRun = worker.working.settle := by
  obtain ⟨script, agenda, kind⟩ := atWork.scripted
  have busy : worker.working.agenda ≠ [] := by simp [working]
  have shorter := effort_step_lt worker.working busy
  match script, agenda, kind with
  | command :: script, agenda, kind =>
      obtain ⟨next, move, atWorkNext, same⟩ := atWork.inside agenda kind
      obtain ⟨later, last, goesOn, alone, settles, settled⟩ :=
        exists_proceeds_settle next atWorkNext
      refine ⟨_, last, (Proceeds.here.move move).trans goesOn, alone, settles, ?_⟩
      rw [settled, same, settle_step]
  | [], rest, _ =>
      by_cases waits : worker.timer.queue.any (·.task.isPrompt) = true
      · obtain ⟨history, next, begins, aloneBegins, atWorkNext, same⟩ := atWork.take rest waits
        obtain ⟨later, last, goesOn, alone, settles, settled⟩ :=
          exists_proceeds_settle next atWorkNext
        refine ⟨_, last, begins.trans goesOn, ?_, settles, ?_⟩
        · rw [List.filterMap_append, aloneBegins, alone, List.append_nil]
        · rw [settled, same, settle_step]
      · have stepped : worker.working.step = worker.toTimerRun := by
          have behind : worker.working.agenda = [.work] := by rw [working, rest]; rfl
          have idle : ({ worker.toTimerRun with agenda := [] } : TimerRun ℓ) =
              worker.toTimerRun := by rw [← show worker.agenda = [] from rest]
          rw [step, behind]
          exact (if_neg waits).trans idle
        refine ⟨[], worker, .here, rfl, atWork, ?_⟩
        rw [← settle_step, stepped, settle_of_rest rest]
termination_by worker.working.effort
decreasing_by
  all_goals
    rw [same]
    exact shorter

/-- A run that is told to work does what its worker does while no other thread comes between. -/
theorem exists_proceeds_of_work (atWork : worker.AtWork name) (rest : worker.agenda = []) :
    ∃ history last, worker.Proceeds history last ∧
      history.filterMap Happening.outside? = [] ∧ last.AtWork name ∧ last.agenda = [] ∧
      last.toTimerRun = (worker.submit .work).2 := by
  obtain ⟨history, last, proceeds, alone, settles, settled⟩ := exists_proceeds_settle worker atWork
  refine ⟨history, last, proceeds, alone, settles, ?_, ?_⟩
  · rw [settled, agenda_settle]
  · have moves : worker.errand? .work = some .work := by
      simp only [errand?, atWork.sound.style_eq]
    have begun : worker.begin .work = worker.working := by
      rw [begin, moves, working, rest, ← atWork.running]
      rfl
    rw [submit_eq_settle rest, begun, settled]

/-- Whatever commands a run of a worker timer is given one after the other, to work among them, its
steps make up a history. -/
theorem exists_proceeds_of_submits (commands : List (Command ℓ))
    (kind : ∀ command ∈ commands, command = .work ∨ neverWorks command = true)
    (atWork : worker.AtWork name) (rest : worker.agenda = []) :
    ∃ history last, worker.Proceeds history last ∧ last.toTimerRun =
      commands.foldl (fun run command => (run.submit command).2) worker.toTimerRun := by
  induction commands generalizing worker with
  | nil => exact ⟨[], worker, .here, rfl⟩
  | cons command commands ih =>
      have ⟨kindFirst, kindRest⟩ := List.forall_mem_cons.mp kind
      rcases kindFirst with rfl | never
      · obtain ⟨history, next, begins, _, atWorkNext, restNext, same⟩ :=
          exists_proceeds_of_work atWork rest
        obtain ⟨later, last, goesOn, ends⟩ := ih kindRest atWorkNext restNext
        exact ⟨_, last, begins.trans goesOn, by rw [ends, same, List.foldl_cons]⟩
      · obtain ⟨next, move, atWorkNext, agenda_eq, same⟩ := atWork.outside never
        obtain ⟨later, last, goesOn, ends⟩ := ih kindRest atWorkNext (agenda_eq.trans rest)
        exact ⟨_, last, (Proceeds.here.move move).trans goesOn,
          by rw [ends, same, List.foldl_cons]⟩

end Worker

end TimedBatch
