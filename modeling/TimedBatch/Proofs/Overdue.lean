import TimedBatch.Proofs.Advance

/-!
# No alarm is ever overdue

The clock of a simulated timer never passes the deadline of an alarm that is still queued, although
tasks move the clock themselves, overtaken advances set it back and aborts leave advances half-way.
So every task starts with the clock at exactly its deadline. That deadline was laid down when the
alarm was set, as the reading of the clock at that moment plus the delay, cut off at the last
instant. Many alarms may meet there, and yet no two queued ones have both the deadline and the
number in common, so an alarm that is set takes the place of no other.
-/

namespace TimedBatch

/-! ## Setting an alarm -/

namespace Timer

variable {β : Type} {timer next : Timer β}

/-- An alarm is set for a delay and joins the queue; none of those in the queue has its place. -/
structure Admits (timer : Timer β) (delay : Duration) (alarm : Alarm β) (next : Timer β) :
    Prop where
  deadline_eq : alarm.deadline = timer.now + delay
  vacant : ∀ other ∈ timer.queue, (other.deadline, other.order) ≠ (alarm.deadline, alarm.order)
  joins : next.queue.Perm (alarm :: timer.queue)

/-- A call to set an alarm is refused and leaves the timer as it was, or it sets the alarm. -/
theorem Orderly.admits_schedule (orderly : timer.Orderly) (delay : Duration) (task : β) :
    (∃ rejection, timer.schedule delay task = (.error rejection, timer)) ∨
      ∃ alarm next, timer.schedule delay task = (.ok alarm.token, next) ∧ alarm.task = task ∧
        timer.Admits delay alarm next := by
  unfold Timer.schedule
  split
  · exact Or.inl ⟨_, rfl⟩
  · rename_i deadline clock
    split
    · exact Or.inl ⟨_, rfl⟩
    · refine Or.inr ⟨⟨deadline, timer.nextOrder, timer.register.make.1, task⟩, _, rfl, rfl, ?_⟩
      constructor
      case deadline_eq => exact eq_of_deadline? clock
      case vacant =>
        intro other member same
        have older := orderly.numbered other member
        exact absurd (congrArg Prod.snd same) (Nat.ne_of_lt older)
      case joins => exact Alarm.perm_insert _ _

/-- The order of the queue tells all of its alarms apart. -/
theorem Orderly.distinct (orderly : timer.Orderly) :
    timer.queue.Pairwise fun first second =>
      (first.deadline, first.order) ≠ (second.deadline, second.order) := by
  refine orderly.sorted.imp ?_
  intro first second before same
  obtain ⟨deadline_eq, order_eq⟩ := Prod.mk.inj same
  rw [Alarm.precedes_iff, deadline_eq, order_eq] at before
  omega

/-- An alarm that is in the queue after a command was in it before, or the command has set it. -/
theorem Orderly.mem_queue_schedule (orderly : timer.Orderly) {delay : Duration} {task : β}
    {alarm : Alarm β} (member : alarm ∈ (timer.schedule delay task).2.queue) :
    alarm ∈ timer.queue ∨
      alarm.task = task ∧ timer.Admits delay alarm (timer.schedule delay task).2 := by
  rcases orderly.admits_schedule delay task with
    ⟨rejection, refused⟩ | ⟨admitted, next, accepted, task_eq, admits⟩
  · rw [refused] at member
    exact Or.inl member
  · rw [accepted] at member ⊢
    rcases List.mem_cons.mp (admits.joins.mem_iff.mp member) with rfl | before
    · exact Or.inr ⟨task_eq, admits⟩
    · exact Or.inl before

end Timer

namespace TimerRun

variable {ℓ : Type} {run last : TimerRun ℓ} {allowed : Command ℓ → Prop}

/-! ## How alarms come and go -/

/-- The command by which an alarm is set. -/
def settingOf (alarm : Alarm (Job ℓ)) : Command ℓ :=
  .schedule alarm.task.delay alarm.task.label alarm.task.body

/-- A task or somebody outside sets an alarm, which joins the queue. -/
structure Sets (run : TimerRun ℓ) (alarm : Alarm (Job ℓ)) (next : TimerRun ℓ) : Prop where
  called : (∃ waiting, run.agenda = .perform (settingOf alarm) :: waiting ∧ next = run.step) ∨
    run.agenda = [] ∧ next = run.begin (settingOf alarm)
  admits : run.timer.Admits alarm.task.delay alarm next.timer

/-- The first alarm leaves the queue and its task starts, with the clock at the deadline. -/
structure Starts (run : TimerRun ℓ) (alarm : Alarm (Job ℓ)) (next : TimerRun ℓ) : Prop where
  queue_eq : run.timer.queue = alarm :: next.timer.queue
  now_eq : next.timer.now = alarm.deadline
  performs : ∃ waiting, next.agenda = alarm.task.body.map .perform ++ waiting
  notes_eq : next.notes = .started alarm alarm.deadline :: run.notes

/-- Only a command to set an alarm makes one join the queue. -/
theorem Orderly.mem_queue_answer (orderly : run.Orderly) {command : Command ℓ}
    {alarm : Alarm (Job ℓ)} (member : alarm ∈ (run.answer command).2.timer.queue) :
    alarm ∈ run.timer.queue ∨ command = settingOf alarm ∧
      run.timer.Admits alarm.task.delay alarm (run.answer command).2.timer := by
  cases command with
  | schedule delay label body =>
      have reading : run.readClock = run := by rw [readClock, orderly.simulated]
      rw [answer, timer_schedule, reading] at member ⊢
      rcases orderly.timer.mem_queue_schedule member with before | ⟨task_eq, admits⟩
      · exact Or.inl before
      · rw [settingOf, task_eq]
        exact Or.inr ⟨rfl, admits⟩
  | cancel slot =>
      rw [answer] at member
      split at member <;> exact Or.inl member
  | isCancelled slot =>
      rw [answer] at member
      split at member <;> exact Or.inl member
  | now =>
      rw [answer] at member
      split at member <;> exact Or.inl member
  | shutDown => cases member
  | _ => exact Or.inl member

theorem Turn.mem_queue {next : TimerRun ℓ} {errand : Errand ℓ} (turn : run.Turn errand next)
    (orderly : run.Orderly) (busy : errand ≠ .work) {alarm : Alarm (Job ℓ)}
    (member : alarm ∈ next.timer.queue) :
    alarm ∈ run.timer.queue ∨ errand = .perform (settingOf alarm) ∧
      run.timer.Admits alarm.task.delay alarm next.timer := by
  cases turn with
  | answered still =>
      rcases orderly.mem_queue_answer member with before | ⟨rfl, admits⟩
      · exact Or.inl before
      · exact Or.inr ⟨rfl, admits⟩
  | entered moves => exact Or.inl member
  | dropped =>
      rw [timer_abort] at member
      exact Or.inl member
  | concluded => exact Or.inl member
  | fired due =>
      obtain ⟨_, rest, queue_eq, timer_eq⟩ := Timer.eq_of_takeDue due
      rw [timer_start, timer_eq] at member
      rw [queue_eq]
      exact Or.inl (List.mem_cons_of_mem _ member)
  | arrived none => exact Or.inl member
  | waited first => exact absurd rfl busy
  | idled => exact absurd rfl busy

/-- A task that starts finds the clock at its deadline, since the clock had not passed it. -/
theorem Turn.started {next : TimerRun ℓ} {errand : Errand ℓ} (turn : run.Turn errand next)
    (orderly : run.Orderly) (busy : errand ≠ .work) {alarm : Alarm (Job ℓ)} {reading : Duration}
    (member : .started alarm reading ∈ next.notes) :
    .started alarm reading ∈ run.notes ∨ reading = alarm.deadline ∧ run.Starts alarm next := by
  cases turn with
  | @answered command still =>
      rw [note, (touch_answer orderly.simulated command).2] at member
      rcases List.mem_cons.mp member with impossible | before
      · cases impossible
      · exact Or.inl before
  | entered moves => exact Or.inl member
  | dropped =>
      rw [abort, orderly.simulated] at member
      exact Or.inl member
  | concluded =>
      rcases List.mem_cons.mp member with impossible | before
      · cases impossible
      · exact Or.inl before
  | @fired instant first timer due =>
      have now_eq := (orderly.timer.takeDue due).2.1
      obtain ⟨_, rest, queue_eq, timer_eq⟩ := Timer.eq_of_takeDue due
      cases cancelled : timer.isCancelled first.token with
      | true =>
          simp only [start, cancelled, if_true] at member
          exact Or.inl member
      | false =>
          simp only [start, cancelled, note, Bool.false_eq_true, if_false] at member ⊢
          rcases List.mem_cons.mp member with same | before
          · cases same
            refine Or.inr ⟨now_eq, ?_⟩
            constructor
            case queue_eq =>
              rw [queue_eq, timer_eq]
            case now_eq => exact now_eq
            case performs => exact ⟨_, rfl⟩
            case notes_eq => exact congrArg (TimerNote.started _ · :: run.notes) now_eq
          · exact Or.inl before
  | arrived none => exact Or.inl member
  | waited first => exact absurd rfl busy
  | idled => exact absurd rfl busy

namespace Orderly

/-- What a step changes: an alarm that is in the queue was in it before or has just been set, and
a task whose start is reported was started before or has just been started. -/
theorem comings_step (orderly : run.Orderly) :
    (∀ alarm ∈ run.step.timer.queue, alarm ∈ run.timer.queue ∨ run.Sets alarm run.step) ∧
      ∀ alarm reading, .started alarm reading ∈ run.step.notes →
        .started alarm reading ∈ run.notes ∨
          reading = alarm.deadline ∧ run.Starts alarm run.step := by
  cases agenda : run.agenda with
  | nil =>
      rw [step_of_rest agenda]
      exact ⟨fun _ => Or.inl, fun _ _ => Or.inl⟩
  | cons errand waiting =>
      have turn := turn_step agenda
      obtain ⟨busy, still⟩ := orderly.of_cons agenda
      constructor
      · intro alarm member
        rcases turn.mem_queue still busy member with before | ⟨rfl, admits⟩
        · exact Or.inl before
        · exact Or.inr ⟨Or.inl ⟨waiting, agenda, rfl⟩, admits⟩
      · intro alarm reading member
        rcases turn.started still busy member with before | ⟨reading_eq, starts⟩
        · exact Or.inl before
        · obtain ⟨queue_eq, now_eq, performs, notes_eq⟩ := starts
          exact Or.inr ⟨reading_eq, queue_eq, now_eq, performs, notes_eq⟩

/-- A command from outside sets an alarm or leaves all of them; it starts no task by itself. -/
theorem comings_begin (orderly : run.Orderly) (rest : run.agenda = []) (command : Command ℓ) :
    (∀ alarm ∈ (run.begin command).timer.queue,
      alarm ∈ run.timer.queue ∨ run.Sets alarm (run.begin command)) ∧
      (run.begin command).notes = run.notes := by
  cases moves : run.errand? command with
  | some errand =>
      have begin_eq : run.begin command = { run with agenda := [errand], aborted := none } := by
        rw [TimerRun.begin, moves]
      rw [begin_eq]
      exact ⟨fun _ => Or.inl, rfl⟩
  | none =>
      have begin_eq : run.begin command = (run.answer command).2 := by rw [TimerRun.begin, moves]
      rw [begin_eq]
      refine ⟨fun alarm member => ?_, (touch_answer orderly.simulated command).2⟩
      rcases orderly.mem_queue_answer member with before | ⟨rfl, admits⟩
      · exact Or.inl before
      · exact Or.inr ⟨Or.inr ⟨rest, begin_eq.symm⟩, admits⟩

end Orderly

/-! ## Whole runs -/

section Runs

variable (reached : (opening .simulated).Later allowed last)
include reached

theorem Later.orderly_of_opening : last.Orderly :=
  reached.orderly ⟨rfl, .opening _, nofun⟩

/-- Every alarm in the queue was set at some moment of the run. -/
theorem Later.exists_sets {alarm : Alarm (Job ℓ)} (member : alarm ∈ last.timer.queue) :
    ∃ before after, (opening .simulated).Later allowed before ∧ before.Sets alarm after ∧
      after.Later allowed last := by
  induction reached with
  | here => cases member
  | step earlier ih =>
      rcases earlier.orderly_of_opening.comings_step.1 alarm member with queued | sets
      · obtain ⟨before, after, reached, sets, later⟩ := ih queued
        exact ⟨before, after, reached, sets, later.step⟩
      · exact ⟨_, _, earlier, sets, .here⟩
  | @begin moment command earlier rest may ih =>
      rcases (earlier.orderly_of_opening.comings_begin rest command).1 alarm member with
        queued | sets
      · obtain ⟨before, after, reached, sets, later⟩ := ih queued
        exact ⟨before, after, reached, sets, later.begin rest may⟩
      · exact ⟨_, _, earlier, sets, .here⟩

/-- Every task whose start is reported was started at some moment of the run. -/
theorem Later.exists_starts {alarm : Alarm (Job ℓ)} {reading : Duration}
    (member : .started alarm reading ∈ last.notes) :
    reading = alarm.deadline ∧ ∃ before, (opening .simulated).Later allowed before ∧
      before.Starts alarm before.step ∧ before.step.Later allowed last := by
  induction reached with
  | here => cases member
  | step earlier ih =>
      rcases earlier.orderly_of_opening.comings_step.2 alarm reading member with
        reported | ⟨reading_eq, starts⟩
      · obtain ⟨reading_eq, before, reached, starts, later⟩ := ih reported
        exact ⟨reading_eq, before, reached, starts, later.step⟩
      · exact ⟨reading_eq, _, earlier, starts, .here⟩
  | @begin moment command earlier rest may ih =>
      rw [(earlier.orderly_of_opening.comings_begin rest command).2] at member
      obtain ⟨reading_eq, before, reached, starts, later⟩ := ih member
      exact ⟨reading_eq, before, reached, starts, later.begin rest may⟩

end Runs

/-- What holds at every moment of a run of a simulated timer, also while tasks are performed. -/
structure NeverOverdue (allowed : Command ℓ → Prop) (last : TimerRun ℓ) : Prop where
  ahead : ∀ alarm ∈ last.timer.queue, last.timer.now ≤ alarm.deadline
  distinct : last.timer.queue.Pairwise fun first second =>
    (first.deadline, first.order) ≠ (second.deadline, second.order)
  /-- An alarm that is set takes the place of no other. -/
  admits : ∀ delay job,
    (∃ rejection, last.timer.schedule delay job = (.error rejection, last.timer)) ∨
      ∃ alarm next, last.timer.schedule delay job = (.ok alarm.token, next) ∧ alarm.task = job ∧
        last.timer.Admits delay alarm next
  /-- A queued alarm was set earlier in the run, for the reading of that moment and its delay. -/
  set : ∀ alarm ∈ last.timer.queue, ∃ before after, (opening .simulated).Later allowed before ∧
    before.Sets alarm after ∧ after.Later allowed last
  /-- A task that was started had its alarm set, and when it started the clock stood at the
  deadline. -/
  started : ∀ alarm reading, .started alarm reading ∈ last.notes → reading = alarm.deadline ∧
    ∃ before after starting, (opening .simulated).Later allowed before ∧
      before.Sets alarm after ∧ after.Later allowed starting ∧
      starting.Starts alarm starting.step ∧ starting.step.Later allowed last

theorem Later.neverOverdue (reached : (opening .simulated).Later allowed last) :
    NeverOverdue allowed last := by
  have orderly := reached.orderly_of_opening
  constructor
  case ahead => exact orderly.timer.ahead
  case distinct => exact orderly.timer.distinct
  case admits => exact orderly.timer.admits_schedule
  case set => exact fun alarm member => reached.exists_sets member
  case started =>
    intro alarm reading member
    obtain ⟨reading_eq, starting, reachedStart, starts, later⟩ := reached.exists_starts member
    have queued : alarm ∈ starting.timer.queue := starts.queue_eq ▸ List.mem_cons_self
    obtain ⟨before, after, reachedBefore, sets, between⟩ := reachedStart.exists_sets queued
    exact ⟨reading_eq, before, after, starting, reachedBefore, sets, between, starts, later⟩

/-- A task advances the clock beyond the advance that started it and sets two alarms for the last
instant; the next task sets one for a millisecond later and aborts. The clock has run back when it
starts. -/
theorem neverOverdue_of_abort_in_task :
    ∃ last : TimerRun String, (opening .simulated).Later (fun _ => True) last ∧
      last.aborted = some "broken" ∧ last.timer.now = .ofMillis 15 ∧
      last.timer.queue.map (·.deadline) = [.ofMillis 16, .longest, .longest] ∧
      NeverOverdue (fun _ => True) last := by
  have start : (opening .simulated).Later (fun _ : Command String => True) (opening .simulated) :=
    .here
  have set := @Later.begin _ _ _ _ (.schedule (.ofMillis 10) "overtakes"
    [.advance (.ofMillis 100), .schedule .longest "first" [], .schedule .longest "second" []])
    start rfl trivial
  have advanced := @Later.begin _ _ _ _ (.advance (.ofMillis 14)) set rfl trivial
  have ended := advanced.step.step.step.step.step.step.step
  have setAgain := @Later.begin _ _ _ _ (.schedule (.ofMillis 1) "aborts"
    [.schedule (.ofMillis 1) "left" [], .abort "broken"]) ended rfl trivial
  have advancedAgain := @Later.begin _ _ _ _ (.advance (.ofMillis 10)) setAgain rfl trivial
  have aborted := advancedAgain.step.step.step
  exact ⟨_, aborted, rfl, rfl, rfl, aborted.neverOverdue⟩

end TimerRun

end TimedBatch
