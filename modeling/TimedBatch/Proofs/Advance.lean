import Mathlib.Data.List.Forall2
import TimedBatch.Proofs.Clock

/-!
# What an advance starts

Which tasks an advance starts is settled only while it is under way: a task that it starts may set
further alarms, cancel others and shut the timer down. Seen from its end, an advance has started
the task of every alarm that was due, unless the alarm was cancelled or dropped while it was still
queued, and the alarms that are due later are queued as before.
-/

namespace TimedBatch

/-! ## The order of a queue -/

namespace Alarm

variable {β : Type}

theorem precedes_iff {first second : Alarm β} :
    first.precedes second = true ↔ first.deadline.nanos < second.deadline.nanos ∨
      first.deadline.nanos = second.deadline.nanos ∧ first.order < second.order := by
  rw [← Duration.ext_iff, ← Duration.lt_def]
  simp only [precedes, Bool.or_eq_true, decide_eq_true_eq, Bool.and_eq_true]

/-- Alarms that were set one after the other precede each other in one direction. -/
theorem precedes_of_not_precedes {first second : Alarm β} (older : second.order < first.order)
    (order : ¬first.precedes second = true) : second.precedes first = true := by
  rw [precedes_iff] at order ⊢
  omega

/-- An alarm that is set joins the alarms of its deadline behind all others. -/
theorem pairwise_precedes_insert {alarm : Alarm β} {queue : List (Alarm β)}
    (older : ∀ other ∈ queue, other.order < alarm.order)
    (sorted : queue.Pairwise fun first second => first.precedes second = true) :
    (alarm.insert queue).Pairwise fun first second => first.precedes second = true := by
  induction queue with
  | nil => exact List.pairwise_singleton _ alarm
  | cons first rest ih =>
      have ⟨olderFirst, olderRest⟩ := List.forall_mem_cons.mp older
      have ⟨least, others⟩ := List.pairwise_cons.mp sorted
      rw [insert_cons]
      split
      · rename_i before
        refine List.pairwise_cons.mpr ⟨?_, sorted⟩
        intro other member
        rcases List.mem_cons.mp member with rfl | member
        · exact before
        · have behind := least other member
          rw [precedes_iff] at before behind ⊢
          omega
      · rename_i order
        refine List.pairwise_cons.mpr ⟨?_, ih olderRest others⟩
        intro other member
        rcases mem_insert.mp member with rfl | member
        · exact precedes_of_not_precedes olderFirst order
        · exact least other member

end Alarm

namespace Timer

variable {β : Type} {timer next : Timer β}

/-- The queue of a simulated timer is in the order in which its tasks will start, none of them is
overdue, and a timer that is shut down has none. -/
structure Orderly (timer : Timer β) : Prop where
  sorted : timer.queue.Pairwise fun first second => first.precedes second = true
  ahead : ∀ alarm ∈ timer.queue, timer.now ≤ alarm.deadline
  numbered : ∀ alarm ∈ timer.queue, alarm.order < timer.nextOrder
  dropped : timer.isShutDown = true → timer.queue = []

namespace Orderly

theorem opening (style : TimerStyle) : ({ style := style } : Timer β).Orderly :=
  ⟨.nil, nofun, nofun, nofun⟩

theorem isOpen (orderly : timer.Orderly) {alarm : Alarm β} (member : alarm ∈ timer.queue) :
    timer.isShutDown = false := by
  cases down : timer.isShutDown with
  | false => rfl
  | true =>
      rw [orderly.dropped down] at member
      cases member

theorem schedule (orderly : timer.Orderly) (delay : Duration) (task : β) :
    (timer.schedule delay task).2.Orderly := by
  unfold Timer.schedule
  split
  · exact orderly
  · rename_i deadline clock
    have later : timer.now ≤ deadline := by
      have bound := timer.now.nanos_le
      rw [eq_of_deadline? clock, Duration.le_def, Duration.nanos_add]
      omega
    split
    · exact orderly
    · rename_i isOpen
      constructor
      case sorted => exact Alarm.pairwise_precedes_insert orderly.numbered orderly.sorted
      case ahead =>
        intro alarm member
        rcases Alarm.mem_insert.mp member with rfl | member
        · exact later
        · exact orderly.ahead alarm member
      case numbered =>
        intro alarm member
        rcases Alarm.mem_insert.mp member with rfl | member
        · exact Nat.lt_succ_self _
        · exact Nat.lt_succ_of_lt (orderly.numbered alarm member)
      case dropped => exact fun down => absurd down isOpen

theorem shutDown (timer : Timer β) : timer.shutDown.Orderly :=
  ⟨.nil, nofun, nofun, fun _ => rfl⟩

/-- An alarm that is taken stands at its deadline, before all that are left. -/
theorem takeDue (orderly : timer.Orderly) {instant : Duration} {first : Alarm β}
    (due : timer.takeDue instant = some (first, next)) :
    next.Orderly ∧ next.now = first.deadline ∧
      ∀ alarm ∈ next.queue, first.precedes alarm = true := by
  obtain ⟨_, rest, queue_eq, rfl⟩ := eq_of_takeDue due
  obtain ⟨sorted, ahead, numbered, dropped⟩ := orderly
  rw [queue_eq] at sorted ahead numbered dropped
  have ⟨least, sortedRest⟩ := List.pairwise_cons.mp sorted
  have ⟨aheadFirst, _⟩ := List.forall_mem_cons.mp ahead
  have now_eq : max timer.now first.deadline = first.deadline := if_pos aheadFirst
  refine ⟨⟨sortedRest, ?_, (List.forall_mem_cons.mp numbered).2, ?_⟩, now_eq, least⟩
  · intro alarm member
    show max timer.now first.deadline ≤ alarm.deadline
    rw [now_eq]
    exact Alarm.le_of_precedes (least alarm member)
  · intro down
    cases dropped down

theorem lt_of_takeDue (orderly : timer.Orderly) {instant : Duration}
    (none : timer.takeDue instant = none) : ∀ alarm ∈ timer.queue, instant < alarm.deadline :=
  Timer.lt_of_takeDue (orderly.sorted.imp Alarm.le_of_precedes) none

theorem setClock (orderly : timer.Orderly) {instant : Duration}
    (none : timer.takeDue instant = none) : (timer.setClock instant).Orderly :=
  ⟨orderly.sorted, fun alarm member => Nat.le_of_lt (orderly.lt_of_takeDue none alarm member),
    orderly.numbered, orderly.dropped⟩

end Orderly

/-- What a command that is done at once can do to a simulated timer. -/
inductive Touch (timer : Timer β) : Timer β → Prop where
  | left : Touch timer timer
  | scheduled (delay : Duration) (task : β) : Touch timer (timer.schedule delay task).2
  | cancelled (token : CancelToken) : Touch timer (timer.cancel token).2
  | shutDown : Touch timer timer.shutDown

namespace Touch

theorem orderly (touch : timer.Touch next) (orderly : timer.Orderly) : next.Orderly := by
  cases touch with
  | left => exact orderly
  | scheduled delay task => exact orderly.schedule delay task
  | cancelled token => exact ⟨orderly.sorted, orderly.ahead, orderly.numbered, orderly.dropped⟩
  | shutDown => exact .shutDown timer

/-- The alarms that are queued stay queued, unless the timer is shut down, and one that joins them
has a new number. -/
theorem queue (touch : timer.Touch next) :
    (next.isShutDown = true ∨ ∀ alarm ∈ timer.queue, alarm ∈ next.queue) ∧
      (∀ alarm ∈ next.queue, alarm ∈ timer.queue ∨ timer.nextOrder ≤ alarm.order) ∧
      timer.nextOrder ≤ next.nextOrder := by
  cases touch with
  | left => exact ⟨Or.inr fun _ => id, fun _ => Or.inl, Nat.le_refl _⟩
  | cancelled token => exact ⟨Or.inr fun _ => id, fun _ => Or.inl, Nat.le_refl _⟩
  | shutDown => exact ⟨Or.inl rfl, nofun, Nat.le_refl _⟩
  | scheduled delay task =>
      unfold Timer.schedule
      split
      · exact ⟨Or.inr fun _ => id, fun _ => Or.inl, Nat.le_refl _⟩
      · split
        · exact ⟨Or.inr fun _ => id, fun _ => Or.inl, Nat.le_refl _⟩
        · refine ⟨Or.inr ?_, ?_, Nat.le_succ _⟩
          · exact fun alarm member => Alarm.mem_insert.mpr (Or.inr member)
          · intro alarm member
            rcases Alarm.mem_insert.mp member with rfl | member
            · exact Or.inr (Nat.le_refl _)
            · exact Or.inl member

theorem isCancelled (touch : timer.Touch next) {token : CancelToken}
    (cancelled : timer.isCancelled token = true) : next.isCancelled token = true := by
  cases touch with
  | left => exact cancelled
  | cancelled other => exact CancelRegister.isCancelled_cancel _ other cancelled
  | shutDown => exact cancelled
  | scheduled delay task =>
      unfold Timer.schedule
      split
      · exact cancelled
      · split
        · exact cancelled
        · exact (timer.register.isCancelled_make token).trans cancelled

end Touch

end Timer

namespace TimerRun

variable {ℓ : Type} {run first last : TimerRun ℓ}

/-! ## Runs of a simulated timer -/

/-- A run of a simulated timer, whose queue is in order and which does no work of a worker. -/
structure Orderly (run : TimerRun ℓ) : Prop where
  simulated : run.timer.style = .simulated
  timer : run.timer.Orderly
  idle : .work ∉ run.agenda

/-- A command that is done at once touches the timer, and reports nothing by itself. -/
theorem touch_answer (simulated : run.timer.style = .simulated) (command : Command ℓ) :
    run.timer.Touch (run.answer command).2.timer ∧ (run.answer command).2.notes = run.notes := by
  have reading : run.readClock = run := by rw [readClock, simulated]
  cases command with
  | schedule delay label body =>
      simp only [answer, schedule, reading]
      split <;> exact ⟨.scheduled delay _, rfl⟩
  | cancel slot =>
      rw [answer]
      split
      · exact ⟨.left, rfl⟩
      · exact ⟨.cancelled _, rfl⟩
  | isCancelled slot =>
      rw [answer]
      split <;> exact ⟨.left, rfl⟩
  | now =>
      rw [answer]
      split <;> exact ⟨.left, rfl⟩
  | shutDown =>
      refine ⟨.shutDown, ?_⟩
      simp [answer, TimerRun.shutDown, Timer.closingLine?, simulated]
  | _ => exact ⟨.left, rfl⟩

theorem aborted_answer (run : TimerRun ℓ) (command : Command ℓ) :
    (run.answer command).2.aborted = run.aborted := by
  cases command with
  | schedule delay label body =>
      simp only [answer, schedule, readClock]
      split <;> split <;> rfl
  | cancel slot =>
      rw [answer]
      split <;> rfl
  | isCancelled slot =>
      rw [answer]
      split <;> rfl
  | now =>
      rw [answer]
      split <;> rfl
  | _ => rfl

/-- A step of a simulated timer answers a command, takes an alarm off the queue, sets the clock, or
does nothing to the timer. -/
theorem Turn.timer_cases {next : TimerRun ℓ} {errand : Errand ℓ} (turn : run.Turn errand next)
    (simulated : run.timer.style = .simulated) (busy : errand ≠ .work) :
    run.timer.Touch next.timer ∨ ∃ instant, errand = .advance instant ∧
      ((∃ alarm, run.timer.takeDue instant = some (alarm, next.timer)) ∨
        run.timer.takeDue instant = none ∧ next.timer = run.timer.setClock instant) := by
  cases turn with
  | answered still => exact Or.inl (touch_answer simulated _).1
  | entered moves => exact Or.inl .left
  | dropped =>
      rw [timer_abort]
      exact Or.inl .left
  | concluded => exact Or.inl .left
  | fired due =>
      rw [timer_start]
      exact Or.inr ⟨_, rfl, Or.inl ⟨_, due⟩⟩
  | arrived none => exact Or.inr ⟨_, rfl, Or.inr ⟨none, rfl⟩⟩
  | waited first => exact absurd rfl busy
  | idled => exact absurd rfl busy

theorem Turn.work_not_mem {next : TimerRun ℓ} {errand : Errand ℓ} (turn : run.Turn errand next)
    (simulated : run.timer.style = .simulated) (busy : errand ≠ .work)
    (idle : .work ∉ run.agenda) : .work ∉ next.agenda := by
  cases turn with
  | answered still => rwa [note, (AtOnce.answer run _).agenda_eq]
  | entered moves =>
      obtain ⟨instant, rfl, _⟩ := eq_advance_of_errand? simulated moves
      simpa using idle
  | dropped => exact fun member => idle ((sublist_abort run _).subset member)
  | concluded => exact idle
  | fired due =>
      obtain ⟨commands, _, agenda_eq⟩ := agenda_start _ _
      rw [agenda_eq]
      simpa using idle
  | arrived none => exact idle
  | waited first => exact absurd rfl busy
  | idled => exact absurd rfl busy

namespace Orderly

/-- The run stays in order when its next errand, which is no work of a worker, is taken. -/
theorem of_cons (orderly : run.Orderly) {errand : Errand ℓ} {rest : List (Errand ℓ)}
    (agenda : run.agenda = errand :: rest) :
    errand ≠ .work ∧ Orderly { run with agenda := rest } := by
  have idle := orderly.idle
  rw [agenda, List.mem_cons, not_or] at idle
  exact ⟨Ne.symm idle.1, orderly.simulated, orderly.timer, idle.2⟩

theorem step (orderly : run.Orderly) : run.step.Orderly := by
  cases agenda : run.agenda with
  | nil => rwa [step_of_rest agenda]
  | cons errand rest =>
      have turn := turn_step agenda
      obtain ⟨busy, still⟩ := orderly.of_cons agenda
      constructor
      case simulated => exact turn.style_eq.trans orderly.simulated
      case idle => exact turn.work_not_mem orderly.simulated busy still.idle
      case timer =>
        rcases turn.timer_cases orderly.simulated busy with
          touch | ⟨instant, _, ⟨alarm, due⟩ | ⟨none, timer_eq⟩⟩
        · exact touch.orderly orderly.timer
        · exact (orderly.timer.takeDue due).1
        · rw [timer_eq]
          exact orderly.timer.setClock none

theorem begin (orderly : run.Orderly) (command : Command ℓ) : (run.begin command).Orderly := by
  rw [TimerRun.begin]
  split
  · have atOnce := AtOnce.answer run command
    refine ⟨atOnce.style_eq.trans orderly.simulated,
      (touch_answer orderly.simulated command).1.orderly orderly.timer, ?_⟩
    rw [atOnce.agenda_eq]
    exact orderly.idle
  · rename_i moves
    obtain ⟨instant, rfl, _⟩ := eq_advance_of_errand? orderly.simulated moves
    exact ⟨orderly.simulated, orderly.timer, by simp⟩

end Orderly

theorem Later.orderly {allowed : Command ℓ → Prop} (later : first.Later allowed last)
    (start : first.Orderly) : last.Orderly := by
  induction later with
  | here => exact start
  | step _ ih => exact ih.step
  | begin _ _ _ ih => exact ih.begin _

/-- An alarm that joins the queue in a step has a new number. -/
theorem Orderly.queue_step (orderly : run.Orderly) :
    (∀ alarm ∈ run.step.timer.queue,
      alarm ∈ run.timer.queue ∨ run.timer.nextOrder ≤ alarm.order) ∧
      run.timer.nextOrder ≤ run.step.timer.nextOrder := by
  cases agenda : run.agenda with
  | nil =>
      rw [step_of_rest agenda]
      exact ⟨fun _ => Or.inl, Nat.le_refl _⟩
  | cons errand rest =>
      obtain ⟨busy, _⟩ := orderly.of_cons agenda
      rcases (turn_step agenda).timer_cases orderly.simulated busy with
        touch | ⟨instant, _, ⟨alarm, due⟩ | ⟨none, timer_eq⟩⟩
      · exact touch.queue.2
      · obtain ⟨_, behind, queue_eq, timer_eq⟩ := Timer.eq_of_takeDue due
        rw [timer_eq]
        refine ⟨fun alarm member => Or.inl ?_, Nat.le_refl _⟩
        exact queue_eq ▸ List.mem_cons_of_mem _ member
      · rw [timer_eq]
        exact ⟨fun _ => Or.inl, Nat.le_refl _⟩

/-- An alarm that has left the queue does not come back. -/
theorem Leads.mem_queue (leads : first.Leads last) (orderly : first.Orderly)
    {alarm : Alarm (Job ℓ)} (member : alarm ∈ last.timer.queue) :
    alarm ∈ first.timer.queue ∨ first.timer.nextOrder ≤ alarm.order := by
  suffices stays : (∀ alarm ∈ last.timer.queue,
      alarm ∈ first.timer.queue ∨ first.timer.nextOrder ≤ alarm.order) ∧
      first.timer.nextOrder ≤ last.timer.nextOrder from stays.1 alarm member
  clear member
  induction leads with
  | here => exact ⟨fun _ => Or.inl, Nat.le_refl _⟩
  | begin _ _ may => exact may.elim
  | @step moment leads ih =>
      obtain ⟨joined, larger⟩ := (Later.orderly leads orderly).queue_step
      refine ⟨fun alarm member => ?_, Nat.le_trans ih.2 larger⟩
      rcases joined alarm member with before | new
      · exact ih.1 alarm before
      · exact Or.inr (Nat.le_trans ih.2 new)

/-! ## Alarms over time -/

/-- A run leads to what its next step leads to, besides itself. -/
theorem leads_iff : first.Leads last ↔ last = first ∨ first.step.Leads last := by
  constructor
  · intro leads
    induction leads with
    | here => exact Or.inl rfl
    | begin _ _ may => exact may.elim
    | step _ ih =>
        rcases ih with rfl | later
        · exact Or.inr .here
        · exact Or.inr later.step
  · rintro (rfl | later)
    · exact .here
    · exact later.of_step

theorem Leads.eq_of_rest (leads : first.Leads last) (rest : first.agenda = []) : last = first := by
  induction leads with
  | here => rfl
  | begin _ _ may => exact may.elim
  | step _ ih => rw [ih, step_of_rest rest]

/-- An alarm is queued at some moment to which a run leads. -/
def Queues (run : TimerRun ℓ) (alarm : Alarm (Job ℓ)) : Prop :=
  ∃ moment, run.Leads moment ∧ alarm ∈ moment.timer.queue

/-- An alarm is not cancelled while it is queued. -/
def Spares (run : TimerRun ℓ) (alarm : Alarm (Job ℓ)) : Prop :=
  ∀ moment, run.Leads moment → alarm ∈ moment.timer.queue →
    moment.timer.isCancelled alarm.token = false

/-- The timer is not shut down while an alarm is queued. -/
def Retains (run : TimerRun ℓ) (alarm : Alarm (Job ℓ)) : Prop :=
  ∀ moment, run.Leads moment → alarm ∈ moment.timer.queue →
    moment.step.timer.isShutDown = false

section Alarms

variable {alarm : Alarm (Job ℓ)}

theorem queues_iff : run.Queues alarm ↔ alarm ∈ run.timer.queue ∨ run.step.Queues alarm := by
  simp only [Queues, @leads_iff _ run, or_and_right, exists_or, exists_eq_left]

theorem spares_iff : run.Spares alarm ↔
    (alarm ∈ run.timer.queue → run.timer.isCancelled alarm.token = false) ∧
      run.step.Spares alarm := by
  simp only [Spares, @leads_iff _ run, or_imp, forall_and, forall_eq]

theorem retains_iff : run.Retains alarm ↔
    (alarm ∈ run.timer.queue → run.step.timer.isShutDown = false) ∧ run.step.Retains alarm := by
  simp only [Retains, @leads_iff _ run, or_imp, forall_and, forall_eq]

/-- An alarm that leaves the queue in a step is not queued any more. -/
theorem Orderly.not_queues (orderly : run.Orderly) (queued : alarm ∈ run.timer.queue)
    (left : alarm ∉ run.step.timer.queue) : ¬run.step.Queues alarm := by
  rintro ⟨moment, leads, member⟩
  rcases leads.mem_queue orderly.step member with before | new
  · exact left before
  · have old := orderly.timer.numbered alarm queued
    have larger := orderly.queue_step.2
    omega

end Alarms

/-! ## Tasks that come to their end -/

mutual

/-- Whether a task may perform a command without aborting, then or in a later task. -/
def neverAborts : Command ℓ → Bool
  | .schedule _ _ body => bodyNeverAborts body
  | .abort _ => false
  | _ => true

def bodyNeverAborts : List (Command ℓ) → Bool
  | [] => true
  | command :: rest => neverAborts command && bodyNeverAborts rest

end

/-- Whether a script comes to its end and leaves the clock alone, and sets only alarms whose scripts
do so, too. -/
def isMild (body : List (Command ℓ)) : Bool :=
  bodyLeavesClock body && bodyNeverAborts body

theorem isMild_cons {command : Command ℓ} {rest : List (Command ℓ)} :
    isMild (command :: rest) = true ↔
      (leavesClock command = true ∧ neverAborts command = true) ∧ isMild rest = true := by
  simp only [isMild, bodyLeavesClock, bodyNeverAborts, Bool.and_eq_true]
  exact and_and_and_comm

/-- A note reports a command of a task, and the reading of the clock if the command asks for it. -/
def Reports (reading : Duration) (command : Command ℓ) (entry : TimerNote ℓ) : Prop :=
  ∃ reply, entry = .did command reply ∧ (command = .now → reply = .instant reading)

/-- A task that was started, with the reports of the commands of its script. -/
structure Performance (ℓ : Type) where
  alarm : Alarm (Job ℓ)
  reports : List (TimerNote ℓ)

namespace Performance

/-- The notes on a task that starts at its deadline. -/
def notes (task : Performance ℓ) : List (TimerNote ℓ) :=
  .started task.alarm task.alarm.deadline :: task.reports

/-- The script was performed from its first command to its last, while the clock stood at the
deadline. -/
def IsWhole (task : Performance ℓ) : Prop :=
  List.Forall₂ (Reports task.alarm.deadline) task.alarm.task.body task.reports

end Performance

/-- An advance is under way behind what is left of the script of a task, and nothing moves the
clock or aborts. -/
structure Sweeping (instant : Duration) (script : List (Command ℓ)) (run : TimerRun ℓ) : Prop where
  orderly : run.Orderly
  mild : ∀ alarm ∈ run.timer.queue, isMild alarm.task.body = true
  mildScript : isMild script = true
  ahead : run.timer.now ≤ instant
  agenda_eq : run.agenda = script.map .perform ++ [.advance instant]
  running : run.aborted = none

namespace Sweeping

variable {instant : Duration} {script : List (Command ℓ)}

theorem not_overtaken (sweeping : run.Sweeping instant script) : ¬run.Overtaken := by
  rintro ⟨target, member, past⟩
  have same : target = instant := by simpa [sweeping.agenda_eq] using member
  exact Nat.not_lt_of_le sweeping.ahead (same ▸ past)

/-- What a command of a task does, once it is taken off the agenda: it is answered and reported. -/
theorem of_perform {next : TimerRun ℓ} {command : Command ℓ} (rested : run.Sweeping instant script)
    (leaves : leavesClock command = true) (never : neverAborts command = true)
    (turn : run.Turn (.perform command) next) :
    next.Sweeping instant script ∧ run.timer.Touch next.timer ∧
      next.timer.now = run.timer.now ∧
      ∃ entry, Reports run.timer.now command entry ∧ next.notes = entry :: run.notes := by
  obtain ⟨⟨simulated, timer, idle⟩, mild, mildScript, ahead, agenda_eq, running⟩ := rested
  cases turn with
  | entered moves =>
      rw [errand?_eq_none simulated leaves] at moves
      cases moves
  | dropped => simp [neverAborts] at never
  | answered still =>
      obtain ⟨touch, notes_eq⟩ := touch_answer simulated command
      have atOnce := AtOnce.answer run command
      have now_eq := atOnce.now_eq simulated
      refine ⟨⟨⟨atOnce.style_eq.trans simulated, touch.orderly timer, ?_⟩, ?_, mildScript, ?_,
        atOnce.agenda_eq.trans agenda_eq, (aborted_answer run command).trans running⟩, touch,
        now_eq, _, ⟨_, rfl, ?_⟩, congrArg _ notes_eq⟩
      · rwa [note, atOnce.agenda_eq]
      · intro alarm member
        rcases mem_queue_answer member with before | ⟨delay, label, body, rfl, task_eq⟩
        · exact mild alarm before
        · rw [task_eq]
          exact (Bool.and_eq_true _ _).mpr ⟨leaves, never⟩
      · exact now_eq.symm ▸ ahead
      · rintro rfl
        simp [answer, simulated]

/-- The next command of the task is answered and reported. -/
theorem perform {command : Command ℓ} (sweeping : run.Sweeping instant (command :: script)) :
    run.step.Sweeping instant script ∧ run.timer.Touch run.step.timer ∧
      run.step.timer.now = run.timer.now ∧
      ∃ entry, Reports run.timer.now command entry ∧ run.step.notes = entry :: run.notes := by
  obtain ⟨orderly, mild, mildScript, ahead, agenda_eq, running⟩ := sweeping
  obtain ⟨⟨leaves, never⟩, mildRest⟩ := isMild_cons.mp mildScript
  have rested : Sweeping instant script
      { run with agenda := script.map .perform ++ [Errand.advance instant] } :=
    ⟨⟨orderly.simulated, orderly.timer, by simp⟩, mild, mildRest, ahead, rfl, running⟩
  exact rested.of_perform leaves never (turn_step agenda_eq)

/-- An alarm that is due is taken, and its task starts at its deadline unless it is cancelled. -/
theorem fire (sweeping : run.Sweeping instant []) {alarm : Alarm (Job ℓ)} {timer : Timer (Job ℓ)}
    (due : run.timer.takeDue instant = some (alarm, timer)) :
    run.step.timer = timer ∧
      (run.timer.isCancelled alarm.token = true ∧ run.step.Sweeping instant [] ∧
          run.step.notes = run.notes ∨
        run.timer.isCancelled alarm.token = false ∧
          run.step.Sweeping instant alarm.task.body ∧
          run.step.notes = .started alarm alarm.deadline :: run.notes) := by
  obtain ⟨orderly, mild, mildScript, ahead, agenda_eq, running⟩ := sweeping
  obtain ⟨onTime, rest, queue_eq, timer_eq⟩ := Timer.eq_of_takeDue due
  obtain ⟨orderlyTimer, now_eq, _⟩ := orderly.timer.takeDue due
  have style_eq : timer.style = .simulated := by rw [timer_eq, orderly.simulated]
  have rest_eq : timer.queue = rest := by rw [timer_eq]
  have register_eq : timer.isCancelled alarm.token = run.timer.isCancelled alarm.token := by
    rw [timer_eq]
    rfl
  rw [queue_eq] at mild
  have ⟨mildFirst, mildRest⟩ := List.forall_mem_cons.mp mild
  have step_eq : run.step =
      ({ run with timer := timer, agenda := [.advance instant] } : TimerRun ℓ).start alarm := by
    simp only [TimerRun.step, agenda_eq, List.map_nil, List.nil_append, doErrand,
      TimerRun.advance, due]
  rw [step_eq, timer_start]
  refine ⟨rfl, ?_⟩
  cases cancelled : run.timer.isCancelled alarm.token with
  | true =>
      rw [start, if_pos (register_eq.trans cancelled)]
      refine Or.inl ⟨rfl, ⟨⟨style_eq, orderlyTimer, by simp⟩, ?_, rfl, ?_, rfl, running⟩, rfl⟩
      · exact rest_eq ▸ mildRest
      · exact now_eq ▸ onTime
  | false =>
      rw [start, if_neg (by rw [register_eq, cancelled]; exact Bool.false_ne_true)]
      refine Or.inr ⟨rfl, ⟨⟨style_eq, orderlyTimer, ?_⟩, ?_, mildFirst, ?_, rfl, running⟩, ?_⟩
      · simp [note]
      · exact rest_eq ▸ mildRest
      · exact now_eq ▸ onTime
      · exact congrArg (TimerNote.started alarm · :: run.notes) now_eq

/-- Where no alarm is due, the advance ends. -/
theorem arrive (sweeping : run.Sweeping instant [])
    (none : run.timer.takeDue instant = none) :
    run.step = { run with agenda := [], timer := run.timer.setClock instant } := by
  simp only [TimerRun.step, sweeping.agenda_eq, List.map_nil, List.nil_append, doErrand,
    TimerRun.advance, none]

end Sweeping

/-! ## What has become of the alarms -/

/-- What becomes of an alarm is settled by the step with which it leaves the queue. -/
theorem Orderly.fate_of_left (orderly : run.Orderly) {alarm : Alarm (Job ℓ)}
    (queued : alarm ∈ run.timer.queue) (left : alarm ∉ run.step.timer.queue) :
    run.Queues alarm ∧ ¬run.step.Queues alarm ∧
      (run.Retains alarm ↔ run.step.timer.isShutDown = false) ∧
      (run.Spares alarm ↔ run.timer.isCancelled alarm.token = false) := by
  have gone := orderly.not_queues queued left
  refine ⟨queues_iff.mpr (Or.inl queued), gone, ?_, ?_⟩
  · rw [retains_iff]
    refine ⟨fun retains => retains.1 queued, fun isOpen => ⟨fun _ => isOpen, ?_⟩⟩
    exact fun moment leads member => absurd ⟨moment, leads, member⟩ gone
  · rw [spares_iff]
    refine ⟨fun spares => spares.1 queued, fun live => ⟨fun _ => live, ?_⟩⟩
    exact fun moment leads member => absurd ⟨moment, leads, member⟩ gone

/-- What becomes of an alarm that stays in the queue is settled by the moments after the step. -/
theorem Orderly.fate_step (orderly : run.Orderly) {alarm : Alarm (Job ℓ)}
    (stays : alarm ∈ run.timer.queue →
      run.step.timer.isShutDown = true ∨ alarm ∈ run.step.timer.queue)
    (cancelled : run.timer.isCancelled alarm.token = true →
      run.step.timer.isCancelled alarm.token = true) :
    (run.Queues alarm ∧ run.Retains alarm ↔ run.step.Queues alarm ∧ run.step.Retains alarm) ∧
      (run.Queues alarm ∧ run.Retains alarm → (run.Spares alarm ↔ run.step.Spares alarm)) := by
  by_cases queued : alarm ∈ run.timer.queue
  · by_cases here : alarm ∈ run.step.timer.queue
    · have isOpen := orderly.step.timer.isOpen here
      have still : run.step.Queues alarm := ⟨run.step, .here, here⟩
      rw [queues_iff, retains_iff, spares_iff]
      refine ⟨by simp [queued, isOpen, still], fun _ => ?_⟩
      refine ⟨And.right, fun spares => ⟨fun _ => ?_, spares⟩⟩
      have spared := spares run.step .here here
      cases before : run.timer.isCancelled alarm.token with
      | false => rfl
      | true => cases (cancelled before).symm.trans spared
    · have down := (stays queued).resolve_right here
      obtain ⟨_, gone, retains, _⟩ := orderly.fate_of_left queued here
      simp [retains, down, gone]
  · rw [queues_iff, retains_iff, spares_iff]
    simp [queued]

/-- What is certain at the end of an advance to an instant that has started these tasks. -/
structure Swept (instant : Duration) (run : TimerRun ℓ) (tasks : List (Performance ℓ))
    (last : TimerRun ℓ) : Prop where
  rest : last.agenda = []
  returned : last.aborted = none
  now_eq : last.timer.now = instant
  /-- Every task was performed to its end while the clock stood at its deadline. -/
  performed : ∀ task ∈ tasks, task.IsWhole
  /-- The tasks were started in the order of their deadlines, those of one deadline in the order in
  which they were set, and each once. -/
  ordered : (tasks.map (·.alarm)).Pairwise fun first second => first.precedes second = true
  /-- The tasks are those of the alarms that were due and that were neither cancelled nor dropped
  while they were queued, whether they were set before the advance or during it. -/
  started : ∀ alarm, alarm ∈ tasks.map (·.alarm) ↔
    alarm.deadline ≤ instant ∧ (run.Queues alarm ∧ run.Retains alarm) ∧ run.Spares alarm
  /-- The alarms that are due later are still queued, unless they were dropped, and no others. -/
  queued : ∀ alarm, alarm ∈ last.timer.queue ↔
    instant < alarm.deadline ∧ run.Queues alarm ∧ run.Retains alarm

namespace Swept

variable {instant : Duration} {tasks : List (Performance ℓ)}

/-- A step that takes no alarm off the queue leaves what becomes of them as it is. -/
theorem of_step (orderly : run.Orderly)
    (stays : ∀ alarm ∈ run.timer.queue,
      run.step.timer.isShutDown = true ∨ alarm ∈ run.step.timer.queue)
    (cancelled : ∀ token, run.timer.isCancelled token = true →
      run.step.timer.isCancelled token = true)
    (swept : Swept instant run.step tasks last) : Swept instant run tasks last where
  rest := swept.rest
  returned := swept.returned
  now_eq := swept.now_eq
  performed := swept.performed
  ordered := swept.ordered
  started alarm := by
    obtain ⟨same, spared⟩ := orderly.fate_step (stays alarm) (cancelled alarm.token)
    rw [swept.started, ← same]
    exact and_congr_right fun _ => and_congr_right fun held => (spared held).symm
  queued alarm := by
    rw [swept.queued, (orderly.fate_step (stays alarm) (cancelled alarm.token)).1]

/-- Taking an alarm that is due settles what becomes of it, and of no other. -/
theorem of_fire (sweeping : run.Sweeping instant []) {first : Alarm (Job ℓ)}
    {timer : Timer (Job ℓ)} (due : run.timer.takeDue instant = some (first, timer)) :
    (∀ alarm, alarm ≠ first →
      (run.Queues alarm ∧ run.Retains alarm ↔ run.step.Queues alarm ∧ run.step.Retains alarm) ∧
        (run.Queues alarm ∧ run.Retains alarm → (run.Spares alarm ↔ run.step.Spares alarm))) ∧
      (run.Queues first ∧ run.Retains first) ∧ ¬run.step.Queues first ∧
      (run.Spares first ↔ run.timer.isCancelled first.token = false) := by
  obtain ⟨_, rest, queue_eq, timer_eq⟩ := Timer.eq_of_takeDue due
  obtain ⟨_, _, behind⟩ := sweeping.orderly.timer.takeDue due
  obtain ⟨step_eq, _⟩ := sweeping.fire due
  have queued : first ∈ run.timer.queue := queue_eq ▸ List.mem_cons_self
  have left : first ∉ run.step.timer.queue := by
    intro member
    have self := behind first (step_eq ▸ member)
    rw [Alarm.precedes_iff] at self
    omega
  have isOpen : run.step.timer.isShutDown = false := by
    rw [step_eq, timer_eq]
    exact sweeping.orderly.timer.isOpen queued
  obtain ⟨queues, gone, retains, spares⟩ := sweeping.orderly.fate_of_left queued left
  refine ⟨fun alarm other => ?_, ⟨queues, retains.mpr isOpen⟩, gone, spares⟩
  apply sweeping.orderly.fate_step
  · intro member
    rw [queue_eq, List.mem_cons] at member
    rw [step_eq, timer_eq]
    exact Or.inr (member.resolve_left other)
  · rw [step_eq, timer_eq]
    exact id

/-- A cancelled alarm is passed over. -/
theorem of_passed (sweeping : run.Sweeping instant []) {first : Alarm (Job ℓ)}
    {timer : Timer (Job ℓ)} (due : run.timer.takeDue instant = some (first, timer))
    (cancelled : run.timer.isCancelled first.token = true)
    (swept : Swept instant run.step tasks last) : Swept instant run tasks last := by
  obtain ⟨onTime, _⟩ := Timer.eq_of_takeDue due
  obtain ⟨others, _, gone, spares⟩ := of_fire sweeping due
  obtain ⟨rest, returned, now_eq, performed, ordered, started, queued⟩ := swept
  refine ⟨rest, returned, now_eq, performed, ordered, fun alarm => ?_, fun alarm => ?_⟩
  · rw [started]
    by_cases same : alarm = first
    · subst same
      simp [gone, spares, cancelled]
    · obtain ⟨held, spared⟩ := others alarm same
      rw [← held]
      exact and_congr_right fun _ => and_congr_right fun held => (spared held).symm
  · rw [queued]
    by_cases same : alarm = first
    · subst same
      have early : ¬instant < alarm.deadline := Nat.not_lt_of_le onTime
      simp [early]
    · rw [(others alarm same).1]

/-- An alarm that is taken precedes every alarm that is queued later on. -/
theorem precedes_of_queues (sweeping : run.Sweeping instant []) {first : Alarm (Job ℓ)}
    {timer : Timer (Job ℓ)} (due : run.timer.takeDue instant = some (first, timer))
    {script : List (Command ℓ)} (started : run.step.Sweeping instant script)
    {alarm : Alarm (Job ℓ)} (queues : run.step.Queues alarm) : first.precedes alarm = true := by
  obtain ⟨_, now_eq, behind⟩ := sweeping.orderly.timer.takeDue due
  obtain ⟨step_eq, _⟩ := sweeping.fire due
  obtain ⟨_, rest, queue_eq, _⟩ := Timer.eq_of_takeDue due
  obtain ⟨moment, leads, member⟩ := queues
  rcases leads.mem_queue started.orderly member with before | new
  · exact behind alarm (step_eq ▸ before)
  · have older : first.order < run.timer.nextOrder :=
      sweeping.orderly.timer.numbered first (queue_eq ▸ List.mem_cons_self)
    have larger := sweeping.orderly.queue_step.2
    have clock : run.step.timer.now ≤ moment.timer.now :=
      (Later.beyond leads (beyond_now started.not_overtaken)).now
    have ahead := (Later.orderly leads started.orderly).timer.ahead alarm member
    rw [step_eq, now_eq] at clock
    have later : first.deadline.nanos ≤ alarm.deadline.nanos := Nat.le_trans clock ahead
    rw [Alarm.precedes_iff]
    omega

/-- The task of an alarm that is not cancelled is started, before all others. -/
theorem of_started (sweeping : run.Sweeping instant []) {first : Alarm (Job ℓ)}
    {timer : Timer (Job ℓ)} (due : run.timer.takeDue instant = some (first, timer))
    (live : run.timer.isCancelled first.token = false)
    (begun : run.step.Sweeping instant first.task.body) {reports : List (TimerNote ℓ)}
    (whole : Performance.IsWhole ⟨first, reports⟩)
    (swept : Swept instant run.step tasks last) :
    Swept instant run (⟨first, reports⟩ :: tasks) last := by
  obtain ⟨onTime, _⟩ := Timer.eq_of_takeDue due
  obtain ⟨others, held, gone, spares⟩ := of_fire sweeping due
  obtain ⟨rest, returned, now_eq, performed, ordered, started, queued⟩ := swept
  refine ⟨rest, returned, now_eq, List.forall_mem_cons.mpr ⟨whole, performed⟩,
    List.pairwise_cons.mpr ⟨fun alarm member => ?_, ordered⟩, fun alarm => ?_, fun alarm => ?_⟩
  · exact precedes_of_queues sweeping due begun ((started alarm).mp member).2.1.1
  · rw [List.map_cons, List.mem_cons, started]
    by_cases same : alarm = first
    · subst same
      simp [onTime, held, spares, live]
    · obtain ⟨held, spared⟩ := others alarm same
      rw [← held, or_iff_right same]
      exact and_congr_right fun _ => and_congr_right fun held => (spared held).symm
  · rw [queued]
    by_cases same : alarm = first
    · subst same
      have early : ¬instant < alarm.deadline := Nat.not_lt_of_le onTime
      simp [early]
    · rw [(others alarm same).1]

/-- At rest, every alarm has its fate. -/
theorem of_rest (orderly : run.Orderly) (rest : run.agenda = []) (returned : run.aborted = none)
    (now_eq : run.timer.now = instant)
    (later : ∀ alarm ∈ run.timer.queue, instant < alarm.deadline) :
    Swept instant run [] run := by
  have queues : ∀ alarm, run.Queues alarm ↔ alarm ∈ run.timer.queue := by
    intro alarm
    refine ⟨?_, fun member => ⟨run, .here, member⟩⟩
    rintro ⟨moment, leads, member⟩
    rwa [leads.eq_of_rest rest] at member
  have retains : ∀ alarm ∈ run.timer.queue, run.Retains alarm := by
    intro alarm member moment leads _
    rw [leads.eq_of_rest rest, step_of_rest rest]
    exact orderly.timer.isOpen member
  refine ⟨rest, returned, now_eq, nofun, .nil, fun alarm => ?_, fun alarm => ?_⟩
  · refine ⟨nofun, ?_⟩
    rintro ⟨due, ⟨member, _⟩, _⟩
    exact absurd (later alarm ((queues alarm).mp member)) (Nat.not_lt_of_le due)
  · rw [queues]
    exact ⟨fun member => ⟨later alarm member, member, retains alarm member⟩, fun fate => fate.2.1⟩

/-- Where no alarm is due, the advance ends, and every alarm stays queued. -/
theorem of_arrived (sweeping : run.Sweeping instant [])
    (none : run.timer.takeDue instant = none) : Swept instant run [] run.step := by
  have arrived := sweeping.arrive none
  refine of_step sweeping.orderly ?_ ?_ (of_rest sweeping.orderly.step ?_ ?_ ?_ ?_)
  all_goals rw [arrived]
  · exact fun alarm => Or.inr
  · exact fun token => id
  · exact sweeping.running
  · rfl
  · exact sweeping.orderly.timer.lt_of_takeDue none

end Swept

/-- An advance that is under way comes to its end. What is left of the script of a task is performed
before the advance starts the next one. -/
theorem Sweeping.exists_swept {instant : Duration} {script : List (Command ℓ)}
    (sweeping : run.Sweeping instant script) :
    ∃ reports tasks last, run.Leads last ∧
      List.Forall₂ (Reports run.timer.now) script reports ∧
      last.notes.reverse = run.notes.reverse ++ reports ++ tasks.flatMap Performance.notes ∧
      Swept instant run tasks last := by
  fun_induction settle run generalizing script with
  | case2 run idle =>
      have empty : run.agenda = [] := Decidable.not_not.mp idle
      rw [sweeping.agenda_eq] at empty
      simp at empty
  | case1 run busy ih =>
      cases script with
      | cons command script =>
          obtain ⟨next, touch, now_eq, entry, reported, notes_eq⟩ := sweeping.perform
          obtain ⟨reports, tasks, last, leads, whole, later, swept⟩ := ih next
          refine ⟨entry :: reports, tasks, last, leads.of_step, .cons reported (now_eq ▸ whole), ?_,
            swept.of_step sweeping.orderly ?_ fun _ => touch.isCancelled⟩
          · simp [later, notes_eq]
          · rcases touch.queue.1 with down | stays
            · exact fun _ _ => Or.inl down
            · exact fun alarm member => Or.inr (stays alarm member)
      | nil =>
          cases due : run.timer.takeDue instant with
          | none =>
              refine ⟨[], [], run.step, .step .here, .nil, ?_, .of_arrived sweeping due⟩
              rw [sweeping.arrive due]
              simp
          | some taken =>
              obtain ⟨alarm, timer⟩ := taken
              obtain ⟨step_eq, ⟨cancelled, next, notes_eq⟩ | ⟨live, next, notes_eq⟩⟩ :=
                sweeping.fire due
              · obtain ⟨reports, tasks, last, leads, whole, later, swept⟩ := ih next
                cases whole
                refine ⟨[], tasks, last, leads.of_step, .nil, ?_,
                  .of_passed sweeping due cancelled swept⟩
                rw [later, notes_eq]
              · obtain ⟨reports, tasks, last, leads, whole, later, swept⟩ := ih next
                obtain ⟨_, now_eq, _⟩ := sweeping.orderly.timer.takeDue due
                rw [step_eq, now_eq] at whole
                refine ⟨[], ⟨alarm, reports⟩ :: tasks, last, leads.of_step, .nil, ?_,
                  .of_started sweeping due live next whole swept⟩
                simp [later, notes_eq, Performance.notes]

/-! ## An advance from outside -/

/-- The instant to which a command advances a simulated clock. -/
def target? (run : TimerRun ℓ) : Command ℓ → Option Duration
  | .advance span => some (run.timer.now + span)
  | .advanceTo instant => some (max run.timer.now instant)
  | _ => none

theorem errand?_of_target? (simulated : run.timer.style = .simulated) {command : Command ℓ}
    {instant : Duration} (target : run.target? command = some instant) :
    run.errand? command = some (.advance instant) := by
  cases command with
  | advance span =>
      cases target
      simp only [errand?, simulated]
  | advanceTo wanted =>
      cases target
      simp only [errand?, simulated]
      have same : run.timer.now + (wanted - run.timer.now) = max run.timer.now wanted := by
        have bound := run.timer.now.nanos_le
        have boundWanted := wanted.nanos_le
        ext
        simp only [Duration.nanos_add, Duration.nanos_sub, Duration.nanos_max]
        omega
      rw [same]
  | _ => cases target

/-- What an advance to an instant does that starts these tasks. -/
structure Advances (command : Command ℓ) (instant : Duration) (run : TimerRun ℓ)
    (tasks : List (Performance ℓ)) (last : TimerRun ℓ) : Prop where
  /-- The advance returns. -/
  answered : run.submit command = (.nothing, last)
  /-- Every task is performed to its end before the next one starts. -/
  notes_eq : last.notes.reverse = run.notes.reverse ++ tasks.flatMap Performance.notes
  swept : Swept instant (run.begin command) tasks last
  /-- The numbers of the alarms follow the order in which they were set. -/
  numbered : ∀ moment next, (run.begin command).Leads moment → moment.Leads next →
    ∀ earlier ∈ moment.timer.queue, ∀ later ∈ next.timer.queue, later ∉ moment.timer.queue →
      earlier.order < later.order

/-- An advance of a simulated timer starts the tasks that are due, in order and completely. It may
be called at any moment, so whatever waits on the agenda is left out of account. -/
theorem Later.advances {allowed : Command ℓ → Prop} {moment : TimerRun ℓ}
    (reached : (opening .simulated).Later allowed moment)
    (mild : ∀ alarm ∈ moment.timer.queue, isMild alarm.task.body = true)
    {command : Command ℓ} {instant : Duration} (target : moment.target? command = some instant) :
    ∃ tasks last, Advances command instant { moment with agenda := [] } tasks last := by
  have orderly := reached.orderly ⟨rfl, .opening _, nofun⟩
  have moves : errand? { moment with agenda := [] } command = some (.advance instant) :=
    errand?_of_target? orderly.simulated target
  have begun : Sweeping instant [] (TimerRun.begin { moment with agenda := [] } command) := by
    rw [TimerRun.begin, moves]
    exact ⟨⟨orderly.simulated, orderly.timer, by simp⟩, mild, rfl, le_of_errand? moves, rfl, rfl⟩
  have notes_eq : (TimerRun.begin { moment with agenda := [] } command).notes = moment.notes := by
    rw [TimerRun.begin, moves]
  obtain ⟨reports, tasks, last, leads, whole, later, swept⟩ := begun.exists_swept
  cases whole
  refine ⟨tasks, last, ?_, ?_, swept, ?_⟩
  · rw [submit_of_leads moves leads swept.rest, swept.returned]
    rfl
  · rw [later, notes_eq, List.append_nil]
  · intro first next leadsFirst leadsNext earlier member later joined left
    have orderlyFirst := Later.orderly leadsFirst begun.orderly
    have old := orderlyFirst.timer.numbered earlier member
    have new := (leadsNext.mem_queue orderlyFirst joined).resolve_left left
    omega

/-- The first task sets an alarm that is due at once and one for later, and cancels an older one;
the last task shuts the timer down while an alarm of the same deadline is queued. -/
theorem advances_of_shutDown_in_task :
    ∃ (run last : TimerRun String) (tasks : List (Performance String)),
      (opening .simulated).Later (fun _ => True) run ∧ run.timer.queue.length = 4 ∧
        Advances (.advance (.ofMillis 30)) (.ofMillis 30) run tasks last := by
  have start : (opening .simulated).Later (fun _ : Command String => True) (opening .simulated) :=
    .here
  have set := @Later.begin _ _ _ _ (.schedule (.ofMillis 10) "first"
    [.schedule .zero "at once" [.now], .cancel 1, .schedule (.ofMillis 5) "later" []])
    start rfl trivial
  have setNext := @Later.begin _ _ _ _ (.schedule (.ofMillis 15) "cancelled" []) set rfl trivial
  have setLast := @Later.begin _ _ _ _ (.schedule (.ofMillis 20) "last" [.shutDown]) setNext rfl
    trivial
  have reached := @Later.begin _ _ _ _ (.schedule (.ofMillis 20) "dropped" []) setLast rfl trivial
  obtain ⟨tasks, last, advances⟩ := reached.advances (by decide)
    (show target? _ (.advance (.ofMillis 30)) = some (.ofMillis 30) from rfl)
  exact ⟨_, last, tasks, reached, rfl, advances⟩

end TimerRun

end TimedBatch
