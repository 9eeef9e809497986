import TimedBatch.Proofs.Alarms
import TimedBatch.Timer.Settle

/-!
# The clock of a simulated timer

A task that moves the clock itself opens an advance inside of the advance that started it. Where
the inner one has the later target, the outer one is overtaken: it ends by setting the clock to its
own target, and so the clock runs back. Nothing else sets the clock back. Commands from outside
find every advance ended, and tasks that leave the clock alone overtake nothing.
-/

namespace TimedBatch

/-! ## Timers -/

namespace Timer

variable {β : Type} (timer : Timer β)

@[simp]
theorem style_schedule (delay : Duration) (task : β) :
    (timer.schedule delay task).2.style = timer.style := by
  unfold schedule
  split
  · rfl
  · split <;> rfl

/-- Waiting for the first alarm takes it off the queue, and the clock moves on. -/
theorem of_awaitFirst {timer next : Timer β} {lag : Duration} {alarm : Alarm β}
    (first : timer.awaitFirst lag = some (alarm, next)) :
    timer.now ≤ next.now ∧ next.style = timer.style ∧ timer.queue = alarm :: next.queue := by
  have bound := timer.now.nanos_le
  unfold awaitFirst at first
  split at first
  · cases first
  · rename_i queue_eq
    cases first
    refine ⟨?_, rfl, queue_eq⟩
    simp only [Duration.le_def, Duration.nanos_max, Duration.nanos_add]
    omega

/-- An alarm joins the queue when it is set, and no other does. -/
theorem mem_queue_schedule {delay : Duration} {task : β} {alarm : Alarm β}
    (member : alarm ∈ (timer.schedule delay task).2.queue) :
    alarm ∈ timer.queue ∨ alarm.task = task := by
  unfold schedule at member
  split at member
  · exact Or.inl member
  · split at member
    · exact Or.inl member
    · rcases Alarm.mem_insert.mp member with rfl | member
      · exact Or.inr rfl
      · exact Or.inl member

end Timer

namespace TimerRun

variable {ℓ : Type}

/-! ## Moments of a run -/

/-- Begin a command from outside. A command that moves the clock is left on the agenda. -/
def begin (run : TimerRun ℓ) (command : Command ℓ) : TimerRun ℓ :=
  match run.errand? command with
  | none => (run.answer command).2
  | some errand => { run with agenda := [errand], aborted := none }

/-- A moment comes later in a run if errands lead to it and, whenever none is left, commands from
outside. Only some commands may be allowed. -/
inductive Later (allowed : Command ℓ → Prop) (first : TimerRun ℓ) : TimerRun ℓ → Prop where
  | here : Later allowed first first
  | step {last : TimerRun ℓ} (earlier : Later allowed first last) : Later allowed first last.step
  | begin {last : TimerRun ℓ} {command : Command ℓ} (earlier : Later allowed first last)
      (rest : last.agenda = []) (may : allowed command) : Later allowed first (last.begin command)

/-- One moment leads to another if errands alone do. -/
def Leads (first last : TimerRun ℓ) : Prop :=
  first.Later (fun _ => False) last

namespace Later

variable {allowed : Command ℓ → Prop} {first middle last : TimerRun ℓ}

theorem trans (earlier : first.Later allowed middle) (later : middle.Later allowed last) :
    first.Later allowed last := by
  induction later with
  | here => exact earlier
  | step _ ih => exact ih.step
  | begin _ rest may ih => exact ih.begin rest may

theorem settle (earlier : first.Later allowed last) : first.Later allowed last.settle := by
  fun_induction TimerRun.settle last with
  | case1 last busy ih => exact ih earlier.step
  | case2 last idle => exact earlier

end Later

theorem Leads.of_step {first last : TimerRun ℓ} (leads : first.step.Leads last) :
    first.Leads last :=
  Later.trans (.step .here) leads

theorem step_of_rest {run : TimerRun ℓ} (rest : run.agenda = []) : run.step = run := by
  rw [step, rest]

theorem settle_of_rest {run : TimerRun ℓ} (rest : run.agenda = []) : run.settle = run := by
  rw [settle, dif_neg (not_not_intro rest)]

theorem settle_step (run : TimerRun ℓ) : run.step.settle = run.settle := by
  by_cases rest : run.agenda = []
  · rw [step_of_rest rest]
  · symm
    rw [settle, dif_pos rest]

/-- A run settles at the first moment to which it leads without an errand left. -/
theorem Leads.settle_eq {first last : TimerRun ℓ} (leads : first.Leads last)
    (rest : last.agenda = []) : first.settle = last := by
  rw [← settle_of_rest rest]
  clear rest
  induction leads with
  | here => rfl
  | step _ ih => rw [ih, settle_step]
  | begin _ _ may => exact may.elim

/-- What a command answers that moves the clock: it returns unless a task aborts. -/
theorem submit_of_leads {run last : TimerRun ℓ} {command : Command ℓ} {errand : Errand ℓ}
    (moves : run.errand? command = some errand) (leads : (run.begin command).Leads last)
    (rest : last.agenda = []) :
    run.submit command = (last.aborted.elim .nothing .aborted, last) := by
  rw [begin, moves] at leads
  rw [submit, moves]
  simp only [leads.settle_eq rest]
  cases aborted : last.aborted <;> rfl

/-! ## What a step does -/

/-- What an errand can do to a run once it is taken off the agenda. -/
inductive Turn (run : TimerRun ℓ) : Errand ℓ → TimerRun ℓ → Prop where
  | answered {command : Command ℓ} (still : run.errand? command = none) :
      Turn run (.perform command)
        ((run.answer command).2.note (.did command (run.answer command).1))
  | entered {command : Command ℓ} {errand : Errand ℓ} (moves : run.errand? command = some errand) :
      Turn run (.perform command) { run with agenda := errand :: .conclude command :: run.agenda }
  | dropped {message : String} : Turn run (.perform (.abort message)) (run.abort message)
  | concluded {command : Command ℓ} :
      Turn run (.conclude command) (run.note (.did command .nothing))
  /-- An alarm is due: its task starts, and the advance waits behind it. -/
  | fired {instant : Duration} {alarm : Alarm (Job ℓ)} {timer : Timer (Job ℓ)}
      (due : run.timer.takeDue instant = some (alarm, timer)) :
      Turn run (.advance instant)
        ({ run with timer := timer, agenda := .advance instant :: run.agenda }.start alarm)
  /-- Nothing is due any more, and the advance ends. -/
  | arrived {instant : Duration} (none : run.timer.takeDue instant = none) :
      Turn run (.advance instant) { run with timer := run.timer.setClock instant }
  | waited {alarm : Alarm (Job ℓ)} {timer : Timer (Job ℓ)}
      (first : run.timer.awaitFirst (run.lags run.readings) = some (alarm, timer)) :
      Turn run .work
        ({ run with
            timer := timer
            readings := run.readings + 1
            agenda := .work :: run.agenda }.start alarm)
  | idled : Turn run .work run

/-- Only the command to abort answers that it aborted, and it does nothing else. -/
theorem eq_of_answer_aborted {run next : TimerRun ℓ} {command : Command ℓ} {message : String}
    (aborted : run.answer command = (.aborted message, next)) :
    command = .abort message ∧ next = run := by
  cases command with
  | abort message =>
      cases aborted
      exact ⟨rfl, rfl⟩
  | schedule delay label body =>
      simp only [answer, schedule] at aborted
      split at aborted <;> cases aborted
  | cancel slot =>
      rw [answer] at aborted
      split at aborted <;> cases aborted
  | isCancelled slot =>
      rw [answer] at aborted
      split at aborted <;> cases aborted
  | now =>
      rw [answer] at aborted
      split at aborted <;> cases aborted
  | _ => cases aborted

theorem turn_doErrand (run : TimerRun ℓ) (errand : Errand ℓ) :
    run.Turn errand (run.doErrand errand) := by
  cases errand with
  | perform command =>
      rw [doErrand, perform]
      split
      · rename_i moves
        exact .entered moves
      · rename_i still
        split
        · rename_i aborted
          obtain ⟨rfl, rfl⟩ := eq_of_answer_aborted aborted
          exact .dropped
        · rename_i answered
          have turn := Turn.answered still
          rwa [answered] at turn
  | conclude command => exact .concluded
  | advance instant =>
      rw [doErrand, advance]
      split
      · rename_i none
        exact .arrived none
      · rename_i due
        exact .fired due
  | work =>
      rw [doErrand, work]
      split
      · split
        · exact .idled
        · rename_i first
          exact .waited first
      · exact .idled

theorem turn_step {run : TimerRun ℓ} {errand : Errand ℓ} {rest : List (Errand ℓ)}
    (agenda : run.agenda = errand :: rest) :
    Turn { run with agenda := rest } errand run.step := by
  rw [step, agenda]
  exact turn_doErrand _ errand

/-! ## Commands that are done at once -/

/-- What is done at once leaves the agenda as it was, and moves the clock of a worker only. -/
structure AtOnce (run next : TimerRun ℓ) : Prop where
  agenda_eq : next.agenda = run.agenda
  style_eq : next.timer.style = run.timer.style
  le_now : run.timer.now ≤ next.timer.now
  now_eq : run.timer.style = .simulated → next.timer.now = run.timer.now

theorem AtOnce.refl (run : TimerRun ℓ) : AtOnce run run :=
  ⟨rfl, rfl, Nat.le_refl _, fun _ => rfl⟩

theorem AtOnce.readClock (run : TimerRun ℓ) : AtOnce run run.readClock := by
  unfold TimerRun.readClock
  split
  · exact .refl run
  · rename_i style
    refine ⟨rfl, rfl, ?_, fun simulated => ?_⟩
    · have bound := run.timer.now.nanos_le
      simp only [Timer.setClock, Duration.le_def, Duration.nanos_add]
      omega
    · cases style.symm.trans simulated

section Schedule

variable (run : TimerRun ℓ) (job : Job ℓ)

theorem timer_schedule :
    (run.schedule job).2.timer = (run.readClock.timer.schedule job.delay job).2 := by
  simp only [schedule]
  split <;> rfl

theorem agenda_schedule : (run.schedule job).2.agenda = run.readClock.agenda := by
  simp only [schedule]
  split <;> rfl

end Schedule

theorem AtOnce.schedule (run : TimerRun ℓ) (job : Job ℓ) : AtOnce run (run.schedule job).2 := by
  obtain ⟨agenda_eq, style_eq, le_now, now_eq⟩ := AtOnce.readClock run
  constructor
  case agenda_eq => rw [agenda_schedule, agenda_eq]
  case style_eq => rw [timer_schedule, Timer.style_schedule, style_eq]
  case le_now => rwa [timer_schedule, Timer.now_schedule]
  case now_eq =>
    intro simulated
    rw [timer_schedule, Timer.now_schedule, now_eq simulated]

theorem AtOnce.answer (run : TimerRun ℓ) (command : Command ℓ) :
    AtOnce run (run.answer command).2 := by
  cases command with
  | schedule delay label body => exact .schedule run ⟨delay, label, body⟩
  | cancel slot =>
      rw [TimerRun.answer]
      split
      · exact .refl run
      · exact ⟨rfl, rfl, Nat.le_refl _, fun _ => rfl⟩
  | isCancelled slot =>
      rw [TimerRun.answer]
      split <;> exact .refl run
  | now =>
      rw [TimerRun.answer]
      split <;> exact .refl run
  | forget slot => exact ⟨rfl, rfl, Nat.le_refl _, fun _ => rfl⟩
  | shutDown => exact ⟨rfl, rfl, Nat.le_refl _, fun _ => rfl⟩
  | _ => exact .refl run

/-- A command from outside is begun, and then what it leaves on the agenda is done. -/
theorem submit_eq_settle {run : TimerRun ℓ} (rest : run.agenda = []) (command : Command ℓ) :
    (run.submit command).2 = (run.begin command).settle := by
  cases moves : run.errand? command with
  | none =>
      rw [submit, begin, moves]
      exact (settle_of_rest ((AtOnce.answer run command).agenda_eq.trans rest)).symm
  | some errand => rw [submit_of_leads moves (Later.settle .here) (agenda_settle _)]

theorem Later.submit {allowed : Command ℓ → Prop} {first last : TimerRun ℓ}
    (earlier : first.Later allowed last) (rest : last.agenda = []) {command : Command ℓ}
    (may : allowed command) : first.Later allowed (last.submit command).2 := by
  rw [submit_eq_settle rest]
  exact (earlier.begin rest may).settle

/-! ## Errands that take time -/

theorem sublist_catchers (agenda : List (Errand ℓ)) : (catchers agenda).Sublist agenda := by
  induction agenda with
  | nil => exact .refl _
  | cons errand rest ih =>
      cases errand with
      | work => exact .refl _
      | perform command => exact ih.cons _
      | conclude command => exact ih.cons _
      | advance instant => exact ih.cons _

section Abort

variable (run : TimerRun ℓ) (message : String)

theorem timer_abort : (run.abort message).timer = run.timer := by
  unfold abort
  split <;> rfl

theorem sublist_abort : (run.abort message).agenda.Sublist run.agenda := by
  unfold abort
  split
  · exact List.nil_sublist _
  · exact sublist_catchers run.agenda

end Abort

/-- A command that moves the simulated clock moves it to an instant that is not over yet. -/
theorem le_of_errand? {run : TimerRun ℓ} {command : Command ℓ} {instant : Duration}
    (moves : run.errand? command = some (.advance instant)) : run.timer.now ≤ instant := by
  have bound := run.timer.now.nanos_le
  unfold errand? at moves
  split at moves <;> cases moves <;> simp only [Duration.le_def, Duration.nanos_add] <;> omega

theorem eq_advance_of_errand? {run : TimerRun ℓ} (simulated : run.timer.style = .simulated)
    {command : Command ℓ} {errand : Errand ℓ} (moves : run.errand? command = some errand) :
    ∃ instant, errand = .advance instant ∧ run.timer.now ≤ instant := by
  have target := moves
  unfold errand? at target
  split at target
  · cases target
    exact ⟨_, rfl, le_of_errand? moves⟩
  · cases target
    exact ⟨_, rfl, le_of_errand? moves⟩
  · rename_i style
    cases style.symm.trans simulated
  · cases target

section Start

variable (run : TimerRun ℓ) (alarm : Alarm (Job ℓ))

@[simp]
theorem timer_start : (run.start alarm).timer = run.timer := by
  unfold start
  split <;> rfl

/-- The commands of a task are put in front of the agenda, unless its alarm is cancelled. -/
theorem agenda_start :
    ∃ commands : List (Command ℓ), (commands = [] ∨ commands = alarm.task.body) ∧
      (run.start alarm).agenda = commands.map .perform ++ run.agenda := by
  unfold start
  split
  · exact ⟨[], Or.inl rfl, rfl⟩
  · exact ⟨alarm.task.body, Or.inr rfl, rfl⟩

theorem advance_mem_start {instant : Duration} :
    .advance instant ∈ (run.start alarm).agenda ↔ .advance instant ∈ run.agenda := by
  obtain ⟨commands, _, agenda_eq⟩ := agenda_start run alarm
  simp [agenda_eq]

end Start

/-! ## The clock in a step -/

namespace Turn

variable {run next : TimerRun ℓ} {errand : Errand ℓ}

theorem style_eq (turn : run.Turn errand next) : next.timer.style = run.timer.style := by
  cases turn with
  | answered still => exact (AtOnce.answer run _).style_eq
  | entered moves => rfl
  | dropped => exact congrArg Timer.style (timer_abort run _)
  | concluded => rfl
  | fired due =>
      obtain ⟨_, _, _, rfl⟩ := Timer.eq_of_takeDue due
      rw [timer_start]
  | arrived none => rfl
  | waited first => rw [timer_start, (Timer.of_awaitFirst first).2.1]
  | idled => rfl

/-- The clock moves on, or an advance ends and sets it. -/
theorem le_now (turn : run.Turn errand next) :
    run.timer.now ≤ next.timer.now ∨ ∃ instant, errand = .advance instant ∧
      run.timer.takeDue instant = none ∧ next.timer.now = instant := by
  cases turn with
  | answered still => exact Or.inl (AtOnce.answer run _).le_now
  | entered moves => exact Or.inl (Nat.le_refl _)
  | dropped => exact Or.inl (Nat.le_of_eq (congrArg (·.now.nanos) (timer_abort run _).symm))
  | concluded => exact Or.inl (Nat.le_refl _)
  | fired due =>
      obtain ⟨_, _, _, rfl⟩ := Timer.eq_of_takeDue due
      left
      rw [timer_start, Duration.le_def, Duration.nanos_max]
      exact Nat.le_max_left _ _
  | arrived none => exact Or.inr ⟨_, rfl, none, rfl⟩
  | waited first =>
      left
      rw [timer_start]
      exact (Timer.of_awaitFirst first).1
  | idled => exact Or.inl (Nat.le_refl _)

/-- An advance that is under way after a step was before, or has just begun. -/
theorem mem_agenda (turn : run.Turn errand next) {instant : Duration}
    (member : .advance instant ∈ next.agenda) :
    errand = .advance instant ∨ .advance instant ∈ run.agenda ∨ run.timer.now ≤ instant := by
  cases turn with
  | answered still =>
      rw [note, (AtOnce.answer run _).agenda_eq] at member
      exact Or.inr (Or.inl member)
  | entered moves =>
      simp only [List.mem_cons, reduceCtorEq, false_or] at member
      rcases member with rfl | member
      · exact Or.inr (Or.inr (le_of_errand? moves))
      · exact Or.inr (Or.inl member)
  | dropped => exact Or.inr (Or.inl ((sublist_abort run _).subset member))
  | concluded => exact Or.inr (Or.inl member)
  | fired due =>
      rcases List.mem_cons.mp ((advance_mem_start _ _).mp member) with same | member
      · cases same
        exact Or.inl rfl
      · exact Or.inr (Or.inl member)
  | arrived none => exact Or.inr (Or.inl member)
  | waited first =>
      rcases List.mem_cons.mp ((advance_mem_start _ _).mp member) with same | member
      · cases same
      · exact Or.inr (Or.inl member)
  | idled => exact Or.inr (Or.inl member)

/-- A step of a simulated timer leaves what waits behind its errand, unless a task aborts. -/
theorem agenda_eq (turn : run.Turn errand next) (simulated : run.timer.style = .simulated) :
    (∃ above, next.agenda = above ++ run.agenda) ∨ next.agenda = [] ∧ next.aborted ≠ none := by
  cases turn with
  | answered still => exact Or.inl ⟨[], (AtOnce.answer run _).agenda_eq⟩
  | entered moves => exact Or.inl ⟨[_, _], rfl⟩
  | dropped => exact Or.inr (by simp [abort, simulated])
  | concluded => exact Or.inl ⟨[], rfl⟩
  | fired due =>
      obtain ⟨commands, _, agenda_eq⟩ := agenda_start _ _
      exact Or.inl ⟨_, agenda_eq.trans (List.append_cons _ _ _)⟩
  | arrived none => exact Or.inl ⟨[], rfl⟩
  | waited first =>
      obtain ⟨commands, _, agenda_eq⟩ := agenda_start _ _
      exact Or.inl ⟨_, agenda_eq.trans (List.append_cons _ _ _)⟩
  | idled => exact Or.inl ⟨[], rfl⟩

end Turn

/-! ## Overtaken advances -/

/-- An advance that is under way is overtaken if the clock stands beyond its target. -/
def Overtaken (run : TimerRun ℓ) : Prop :=
  ∃ instant, .advance instant ∈ run.agenda ∧ instant < run.timer.now

/-- The clock and every advance that is under way stand at an instant or beyond it. -/
structure Beyond (instant : Duration) (run : TimerRun ℓ) : Prop where
  now : instant ≤ run.timer.now
  target : ∀ target, .advance target ∈ run.agenda → instant ≤ target

theorem beyond_now {run : TimerRun ℓ} (ahead : ¬run.Overtaken) : run.Beyond run.timer.now :=
  ⟨Nat.le_refl _, fun _ member => Nat.le_of_not_lt fun past => ahead ⟨_, member, past⟩⟩

theorem not_overtaken_of_rest {run : TimerRun ℓ} (rest : run.agenda = []) : ¬run.Overtaken := by
  rintro ⟨instant, member, _⟩
  rw [rest] at member
  cases member

namespace Beyond

variable {instant : Duration} {run : TimerRun ℓ}

theorem step (beyond : run.Beyond instant) : run.step.Beyond instant := by
  cases agenda : run.agenda with
  | nil => rwa [step_of_rest agenda]
  | cons errand rest =>
      have turn := turn_step agenda
      constructor
      case now =>
        rcases turn.le_now with later | ⟨target, rfl, _, now_eq⟩
        · exact Nat.le_trans beyond.now later
        · rw [now_eq]
          exact beyond.target target (agenda ▸ List.mem_cons_self)
      case target =>
        intro target member
        rcases turn.mem_agenda member with rfl | behind | later
        · exact beyond.target target (agenda ▸ List.mem_cons_self)
        · exact beyond.target target (agenda ▸ List.mem_cons_of_mem errand behind)
        · exact Nat.le_trans beyond.now later

theorem begin (beyond : run.Beyond instant) (command : Command ℓ) :
    (run.begin command).Beyond instant := by
  rw [TimerRun.begin]
  split
  · have atOnce := AtOnce.answer run command
    refine ⟨Nat.le_trans beyond.now atOnce.le_now, ?_⟩
    rw [atOnce.agenda_eq]
    exact beyond.target
  · rename_i moves
    refine ⟨beyond.now, fun target member => ?_⟩
    cases List.mem_singleton.mp member
    exact Nat.le_trans beyond.now (le_of_errand? moves)

end Beyond

namespace Later

variable {allowed : Command ℓ → Prop} {first last : TimerRun ℓ}

theorem beyond (later : first.Later allowed last) {instant : Duration}
    (start : first.Beyond instant) : last.Beyond instant := by
  induction later with
  | here => exact start
  | step _ ih => exact ih.step
  | begin _ _ _ ih => exact ih.begin _

theorem style_eq (later : first.Later allowed last) :
    last.timer.style = first.timer.style := by
  induction later with
  | here => rfl
  | @step last _ ih =>
      cases agenda : last.agenda with
      | nil => rwa [step_of_rest agenda]
      | cons errand rest => exact (turn_step agenda).style_eq.trans ih
  | @begin last command _ _ _ ih =>
      rw [TimerRun.begin]
      split
      · exact (AtOnce.answer last command).style_eq.trans ih
      · exact ih

end Later

/-- A command from outside does not set the clock back. -/
theorem le_now_submit {run : TimerRun ℓ} (rest : run.agenda = []) (command : Command ℓ) :
    run.timer.now ≤ (run.submit command).2.timer.now := by
  have later : run.Later (fun _ => True) (run.submit command).2 := .submit .here rest trivial
  exact (later.beyond (beyond_now (not_overtaken_of_rest rest))).now

/-- The clock runs back where an overtaken advance ends, and nowhere else. -/
theorem now_step_lt_iff (run : TimerRun ℓ) :
    run.step.timer.now < run.timer.now ↔ ∃ instant rest, run.agenda = .advance instant :: rest ∧
      run.timer.takeDue instant = none ∧ instant < run.timer.now := by
  constructor
  · intro back
    cases agenda : run.agenda with
    | nil =>
        rw [step_of_rest agenda] at back
        exact absurd back (Nat.lt_irrefl _)
    | cons errand rest =>
        rcases (turn_step agenda).le_now with later | ⟨instant, rfl, none, now_eq⟩
        · exact absurd back (Nat.not_lt_of_le later)
        · exact ⟨instant, rest, rfl, none, now_eq ▸ back⟩
  · rintro ⟨instant, rest, agenda, none, back⟩
    have now_eq : run.step.timer.now = instant := by
      simp only [TimerRun.step, agenda, doErrand, advance, none, Timer.setClock]
    rwa [now_eq]

/-- An advance that is under way ends at its target, unless a task aborts before. -/
theorem exists_end (run : TimerRun ℓ) (simulated : run.timer.style = .simulated)
    {above rest : List (Errand ℓ)} {instant : Duration}
    (agenda : run.agenda = above ++ .advance instant :: rest) :
    ∃ last, run.Leads last ∧ (last.agenda = rest ∧ last.timer.now = instant ∨
      last.agenda = [] ∧ last.aborted ≠ none) := by
  fun_induction settle run generalizing above with
  | case2 run idle =>
      have empty : run.agenda = [] := Decidable.not_not.mp idle
      rw [agenda] at empty
      simp at empty
  | case1 run busy ih =>
      have leadsStep : run.Leads run.step := .step .here
      have simulatedStep := leadsStep.style_eq.trans simulated
      cases above with
      | cons errand above =>
          rcases (turn_step agenda).agenda_eq simulated with ⟨front, stepped⟩ | aborted
          · obtain ⟨last, leads, ends⟩ :=
              ih simulatedStep (stepped.trans (List.append_assoc front above _).symm)
            exact ⟨last, leads.of_step, ends⟩
          · exact ⟨run.step, leadsStep, Or.inr aborted⟩
      | nil =>
          have turn := turn_step agenda
          generalize run.step = next at ih leadsStep simulatedStep turn
          cases turn with
          | fired due =>
              obtain ⟨commands, _, agenda_eq⟩ := agenda_start _ _
              obtain ⟨last, later, ends⟩ := ih simulatedStep agenda_eq
              exact ⟨last, leadsStep.trans later, ends⟩
          | arrived none => exact ⟨_, leadsStep, Or.inl ⟨rfl, rfl⟩⟩

/-- An advance from outside that returns leaves the clock at its target. -/
theorem now_of_submit {run last : TimerRun ℓ} (simulated : run.timer.style = .simulated)
    {command : Command ℓ} {instant : Duration}
    (moves : run.errand? command = some (.advance instant))
    (returned : run.submit command = (.nothing, last)) : last.timer.now = instant := by
  have begun : run.begin command =
      { run with agenda := [] ++ [Errand.advance instant], aborted := none } := by
    rw [begin, moves]
    rfl
  obtain ⟨next, leads, ends⟩ := exists_end (run.begin command) (begun ▸ simulated)
    (congrArg TimerRun.agenda begun)
  have rest : next.agenda = [] := ends.elim And.left And.left
  rw [submit_of_leads moves leads rest, Prod.mk.injEq] at returned
  obtain ⟨reply, rfl⟩ := returned
  rcases ends with ⟨_, now_eq⟩ | ⟨_, aborted⟩
  · exact now_eq
  · cases message : next.aborted with
    | none => exact absurd message aborted
    | some message =>
        rw [message] at reply
        cases reply

/-! ## Tasks that leave the clock alone -/

mutual

/-- Whether a task may perform a command without moving the clock, then or in a later task. -/
def leavesClock : Command ℓ → Bool
  | .schedule _ _ body => bodyLeavesClock body
  | .advance _ => false
  | .advanceTo _ => false
  | _ => true

def bodyLeavesClock : List (Command ℓ) → Bool
  | [] => true
  | command :: rest => leavesClock command && bodyLeavesClock rest

end

/-- Whether a command from outside sets no alarm whose task moves the clock. -/
def isCalm : Command ℓ → Bool
  | .schedule _ _ body => bodyLeavesClock body
  | _ => true

theorem isCalm_of_leavesClock {command : Command ℓ} (leaves : leavesClock command = true) :
    isCalm command = true := by
  cases command with
  | schedule delay label body => simpa only [isCalm, leavesClock] using leaves
  | _ => rfl

/-- No task of the run moves the clock, and at most one advance is under way, behind the commands
of the task that runs. -/
structure Calm (run : TimerRun ℓ) : Prop where
  simulated : run.timer.style = .simulated
  queue : ∀ alarm ∈ run.timer.queue, bodyLeavesClock alarm.task.body = true
  agenda : ∃ (commands : List (Command ℓ)) (target : Option Duration),
    bodyLeavesClock commands = true ∧ (∀ instant ∈ target, run.timer.now ≤ instant) ∧
      run.agenda = commands.map .perform ++ target.toList.map .advance

theorem errand?_eq_none {run : TimerRun ℓ} (simulated : run.timer.style = .simulated)
    {command : Command ℓ} (leaves : leavesClock command = true) :
    run.errand? command = none := by
  cases command with
  | advance span => simp [leavesClock] at leaves
  | advanceTo instant => simp [leavesClock] at leaves
  | work => simp [errand?, simulated]
  | _ => simp [errand?]

theorem queue_readClock (run : TimerRun ℓ) :
    run.readClock.timer.queue = run.timer.queue := by
  unfold readClock
  split <;> rfl

theorem mem_queue_answer {run : TimerRun ℓ} {command : Command ℓ} {alarm : Alarm (Job ℓ)}
    (member : alarm ∈ (run.answer command).2.timer.queue) : alarm ∈ run.timer.queue ∨
      ∃ delay label body, command = .schedule delay label body ∧
        alarm.task = ⟨delay, label, body⟩ := by
  cases command with
  | schedule delay label body =>
      rw [answer, timer_schedule] at member
      rcases Timer.mem_queue_schedule _ member with before | task_eq
      · rw [queue_readClock] at before
        exact Or.inl before
      · exact Or.inr ⟨delay, label, body, rfl, task_eq⟩
  | cancel slot =>
      rw [answer] at member
      split at member <;> exact Or.inl member
  | isCancelled slot =>
      rw [answer] at member
      split at member <;> exact Or.inl member
  | now =>
      rw [answer] at member
      split at member <;> exact Or.inl member
  | shutDown => cases member
  | _ => exact Or.inl member

namespace Calm

variable {run next : TimerRun ℓ}

theorem not_overtaken (calm : run.Calm) : ¬run.Overtaken := by
  rintro ⟨instant, member, past⟩
  obtain ⟨commands, target, _, ahead, agenda_eq⟩ := calm.agenda
  rw [agenda_eq] at member
  have under : instant ∈ target := by simpa [eq_comm] using member
  exact Nat.not_lt_of_le (ahead instant under) past

theorem note (calm : run.Calm) (entry : TimerNote ℓ) : (run.note entry).Calm :=
  ⟨calm.simulated, calm.queue, calm.agenda⟩

theorem answer (calm : run.Calm) {command : Command ℓ} (leaves : isCalm command = true) :
    (run.answer command).2.Calm := by
  have atOnce := AtOnce.answer run command
  constructor
  case simulated => exact atOnce.style_eq.trans calm.simulated
  case queue =>
    intro alarm member
    rcases mem_queue_answer member with before | ⟨delay, label, body, rfl, task_eq⟩
    · exact calm.queue alarm before
    · rw [task_eq]
      exact leaves
  case agenda =>
    rw [atOnce.agenda_eq, atOnce.now_eq calm.simulated]
    exact calm.agenda

theorem begin (calm : run.Calm) {command : Command ℓ} (leaves : isCalm command = true) :
    (run.begin command).Calm := by
  rw [TimerRun.begin]
  split
  · exact calm.answer leaves
  · rename_i moves
    obtain ⟨instant, rfl, later⟩ := eq_advance_of_errand? calm.simulated moves
    exact ⟨calm.simulated, calm.queue, [], some instant, rfl, by rintro _ ⟨⟩; exact later, rfl⟩

/-- What a command of a task does, once it is taken off the agenda. -/
theorem of_perform (calm : run.Calm) {command : Command ℓ} (leaves : leavesClock command = true)
    (turn : run.Turn (.perform command) next) : next.Calm := by
  cases turn with
  | answered still => exact (calm.answer (isCalm_of_leavesClock leaves)).note _
  | entered moves =>
      rw [errand?_eq_none calm.simulated leaves] at moves
      cases moves
  | dropped =>
      rw [abort, calm.simulated]
      exact ⟨calm.simulated, calm.queue, [], none, rfl, nofun, rfl⟩

/-- What the advance that is under way does, once it is taken off the agenda. -/
theorem of_advance (calm : run.Calm) (rest : run.agenda = []) {instant : Duration}
    (early : run.timer.now ≤ instant) (turn : run.Turn (.advance instant) next) : next.Calm := by
  cases turn with
  | fired due =>
      obtain ⟨onTime, behind, queue_eq, rfl⟩ := Timer.eq_of_takeDue due
      have queue := calm.queue
      rw [queue_eq] at queue
      have ⟨leavesFirst, leavesRest⟩ := List.forall_mem_cons.mp queue
      obtain ⟨body, body_eq, agenda_eq⟩ := agenda_start _ _
      constructor
      case simulated =>
        rw [timer_start]
        exact calm.simulated
      case queue => rwa [timer_start]
      case agenda =>
        refine ⟨body, some instant, ?_, ?_, by rw [agenda_eq, rest]; rfl⟩
        · rcases body_eq with rfl | rfl
          · rfl
          · exact leavesFirst
        · rintro _ ⟨⟩
          simp only [timer_start, Duration.le_def, Duration.nanos_max] at early onTime ⊢
          omega
  | arrived unqueued => exact ⟨calm.simulated, calm.queue, [], none, rfl, nofun, rest⟩

theorem step (calm : run.Calm) : run.step.Calm := by
  obtain ⟨commands, target, leaves, ahead, agenda_eq⟩ := calm.agenda
  cases commands with
  | cons command rest =>
      rw [bodyLeavesClock, Bool.and_eq_true] at leaves
      refine of_perform ?_ leaves.1 (turn_step agenda_eq)
      exact ⟨calm.simulated, calm.queue, rest, target, leaves.2, ahead, rfl⟩
  | nil =>
      cases target with
      | none => rwa [step_of_rest agenda_eq]
      | some instant =>
          have ended : Calm { run with agenda := [] } :=
            ⟨calm.simulated, calm.queue, [], none, rfl, nofun, rfl⟩
          exact ended.of_advance rfl (ahead instant rfl) (turn_step agenda_eq)

end Calm

theorem Later.calm {allowed : Command ℓ → Prop} {first last : TimerRun ℓ}
    (later : first.Later allowed last) (leaves : ∀ command, allowed command → isCalm command = true)
    (start : first.Calm) : last.Calm := by
  induction later with
  | here => exact start
  | step _ ih => exact ih.step
  | begin _ _ may ih => exact ih.begin (leaves _ may)

/-! ## The clock in a run -/

/-- What is certain about the clock between two moments of a run of a simulated timer. -/
structure ClockKept (allowed : Command ℓ → Prop) (first last : TimerRun ℓ) : Prop where
  /-- The clock falls below a reading only if an advance was overtaken when it was read. In
  particular, it does not fall below its reading between two commands from outside. -/
  kept : ¬first.Overtaken → first.timer.now ≤ last.timer.now
  /-- The clock runs back where an overtaken advance ends, and nowhere else. -/
  runsBack : last.step.timer.now < last.timer.now ↔ ∃ instant rest,
    last.agenda = .advance instant :: rest ∧ last.timer.takeDue instant = none ∧
      instant < last.timer.now
  /-- An advance that is under way ends at its target, overtaken or not, unless a task aborts. -/
  ends : ∀ above instant rest, last.agenda = above ++ .advance instant :: rest →
    ∃ next, last.Leads next ∧ (next.agenda = rest ∧ next.timer.now = instant ∨
      next.agenda = [] ∧ next.aborted ≠ none)
  /-- Where an advance is overtaken, the clock does run back, unless a task aborts. -/
  overtaken : last.Overtaken → ∃ next, last.Leads next ∧
    (next.timer.now < last.timer.now ∨ next.agenda = [] ∧ next.aborted ≠ none)
  /-- Tasks that leave the clock alone overtake no advance, and the clock never runs back. -/
  calm : first.Calm → (∀ command, allowed command → isCalm command = true) →
    ¬last.Overtaken ∧ first.timer.now ≤ last.timer.now

theorem Later.clockKept {allowed : Command ℓ → Prop} {first last : TimerRun ℓ}
    (later : first.Later allowed last) (simulated : first.timer.style = .simulated) :
    ClockKept allowed first last := by
  have simulatedLast := later.style_eq.trans simulated
  have kept : ¬first.Overtaken → first.timer.now ≤ last.timer.now :=
    fun ahead => (later.beyond (beyond_now ahead)).now
  constructor
  case kept => exact kept
  case runsBack => exact now_step_lt_iff last
  case ends =>
    intro above instant rest agenda
    exact exists_end last simulatedLast agenda
  case overtaken =>
    rintro ⟨instant, member, past⟩
    obtain ⟨above, rest, agenda⟩ := List.append_of_mem member
    obtain ⟨next, leads, ⟨_, rfl⟩ | aborted⟩ := exists_end last simulatedLast agenda
    · exact ⟨next, leads, Or.inl past⟩
    · exact ⟨next, leads, Or.inr aborted⟩
  case calm =>
    intro start leaves
    exact ⟨(later.calm leaves start).not_overtaken, kept start.not_overtaken⟩

/-- A task that starts at 10 ms advances the clock by 100 ms, inside of an advance to 20 ms. -/
theorem clockKept_of_nested_advance :
    ∃ last : TimerRun String, (opening .simulated).Later (fun _ => True) last ∧ last.Overtaken ∧
      ClockKept (fun _ => True) (opening .simulated) last := by
  have start : (opening .simulated).Later (fun _ : Command String => True) (opening .simulated) :=
    .here
  have set := @Later.begin _ _ _ _
    (.schedule (.ofMillis 10) "task" [.advance (.ofMillis 100), .now]) start rfl trivial
  have advanced := @Later.begin _ _ _ _ (.advance (.ofMillis 20)) set rfl trivial
  have overtaking := advanced.step.step.step
  refine ⟨_, overtaking, ⟨.ofMillis 20, ?_, ?_⟩, overtaking.clockKept rfl⟩
  · exact .tail _ (.tail _ (.head _))
  · decide

/-- That task reads 110 ms, and when the advance has ended, the clock stands at 20 ms. -/
theorem clock_runs_back :
    ∃ start last : TimerRun String,
      (opening .simulated).submit
        (.schedule (.ofMillis 10) "task" [.advance (.ofMillis 100), .now]) = (.slot 0, start) ∧
      start.submit (.advance (.ofMillis 20)) = (.nothing, last) ∧
      .did .now (.instant (.ofMillis 110)) ∈ last.notes ∧ last.timer.now = .ofMillis 20 := by
  have leads : ∀ run : TimerRun String, run.Leads run.step.step.step.step.step.step :=
    fun run => .step (.step (.step (.step (.step (.step .here)))))
  exact ⟨_, _, rfl, submit_of_leads rfl (leads _) rfl, .head _, rfl⟩

end TimerRun

end TimedBatch
