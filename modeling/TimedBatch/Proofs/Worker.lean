import Mathlib.Data.List.Induction
import TimedBatch.Proofs.Sweeps

/-!
# The moves of a worker

The worker of a timer takes the alarms off the queue one by one. It lets go of the timer before it
looks at the cancellation bit of an alarm that it took, and again before it starts the task, so
that other threads can set alarms, cancel them and shut the timer down at any moment, and so can
the task itself. A history lists what happened, one move at a time, in any order in which the
threads may come.
-/

namespace TimedBatch

/-! ## Queues that are compared -/

namespace Alarm

variable {β : Type} {alarm : Alarm β} {queue other : List (Alarm β)}

/-- The alarms of a queue whose numbers do not occur in another one. -/
def missing (queue other : List (Alarm β)) : List (Alarm β) :=
  queue.filter fun alarm => other.all fun present => present.order ≠ alarm.order

theorem missing_nil (queue : List (Alarm β)) : missing queue [] = queue :=
  List.filter_eq_self.mpr fun _ _ => rfl

theorem missing_of_subset (subset : queue ⊆ other) : missing queue other = [] := by
  refine List.filter_eq_nil_iff.mpr fun alarm member => ?_
  simpa using ⟨alarm, subset member, rfl⟩

/-- An alarm with a new number is all that is missing before it is set. -/
theorem missing_insert (fresh : ∀ present ∈ queue, present.order ≠ alarm.order) :
    missing (alarm.insert queue) queue = [alarm] := by
  have others := List.filter_eq_nil_iff.mp (missing_of_subset (List.Subset.refl queue))
  have chosen : queue.all (fun present => present.order ≠ alarm.order) = true := by
    simpa using fresh
  rw [missing, filter_insert fun present member => Bool.eq_false_iff.mpr (others present member)]
  exact List.filter_cons_of_pos chosen

/-- The first alarm is all that is missing when it is gone. -/
theorem missing_cons (fresh : ∀ present ∈ queue, present.order ≠ alarm.order) :
    missing (alarm :: queue) queue = [alarm] := by
  have others := missing_of_subset (List.Subset.refl queue)
  rw [missing] at others ⊢
  rw [List.filter_cons_of_pos, others]
  simpa using fresh

end Alarm

/-! ## Timers whose alarms are in line -/

namespace Timer

variable {β : Type} {timer next : Timer β}

/-- The queue of a timer is in the order in which its tasks will start, its alarms are numbered
apart, each alarm that was set has a bit, and a timer that is shut down has no alarms. -/
structure InLine (timer : Timer β) : Prop where
  sorted : timer.queue.Pairwise fun first second => first.precedes second = true
  numbered : ∀ alarm ∈ timer.queue, alarm.order < timer.nextOrder
  distinct : (timer.queue.map (·.order)).Nodup
  made : timer.register.bits.length = timer.nextOrder
  dropped : timer.isShutDown = true → timer.queue = []

namespace InLine

theorem opening (style : TimerStyle) : ({ style := style } : Timer β).InLine :=
  ⟨.nil, nofun, .nil, rfl, fun _ => rfl⟩

theorem setClock (inLine : timer.InLine) (instant : Duration) : (timer.setClock instant).InLine :=
  ⟨inLine.sorted, inLine.numbered, inLine.distinct, inLine.made, inLine.dropped⟩

theorem cancel (inLine : timer.InLine) (token : CancelToken) : (timer.cancel token).2.InLine :=
  ⟨inLine.sorted, inLine.numbered, inLine.distinct, (List.length_set ..).trans inLine.made,
    inLine.dropped⟩

theorem shutDown (inLine : timer.InLine) : timer.shutDown.InLine :=
  ⟨.nil, nofun, .nil, inLine.made, fun _ => rfl⟩

/-- No alarm in the queue has the number of the next one. -/
theorem order_ne (inLine : timer.InLine) :
    ∀ alarm ∈ timer.queue, alarm.order ≠ timer.nextOrder :=
  fun alarm member => Nat.ne_of_lt (inLine.numbered alarm member)

/-- An alarm that gets the next number is put in line. -/
theorem set (inLine : timer.InLine) (isOpen : timer.isShutDown = false) (deadline : Duration)
    (task : β) :
    InLine { timer with
      queue := Alarm.insert ⟨deadline, timer.nextOrder, timer.register.make.1, task⟩ timer.queue
      nextOrder := timer.nextOrder + 1
      register := timer.register.make.2 } := by
  constructor
  case sorted => exact Alarm.pairwise_precedes_insert inLine.numbered inLine.sorted
  case numbered =>
    intro alarm member
    rcases Alarm.mem_insert.mp member with rfl | member
    · exact Nat.lt_succ_self _
    · exact Nat.lt_succ_of_lt (inLine.numbered alarm member)
  case distinct =>
    have orders := (Alarm.perm_insert ⟨deadline, timer.nextOrder, timer.register.make.1, task⟩
      timer.queue).map (·.order)
    refine orders.nodup_iff.mpr (List.nodup_cons.mpr ⟨?_, inLine.distinct⟩)
    simpa using inLine.order_ne
  case made => simp [CancelRegister.make, inLine.made]
  case dropped =>
    intro down
    cases isOpen.symm.trans down

/-- The first alarm of the queue is due before all others, and the others stay in line. -/
theorem tail (inLine : timer.InLine) {first : Alarm β} {rest : List (Alarm β)}
    (queue_eq : timer.queue = first :: rest) (instant : Duration) :
    InLine { timer with now := instant, queue := rest } ∧ timer.isShutDown = false ∧
      (∀ alarm ∈ rest, first.precedes alarm = true) ∧
      ∀ alarm ∈ rest, alarm.order ≠ first.order := by
  obtain ⟨sorted, numbered, distinct, made, dropped⟩ := inLine
  rw [queue_eq] at sorted numbered distinct dropped
  have ⟨least, sortedRest⟩ := List.pairwise_cons.mp sorted
  have ⟨single, distinctRest⟩ := List.nodup_cons.mp distinct
  have isOpen : timer.isShutDown = false := by
    cases down : timer.isShutDown with
    | false => rfl
    | true => cases dropped down
  refine ⟨⟨sortedRest, (List.forall_mem_cons.mp numbered).2, distinctRest, made, ?_⟩, isOpen,
    least, ?_⟩
  · intro down
    cases isOpen.symm.trans down
  · intro alarm member same
    exact single (List.mem_map.mpr ⟨alarm, member, same⟩)

end InLine

theorem schedule_of_isOpen {delay deadline : Duration}
    (clock : timer.deadline? delay = some deadline) (isOpen : timer.isShutDown = false) (task : β) :
    timer.schedule delay task = (.ok timer.register.make.1,
      { timer with
        queue := Alarm.insert ⟨deadline, timer.nextOrder, timer.register.make.1, task⟩ timer.queue
        nextOrder := timer.nextOrder + 1
        register := timer.register.make.2 }) := by
  have accepts : ¬timer.isShutDown = true := by simp [isOpen]
  rw [schedule, clock]
  exact if_neg accepts

/-- Waiting for the first alarm of the queue ends at its deadline or later. -/
theorem eq_of_awaitFirst {lag : Duration} {alarm : Alarm β}
    (first : timer.awaitFirst lag = some (alarm, next)) :
    ∃ rest, timer.queue = alarm :: rest ∧
      next = { timer with now := max (timer.now + lag) alarm.deadline, queue := rest } := by
  rw [awaitFirst] at first
  split at first
  · cases first
  · rename_i rest queue_eq
    cases first
    exact ⟨rest, queue_eq, rfl⟩

end Timer

namespace TimerRun

variable {ℓ : Type} {name : String} {run next : TimerRun ℓ}

theorem mem_slots_of_token? {slot : Nat} {token : CancelToken}
    (held : run.token? slot = some token) : some token ∈ run.slots :=
  List.mem_of_getElem? (Option.join_eq_some_iff.mp held)

/-! ## What a worker is told -/

/-- What the clock of a worker shows at its next reading. -/
def nextReading (run : TimerRun ℓ) : Duration :=
  run.timer.now + run.lags run.readings

/-- The alarm that a worker sets next. -/
def nextAlarm (run : TimerRun ℓ) (job : Job ℓ) : Alarm (Job ℓ) :=
  ⟨run.nextReading + job.delay, run.timer.nextOrder, run.timer.register.make.1, job⟩

/-- A command that leaves the timer as it is, whatever it answers. -/
def LeavesTimer (run : TimerRun ℓ) : Command ℓ → Prop
  | .schedule .. => False
  | .shutDown => False
  | .cancel slot => run.token? slot = none
  | _ => True

/-- Why a worker refuses an alarm. -/
inductive RefusesFor (name : String) (run : TimerRun ℓ) (delay : Duration) :
    TimerRejection → Prop where
  | delayOutOfRange (late : ¬run.nextReading + delay < Timer.unrepresentableInstant) :
      RefusesFor name run delay (.delayOutOfRange name)
  | shutDown (inTime : run.nextReading + delay < Timer.unrepresentableInstant)
      (down : run.timer.isShutDown = true) : RefusesFor name run delay (.shutDown name)

/-- What a command does to the run of a worker, and what it answers. -/
inductive Serves (name : String) (run : TimerRun ℓ) :
    Command ℓ → TimerReply → TimerRun ℓ → Prop where
  | set {delay : Duration} {label : ℓ} {body : List (Command ℓ)}
      (inTime : run.nextReading + delay < Timer.unrepresentableInstant)
      (isOpen : run.timer.isShutDown = false) :
      Serves name run (.schedule delay label body) (.slot run.slots.length)
        { run with
          timer := { run.timer with
            now := run.nextReading
            queue := (run.nextAlarm ⟨delay, label, body⟩).insert run.timer.queue
            nextOrder := run.timer.nextOrder + 1
            register := run.timer.register.make.2 }
          readings := run.readings + 1
          slots := run.slots ++ [some run.timer.register.make.1] }
  | refused {delay : Duration} {label : ℓ} {body : List (Command ℓ)} {rejection : TimerRejection}
      (refuses : RefusesFor name run delay rejection) :
      Serves name run (.schedule delay label body) (.refused rejection)
        { run with
          timer := run.timer.setClock run.nextReading
          readings := run.readings + 1
          slots := run.slots ++ [none] }
  | cancelled {slot : Nat} {token : CancelToken} (held : run.token? slot = some token) :
      Serves name run (.cancel slot) (.flag !(run.timer.isCancelled token))
        { run with timer := (run.timer.cancel token).2 }
  | shutDown : Serves name run .shutDown .nothing run.shutDown
  | left {command : Command ℓ} {reply : TimerReply} {slots : List (Option CancelToken)}
      (leaves : run.LeavesTimer command) (fewer : ∀ token, some token ∈ slots →
        some token ∈ run.slots) : Serves name run command reply { run with slots := slots }

theorem serves_schedule (worker : run.timer.style = .worker name) (job : Job ℓ) :
    Serves name run (.schedule job.delay job.label job.body) (run.schedule job).1
      (run.schedule job).2 := by
  have reading : run.readClock =
      { run with timer := run.timer.setClock run.nextReading, readings := run.readings + 1 } := by
    rw [readClock, worker]
    rfl
  have named : (run.timer.setClock run.nextReading).workerName = name := by
    simp only [Timer.workerName, Timer.setClock, worker]
  have clock : (run.timer.setClock run.nextReading).deadline? job.delay =
      if run.nextReading + job.delay < Timer.unrepresentableInstant then
        some (run.nextReading + job.delay)
      else none := by
    simp only [Timer.deadline?, Timer.setClock, worker]
  by_cases inTime : run.nextReading + job.delay < Timer.unrepresentableInstant
  · rw [if_pos inTime] at clock
    cases down : run.timer.isShutDown with
    | true =>
        have refused : (run.timer.setClock run.nextReading).schedule job.delay job =
            (.error (.shutDown name), run.timer.setClock run.nextReading) := by
          rw [Timer.schedule, clock, named]
          exact if_pos down
        simp only [schedule, reading, refused]
        exact .refused (.shutDown inTime down)
    | false =>
        have set := Timer.schedule_of_isOpen clock down job
        simp only [schedule, reading, set]
        exact .set inTime down
  · rw [if_neg inTime] at clock
    have refused : (run.timer.setClock run.nextReading).schedule job.delay job =
        (.error (.delayOutOfRange name), run.timer.setClock run.nextReading) := by
      rw [Timer.schedule, clock, named]
    simp only [schedule, reading, refused]
    exact .refused (.delayOutOfRange inTime)

theorem serves_answer (worker : run.timer.style = .worker name) (command : Command ℓ) :
    Serves name run command (run.answer command).1 (run.answer command).2 := by
  cases command with
  | schedule delay label body => exact serves_schedule worker ⟨delay, label, body⟩
  | cancel slot =>
      rw [answer]
      cases held : run.token? slot with
      | none => exact .left held fun _ => id
      | some token => exact .cancelled held
  | isCancelled slot =>
      rw [answer]
      split <;> exact .left trivial fun _ => id
  | forget slot =>
      refine .left trivial fun token member => ?_
      rcases List.mem_or_eq_of_mem_set member with before | same
      · exact before
      · cases same
  | now =>
      rw [answer]
      split <;> exact .left trivial fun _ => id
  | shutDown => exact .shutDown
  | _ => exact .left trivial fun _ => id

/-! ## Commands of a task -/

/-- A task that goes on gives a command as everyone else does, and its answer is reported. -/
theorem step_of_goesOn {command : Command ℓ} {rest : List (Errand ℓ)}
    (agenda : run.agenda = .perform command :: rest) (still : run.errand? command = none)
    (goesOn : ∀ message, command ≠ .abort message) :
    run.step = note { (run.answer command).2 with agenda := rest }
      (.did command (run.answer command).1) := by
  have stillBehind : errand? { run with agenda := rest } command = none := still
  rw [step, agenda]
  simp only [doErrand, perform, stillBehind]
  rw [answer_of_agenda]
  split
  · rename_i message next aborted
    rw [Prod.mk.injEq] at aborted
    exact absurd (eq_of_answer_aborted (Prod.ext aborted.1 rfl)).1 (goesOn message)
  · rename_i answered
    cases answered
    rfl

theorem catchers_map_perform (script : List (Command ℓ)) (rest : List (Errand ℓ)) :
    catchers (script.map Errand.perform ++ rest) = catchers rest := by
  induction script with
  | nil => rfl
  | cons command script ih => exact ih

/-- A task that aborts loses the rest of its script, which the worker reports. -/
theorem step_of_abort (worker : run.timer.style = .worker name) {message : String}
    {script : List (Command ℓ)} {rest : List (Errand ℓ)}
    (agenda : run.agenda = .perform (.abort message) :: (script.map .perform ++ rest)) :
    run.step = note { run with agenda := catchers rest } (.log (.taskFailed name)) := by
  rw [step, agenda]
  simp only [doErrand, perform, errand?, answer, abort, worker, catchers_map_perform]

/-- Nothing is left of a script that aborts where nothing waits behind it. -/
theorem step_of_abort_last (worker : run.timer.style = .worker name) {message : String}
    {script : List (Command ℓ)}
    (agenda : run.agenda = .perform (.abort message) :: script.map .perform) :
    run.step = note { run with agenda := [] } (.log (.taskFailed name)) := by
  rw [← List.append_nil (script.map _)] at agenda
  exact step_of_abort worker agenda

theorem start_of_cancelled {alarm : Alarm (Job ℓ)}
    (cancelled : run.timer.isCancelled alarm.token = true) : run.start alarm = run :=
  if_pos cancelled

theorem start_of_live {alarm : Alarm (Job ℓ)} (rest : run.agenda = [])
    (live : run.timer.isCancelled alarm.token = false) :
    run.start alarm = note { run with agenda := alarm.task.body.map .perform }
      (.started alarm run.timer.now) := by
  rw [start, rest, List.append_nil]
  exact if_neg (Bool.eq_false_iff.mp live)

end TimerRun

/-! ## Workers -/

/-- A worker and the run of its timer. An alarm is in the hand of the worker after it was taken
off the queue and before the worker looks at its cancellation bit. -/
structure Worker (ℓ : Type) extends TimerRun ℓ where
  inHand : Option (Alarm (Job ℓ)) := none

namespace Worker

open TimerRun

variable {ℓ : Type} {name : String} {worker next : Worker ℓ}

/-- A worker that has just begun. The lags are the times that pass between the readings of its
clock. -/
def opening (name : String) (lags : Nat → Duration) : Worker ℓ where
  toTimerRun := { TimerRun.opening (.worker name) with lags := lags }

/-- What is done in a move. -/
inductive Deed (ℓ : Type) where
  /-- Another thread gives a command. -/
  | outside (command : Command ℓ)
  /-- The task that was started last gives its next command. -/
  | inside (command : Command ℓ)
  /-- The worker reads the clock and finds no alarm due. -/
  | wait
  /-- The worker takes an alarm off the queue. -/
  | take (alarm : Alarm (Job ℓ))
  /-- The worker looks whether the alarm in its hand is cancelled, and starts its task if not. -/
  | look (alarm : Alarm (Job ℓ))

def Deed.command? : Deed ℓ → Option (Command ℓ)
  | .outside command => some command
  | .inside command => some command
  | .wait => none
  | .take _ => none
  | .look _ => none

/-- A move of a worker, or of another thread that uses its timer. The worker waits for an alarm and
takes it when no task is under way. -/
inductive Move (worker : Worker ℓ) : Deed ℓ → Worker ℓ → Prop where
  | outside (command : Command ℓ) (still : worker.errand? command = none) :
      Move worker (.outside command) { worker with toTimerRun := (worker.submit command).2 }
  | inside {command : Command ℓ} {rest : List (Errand ℓ)}
      (agenda : worker.agenda = .perform command :: rest)
      (still : worker.errand? command = none) :
      Move worker (.inside command) { worker with toTimerRun := worker.step }
  | wait (rest : worker.agenda = []) (free : worker.inHand = none)
      (none : worker.timer.takeDue worker.nextReading = none) :
      Move worker .wait
        { worker with
          timer := worker.timer.setClock worker.nextReading
          readings := worker.readings + 1 }
  | take {alarm : Alarm (Job ℓ)} {timer : Timer (Job ℓ)} (rest : worker.agenda = [])
      (free : worker.inHand = none)
      (first : worker.timer.awaitFirst (worker.lags worker.readings) = some (alarm, timer)) :
      Move worker (.take alarm)
        { worker with timer := timer, readings := worker.readings + 1, inHand := some alarm }
  | look {alarm : Alarm (Job ℓ)} (held : worker.inHand = some alarm) :
      Move worker (.look alarm) { toTimerRun := worker.start alarm }

/-- What the moves of a worker keep. Nothing is on its agenda but the script of one task. -/
structure Sound (name : String) (worker : Worker ℓ) : Prop where
  style_eq : worker.timer.style = .worker name
  inLine : worker.timer.InLine
  made : ∀ token, some token ∈ worker.slots → token.index < worker.timer.nextOrder
  scripted : ∃ script : List (Command ℓ), worker.agenda = script.map .perform
  waits : worker.inHand ≠ none → worker.agenda = []

theorem sound_opening (name : String) (lags : Nat → Duration) :
    (opening name lags : Worker ℓ).Sound name :=
  ⟨rfl, .opening (.worker name), nofun, ⟨[], rfl⟩, fun _ => rfl⟩

theorem Sound.scripted_rest (sound : worker.Sound name) {errand : Errand ℓ}
    {rest : List (Errand ℓ)} (agenda : worker.agenda = errand :: rest) :
    ∃ script : List (Command ℓ), rest = script.map .perform := by
  obtain ⟨script, scripted⟩ := sound.scripted
  rw [scripted] at agenda
  obtain ⟨_, script, _, _, rest_eq⟩ := List.map_eq_cons_iff.mp agenda
  exact ⟨script, rest_eq.symm⟩

namespace Move

variable {deed : Deed ℓ} {command : Command ℓ}

/-- A command does the same whoever gives it, except to the agenda. -/
theorem answered (move : worker.Move deed next) (sound : worker.Sound name)
    (gives : deed.command? = some command) :
    next.timer = (worker.answer command).2.timer ∧ next.slots = (worker.answer command).2.slots ∧
      next.inHand = worker.inHand := by
  cases move with
  | outside command still =>
      cases gives
      rw [submit, still]
      exact ⟨rfl, rfl, rfl⟩
  | inside agenda still =>
      cases gives
      by_cases goesOn : ∀ message, command ≠ .abort message
      · rw [step_of_goesOn agenda still goesOn]
        exact ⟨rfl, rfl, rfl⟩
      · push Not at goesOn
        obtain ⟨message, rfl⟩ := goesOn
        obtain ⟨script, rfl⟩ := sound.scripted_rest agenda
        rw [step_of_abort_last sound.style_eq agenda]
        exact ⟨rfl, rfl, rfl⟩
  | wait => cases gives
  | take => cases gives
  | look => cases gives

theorem serves (move : worker.Move deed next) (sound : worker.Sound name)
    (gives : deed.command? = some command) :
    ∃ reply done, Serves name worker.toTimerRun command reply done ∧
      (worker.answer command).1 = reply ∧ next.timer = done.timer ∧ next.slots = done.slots ∧
      next.inHand = worker.inHand :=
  ⟨_, _, serves_answer sound.style_eq command, rfl, move.answered sound gives⟩

/-- The agenda of a worker holds what is left of one script. -/
theorem scripted (move : worker.Move deed next) (sound : worker.Sound name) :
    (∃ script : List (Command ℓ), next.agenda = script.map .perform) ∧
      (next.inHand ≠ none → next.agenda = []) := by
  cases move with
  | outside command still =>
      have agenda_eq : (worker.submit command).2.agenda = worker.agenda := by
        rw [submit, still]
        exact (AtOnce.answer worker.toTimerRun command).agenda_eq
      exact ⟨agenda_eq ▸ sound.scripted, fun held => agenda_eq.trans (sound.waits held)⟩
  | @inside command rest agenda still =>
      have free : worker.inHand = none := by
        by_contra held
        cases agenda.symm.trans (sound.waits held)
      obtain ⟨script, rfl⟩ := sound.scripted_rest agenda
      refine ⟨?_, fun held => absurd free held⟩
      by_cases goesOn : ∀ message, command ≠ .abort message
      · rw [step_of_goesOn agenda still goesOn]
        exact ⟨script, rfl⟩
      · push Not at goesOn
        obtain ⟨message, rfl⟩ := goesOn
        rw [step_of_abort_last sound.style_eq agenda]
        exact ⟨[], rfl⟩
  | wait rest free none => exact ⟨⟨[], rest⟩, fun _ => rest⟩
  | take rest free first => exact ⟨⟨[], rest⟩, fun _ => rest⟩
  | @look alarm held =>
      obtain ⟨script, _, agenda_eq⟩ := agenda_start worker.toTimerRun alarm
      rw [sound.waits (held ▸ Option.some_ne_none alarm), List.append_nil] at agenda_eq
      exact ⟨⟨script, agenda_eq⟩, fun held => absurd rfl held⟩

theorem waits (move : worker.Move .wait next) : next =
    { worker with
      timer := worker.timer.setClock worker.nextReading
      readings := worker.readings + 1 } := by
  cases move with
  | wait rest free none => rfl

/-- What a worker takes is the first alarm of its queue. -/
theorem takes {alarm : Alarm (Job ℓ)} (move : worker.Move (.take alarm) next) :
    ∃ rest, worker.timer.queue = alarm :: rest ∧ worker.inHand = none ∧ next =
      { worker with
        timer := { worker.timer with
          now := max (worker.timer.now + worker.lags worker.readings) alarm.deadline
          queue := rest }
        readings := worker.readings + 1
        inHand := some alarm } := by
  cases move with
  | take _ free first =>
      obtain ⟨rest, queue_eq, rfl⟩ := Timer.eq_of_awaitFirst first
      exact ⟨rest, queue_eq, free, rfl⟩

theorem looks {alarm : Alarm (Job ℓ)} (move : worker.Move (.look alarm) next) :
    worker.inHand = some alarm ∧ next = { toTimerRun := worker.start alarm } := by
  cases move with
  | look held => exact ⟨held, rfl⟩

theorem fails {message : String} (move : worker.Move (.inside (.abort message)) next)
    (sound : worker.Sound name) : next =
      { worker with agenda := [], notes := .log (.taskFailed name) :: worker.notes } := by
  cases move with
  | inside agenda still =>
      obtain ⟨script, rfl⟩ := sound.scripted_rest agenda
      rw [step_of_abort_last sound.style_eq agenda]
      rfl

theorem timer_look {alarm : Alarm (Job ℓ)} (move : worker.Move (.look alarm) next) :
    next.timer = worker.timer ∧ next.slots = worker.slots ∧ worker.inHand = some alarm ∧
      next.inHand = none := by
  obtain ⟨held, rfl⟩ := move.looks
  refine ⟨timer_start _ _, ?_, held, rfl⟩
  rw [start]
  split <;> rfl

theorem sound (move : worker.Move deed next) (sound : worker.Sound name) : next.Sound name := by
  obtain ⟨scripted, waits⟩ := move.scripted sound
  have ⟨style_eq, inLine, made, _, _⟩ := sound
  cases gives : deed.command? with
  | some command =>
      obtain ⟨reply, done, serves, _, timer_eq, slots_eq, _⟩ := move.serves sound gives
      constructor
      case scripted => exact scripted
      case waits => exact waits
      case style_eq =>
        rw [timer_eq]
        cases serves <;> exact style_eq
      case inLine =>
        rw [timer_eq]
        cases serves with
        | set inTime isOpen => exact (inLine.setClock worker.nextReading).set isOpen _ _
        | refused refuses => exact inLine.setClock _
        | cancelled held => exact inLine.cancel _
        | shutDown => exact inLine.shutDown
        | left leaves fewer => exact inLine
      case made =>
        rw [timer_eq, slots_eq]
        intro token member
        cases serves with
        | set inTime isOpen =>
            rcases List.mem_append.mp member with before | new
            · exact Nat.lt_succ_of_lt (made token before)
            · cases List.mem_singleton.mp new
              exact inLine.made ▸ Nat.lt_succ_self _
        | refused refuses =>
            rcases List.mem_append.mp member with before | new
            · exact made token before
            · cases List.mem_singleton.mp new
        | cancelled held => exact made token member
        | shutDown => exact made token member
        | left leaves fewer => exact made token (fewer token member)
  | none =>
      cases deed with
      | outside command => cases gives
      | inside command => cases gives
      | wait =>
          cases move.waits
          exact ⟨style_eq, inLine.setClock _, made, scripted, waits⟩
      | take alarm =>
          obtain ⟨rest, queue_eq, _, rfl⟩ := move.takes
          exact ⟨style_eq, (inLine.tail queue_eq _).1, made, scripted, waits⟩
      | look alarm =>
          obtain ⟨timer_eq, slots_eq, _⟩ := move.timer_look
          exact ⟨timer_eq ▸ style_eq, timer_eq ▸ inLine, timer_eq ▸ slots_eq ▸ made, scripted,
            waits⟩

/-- A bit is cancelled by a call through a slot that holds its token, and by nothing else. -/
theorem isCancelled_iff (move : worker.Move deed next) (sound : worker.Sound name)
    (token : CancelToken) :
    next.timer.isCancelled token = true ↔ worker.timer.isCancelled token = true ∨
      ∃ slot, deed.command? = some (.cancel slot) ∧ worker.token? slot = some token := by
  cases gives : deed.command? with
  | some command =>
      obtain ⟨reply, done, serves, _, timer_eq, _⟩ := move.serves sound gives
      rw [timer_eq]
      cases serves with
      | set inTime isOpen =>
          simp [Timer.isCancelled, worker.timer.register.isCancelled_make token]
      | refused refuses => simp [Timer.isCancelled, Timer.setClock]
      | @cancelled slot other held =>
          have made := sound.made other (mem_slots_of_token? held)
          rw [← sound.inLine.made] at made
          have same : ∀ token, (∃ index, some (Command.cancel slot : Command ℓ) =
              some (.cancel index) ∧ worker.token? index = some token) ↔ token = other := by
            intro token
            simp [held, eq_comm]
          rw [same]
          exact CancelRegister.isCancelled_cancel_iff _ made
      | shutDown => simp [Timer.isCancelled, shutDown, Timer.shutDown]
      | left leaves fewer =>
          refine ⟨Or.inl, fun cancelled => cancelled.elim id ?_⟩
          rintro ⟨slot, ⟨⟩, held⟩
          cases held.symm.trans leaves
  | none =>
      cases deed with
      | outside command => cases gives
      | inside command => cases gives
      | wait =>
          cases move.waits
          simp [Timer.isCancelled, Timer.setClock]
      | take alarm =>
          obtain ⟨rest, _, _, rfl⟩ := move.takes
          simp [Timer.isCancelled]
      | look alarm => simp [move.timer_look.1]

/-- A timer is shut down by a call, and by nothing else. -/
theorem isShutDown_iff (move : worker.Move deed next) (sound : worker.Sound name) :
    next.timer.isShutDown = true ↔
      worker.timer.isShutDown = true ∨ deed.command? = some .shutDown := by
  cases gives : deed.command? with
  | some command =>
      obtain ⟨reply, done, serves, _, timer_eq, _⟩ := move.serves sound gives
      rw [timer_eq]
      cases serves with
      | set inTime isOpen => simp
      | refused refuses => simp [Timer.setClock]
      | cancelled held => simp [Timer.cancel]
      | shutDown => simp [shutDown, Timer.shutDown]
      | left leaves fewer =>
          refine ⟨Or.inl, fun down => down.elim id ?_⟩
          rintro ⟨⟩
          exact leaves.elim
  | none =>
      cases deed with
      | outside command => cases gives
      | inside command => cases gives
      | wait =>
          cases move.waits
          simp [Timer.setClock]
      | take alarm =>
          obtain ⟨rest, _, _, rfl⟩ := move.takes
          simp
      | look alarm => simp [move.timer_look.1]

/-- The clock of a worker does not run back. -/
theorem le_now (move : worker.Move deed next) (sound : worker.Sound name) :
    worker.timer.now ≤ next.timer.now := by
  have bound := worker.timer.now.nanos_le
  cases gives : deed.command? with
  | some command =>
      rw [(move.answered sound gives).1]
      exact (AtOnce.answer worker.toTimerRun command).le_now
  | none =>
      cases deed with
      | outside command => cases gives
      | inside command => cases gives
      | wait =>
          cases move.waits
          simp only [Timer.setClock, nextReading, Duration.le_def, Duration.nanos_add]
          omega
      | take alarm =>
          obtain ⟨rest, _, _, rfl⟩ := move.takes
          simp only [Duration.le_def, Duration.nanos_max, Duration.nanos_add]
          omega
      | look alarm =>
          rw [move.timer_look.1]
          exact Nat.le_refl _

end Move

/-! ## Histories -/

/-- Something that happened: a move between two moments of a worker. -/
structure Happening (ℓ : Type) where
  before : Worker ℓ
  deed : Deed ℓ
  after : Worker ℓ

/-- The command that another thread gives. -/
def Happening.outside? (happening : Happening ℓ) : Option (Command ℓ) :=
  match happening.deed with
  | .outside command => some command
  | _ => none

/-- A history tells how one moment of a worker led to another, the first happening first. -/
inductive Proceeds (first : Worker ℓ) : List (Happening ℓ) → Worker ℓ → Prop where
  | here : Proceeds first [] first
  | move {history : List (Happening ℓ)} {before after : Worker ℓ} {deed : Deed ℓ}
      (earlier : Proceeds first history before) (move : before.Move deed after) :
      Proceeds first (history ++ [⟨before, deed, after⟩]) after

namespace Proceeds

variable {first last : Worker ℓ} {history earlier later : List (Happening ℓ)}
  {happening : Happening ℓ}

/-- A history breaks off before each happening, and goes on after it. -/
theorem split (proceeds : first.Proceeds (earlier ++ happening :: later) last) :
    first.Proceeds earlier happening.before ∧
      happening.before.Move happening.deed happening.after ∧
      happening.after.Proceeds later last := by
  generalize whole : earlier ++ happening :: later = history at proceeds
  induction proceeds generalizing later with
  | here => simp at whole
  | @move history before after deed start move ih =>
      cases later using List.reverseRecOn with
      | nil =>
          obtain ⟨rfl, same⟩ := List.append_inj' whole rfl
          cases same
          exact ⟨start, move, .here⟩
      | append_singleton later last =>
          rw [← List.cons_append, ← List.append_assoc] at whole
          obtain ⟨rfl, same⟩ := List.append_inj' whole rfl
          cases same
          obtain ⟨begins, goesOn, ends⟩ := ih rfl
          exact ⟨begins, goesOn, ends.move move⟩

theorem sound (proceeds : first.Proceeds history last) (start : first.Sound name) :
    last.Sound name := by
  induction proceeds with
  | here => exact start
  | move _ move ih => exact move.sound ih

end Proceeds

end Worker

end TimedBatch
