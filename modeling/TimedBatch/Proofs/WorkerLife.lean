import Mathlib.Algebra.Order.Group.Multiset
import Mathlib.Tactic.Abel
import TimedBatch.Proofs.Retold

/-!
# The alarms of a worker

An alarm joins the queue of a worker when a call sets it, and leaves it once at most: the worker
takes it, as the first in the order of the deadlines and of the calls, or a shutdown drops it. One
that is taken is passed over if a call cancelled it before, and started otherwise. This holds of
every history, in whatever order the threads come.
-/

namespace TimedBatch

namespace Worker

open TimerRun

variable {ℓ : Type} {name : String}

/-! ## What happens to alarms -/

namespace Happening

variable (happening : Happening ℓ)

/-- The alarms that are in the queue afterwards and were not before. -/
def joining : List (Alarm (Job ℓ)) :=
  Alarm.missing happening.after.timer.queue happening.before.timer.queue

/-- The alarms that were in the queue before and are not afterwards. -/
def leaving : List (Alarm (Job ℓ)) :=
  Alarm.missing happening.before.timer.queue happening.after.timer.queue

def taken : List (Alarm (Job ℓ)) :=
  match happening.deed with
  | .take alarm => [alarm]
  | _ => []

/-- The alarm whose task starts. -/
def started : List (Alarm (Job ℓ)) :=
  match happening.deed with
  | .look alarm => if happening.before.timer.isCancelled alarm.token then [] else [alarm]
  | _ => []

/-- The alarm that is passed over because it is cancelled. -/
def skipped : List (Alarm (Job ℓ)) :=
  match happening.deed with
  | .look alarm => if happening.before.timer.isCancelled alarm.token then [alarm] else []
  | _ => []

/-- The alarms that are dropped by a shutdown. -/
def dropped : List (Alarm (Job ℓ)) :=
  match happening.deed.command? with
  | some .shutDown => happening.before.timer.queue
  | _ => []

/-- A call to set an alarm. -/
def Schedules (job : Job ℓ) : Prop :=
  happening.deed.command? = some (.schedule job.delay job.label job.body)

/-- A call to cancel through a slot that holds a token. -/
def Cancels (token : CancelToken) : Prop :=
  ∃ slot, happening.deed.command? = some (.cancel slot) ∧ happening.before.token? slot = some token

/-- A call to shut the timer down. -/
def ShutsDown : Prop :=
  happening.deed.command? = some .shutDown

/-- What a call to set an alarm answers. -/
def answer (job : Job ℓ) : TimerReply :=
  (happening.before.answer (.schedule job.delay job.label job.body)).1

/-- The alarm that a call sets: its deadline is counted from the reading of the clock, it gets the
next number, and its token names a bit of its own. -/
def alarm (job : Job ℓ) : Alarm (Job ℓ) :=
  ⟨happening.after.timer.now + job.delay, happening.before.timer.nextOrder,
    ⟨happening.before.timer.nextOrder⟩, job⟩

/-- A call sets an alarm: it joins the queue, its token is handed out in a new slot, and nothing
leaves the queue. -/
structure Accepts (job : Job ℓ) : Prop where
  answer_eq : happening.answer job = .slot happening.before.slots.length
  slots_eq : happening.after.slots =
    happening.before.slots ++ [some (happening.alarm job).token]
  queue_eq : happening.after.timer.queue = (happening.alarm job).insert happening.before.timer.queue
  joining_eq : happening.joining = [happening.alarm job]
  leaving_eq : happening.leaving = []
  nextOrder_eq : happening.after.timer.nextOrder = happening.before.timer.nextOrder + 1

/-- A call sets no alarm, and leaves the queue, the next number and the shutdown as they were. -/
structure Refuses (job : Job ℓ) (rejection : TimerRejection) : Prop where
  answer_eq : happening.answer job = .refused rejection
  slots_eq : happening.after.slots = happening.before.slots ++ [none]
  queue_eq : happening.after.timer.queue = happening.before.timer.queue
  nextOrder_eq : happening.after.timer.nextOrder = happening.before.timer.nextOrder
  isShutDown_eq : happening.after.timer.isShutDown = happening.before.timer.isShutDown

/-- The worker takes the first alarm of an open timer, not before its deadline. -/
structure Takes (alarm : Alarm (Job ℓ)) : Prop where
  queued : alarm ∈ happening.before.timer.queue
  least : ∀ other ∈ happening.before.timer.queue, other.order ≠ alarm.order →
    alarm.deadline < other.deadline ∨
      alarm.deadline = other.deadline ∧ alarm.order < other.order
  due : alarm.deadline ≤ happening.after.timer.now
  isOpen : happening.before.timer.isShutDown = false
  queue_eq : happening.before.timer.queue = alarm :: happening.after.timer.queue
  joining_eq : happening.joining = []
  leaving_eq : happening.leaving = [alarm]
  free : happening.before.inHand = none
  held : happening.after.inHand = some alarm

/-- The timer is shut down: all alarms leave the queue, and none joins it. -/
structure Drops : Prop where
  queue_eq : happening.after.timer.queue = []
  joining_eq : happening.joining = []
  leaving_eq : happening.leaving = happening.before.timer.queue
  nextOrder_eq : happening.after.timer.nextOrder = happening.before.timer.nextOrder
  isShutDown : happening.after.timer.isShutDown = true

/-- What a happening can do to the queue: a call that is accepted adds one alarm, and alarms leave
it because they are taken or dropped. -/
structure Shifts : Prop where
  joins : (∃ job, happening.Schedules job ∧ happening.Accepts job) ∨
    happening.joining = [] ∧ happening.after.timer.nextOrder = happening.before.timer.nextOrder
  leaves : happening.leaving = happening.taken ++ happening.dropped
  queued : (happening.before.timer.queue ++ happening.joining).Perm
    (happening.after.timer.queue ++ happening.leaving)

/-- What is true of a happening after everything that happened earlier. -/
structure Lawful (name : String) (earlier : List (Happening ℓ)) : Prop where
  le_now : happening.before.timer.now ≤ happening.after.timer.now
  accepts : ∀ job, happening.Schedules job → (∀ call ∈ earlier, ¬call.ShutsDown) →
    happening.after.timer.now + job.delay < Timer.unrepresentableInstant → happening.Accepts job
  refusesLate : ∀ job, happening.Schedules job →
    ¬happening.after.timer.now + job.delay < Timer.unrepresentableInstant →
      happening.Refuses job (.delayOutOfRange name)
  refusesClosed : ∀ job, happening.Schedules job → (∃ call ∈ earlier, call.ShutsDown) →
    happening.after.timer.now + job.delay < Timer.unrepresentableInstant →
      happening.Refuses job (.shutDown name)
  joins : happening.joining = [] ∨ ∃ job, happening.Schedules job ∧ happening.Accepts job
  leaves : happening.leaving = happening.taken ++ happening.dropped
  drops : happening.ShutsDown → happening.Drops
  takes : ∀ alarm, happening.deed = .take alarm →
    happening.Takes alarm ∧ ∀ call ∈ earlier, ¬call.ShutsDown
  /-- An alarm whose handle was cancelled before its turn is passed over. -/
  skips : ∀ alarm, happening.deed = .look alarm → (∃ call ∈ earlier, call.Cancels alarm.token) →
    happening.skipped = [alarm] ∧ happening.started = [] ∧
      happening.after = { happening.before with inHand := none }
  starts : ∀ alarm, happening.deed = .look alarm →
    (∀ call ∈ earlier, ¬call.Cancels alarm.token) →
      happening.started = [alarm] ∧ happening.skipped = [] ∧ happening.after =
        { happening.before with
          inHand := none
          agenda := alarm.task.body.map .perform
          notes := .started alarm happening.before.timer.now :: happening.before.notes }
  /-- A task that aborts loses what is left of its script, and nothing else changes. -/
  fails : ∀ message, happening.deed = .inside (.abort message) → happening.after =
    { happening.before with
      agenda := []
      notes := .log (.taskFailed name) :: happening.before.notes }

variable {happening} {job : Job ℓ}
  (move : happening.before.Move happening.deed happening.after)
  (sound : happening.before.Sound name)

theorem joining_of_subset (subset : happening.after.timer.queue ⊆ happening.before.timer.queue) :
    happening.joining = [] :=
  Alarm.missing_of_subset subset

theorem leaving_of_subset (subset : happening.before.timer.queue ⊆ happening.after.timer.queue) :
    happening.leaving = [] :=
  Alarm.missing_of_subset subset

include move sound

/-- A call to set an alarm reads the clock, and then it is accepted or refused. -/
theorem Schedules.cases (schedules : happening.Schedules job) :
    happening.after.timer.now = happening.before.nextReading ∧
      (happening.after.timer.now + job.delay < Timer.unrepresentableInstant ∧
          happening.before.timer.isShutDown = false ∧ happening.Accepts job ∨
        ∃ rejection, RefusesFor name happening.before.toTimerRun job.delay rejection ∧
          happening.Refuses job rejection) := by
  obtain ⟨reply, done, serves, answer_eq, timer_eq, slots_eq, _⟩ := move.serves sound schedules
  have made := sound.inLine.made
  cases serves with
  | set inTime isOpen =>
      have now_eq : happening.after.timer.now = happening.before.nextReading :=
        congrArg Timer.now timer_eq
      have token_eq : happening.before.timer.register.make.1 =
          ⟨happening.before.timer.nextOrder⟩ := congrArg CancelToken.mk made
      have alarm_eq : happening.before.nextAlarm job = happening.alarm job := by
        rw [nextAlarm, alarm, now_eq, token_eq]
      have queue_eq : happening.after.timer.queue =
          (happening.alarm job).insert happening.before.timer.queue := by
        rw [← alarm_eq]
        exact congrArg Timer.queue timer_eq
      refine ⟨now_eq, Or.inl ⟨now_eq ▸ inTime, isOpen, ⟨answer_eq, ?_, queue_eq, ?_, ?_, ?_⟩⟩⟩
      · rw [slots_eq, token_eq]
        rfl
      · rw [joining, queue_eq]
        exact Alarm.missing_insert sound.inLine.order_ne
      · refine leaving_of_subset fun present member => ?_
        rw [queue_eq]
        exact Alarm.mem_insert.mpr (Or.inr member)
      · exact congrArg Timer.nextOrder timer_eq
  | refused refuses =>
      exact ⟨congrArg Timer.now timer_eq, Or.inr ⟨_, refuses, answer_eq, slots_eq,
        (congrArg Timer.queue timer_eq :), (congrArg Timer.nextOrder timer_eq :),
        (congrArg Timer.isShutDown timer_eq :)⟩⟩
  | left leaves fewer => exact leaves.elim

theorem ShutsDown.drops (shutsDown : happening.ShutsDown) : happening.Drops := by
  obtain ⟨reply, done, serves, _, timer_eq, _⟩ := move.serves sound shutsDown
  cases serves with
  | shutDown =>
      have queue_eq : happening.after.timer.queue = [] := congrArg Timer.queue timer_eq
      refine ⟨queue_eq, ?_, ?_, (congrArg Timer.nextOrder timer_eq :),
        congrArg Timer.isShutDown timer_eq⟩
      · rw [joining, queue_eq]
        rfl
      · rw [leaving, queue_eq]
        exact Alarm.missing_nil _
  | left leaves fewer => exact leaves.elim

theorem takes_of_deed_eq {alarm : Alarm (Job ℓ)} (deed_eq : happening.deed = .take alarm) :
    happening.Takes alarm := by
  rw [deed_eq] at move
  obtain ⟨rest, queue_eq, free, after_eq⟩ := move.takes
  obtain ⟨_, isOpen, least, apart⟩ := sound.inLine.tail queue_eq happening.before.timer.now
  have rest_eq : happening.after.timer.queue = rest := by rw [after_eq]
  constructor
  case queued => rw [queue_eq]; exact List.mem_cons_self
  case least =>
    intro other member distinct
    rw [queue_eq] at member
    rcases List.mem_cons.mp member with rfl | member
    · exact absurd rfl distinct
    · rw [Duration.ext_iff]
      exact Alarm.precedes_iff.mp (least other member)
  case due =>
    simp only [after_eq, Duration.le_def, Duration.nanos_max]
    exact Nat.le_max_right _ _
  case isOpen => exact isOpen
  case queue_eq => rw [queue_eq, rest_eq]
  case joining_eq =>
    refine joining_of_subset fun present member => ?_
    rw [queue_eq, ← rest_eq]
    exact List.mem_cons_of_mem alarm member
  case leaving_eq =>
    rw [leaving, queue_eq, rest_eq]
    exact Alarm.missing_cons apart
  case free => exact free
  case held => rw [after_eq]

omit move sound

theorem taken_of_gives {command : Command ℓ} (gives : happening.deed.command? = some command) :
    happening.taken = [] := by
  rw [taken]
  split
  · rename_i deed_eq
    rw [deed_eq] at gives
    cases gives
  · rfl

/-- A happening that leaves the queue as it was. -/
theorem Shifts.still (taken_eq : happening.taken = []) (dropped_eq : happening.dropped = [])
    (queue_eq : happening.after.timer.queue = happening.before.timer.queue)
    (nextOrder_eq : happening.after.timer.nextOrder = happening.before.timer.nextOrder) :
    happening.Shifts := by
  have joining_eq : happening.joining = [] :=
    joining_of_subset (by rw [queue_eq]; exact List.Subset.refl _)
  have leaving_eq : happening.leaving = [] :=
    leaving_of_subset (by rw [queue_eq]; exact List.Subset.refl _)
  refine ⟨Or.inr ⟨joining_eq, nextOrder_eq⟩, ?_, ?_⟩
  · rw [leaving_eq, taken_eq, dropped_eq]
    rfl
  · rw [joining_eq, leaving_eq, queue_eq]

include move sound

/-- A call to set an alarm adds it to the queue, or leaves the queue as it was. -/
theorem Schedules.shifts (schedules : happening.Schedules job) : happening.Shifts := by
  have taken_eq := taken_of_gives schedules
  have dropped_eq : happening.dropped = [] := by rw [dropped, schedules]
  rcases (schedules.cases move sound).2 with ⟨_, _, accepts⟩ | ⟨_, _, refuses⟩
  · refine ⟨Or.inl ⟨_, schedules, accepts⟩, ?_, ?_⟩
    · rw [accepts.leaving_eq, taken_eq, dropped_eq]
      rfl
    · rw [accepts.joining_eq, accepts.leaving_eq, accepts.queue_eq, List.append_nil]
      exact List.perm_append_comm.trans (Alarm.perm_insert _ _).symm
  · exact .still taken_eq dropped_eq refuses.queue_eq refuses.nextOrder_eq

/-- A shutdown drops what is in the queue. -/
theorem ShutsDown.shifts (shutsDown : happening.ShutsDown) : happening.Shifts := by
  have drops := shutsDown.drops move sound
  refine ⟨Or.inr ⟨drops.joining_eq, drops.nextOrder_eq⟩, ?_, ?_⟩
  · rw [drops.leaving_eq, taken_of_gives shutsDown, dropped, shutsDown]
    rfl
  · rw [drops.joining_eq, drops.leaving_eq, drops.queue_eq, List.append_nil]
    rfl

/-- Of all calls, only those that set an alarm or shut the timer down change the queue. -/
theorem shifts_of_gives {command : Command ℓ} (gives : happening.deed.command? = some command) :
    happening.Shifts := by
  have taken_eq := taken_of_gives gives
  obtain ⟨_, done, serves, _, timer_eq, _⟩ := move.serves sound gives
  cases command with
  | schedule delay label body =>
      have schedules : happening.Schedules ⟨delay, label, body⟩ := gives
      exact schedules.shifts move sound
  | shutDown =>
      have shutsDown : happening.ShutsDown := gives
      exact shutsDown.shifts move sound
  | cancel slot =>
      refine .still taken_eq (by rw [dropped, gives]) ?_ ?_
      · rw [timer_eq]
        cases serves <;> rfl
      · rw [timer_eq]
        cases serves <;> rfl
  | _ =>
      refine .still taken_eq (by rw [dropped, gives]) ?_ ?_
      · rw [timer_eq]
        cases serves
        rfl
      · rw [timer_eq]
        cases serves
        rfl

/-- The alarm that the worker takes is the one that leaves the queue. -/
theorem shifts_of_take {alarm : Alarm (Job ℓ)} (deed_eq : happening.deed = .take alarm) :
    happening.Shifts := by
  have takes := takes_of_deed_eq move sound deed_eq
  rw [deed_eq] at move
  obtain ⟨_, _, _, after_eq⟩ := move.takes
  refine ⟨Or.inr ⟨takes.joining_eq, by rw [after_eq]⟩, ?_, ?_⟩
  · rw [takes.leaving_eq, taken, dropped, deed_eq]
    rfl
  · rw [takes.joining_eq, takes.leaving_eq, takes.queue_eq, List.append_nil]
    exact (List.perm_append_singleton alarm _).symm

theorem shifts : happening.Shifts := by
  cases deed_eq : happening.deed with
  | outside command => exact shifts_of_gives move sound (by rw [deed_eq, Deed.command?])
  | inside command => exact shifts_of_gives move sound (by rw [deed_eq, Deed.command?])
  | wait =>
      rw [deed_eq] at move
      have after_eq := move.waits
      refine .still ?_ ?_ (by rw [after_eq]; rfl) (by rw [after_eq]; rfl)
      · rw [taken, deed_eq]
      · rw [dropped, deed_eq, Deed.command?]
  | take alarm => exact shifts_of_take move sound deed_eq
  | look alarm =>
      rw [deed_eq] at move
      have timer_eq := move.timer_look.1
      refine .still ?_ ?_ (congrArg Timer.queue timer_eq) (congrArg Timer.nextOrder timer_eq)
      · rw [taken, deed_eq]
      · rw [dropped, deed_eq, Deed.command?]

/-- An alarm that is taken is in the hand of the worker until it is started or passed over. -/
theorem turns : happening.before.inHand.toList ++ happening.taken =
    happening.after.inHand.toList ++ (happening.started ++ happening.skipped) := by
  cases deed_eq : happening.deed with
  | outside command =>
      have gives : happening.deed.command? = some command := by rw [deed_eq, Deed.command?]
      simp only [taken, started, skipped, deed_eq, (move.answered sound gives).2.2, List.append_nil]
  | inside command =>
      have gives : happening.deed.command? = some command := by rw [deed_eq, Deed.command?]
      simp only [taken, started, skipped, deed_eq, (move.answered sound gives).2.2, List.append_nil]
  | wait =>
      rw [deed_eq] at move
      simp only [taken, started, skipped, deed_eq, move.waits, List.append_nil]
  | take alarm =>
      have takes := takes_of_deed_eq move sound deed_eq
      simp only [taken, started, skipped, deed_eq, takes.free, takes.held]
      rfl
  | look alarm =>
      rw [deed_eq] at move
      obtain ⟨_, _, held, free⟩ := move.timer_look
      simp only [taken, started, skipped, deed_eq, held, free]
      split <;> rfl

omit sound

/-- A cancelled alarm is let go. -/
theorem skips_of_isCancelled {alarm : Alarm (Job ℓ)} (deed_eq : happening.deed = .look alarm)
    (bit : happening.before.timer.isCancelled alarm.token = true) :
    happening.skipped = [alarm] ∧ happening.started = [] ∧
      happening.after = { happening.before with inHand := none } := by
  rw [deed_eq] at move
  refine ⟨?_, ?_, ?_⟩
  · simp only [skipped, deed_eq, bit, ↓reduceIte]
  · simp only [started, deed_eq, bit, ↓reduceIte]
  · rw [move.looks.2, start_of_cancelled bit]

include sound

/-- The script of any other alarm becomes the agenda. -/
theorem starts_of_not_isCancelled {alarm : Alarm (Job ℓ)} (deed_eq : happening.deed = .look alarm)
    (bit : happening.before.timer.isCancelled alarm.token = false) :
    happening.started = [alarm] ∧ happening.skipped = [] ∧ happening.after =
      { happening.before with
        inHand := none
        agenda := alarm.task.body.map .perform
        notes := .started alarm happening.before.timer.now :: happening.before.notes } := by
  rw [deed_eq] at move
  refine ⟨?_, ?_, ?_⟩
  · simp only [started, deed_eq, bit]
    rfl
  · simp only [skipped, deed_eq, bit]
    rfl
  · obtain ⟨held, after_eq⟩ := move.looks
    have rest := sound.waits (held ▸ Option.some_ne_none alarm)
    rw [after_eq, start_of_live rest bit]
    rfl

omit move sound

/-- Where tasks are trimmed, the same alarms are started and the same are passed over. -/
theorem Alike.turns_eq {other : Happening ℓ} (alike : happening.Alike other) :
    other.started.map (·.order) = happening.started.map (·.order) ∧
      other.skipped.map (·.order) = happening.skipped.map (·.order) := by
  obtain ⟨before, deed, after⟩ := happening
  obtain ⟨beforeOther, deedOther, afterOther⟩ := other
  obtain ⟨resembles, trims, _, _⟩ := alike
  cases trims with
  | outside => exact ⟨rfl, rfl⟩
  | inside => exact ⟨rfl, rfl⟩
  | wait => exact ⟨rfl, rfl⟩
  | take => exact ⟨rfl, rfl⟩
  | @look alarm trimmed trims =>
      cases trims
      cases resembles
      simp only [started, skipped, withTasks, Timer.withQueue, Timer.isCancelled]
      by_cases bit : before.timer.register.isCancelled alarm.token = true <;> simp [bit]

end Happening

theorem Retells.turns_eq {history others : List (Happening ℓ)} (retells : Retells history others) :
    (others.flatMap Happening.started).map (·.order) =
        (history.flatMap Happening.started).map (·.order) ∧
      (others.flatMap Happening.skipped).map (·.order) =
        (history.flatMap Happening.skipped).map (·.order) := by
  induction retells with
  | nil => exact ⟨rfl, rfl⟩
  | told _ alike ih =>
      simp only [List.flatMap_append, List.flatMap_singleton, List.map_append, ih.1, ih.2,
        alike.turns_eq.1, alike.turns_eq.2, and_self]
  | @omitted history others happening message _ aborts ih =>
      have started_eq : happening.started = [] := by rw [Happening.started, aborts]
      have skipped_eq : happening.skipped = [] := by rw [Happening.skipped, aborts]
      simp only [List.flatMap_append, List.flatMap_singleton, ih.1, ih.2, started_eq, skipped_eq,
        List.append_nil, and_self]

/-! ## What a history comes to -/

namespace Proceeds

variable {first last : Worker ℓ} {history : List (Happening ℓ)} {lags : Nat → Duration}

/-- What is held at the end and what was lost on the way add up to what was held at the beginning
and what was gained. -/
theorem perm_flatMap (proceeds : first.Proceeds history last) (start : first.Sound name) {β : Type}
    (held : Worker ℓ → List β) {gained lost : Happening ℓ → List β}
    (step : ∀ happening : Happening ℓ,
      happening.before.Move happening.deed happening.after → happening.before.Sound name →
        (held happening.before ++ gained happening).Perm
          (held happening.after ++ lost happening)) :
    (held first ++ history.flatMap gained).Perm (held last ++ history.flatMap lost) := by
  induction proceeds with
  | here => rfl
  | @move history before after deed earlier move ih =>
      have balance := step ⟨before, deed, after⟩ move (earlier.sound start)
      simp only [List.flatMap_append, List.flatMap_singleton]
      rw [← Multiset.coe_eq_coe] at ih balance ⊢
      simp only [← Multiset.coe_add] at ih balance ⊢
      calc (held first + (history.flatMap gained + gained ⟨before, deed, after⟩) : Multiset β)
          = held first + history.flatMap gained + gained ⟨before, deed, after⟩ := by abel
        _ = held before + gained ⟨before, deed, after⟩ + history.flatMap lost := by
            rw [ih]
            abel
        _ = held after + (history.flatMap lost + lost ⟨before, deed, after⟩) := by
            rw [balance]
            abel

/-- The alarms that joined the queue are numbered in the order in which they were set. -/
theorem numbers (proceeds : (opening name lags).Proceeds history last) :
    (history.flatMap Happening.joining).map (·.order) = List.range last.timer.nextOrder := by
  induction proceeds with
  | here => rfl
  | @move history before after deed earlier move ih =>
      have sound := earlier.sound (sound_opening name lags)
      have shifts : Happening.Shifts ⟨before, deed, after⟩ := Happening.shifts move sound
      rw [List.flatMap_append, List.map_append, ih, List.flatMap_singleton]
      rcases shifts.joins with ⟨job, _, accepts⟩ | ⟨joining_eq, nextOrder_eq⟩
      · rw [accepts.joining_eq, accepts.nextOrder_eq, List.range_succ]
        rfl
      · rw [joining_eq, nextOrder_eq]
        exact List.append_nil _

/-- A bit is cancelled if a call did it. -/
theorem isCancelled_iff (proceeds : (opening name lags).Proceeds history last)
    (token : CancelToken) :
    last.timer.isCancelled token = true ↔ ∃ call ∈ history, call.Cancels token := by
  induction proceeds with
  | here => simp [Timer.isCancelled, CancelRegister.isCancelled, opening, TimerRun.opening]
  | @move history before after deed earlier move ih =>
      rw [move.isCancelled_iff (earlier.sound (sound_opening name lags)) token, ih]
      simp only [List.mem_append, List.mem_singleton, or_and_right, exists_or, exists_eq_left]
      rfl

/-- A timer is shut down if a call did it. -/
theorem isShutDown_iff (proceeds : (opening name lags).Proceeds history last) :
    last.timer.isShutDown = true ↔ ∃ call ∈ history, call.ShutsDown := by
  induction proceeds with
  | here => simp [opening, TimerRun.opening]
  | @move history before after deed earlier move ih =>
      rw [move.isShutDown_iff (earlier.sound (sound_opening name lags)), ih]
      simp only [List.mem_append, List.mem_singleton, or_and_right, exists_or, exists_eq_left]
      rfl

theorem lawful {earlier : List (Happening ℓ)} {happening : Happening ℓ}
    (proceeds : (opening name lags).Proceeds earlier happening.before)
    (move : happening.before.Move happening.deed happening.after) :
    happening.Lawful name earlier := by
  have sound := proceeds.sound (sound_opening name lags)
  have shifts := Happening.shifts move sound
  have isOpen : (∀ call ∈ earlier, ¬call.ShutsDown) ↔
      happening.before.timer.isShutDown = false := by
    rw [← Bool.not_eq_true, proceeds.isShutDown_iff]
    push Not
    rfl
  constructor
  case le_now => exact move.le_now sound
  case accepts =>
    intro job schedules noShutdown inTime
    obtain ⟨now_eq, ⟨_, _, accepts⟩ | ⟨rejection, because, _⟩⟩ := schedules.cases move sound
    · exact accepts
    · cases because with
      | delayOutOfRange late => exact absurd (now_eq ▸ inTime) late
      | shutDown _ down => cases (isOpen.mp noShutdown).symm.trans down
  case refusesLate =>
    intro job schedules late
    obtain ⟨now_eq, ⟨inTime, _, _⟩ | ⟨rejection, because, refuses⟩⟩ := schedules.cases move sound
    · exact absurd inTime late
    · cases because with
      | delayOutOfRange => exact refuses
      | shutDown inTime => exact absurd inTime (now_eq ▸ late)
  case refusesClosed =>
    intro job schedules shutdown inTime
    have down := proceeds.isShutDown_iff.mpr shutdown
    obtain ⟨now_eq, ⟨_, stillOpen, _⟩ | ⟨rejection, because, refuses⟩⟩ :=
      schedules.cases move sound
    · cases stillOpen.symm.trans down
    · cases because with
      | delayOutOfRange late => exact absurd (now_eq ▸ inTime) late
      | shutDown => exact refuses
  case joins => exact shifts.joins.symm.imp And.left id
  case leaves => exact shifts.leaves
  case drops => exact fun shutsDown => shutsDown.drops move sound
  case takes =>
    intro alarm deed_eq
    have takes := Happening.takes_of_deed_eq move sound deed_eq
    exact ⟨takes, isOpen.mpr takes.isOpen⟩
  case skips =>
    intro alarm deed_eq cancelled
    exact Happening.skips_of_isCancelled move deed_eq
      ((proceeds.isCancelled_iff alarm.token).mpr cancelled)
  case starts =>
    intro alarm deed_eq spared
    refine Happening.starts_of_not_isCancelled move sound deed_eq ?_
    rw [← Bool.not_eq_true, proceeds.isCancelled_iff]
    push Not
    exact spared
  case fails =>
    intro message deed_eq
    rw [deed_eq] at move
    exact move.fails sound

end Proceeds

/-- What the history of a worker comes to that began with an empty queue. -/
structure Life (name : String) (lags : Nat → Duration) (history : List (Happening ℓ))
    (last : Worker ℓ) : Prop where
  lawful : ∀ earlier happening later, history = earlier ++ happening :: later →
    happening.Lawful name earlier
  /-- The alarms that joined the queue are numbered in the order in which they were set. -/
  numbers : (history.flatMap Happening.joining).map (·.order) = List.range last.timer.nextOrder
  /-- Each of them is still in the queue or has left it. -/
  queued : (history.flatMap Happening.joining).Perm
    (last.timer.queue ++ history.flatMap Happening.leaving)
  /-- None has left it twice, and none is back. -/
  once : ((last.timer.queue ++ history.flatMap Happening.leaving).map (·.order)).Nodup
  /-- An alarm that left the queue is in the hand of the worker, was started, was passed over, or
  was dropped. -/
  fates : (history.flatMap Happening.leaving).Perm (last.inHand.toList ++
    history.flatMap fun happening => happening.started ++ happening.skipped ++ happening.dropped)
  /-- An alarm that is cancelled is not started later. -/
  spared : ∀ earlier call later, history = earlier ++ call :: later →
    ∀ alarm, call.Cancels alarm.token → alarm ∉ later.flatMap Happening.started
  /-- The same would have happened if tasks had come to their ends just before they aborted, some
  of them or all. -/
  retold : ∀ commands, List.Forall₂ TrimsCommand (history.filterMap Happening.outside?) commands →
    ∃ others final, (opening name lags).Proceeds others final ∧
      others.filterMap Happening.outside? = commands ∧ Retells history others ∧
      last.Resembles final ∧
      (others.flatMap Happening.started).map (·.order) =
        (history.flatMap Happening.started).map (·.order) ∧
      (others.flatMap Happening.skipped).map (·.order) =
        (history.flatMap Happening.skipped).map (·.order)

/-- In every history of a worker, however the calls of other threads and of tasks come between its
moves: each accepted call adds one alarm to the queue, which leaves it once at most, and is then
started, passed over because it was cancelled, or dropped by a shutdown. The worker takes the first
alarm of the queue, not before its deadline and not after a shutdown, which makes the timer refuse
all later calls. A refused call changes neither queue nor numbers nor the shutdown. A task that
aborts has the same effect on all other alarms as one that ends there. -/
theorem Proceeds.life {history : List (Happening ℓ)} {last : Worker ℓ} {lags : Nat → Duration}
    (proceeds : (opening name lags).Proceeds history last) : Life name lags history last := by
  have start := sound_opening (ℓ := ℓ) name lags
  have queued := proceeds.perm_flatMap start (fun worker => worker.timer.queue)
    fun _ move sound => (Happening.shifts move sound).queued
  constructor
  case lawful =>
    rintro earlier happening later rfl
    obtain ⟨begins, move, _⟩ := proceeds.split
    exact begins.lawful move
  case numbers => exact proceeds.numbers
  case queued => exact queued
  case once =>
    have distinct : ((history.flatMap Happening.joining).map (·.order)).Nodup := by
      rw [proceeds.numbers]
      exact List.nodup_range
    exact (queued.map _).nodup_iff.mp distinct
  case fates =>
    refine proceeds.perm_flatMap start (fun worker => worker.inHand.toList)
      fun happening move sound => ?_
    rw [(Happening.shifts move sound).leaves, ← List.append_assoc, ← List.append_assoc,
      Happening.turns move sound]
  case spared =>
    rintro earlier call later rfl alarm cancels member
    obtain ⟨happening, among, started⟩ := List.mem_flatMap.mp member
    obtain ⟨between, behind, rfl⟩ := List.append_of_mem among
    rw [← List.cons_append, ← List.append_assoc] at proceeds
    obtain ⟨begins, _, _⟩ := proceeds.split
    have bit := (begins.isCancelled_iff alarm.token).mpr ⟨call, by simp, cancels⟩
    rw [Happening.started] at started
    split at started
    · rename_i deed_eq
      split at started
      · cases started
      · cases List.mem_singleton.mp started
        contradiction
    · cases started
  case retold =>
    intro commands trims
    obtain ⟨others, final, again, told, retells, resembles⟩ :=
      proceeds.retold start start.resembles trims
    exact ⟨others, final, again, told, retells, resembles, retells.turns_eq⟩

/-- A task sets an alarm, cancels another one and aborts. The alarm that it set is due before the
cancelled one, and its task aborts as well. A later task shuts the timer down, which drops the last
alarm, and then has a call refused. -/
theorem life_of_nested_calls : ∃ history last,
    (opening "timer" fun _ => .ofMillis 1 : Worker String).Proceeds history last ∧
      (history.flatMap Happening.started).map (·.order) = [0, 2, 3] ∧
      (history.flatMap Happening.skipped).map (·.order) = [1] ∧
      (history.flatMap Happening.dropped).map (·.order) = [4] ∧
      Life "timer" (fun _ => .ofMillis 1) history last := by
  have begins : (opening "timer" fun _ => .ofMillis 1 : Worker String).Proceeds [] _ := .here
  have setFirst := begins.move (.outside (.schedule (.ofMillis 10) "first"
    [.schedule .zero "inner" [.abort "failure"], .cancel 1, .abort "failure", .now]) rfl)
  have setSecond := setFirst.move (.outside (.schedule (.ofMillis 20) "second" [.now]) rfl)
  have first := ((setSecond.move (.wait rfl rfl rfl)).move (.take rfl rfl rfl)).move (.look rfl)
  have aborted := ((first.move (.inside rfl rfl)).move (.inside rfl rfl)).move (.inside rfl rfl)
  have inner := ((aborted.move (.take rfl rfl rfl)).move (.look rfl)).move (.inside rfl rfl)
  have skipped := (inner.move (.take rfl rfl rfl)).move (.look rfl)
  have setClosing := skipped.move (.outside (.schedule .zero "closing"
    [.shutDown, .schedule .zero "late" []]) rfl)
  have setLast := setClosing.move (.outside (.schedule .zero "last" []) rfl)
  have closing := (setLast.move (.take rfl rfl rfl)).move (.look rfl)
  have proceeds := (closing.move (.inside rfl rfl)).move (.inside rfl rfl)
  exact ⟨_, _, proceeds, rfl, rfl, rfl, proceeds.life⟩

end Worker

end TimedBatch
