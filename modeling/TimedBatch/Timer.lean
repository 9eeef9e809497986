import TimedBatch.Duration
import TimedBatch.Log
import TimedBatch.StreamError
import TimedBatch.Timer.CancelToken

/-!
# Timers

A timer keeps alarms, each of which starts one task once. Alarms are kept in the order of their
deadlines, and alarms of one deadline in the order in which they were set. Setting an alarm hands
out the token of its cancellation bit; a cancelled alarm stays in the queue and is passed over.

The simulated timer has a clock that stands still until it is moved by hand. The worker timer reads
a clock that runs on its own, and can represent only part of the deadlines. A timer that is shut
down drops its queue and refuses every alarm.
-/

namespace TimedBatch

/-- A task to start at a deadline. -/
structure Alarm (β : Type) where
  deadline : Duration
  order : Nat
  token : CancelToken
  task : β

namespace Alarm

variable {β : Type}

/-- Whether one alarm is due before another. -/
def precedes (first second : Alarm β) : Bool :=
  first.deadline < second.deadline ||
    (first.deadline = second.deadline && first.order < second.order)

def insert (alarm : Alarm β) : List (Alarm β) → List (Alarm β)
  | [] => [alarm]
  | first :: rest =>
      if alarm.precedes first then alarm :: first :: rest else first :: insert alarm rest

end Alarm

/-- How the clock of a timer moves. -/
inductive TimerStyle where
  | simulated
  | worker (name : String)
  deriving DecidableEq

/-- What a new timer logs: a worker begins its work. -/
def TimerStyle.openingLine? : TimerStyle → Option LogLine
  | .simulated => none
  | .worker name => some (.workerStarted name)

structure Timer (β : Type) where
  style : TimerStyle := .simulated
  now : Duration := .zero
  queue : List (Alarm β) := []
  nextOrder : Nat := 0
  register : CancelRegister := {}
  isShutDown : Bool := false

namespace Timer

variable {β : Type}

/-- The name of the worker that starts the tasks. -/
def workerName (timer : Timer β) : String :=
  match timer.style with
  | .simulated => "virtual-timer"
  | .worker name => name

/-- The instant from which on the clock of a worker cannot represent deadlines. -/
def unrepresentableInstant : Duration :=
  .ofParts (2 ^ 63 - 1) 0

/-- The deadline of an alarm that is set now. A simulated clock has a last instant, at which later
deadlines are cut off. -/
def deadline? (timer : Timer β) (delay : Duration) : Option Duration :=
  match timer.style with
  | .simulated => some (timer.now + delay)
  | .worker _ =>
      if timer.now + delay < unrepresentableInstant then some (timer.now + delay) else none

/-- Set an alarm. A deadline that cannot be represented is refused even by a timer that is shut
down, and a refusal leaves the timer as it was. -/
def schedule (timer : Timer β) (delay : Duration) (task : β) :
    Except TimerRejection CancelToken × Timer β :=
  match timer.deadline? delay with
  | none => (.error (.delayOutOfRange timer.workerName), timer)
  | some deadline =>
      if timer.isShutDown then (.error (.shutDown timer.workerName), timer)
      else
        let (token, register) := timer.register.make
        let alarm : Alarm β := ⟨deadline, timer.nextOrder, token, task⟩
        (.ok token,
          { timer with
            queue := alarm.insert timer.queue
            nextOrder := timer.nextOrder + 1
            register := register })

def isCancelled (timer : Timer β) (token : CancelToken) : Bool :=
  timer.register.isCancelled token

/-- Cancel the bit of a token. The answer says whether it was not cancelled before. -/
def cancel (timer : Timer β) (token : CancelToken) : Bool × Timer β :=
  let (first, register) := timer.register.cancel token
  (first, { timer with register := register })

/-- Make a token that belongs to no alarm. -/
def strayToken (timer : Timer β) : CancelToken × Timer β :=
  let (token, register) := timer.register.make
  (token, { timer with register := register })

/-- How many alarms are queued and not cancelled. -/
def pending (timer : Timer β) : Nat :=
  timer.queue.countP fun alarm => !timer.isCancelled alarm.token

/-- Refuse all further alarms and drop the queued ones, without cancelling them. -/
def shutDown (timer : Timer β) : Timer β :=
  { timer with isShutDown := true, queue := [] }

/-- What is logged when the timer is shut down: a worker ends its work, once. -/
def closingLine? (timer : Timer β) : Option LogLine :=
  match timer.style with
  | .simulated => none
  | .worker name => if timer.isShutDown then none else some (.workerShuttingDown name)

/-- Take the first alarm of the queue if it is due at an instant, and move the clock up to its
deadline. -/
def takeDue (timer : Timer β) (instant : Duration) : Option (Alarm β × Timer β) :=
  match timer.queue with
  | [] => none
  | alarm :: rest =>
      if alarm.deadline ≤ instant then
        some (alarm, { timer with now := max timer.now alarm.deadline, queue := rest })
      else none

def setClock (timer : Timer β) (instant : Duration) : Timer β :=
  { timer with now := instant }

/-- Let some time pass, wait until the first alarm of the queue is due, and take it. -/
def awaitFirst (timer : Timer β) (lag : Duration) : Option (Alarm β × Timer β) :=
  match timer.queue with
  | [] => none
  | alarm :: rest =>
      some (alarm, { timer with now := max (timer.now + lag) alarm.deadline, queue := rest })

/-- The fields of a timer. A simulated timer counts the cancelled alarms in its queue, too. -/
def record (timer : Timer β) : String :=
  match timer.style with
  | .simulated =>
      "VirtualTimer \x7b now: " ++ timer.now.text ++ ", scheduled: " ++
        toString timer.queue.length ++ ", shutdown: " ++ toString timer.isShutDown ++ " \x7d"
  | .worker name => "ThreadTimer \x7b name: " ++ Text.quote name ++ ", .. \x7d"

end Timer

end TimedBatch
