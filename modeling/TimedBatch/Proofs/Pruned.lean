import TimedBatch.Proofs.Likeness

/-!
# Pipelines without dead alarms

An alarm that is not cancelled starts even if nobody waits for it any more, and its tick is worked
off without a consequence. A pipeline is pruned by dropping what such alarms leave behind: the
alarms and ticks of all generations that are not live, the tokens, and the traces of ticks in the
journal. What a task makes of a pipeline is, once pruned, determined by the pruned pipeline.
-/

namespace TimedBatch

variable {α : Type}

/-! ## What is dropped -/

/-- Whether a line of the log reports a stale tick. -/
def LogLine.isStaleTick (line : LogLine) : Bool :=
  line.message = "stale timer tick ignored"

/-- Whether an event comes from an alarm that starts, or from the tick of one. -/
def Event.isTicking : Event α → Bool
  | .fired => true
  | .entered (.tick _) => true
  | .announced (.tick _) => true
  | .handled (.tick _) => true
  | .log line => line.isStaleTick
  | _ => false

/-- Whether a signal is anything but the tick of a dead generation. -/
def Signal.isLive (live : UInt64 → Bool) : Signal α → Bool
  | .tick generation => live generation
  | _ => true

/-- A stage without the ticks of dead generations. Its work counter tells only whether somebody is
at work. -/
def Stage.pruned (live : UInt64 → Bool) (stage : Stage α) : Stage α :=
  { stage with
    signals := stage.signals.filter (Signal.isLive live)
    work := min stage.work 1
    alarm := stage.alarm.map fun _ => ⟨0⟩ }

def Alarm.pruned (alarm : Alarm UInt64) : Alarm UInt64 :=
  { alarm with token := ⟨0⟩ }

/-- A timer without the alarms of dead generations. None of its alarms is cancelled. -/
def Timer.pruned (live : UInt64 → Bool) (timer : Timer UInt64) : Timer UInt64 :=
  { timer with
    queue := (timer.queue.filter fun alarm => live alarm.task).map Alarm.pruned
    register := {} }

def Task.pruned : Task α → Task α
  | .answered (.ok _) handOff => .answered (.ok ⟨0⟩) handOff
  | .workOff _ => .workOff 1
  | task => task

namespace Pipeline

def pruned (live : UInt64 → Bool) (pipeline : Pipeline α) : Pipeline α :=
  { pipeline with
    stage := pipeline.stage.pruned live
    timer := pipeline.timer.pruned live
    detached := false
    agenda := pipeline.agenda.map Task.pruned
    journal := pipeline.journal.filter fun entry => !entry.event.isTicking }

/-- Whether a task neither looks at the timer nor works the queue off. -/
def isPlainTask : Task α → Bool
  | .setAlarm _ => false
  | .workOff _ => false
  | .advance _ => false
  | _ => true

/-- Two pipelines differ only in dead alarms, in tokens and in the traces of ticks. -/
def Agree (live : UInt64 → Bool) (pipeline other : Pipeline α) : Prop :=
  pipeline.pruned live = other.pruned live

end Pipeline

section Idempotence

variable {live fewer : UInt64 → Bool}

theorem Signal.isLive_of_isLive (narrow : ∀ generation, fewer generation = true →
    live generation = true) {signal : Signal α} (kept : signal.isLive fewer = true) :
    signal.isLive live = true := by
  cases signal with
  | tick generation => exact narrow generation kept
  | _ => rfl

theorem Stage.pruned_pruned (narrow : ∀ generation, fewer generation = true →
    live generation = true) (stage : Stage α) :
    (stage.pruned live).pruned fewer = stage.pruned fewer := by
  have signals_eq : (stage.signals.filter (Signal.isLive live)).filter (Signal.isLive fewer) =
      stage.signals.filter (Signal.isLive fewer) := by
    rw [List.filter_filter]
    refine List.filter_congr fun signal _ => ?_
    cases kept : signal.isLive fewer with
    | false => rfl
    | true => exact Signal.isLive_of_isLive narrow kept
  have work_eq : min (min stage.work 1) 1 = min stage.work 1 := by
    rw [Nat.min_assoc, Nat.min_self]
  have alarm_eq : (stage.alarm.map fun _ => CancelToken.mk 0).map (fun _ => CancelToken.mk 0) =
      stage.alarm.map fun _ => CancelToken.mk 0 := by
    rw [Option.map_map]
    rfl
  rw [Stage.pruned, Stage.pruned, Stage.pruned]
  dsimp only
  rw [signals_eq, work_eq, alarm_eq]

theorem Timer.pruned_pruned (narrow : ∀ generation, fewer generation = true →
    live generation = true) (timer : Timer UInt64) :
    (timer.pruned live).pruned fewer = timer.pruned fewer := by
  have queue_eq : (((timer.queue.filter fun alarm => live alarm.task).map Alarm.pruned).filter
      fun alarm => fewer alarm.task).map Alarm.pruned =
      (timer.queue.filter fun alarm => fewer alarm.task).map Alarm.pruned := by
    rw [List.filter_map, List.map_map, List.filter_filter]
    refine congrArg (List.map Alarm.pruned) (List.filter_congr fun alarm _ => ?_)
    change (fewer alarm.task && live alarm.task) = fewer alarm.task
    cases kept : fewer alarm.task with
    | false => rfl
    | true => exact narrow alarm.task kept
  rw [Timer.pruned, Timer.pruned, Timer.pruned]
  dsimp only
  rw [queue_eq]

theorem Task.pruned_pruned (task : Task α) : task.pruned.pruned = task.pruned := by
  cases task with
  | answered outcome handOff => cases outcome <;> rfl
  | _ => rfl

theorem Pipeline.pruned_pruned (narrow : ∀ generation, fewer generation = true →
    live generation = true) (pipeline : Pipeline α) :
    (pipeline.pruned live).pruned fewer = pipeline.pruned fewer := by
  have agenda_eq : (pipeline.agenda.map Task.pruned).map Task.pruned =
      pipeline.agenda.map Task.pruned := by
    rw [List.map_map]
    exact List.map_congr_left fun task _ => task.pruned_pruned
  have journal_eq : ∀ entries : List (Entry α),
      (entries.filter fun entry => !entry.event.isTicking).filter
        (fun entry => !entry.event.isTicking) =
      entries.filter fun entry => !entry.event.isTicking := by
    intro entries
    rw [List.filter_filter]
    exact List.filter_congr fun entry _ => Bool.and_self _
  rw [Pipeline.pruned, Pipeline.pruned, Pipeline.pruned]
  dsimp only
  rw [Stage.pruned_pruned narrow, Timer.pruned_pruned narrow, agenda_eq, journal_eq]

end Idempotence

namespace Pipeline

variable {live fewer : UInt64 → Bool} {pipeline other third : Pipeline α}

namespace Agree

theorem refl (live : UInt64 → Bool) (pipeline : Pipeline α) : Agree live pipeline pipeline :=
  Eq.refl _

theorem symm (agree : Agree live pipeline other) : Agree live other pipeline :=
  Eq.symm agree

theorem trans (agree : Agree live pipeline other) (next : Agree live other third) :
    Agree live pipeline third :=
  Eq.trans agree next

theorem of_pruned (live : UInt64 → Bool) (pipeline : Pipeline α) :
    Agree live pipeline (pipeline.pruned live) :=
  (pruned_pruned (fun _ kept => kept) pipeline).symm

/-- Where more alarms are dead, no more is to be compared. -/
theorem narrow (agree : Agree live pipeline other)
    (narrower : ∀ generation, fewer generation = true → live generation = true) :
    Agree fewer pipeline other := by
  have same := congrArg (Pipeline.pruned fewer) agree
  rw [pruned_pruned narrower, pruned_pruned narrower] at same
  exact same

/-! ## What two pipelines have in common -/

section Common

variable (agree : Agree live pipeline other)

include agree

/-- Whatever does not look at what is dropped sees no difference. -/
theorem view {β : Type} (view : Pipeline α → β)
    (blind : ∀ next, view (next.pruned live) = view next) : view pipeline = view other := by
  rw [← blind pipeline, ← blind other, agree]

theorem isActive_eq : pipeline.stage.isActive = other.stage.isActive :=
  agree.view (fun next => next.stage.isActive) fun _ => rfl

theorem generation_eq : pipeline.stage.generation = other.stage.generation :=
  agree.view (fun next => next.stage.generation) fun _ => rfl

theorem now_eq : pipeline.timer.now = other.timer.now :=
  agree.view (fun next => next.timer.now) fun _ => rfl

theorem nextOrder_eq : pipeline.timer.nextOrder = other.timer.nextOrder :=
  agree.view (fun next => next.timer.nextOrder) fun _ => rfl

/-! ## What keeps them alike -/

/-- What is done to all pipelines alike, without a look at what is dropped. -/
theorem map (change : Pipeline α → Pipeline α)
    (natural : ∀ next, (change next).pruned live = change (next.pruned live)) :
    Agree live (change pipeline) (change other) := by
  rw [Agree, natural, natural, agree]

theorem withStage {stage next : Stage α} (same : stage.pruned live = next.pruned live) :
    Agree live (pipeline.withStage stage) (other.withStage next) := by
  have both : (pipeline.pruned live).withStage (stage.pruned live) =
      (other.pruned live).withStage (next.pruned live) := by
    rw [same, agree]
  exact both

theorem stage_eq : pipeline.stage.pruned live = other.stage.pruned live :=
  congrArg Pipeline.stage agree

theorem change (change : Stage α → Stage α)
    (natural : ∀ stage, (change stage).pruned live = change (stage.pruned live)) :
    Agree live (pipeline.withStage (change pipeline.stage))
      (other.withStage (change other.stage)) := by
  refine agree.withStage ?_
  rw [natural, natural, agree.stage_eq]

theorem todo_of_pruned {tasks others : List (Task α)}
    (same : tasks.map Task.pruned = others.map Task.pruned) :
    Agree live (pipeline.todo tasks) (other.todo others) := by
  have added : ∀ (next : Pipeline α) (tasks : List (Task α)),
      (next.todo tasks).pruned live = (next.pruned live).todo (tasks.map Task.pruned) := by
    intro next tasks
    rw [Pipeline.pruned, agenda_todo, List.map_append]
    rfl
  rw [Agree, added, added, agree, same]

theorem todo (tasks : List (Task α)) : Agree live (pipeline.todo tasks) (other.todo tasks) :=
  agree.todo_of_pruned rfl

theorem note (event : Event α) : Agree live (pipeline.note event) (other.note event) := by
  cases ticking : event.isTicking with
  | true =>
      have silent : ∀ next : Pipeline α, (next.note event).pruned live = next.pruned live := by
        intro next
        rw [Pipeline.pruned, Pipeline.note, List.filter_cons_of_neg (by rw [ticking]; decide)]
        rfl
      rw [Agree, silent, silent, agree]
  | false =>
      refine agree.map (Pipeline.note · event) fun next => ?_
      rw [Pipeline.pruned, Pipeline.note, List.filter_cons_of_pos (by rw [ticking]; rfl)]
      rfl

theorem cancelAlarm : Agree live pipeline.cancelAlarm other.cancelAlarm := by
  refine agree.map Pipeline.cancelAlarm fun next => ?_
  have alarm_eq : (next.pruned live).stage.alarm =
      next.stage.alarm.map fun _ => CancelToken.mk 0 := rfl
  rw [Pipeline.cancelAlarm, Pipeline.cancelAlarm, alarm_eq]
  cases next.stage.alarm <;> rfl

theorem queue (signal : Signal α) :
    Agree live (pipeline.withStage (queued pipeline.stage signal))
      (other.withStage (queued other.stage signal)) := by
  have queued_eq : ∀ stage : Stage α, (queued stage signal).pruned live =
      { stage.pruned live with
        signals := (stage.pruned live).signals ++ [signal].filter (Signal.isLive live)
        work := 1 } := by
    intro stage
    rw [Stage.pruned, queued, List.filter_append, Nat.min_eq_right (Nat.le_add_left 1 _)]
    rfl
  refine agree.withStage ?_
  rw [queued_eq, queued_eq, agree.stage_eq]

end Common

end Agree

theorem face_pruned (live : UInt64 → Bool) (pipeline : Pipeline α) :
    (pipeline.pruned live).face = pipeline.face := by
  have unarmed_eq : (pipeline.pruned live).stage.alarm.isNone = pipeline.stage.alarm.isNone :=
    Option.isNone_map
  have idle_eq : decide ((pipeline.pruned live).stage.work = 0) =
      decide (pipeline.stage.work = 0) := by
    refine decide_eq_decide.mpr ?_
    change min pipeline.stage.work 1 = 0 ↔ pipeline.stage.work = 0
    omega
  rw [face, face, unarmed_eq, idle_eq]
  rfl

theorem agree_likeness (live : UInt64 → Bool) : Likeness (@Agree α live) where
  face_eq agree := agree.view face (face_pruned live)
  touch := by
    intro pipeline other agree touch
    cases touch with
    | note event => exact agree.note event
    | todo tasks => exact agree.todo tasks
    | disarm => exact agree.cancelAlarm
    | queue signal => exact agree.queue signal
    | _ => exact agree.map (Pipeline.touch · _) fun _ => rfl
  inform := by
    intro pipeline other agree
    rw [agree.view Pipeline.information fun _ => rfl]
    exact agree.note _

namespace Agree

section Tasks

variable (agree : Agree live pipeline other)

include agree

theorem hold (tasks : List (Task α)) : Agree live (pipeline.hold tasks) (other.hold tasks) :=
  (agree_likeness live).hold agree tasks

theorem takeIn (item : α) : Agree live (pipeline.takeIn item) (other.takeIn item) := by
  have received_eq := agree.view (fun next => next.stage.ledger.receiveItem) fun _ => rfl
  refine (agree_likeness live).takeIn agree item fun _ => ?_
  rw [received_eq]
  cases other.stage.ledger.receiveItem with
  | none => exact .inl ⟨rfl, rfl⟩
  | some ledger =>
      exact .inr ⟨ledger, ledger, rfl, rfl,
        agree.change (fun stage => { stage with ledger := ledger }) fun _ => rfl⟩

theorem handle (signal : Signal α) : Agree live (pipeline.handle signal) (other.handle signal) :=
  (agree_likeness live).handle agree signal fun item _ => agree.takeIn item

theorem firstRequest (producer : Nat) :
    Agree live (pipeline.firstRequest producer) (other.firstRequest producer) := by
  have credit_eq := agree.view (fun next => next.stage.ledger.firstRequest) fun _ => rfl
  rw [Pipeline.firstRequest, Pipeline.firstRequest, agree.isActive_eq, credit_eq]
  split
  · cases other.stage.ledger.firstRequest with
    | none => exact agree
    | some claim =>
        exact (agree.change (fun stage => { stage with ledger := claim.2 }) fun _ => rfl).todo _
  · exact agree

theorem request (batches : Amount) :
    Agree live (pipeline.request batches) (other.request batches) := by
  have asked := agree.change (fun stage => { stage with ledger := stage.ledger.ask batches })
    fun _ => rfl
  have producer_eq := asked.view (fun next => next.stage.producer) fun _ => rfl
  have short_eq := asked.view (fun next => next.stage.ledger.topUp) fun _ => rfl
  rw [Pipeline.request, Pipeline.request]
  split
  · exact agree
  · dsimp only
    rw [asked.isActive_eq, producer_eq, short_eq]
    split
    · split
      · rename_i producer credit ledger _ _
        have credited := (asked.change (fun stage => { stage with ledger := ledger })
          fun _ => rfl).todo [.call (.request producer credit)]
        rw [producer_eq] at credited
        exact credited
      · exact asked
    · exact asked

theorem enter (call : Inbound α) : Agree live (pipeline.enter call) (other.enter call) :=
  (agree_likeness live).enter agree call fun batches _ => (agree.note _).request batches

theorem accepted (token answer : CancelToken) (handOff : Option (HandOff α)) :
    Agree live (pipeline.answered (.ok token) handOff) (other.answered (.ok answer) handOff) := by
  have armed_eq : ∀ (stage : Stage α) (token : CancelToken),
      { stage with alarm := some token }.pruned live =
        { stage.pruned live with alarm := some ⟨0⟩ } :=
    fun _ _ => rfl
  refine (agree_likeness live).accepted handOff (agree.withStage ?_)
  rw [armed_eq, armed_eq, agree.stage_eq]

/-- Every task that neither looks at the timer nor works the queue off does the same to pipelines
that agree. -/
theorem perform {task : Task α} (plain : isPlainTask task = true) :
    Agree live (pipeline.perform task) (other.perform task.pruned) := by
  cases task with
  | enter call => exact agree.enter call
  | firstRequest producer => exact agree.firstRequest producer
  | answered outcome handOff =>
      cases outcome with
      | ok token => exact agree.accepted token ⟨0⟩ handOff
      | error rejection => exact (agree_likeness live).refused agree rejection handOff
  | workOff missed => cases plain
  | setAlarm handOff => cases plain
  | advance instant => cases plain
  | _ => exact (agree_likeness live).perform agree rfl

end Tasks

end Agree

end Pipeline

end TimedBatch
