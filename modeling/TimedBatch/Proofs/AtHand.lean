import TimedBatch.Proofs.Verdict
import TimedBatch.Proofs.Watch

/-!
# The work at hand

The tasks of the signal that is being worked off stand on the agenda above the work on the queue,
among what collaborators do in the middle of calls. Only a few of them ever wait for one another,
such as the report of an error for the discarding before it. So whoever looks at the stage from the
middle of a call knows what is left to be done: before the consumer is told of an end, or handed a
batch, the open batch was taken out, and no other task has items of it.
-/

namespace TimedBatch

variable {α : Type}

namespace Task

/-- Whether a task of a signal may be done while another one of the same signal waits for it. -/
def mayPrecede : Task α → Task α → Bool
  | .call (.discard _), .call (.discard _) => true
  | .call (.discard _), .endWith _ _ => true
  | .call (.discard _), .reportError _ _ => true
  | .call (.schedule _ _), .answered _ _ => true
  | .call (.next _), .finish => true
  | _, _ => false

/-- Whether a task may make room for tasks of a signal: it begins to work a signal off, or goes on
with it without a call. -/
def opens (task : Task α) : Bool :=
  task.isWorkOff || (task.isInner && task.outbound?.isNone)

/-- Whether a task is put on the agenda only once the open batch was taken out. -/
def isBare : Task α → Bool
  | .setAlarm handOff => handOff.isSome
  | .answered _ handOff => handOff.isSome
  | .reportError _ _ => true
  | .finish => true
  | .call (.next _) => true
  | .call (.error _) => true
  | .call .complete => true
  | _ => false

theorem isInner_of_isBare {task : Task α} (bare : task.isBare = true) : task.isInner = true := by
  cases task with
  | call call => cases call <;> first | rfl | cases bare
  | _ => first | rfl | cases bare

theorem isBare_of_isFree {task : Task α} (free : task.isFree = true) : task.isBare = false := by
  cases task with
  | call call => cases call <;> first | rfl | cases free
  | _ => first | rfl | cases free

theorem mayPrecede_of_opens {task : Task α} (opening : task.opens = true) (other : Task α) :
    task.mayPrecede other = false := by
  cases task with
  | call call => cases call <;> cases opening
  | _ => rfl

end Task

namespace Pipeline

/-! ## One task after the other -/

/-- A task of a signal stands above another one only if it may precede it. -/
def Chained (agenda : List (Task α)) : Prop :=
  agenda.Pairwise fun upper lower =>
    upper.isInner = true → lower.isInner = true → upper.mayPrecede lower = true

namespace Chained

variable {agenda tasks : List (Task α)}

theorem of_forall (none : ∀ task ∈ tasks, task.isInner = false) : Chained tasks := by
  refine List.pairwise_of_forall_mem_list fun upper member lower _ inner => ?_
  rw [none upper member] at inner
  cases inner

theorem singleton (task : Task α) : Chained [task] :=
  List.pairwise_singleton _ _

theorem append (upper : Chained tasks) (lower : Chained agenda)
    (apart : (∀ task ∈ tasks, task.isInner = false) ∨ ∀ task ∈ agenda, task.isInner = false) :
    Chained (tasks ++ agenda) := by
  refine List.pairwise_append.mpr ⟨upper, lower, fun above member below beneath first second => ?_⟩
  rcases apart with none | none
  · rw [none above member] at first
    cases first
  · rw [none below beneath] at second
    cases second

theorem tail {task : Task α} (chained : Chained (task :: agenda)) : Chained agenda :=
  (List.pairwise_cons.mp chained).2

/-- Nothing that belongs to the signal waits beneath a task that may not precede it. -/
theorem isInner_below {task : Task α} (chained : Chained (task :: agenda))
    (inner : task.isInner = true) (last : ∀ other, task.mayPrecede other = false) :
    ∀ other ∈ agenda, other.isInner = false := by
  intro other member
  by_contra belongs
  have precedes := (List.pairwise_cons.mp chained).1 other member inner
    ((Bool.not_eq_false _).mp belongs)
  rw [last other] at precedes
  cases precedes

end Chained

section Work

variable {hook : DiscardHook} {stage next : Stage α} {timer clock : Timer UInt64}
  {events : List (Event α)} {tasks : List (Task α)}

theorem chained_hookTasks (items : List α) : Chained (hookTasks hook items) := by
  refine List.pairwise_map.mpr (List.pairwise_of_forall fun _ _ _ _ => ?_)
  rfl

/-- What may wait for the discarding of items may stand beneath it. -/
theorem chained_hookTasks_concat (items : List α) {last : Task α}
    (waits : ∀ call : Discard α, (Task.call (.discard call)).mayPrecede last = true) :
    Chained (hookTasks hook items ++ [last]) := by
  refine List.pairwise_append.mpr ⟨chained_hookTasks items, Chained.singleton last, ?_⟩
  intro above member below beneath _ _
  obtain ⟨call, _, rfl⟩ := List.mem_map.mp member
  rw [List.mem_singleton.mp beneath]
  exact waits call

theorem Delivery.chained {handOff : HandOff α}
    (delivery : Delivery hook stage timer handOff next clock events tasks) : Chained tasks := by
  cases delivery with
  | late ended => exact chained_hookTasks handOff.batch
  | unpaid active unpaid => exact chained_hookTasks_concat handOff.batch fun _ => rfl
  | paid active paid =>
      rw [closingTasks]
      split
      · exact List.pairwise_pair.mpr fun _ _ => rfl
      · exact .singleton _

theorem Failure.chained {error : StreamError} {origin : Origin}
    (failure : Failure hook stage timer error origin next clock events tasks) : Chained tasks := by
  cases failure with
  | late ended => exact List.Pairwise.nil
  | ended active => exact chained_hookTasks_concat stage.batch fun _ => rfl

theorem Dispatch.chained {signal : Signal α}
    (dispatch : Dispatch hook stage timer signal next clock events tasks) : Chained tasks := by
  cases dispatch with
  | itemUnrequested active unrequested => exact List.pairwise_pair.mpr fun _ _ => rfl
  | completed active filled delivery => exact delivery.chained
  | failed failure => exact failure.chained
  | cancelledEmpty empty => exact chained_hookTasks []
  | cancelled filled => exact chained_hookTasks stage.batch
  | _ => first | exact List.Pairwise.nil | exact .singleton _

end Work

section Step

variable {config : Config} {pipeline : Pipeline α} {task : Task α} {stage : Stage α}
  {timer : Timer UInt64} {events : List (Event α)} {tasks : List (Task α)}

theorem isInner_wakeTasks (stage : Stage α) : ∀ task ∈ wakeTasks stage, task.isInner = false := by
  rw [wakeTasks]
  split
  · exact List.forall_mem_singleton.mpr rfl
  · exact List.forall_mem_nil _

theorem isInner_cancelProducerTasks (pipeline : Pipeline α) :
    ∀ task ∈ pipeline.cancelProducerTasks, task.isInner = false :=
  forall_cancelProducerTasks pipeline fun _ => rfl

/-- Tasks of a signal are put on the agenda by a task that opens it, and they wait for one another
only where they may. -/
theorem Effect.chained (effect : Effect pipeline task stage timer events tasks) :
    Chained tasks ∧ ((∀ task ∈ tasks, task.isInner = false) ∨ task.opens = true) := by
  have apart : (∀ task ∈ tasks, task.isInner = false) →
      Chained tasks ∧ ((∀ task ∈ tasks, task.isInner = false) ∨ task.opens = true) :=
    fun none => ⟨.of_forall none, Or.inl none⟩
  cases effect with
  | free aside inert allFree =>
      exact apart fun task member => (not_isInner_of_isFree (allFree task member)).1
  | timerClosed =>
      refine apart fun task member => ?_
      obtain ⟨line, _, rfl⟩ := List.mem_map.mp member
      rfl
  | called actions =>
      exact apart fun task member => (not_isInner_of_isFree (isFree_acts actions task member)).1
  | enteredSignal announces => exact apart (isInner_wakeTasks _)
  | announced => exact apart (isInner_wakeTasks _)
  | cancelled active =>
      exact apart (List.forall_mem_append.mpr
        ⟨isInner_cancelProducerTasks pipeline, List.forall_mem_singleton.mpr rfl⟩)
  | handled first dispatch =>
      exact ⟨dispatch.chained.append (.singleton _) (Or.inr (List.forall_mem_singleton.mpr rfl)),
        Or.inr rfl⟩
  | alarmSet => exact ⟨List.pairwise_pair.mpr fun _ _ => rfl, Or.inr rfl⟩
  | acceptedHandOff delivery => exact ⟨delivery.chained, Or.inr rfl⟩
  | refused => exact ⟨.singleton _, Or.inr rfl⟩
  | refusedHandOff => exact ⟨chained_hookTasks_concat _ fun _ => rfl, Or.inr rfl⟩
  | failed failure => exact ⟨failure.chained, Or.inr rfl⟩
  | reportedProducer => exact ⟨.singleton _, Or.inr rfl⟩
  | reportedStage =>
      refine ⟨Chained.append (.of_forall (isInner_cancelProducerTasks pipeline)) (.singleton _)
        (Or.inl (isInner_cancelProducerTasks pipeline)), Or.inr rfl⟩
  | finished active => exact ⟨.singleton _, Or.inr rfl⟩
  | _ => exact apart (by simp [Task.isInner])

theorem isInner_below_of_opens (order : InOrder stage (task :: tasks))
    (chained : Chained (task :: tasks)) (opening : task.opens = true) :
    ∀ other ∈ tasks, other.isInner = false := by
  rw [Task.opens, Bool.or_eq_true, Bool.and_eq_true] at opening
  rcases opening with works | ⟨inner, silent⟩
  · intro other member
    have outer := (List.pairwise_cons.mp order.beneath).1 other member works
    rw [Task.isOuter, Bool.and_eq_true, Bool.not_eq_true'] at outer
    exact outer.1
  · refine chained.isInner_below inner (Task.mayPrecede_of_opens ?_)
    rw [Task.opens, inner, silent, Bool.and_true, Bool.or_true]

theorem Chained.step (chained : Chained (task :: pipeline.agenda))
    (order : InOrder pipeline.stage (task :: pipeline.agenda))
    (effect : Effect pipeline task stage timer events tasks) :
    Chained (tasks ++ pipeline.agenda) := by
  obtain ⟨added, none | opening⟩ := effect.chained
  · exact added.append chained.tail (Or.inl none)
  · exact added.append chained.tail (Or.inr (isInner_below_of_opens order chained opening))

end Step

theorem Reachable.chained {config : Config} {setup : Setup α} {pipeline : Pipeline α}
    (reachable : Reachable config setup pipeline) : Chained pipeline.agenda :=
  reachable.preserve_of_steady (fun _ agenda _ => Chained agenda) (fun _ => List.Pairwise.nil)
    (fun _ _ action _ => .singleton (.act action))
    (fun _ _ _ _ _ _ steady effect chained => chained.step steady.order effect)

/-! ## The batch is out -/

section Work

variable {hook : DiscardHook} {stage next : Stage α} {timer clock : Timer UInt64}
  {events : List (Event α)} {tasks : List (Task α)}

theorem isBare_hookTasks {items : List α} :
    ∀ task ∈ hookTasks hook items, task.isBare = false := by
  intro task member
  obtain ⟨call, _, rfl⟩ := List.mem_map.mp member
  rfl

/-- None of some tasks is bare, so nothing is asked of the open batch. -/
theorem bare_of_forall {batch : List α} (none : ∀ task ∈ tasks, task.isBare = false) :
    ∀ task ∈ tasks, task.isBare = true → batch = [] := by
  intro task member bare
  rw [none task member] at bare
  cases bare

/-- A signal that makes room for a bare task takes the open batch out. -/
theorem Dispatch.bare {signal : Signal α}
    (dispatch : Dispatch hook stage timer signal next clock events tasks) :
    ∀ task ∈ tasks, task.isBare = true → next.batch = [] := by
  cases dispatch with
  | subscribedAgain idle => exact List.forall_mem_nil _
  | subscribed active unset => exact bare_of_forall (List.forall_mem_singleton.mpr rfl)
  | itemLate ended => exact bare_of_forall (List.forall_mem_singleton.mpr rfl)
  | itemUnrequested active unrequested => exact bare_of_forall (by simp [Task.isBare])
  | itemTaken active received room => exact List.forall_mem_nil _
  | tickLate ended => exact List.forall_mem_nil _
  | tickStale active stale => exact List.forall_mem_nil _
  | tickEmpty active empty => exact bare_of_forall (List.forall_mem_singleton.mpr rfl)
  | completedLate ended => exact List.forall_mem_nil _
  | completedEmpty active empty => exact fun _ _ _ => empty
  | completed active filled delivery => exact fun _ _ _ => delivery.batch_eq
  | failed failure =>
      cases failure with
      | late ended => exact List.forall_mem_nil _
      | ended active => exact fun _ _ _ => rfl
  | _ => exact fun _ _ _ => rfl

end Work

section Step

variable {pipeline : Pipeline α} {task : Task α} {stage : Stage α} {timer : Timer UInt64}
  {events : List (Event α)} {tasks : List (Task α)}

/-- The open batch grows only where the queue is worked off. -/
theorem Effect.batch_eq (effect : Effect pipeline task stage timer events tasks) :
    stage.batch = pipeline.stage.batch ∨ stage.batch = [] ∨ task.isWorkOff = true := by
  cases effect with
  | swept aside gone => exact Or.inr (Or.inl rfl)
  | handled first dispatch => exact Or.inr (Or.inr rfl)
  | acceptedHandOff delivery => exact Or.inl delivery.batch_eq
  | failed failure =>
      cases failure with
      | late ended => exact Or.inl rfl
      | ended active => exact Or.inr (Or.inl rfl)
  | _ => exact Or.inl rfl

theorem Effect.bare (effect : Effect pipeline task stage timer events tasks)
    (empty : task.isBare = true → pipeline.stage.batch = []) :
    ∀ task ∈ tasks, task.isBare = true → stage.batch = [] := by
  cases effect with
  | free aside inert allFree =>
      exact bare_of_forall fun task member => Task.isBare_of_isFree (allFree task member)
  | timerClosed =>
      refine bare_of_forall fun task member => ?_
      obtain ⟨line, _, rfl⟩ := List.mem_map.mp member
      rfl
  | called actions =>
      exact bare_of_forall fun task member =>
        Task.isBare_of_isFree (isFree_acts actions task member)
  | enteredSignal announces =>
      refine bare_of_forall fun task member => Bool.eq_false_iff.mpr fun bare => ?_
      cases (isInner_wakeTasks _ task member).symm.trans (Task.isInner_of_isBare bare)
  | announced =>
      refine bare_of_forall fun task member => Bool.eq_false_iff.mpr fun bare => ?_
      cases (isInner_wakeTasks _ task member).symm.trans (Task.isInner_of_isBare bare)
  | cancelled active =>
      exact bare_of_forall (List.forall_mem_append.mpr
        ⟨forall_cancelProducerTasks pipeline fun _ => rfl, List.forall_mem_singleton.mpr rfl⟩)
  | handled first dispatch =>
      exact List.forall_mem_append.mpr ⟨dispatch.bare, List.forall_mem_singleton.mpr nofun⟩
  | @alarmSet handOff =>
      exact List.forall_mem_cons.mpr ⟨nofun, List.forall_mem_singleton.mpr empty⟩
  | acceptedHandOff delivery => exact fun _ _ _ => delivery.batch_eq.trans (empty rfl)
  | refused => exact bare_of_forall (List.forall_mem_singleton.mpr rfl)
  | refusedHandOff =>
      exact bare_of_forall (List.forall_mem_append.mpr
        ⟨isBare_hookTasks, List.forall_mem_singleton.mpr rfl⟩)
  | failed failure =>
      cases failure with
      | late ended => exact List.forall_mem_nil _
      | ended active => exact fun _ _ _ => rfl
  | reportedProducer => exact fun _ _ _ => empty rfl
  | reportedStage => exact fun _ _ _ => empty rfl
  | finished active => exact fun _ _ _ => empty rfl
  | _ => exact bare_of_forall (by simp [Task.isBare])

end Step

section Work

variable {hook : DiscardHook} {stage next : Stage α} {timer clock : Timer UInt64}
  {events : List (Event α)} {tasks : List (Task α)}

/-- A stage tells how many items are in its open batch. -/
def IsCounted (stage : Stage α) : Prop :=
  stage.buffered = stage.batch.length

theorem Delivery.isCounted {handOff : HandOff α}
    (delivery : Delivery hook stage timer handOff next clock events tasks)
    (counted : IsCounted stage) : IsCounted next := by
  cases delivery <;> exact counted

theorem Failure.isCounted {error : StreamError} {origin : Origin}
    (failure : Failure hook stage timer error origin next clock events tasks)
    (counted : IsCounted stage) : IsCounted next := by
  cases failure with
  | late ended => exact counted
  | ended active => rfl

theorem Dispatch.isCounted {signal : Signal α}
    (dispatch : Dispatch hook stage timer signal next clock events tasks)
    (counted : IsCounted stage) : IsCounted next := by
  cases dispatch with
  | itemTaken active received room => rfl
  | itemLast active received full => rfl
  | tickClosing active filled => rfl
  | completed active filled delivery => exact delivery.isCounted rfl
  | failed failure => exact failure.isCounted counted
  | cancelledEmpty empty => rfl
  | cancelled filled => rfl
  | _ => exact counted

end Work

theorem Effect.isCounted {pipeline : Pipeline α} {task : Task α} {stage : Stage α}
    {timer : Timer UInt64} {events : List (Event α)} {tasks : List (Task α)}
    (effect : Effect pipeline task stage timer events tasks) (counted : IsCounted pipeline.stage) :
    IsCounted stage := by
  cases effect with
  | swept aside gone => rfl
  | handled first dispatch => exact dispatch.isCounted counted
  | acceptedHandOff delivery => exact delivery.isCounted counted
  | failed failure => exact failure.isCounted counted
  | _ => exact counted

section Step

variable {pipeline : Pipeline α} {task : Task α} {stage : Stage α} {timer : Timer UInt64}
  {events : List (Event α)} {tasks : List (Task α)}

end Step

section Reachable

variable {config : Config} {setup : Setup α} {pipeline : Pipeline α}

end Reachable

section Step

variable {config : Config} {pipeline : Pipeline α} {task : Task α} {stage : Stage α}
  {timer : Timer UInt64} {events : List (Event α)} {tasks : List (Task α)}

theorem not_mem_hookTasks {hook : DiscardHook} {items : List α}
    (other : ∀ call : Discard α, task ≠ .call (.discard call)) : task ∉ hookTasks hook items := by
  intro member
  obtain ⟨call, _, same⟩ := List.mem_map.mp member
  exact other call same.symm

theorem Delivery.not_mem_complete {hook : DiscardHook} {stage next : Stage α}
    {clock : Timer UInt64} {handOff : HandOff α}
    (delivery : Delivery hook stage timer handOff next clock events tasks) :
    .call .complete ∉ tasks := by
  cases delivery with
  | late ended => exact not_mem_hookTasks nofun
  | unpaid active unpaid =>
      exact List.not_mem_append (not_mem_hookTasks nofun) (by simp)
  | paid active paid =>
      rw [closingTasks]
      split <;> simp

theorem Failure.not_mem_complete {hook : DiscardHook} {stage next : Stage α}
    {clock : Timer UInt64} {error : StreamError} {origin : Origin}
    (failure : Failure hook stage timer error origin next clock events tasks) :
    .call .complete ∉ tasks := by
  cases failure with
  | late ended => exact List.not_mem_nil
  | ended active => exact List.not_mem_append (not_mem_hookTasks nofun) (by simp)

/-- The completion is told of when the stage is completed, and at no other time. -/
theorem Effect.finish_of_mem (effect : Effect pipeline task stage timer events tasks)
    (member : .call .complete ∈ tasks) : task = .finish ∧ pipeline.stage.status = .active := by
  cases effect with
  | finished active => exact ⟨rfl, active⟩
  | handled first dispatch =>
      rcases List.mem_append.mp member with member | member
      · cases dispatch with
        | completed active filled delivery => exact absurd member delivery.not_mem_complete
        | failed failure => exact absurd member failure.not_mem_complete
        | cancelledEmpty empty => exact absurd member (not_mem_hookTasks nofun)
        | cancelled filled => exact absurd member (not_mem_hookTasks nofun)
        | _ => simp at member
      · simp at member
  | acceptedHandOff delivery => exact absurd member delivery.not_mem_complete
  | refusedHandOff =>
      exact absurd member (List.not_mem_append (not_mem_hookTasks nofun) (by simp))
  | failed failure => exact absurd member failure.not_mem_complete
  | reportedStage =>
      rcases List.mem_append.mp member with member | member
      · cases isInner_cancelProducerTasks pipeline _ member
      · simp at member
  | free aside inert allFree => cases allFree _ member
  | timerClosed => simp at member
  | called actions => cases isFree_acts actions _ member
  | enteredSignal announces => cases isInner_wakeTasks _ _ member
  | announced => cases isInner_wakeTasks _ _ member
  | cancelled active =>
      rcases List.mem_append.mp member with member | member
      · cases isInner_cancelProducerTasks pipeline _ member
      · simp at member
  | _ => simp at member

/-- Nothing was discarded when the consumer is about to be told of the completion. -/
theorem Conserved.undiscarded_of_complete
    (conserved : Conserved config pipeline.stage (task :: pipeline.agenda) pipeline.chronicle)
    (chained : Chained (task :: pipeline.agenda))
    (effect : Effect pipeline task stage timer events tasks)
    (before : .call .complete ∈ task :: pipeline.agenda → discardedIn pipeline.chronicle = [])
    (due : .call .complete ∈ tasks ++ pipeline.agenda) :
    discardedIn (pipeline.chronicle ++ events) = [] := by
  rw [discardedIn_append, effect.discarded_eq]
  rcases List.mem_append.mp due with added | stays
  · -- The stage is completed now, and it was not about to fail.
    obtain ⟨rfl, active⟩ := effect.finish_of_mem added
    have below := chained.isInner_below rfl fun _ => rfl
    have unfailing : ∀ task ∈ .finish :: pipeline.agenda, task.isFailing = false := by
      refine List.forall_mem_cons.mpr ⟨rfl, fun other member => ?_⟩
      have outside := below other member
      cases other <;> first | rfl | cases outside
    obtain ⟨rest, balance⟩ := conserved.balance
    rw [(balance.line active unfailing).1]
    rfl
  · rw [before (List.mem_cons_of_mem _ stays), List.nil_append]
    -- Nothing is discarded above the completion.
    have precedes := (List.pairwise_cons.mp chained).1 _ stays
    cases task with
    | call call => cases call <;> first | rfl | cases precedes rfl rfl
    | _ => rfl

end Step

section Reachable

variable {config : Config} {setup : Setup α} {pipeline : Pipeline α}

/-- When the consumer is about to be told of the completion, nothing was discarded. -/
theorem Reachable.undiscarded (reachable : Reachable config setup pipeline)
    (held : pipeline.alive = true) (due : .call .complete ∈ pipeline.agenda) :
    pipeline.discarded = [] := by
  obtain ⟨opening, made, later⟩ := reachable
  have all := Reachable.preserve_of_held ⟨opening, made, later⟩ held (fun stage agenda events =>
    Conserved config stage agenda events ∧ Chained agenda ∧
      (.call .complete ∈ agenda → discardedIn events = [])) ?_ ?_ ?_
  · exact all.2.2 due
  · exact fun lines => ⟨.opening (opening?_eq_ok made).1 lines, List.Pairwise.nil, nofun⟩
  · rintro stage events action ⟨conserved, _, _⟩
    exact ⟨conserved.begin action, .singleton _, by simp⟩
  · rintro pipeline task stage timer events tasks steady effect kept ⟨conserved, chained, before⟩
    exact ⟨conserved.step effect kept, chained.step steady.order effect,
      conserved.undiscarded_of_complete chained effect before⟩

end Reachable

end Pipeline

end TimedBatch
