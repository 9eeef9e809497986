import Mathlib.Algebra.Order.Group.Multiset
import Mathlib.Tactic.Abel
import TimedBatch.Proofs.Outcome

/-!
# Conservation of items

Every item that is passed to a stage which is not given up is in one place at any time: in the
queue, in the open batch, with a task on the agenda, with the consumer or with the discard hook. The
items that the consumer has come first, in their order. The others follow in their order as long as
the stage works and is not about to fail.

A batch that has left the stage travels from task to task. At most one task on the agenda carries
such a batch or is about to let the stage fail. A stage that was cancelled may hold items until it
works off the notice of it.
-/

namespace TimedBatch

variable {α : Type}

/-! ## Where items are -/

namespace Outbound

def batch? : Outbound α → Option (List α)
  | .next batch => some batch
  | _ => none

def discards : Outbound α → List α
  | .discard taken => taken.items
  | _ => []

end Outbound

def Signal.item? : Signal α → Option α
  | .item content => some content
  | _ => none

namespace Task

/-- The batch that left the stage and waits for the timer. -/
def handOff? : Task α → Option (HandOff α)
  | .setAlarm handOff => handOff
  | .answered _ handOff => handOff
  | _ => none

/-- The batch that a task carries. -/
def batch? (task : Task α) : Option (List α) :=
  (task.handOff?.map HandOff.batch).or (task.outbound?.bind Outbound.batch?)

/-- The item that waits in the signal that a task announces. -/
def item? : Task α → Option α
  | .announce signal => signal.item?
  | _ => none

def discards (task : Task α) : List α :=
  (task.outbound?.map Outbound.discards).getD []

/-- The items that a task carries. -/
def items (task : Task α) : List α :=
  task.batch?.getD [] ++ task.discards

/-- The items that a task gives to the consumer or to the discard hook. -/
def given : Task α → List α
  | .call outbound => outbound.batch?.getD [] ++ outbound.discards
  | _ => []

/-- The items that a task passes to the stage. -/
def passed : Task α → List α
  | .enter inbound => inbound.item?.toList
  | _ => []

/-- Whether a task lets the stage fail. -/
def isFailing : Task α → Bool
  | .endWith _ _ => true
  | _ => false

/-- Whether a task gives something to the discard hook. -/
def isDiscarding : Task α → Bool
  | .call (.discard _) => true
  | _ => false

/-- Whether a task decides what becomes of a batch. -/
def isPivot : Task α → Bool
  | .setAlarm _ => true
  | .answered _ _ => true
  | .endWith _ _ => true
  | .call (.next _) => true
  | _ => false

theorem isInner_of_isPivot {task : Task α} (pivot : task.isPivot = true) : task.isInner = true := by
  cases task with
  | call call => cases call <;> first | rfl | cases pivot
  | _ => first | rfl | cases pivot

theorem eq_next_of_delivers {task : Task α} {batch : List α}
    (delivers : task.outbound?.bind Outbound.batch? = some batch) : task = .call (.next batch) := by
  cases task with
  | call call =>
      cases call <;> cases delivers
      rfl
  | _ => cases delivers

end Task

namespace Pipeline

/-- The items that were passed to the stage in some events. -/
def passedIn (events : List (Event α)) : List α :=
  (entries events).filterMap Inbound.item?

def deliveredIn (events : List (Event α)) : List (List α) :=
  (events.filterMap Event.outbound?).filterMap Outbound.batch?

def discardedIn (events : List (Event α)) : List α :=
  (events.filterMap Event.outbound?).flatMap Outbound.discards

theorem passed_eq (pipeline : Pipeline α) : pipeline.passed = passedIn pipeline.chronicle :=
  rfl

theorem passedIn_append (earlier later : List (Event α)) :
    passedIn (earlier ++ later) = passedIn earlier ++ passedIn later := by
  rw [passedIn, entries_append, List.filterMap_append]
  rfl

theorem deliveredIn_append (earlier later : List (Event α)) :
    deliveredIn (earlier ++ later) = deliveredIn earlier ++ deliveredIn later := by
  rw [deliveredIn, List.filterMap_append, List.filterMap_append]
  rfl

theorem discardedIn_append (earlier later : List (Event α)) :
    discardedIn (earlier ++ later) = discardedIn earlier ++ discardedIn later := by
  rw [discardedIn, List.filterMap_append, List.flatMap_append]
  rfl

theorem delivered_eq (pipeline : Pipeline α) :
    pipeline.delivered = deliveredIn pipeline.chronicle := by
  rw [delivered, received, deliveredIn, outboundCalls_eq, List.filterMap_filterMap]
  congr 1
  funext call
  cases call <;> rfl

theorem discarded_eq (pipeline : Pipeline α) :
    pipeline.discarded = discardedIn pipeline.chronicle :=
  rfl

/-! ## The sizes of batches -/

/-- A batch holds an item and no more than a stage may collect. -/
def Fits (config : Config) (batch : List α) : Prop :=
  1 ≤ batch.length ∧ batch.length ≤ config.maxSize.count

/-- The batch that a task carries fits, and it does not wait for the timer if it is the last one.
Items are announced as they are passed to the stage, and never later. -/
structure Sound (config : Config) (task : Task α) : Prop where
  fits : ∀ batch ∈ task.batch?, Fits config batch
  trigger : ∀ handOff ∈ task.handOff?, handOff.trigger ≠ .completion
  announces : task.item? = none

/-- The open batch has room, and what has left the stage is sound. -/
structure Sized (config : Config) (stage : Stage α) (agenda : List (Task α)) : Prop where
  config_eq : stage.config = config
  room : stage.batch.length < config.maxSize.count
  sound : ∀ task ∈ agenda, Sound config task

theorem sound_of_none {config : Config} {task : Task α} (noBatch : task.batch? = none)
    (noItem : task.item? = none) : Sound config task := by
  obtain ⟨noHandOff, _⟩ := Option.or_eq_none_iff.mp noBatch
  rw [Option.map_eq_none_iff] at noHandOff
  constructor
  · intro batch carried
    rw [noBatch] at carried
    cases carried
  · intro handOff carried
    rw [noHandOff] at carried
    cases carried
  · exact noItem

theorem sound_of_isFree {config : Config} {task : Task α} (free : task.isFree = true) :
    Sound config task := by
  cases task with
  | call call => cases call <;> first | exact sound_of_none rfl rfl | cases free
  | _ => first | exact sound_of_none rfl rfl | cases free

theorem sound_next {config : Config} {batch : List α} (fits : Fits config batch) :
    Sound config (.call (.next batch)) := by
  constructor
  · intro other carried
    cases carried
    exact fits
  · intro handOff carried
    cases carried
  · rfl

theorem sound_setAlarm {config : Config} {handOff : HandOff α} (fits : Fits config handOff.batch)
    (trigger : handOff.trigger ≠ .completion) : Sound config (.setAlarm (some handOff)) := by
  constructor
  · intro other carried
    cases carried
    exact fits
  · intro other carried
    cases carried
    exact trigger
  · rfl

section Work

variable {hook : DiscardHook} {stage next : Stage α} {timer clock : Timer UInt64}
  {events : List (Event α)} {tasks : List (Task α)} {config : Config}

theorem sound_hookTasks {items : List α} : ∀ task ∈ hookTasks hook items, Sound config task := by
  intro task member
  obtain ⟨call, _, rfl⟩ := List.mem_map.mp member
  exact sound_of_none rfl rfl

theorem sound_failureTasks {items : List α} {error : StreamError} :
    ∀ task ∈ failureTasks hook items error, Sound config task := by
  rw [failureTasks, List.forall_mem_append]
  exact ⟨sound_hookTasks, List.forall_mem_singleton.mpr (sound_of_none rfl rfl)⟩

theorem sound_closingTasks {handOff : HandOff α} :
    ∀ task ∈ closingTasks handOff, Sound config task := by
  rw [closingTasks]
  split
  · exact List.forall_mem_singleton.mpr (sound_of_none rfl rfl)
  · exact List.forall_mem_nil _

theorem sound_wakeTasks : ∀ task ∈ wakeTasks stage, Sound config task := by
  rw [wakeTasks]
  split
  · exact List.forall_mem_singleton.mpr (sound_of_none rfl rfl)
  · exact List.forall_mem_nil _

theorem Delivery.config_eq {handOff : HandOff α}
    (delivery : Delivery hook stage timer handOff next clock events tasks) :
    next.config = stage.config := by
  cases delivery <;> rfl

theorem Delivery.batch_eq {handOff : HandOff α}
    (delivery : Delivery hook stage timer handOff next clock events tasks) :
    next.batch = stage.batch := by
  cases delivery <;> rfl

theorem Delivery.sound {handOff : HandOff α}
    (delivery : Delivery hook stage timer handOff next clock events tasks)
    (fits : Fits config handOff.batch) : ∀ task ∈ tasks, Sound config task := by
  cases delivery with
  | late ended => exact sound_hookTasks
  | unpaid active unpaid => exact sound_failureTasks
  | paid active paid =>
      rw [List.forall_mem_cons]
      exact ⟨sound_next fits, sound_closingTasks⟩

theorem Failure.sized {error : StreamError} {origin : Origin}
    (failure : Failure hook stage timer error origin next clock events tasks)
    (sized : Sized config stage []) :
    Sized config next tasks := by
  cases failure with
  | late ended => exact sized
  | ended active =>
      refine ⟨sized.config_eq, Nat.zero_lt_of_lt sized.room, ?_⟩
      rw [List.forall_mem_append]
      exact ⟨sound_hookTasks, List.forall_mem_singleton.mpr (sound_of_none rfl rfl)⟩

/-- A batch that is not empty fits when it leaves the stage. -/
theorem Sized.fits (sized : Sized config stage []) (filled : stage.batch ≠ []) :
    Fits config stage.batch :=
  ⟨List.length_pos_iff.mpr filled, Nat.le_of_lt sized.room⟩

theorem Dispatch.sized {signal : Signal α}
    (dispatch : Dispatch hook stage timer signal next clock events tasks)
    (sized : Sized config stage []) :
    Sized config next tasks := by
  have empty : 0 < config.maxSize.count := Nat.zero_lt_of_lt sized.room
  have none : ∀ task ∈ ([] : List (Task α)), Sound config task := List.forall_mem_nil _
  cases dispatch with
  | subscribedAgain idle => exact sized
  | subscribed active unset =>
      exact ⟨sized.config_eq, sized.room, List.forall_mem_singleton.mpr (sound_of_none rfl rfl)⟩
  | itemLate ended =>
      exact ⟨sized.config_eq, sized.room, List.forall_mem_singleton.mpr (sound_of_none rfl rfl)⟩
  | itemUnrequested active unrequested =>
      refine ⟨sized.config_eq, sized.room, ?_⟩
      rw [List.forall_mem_cons]
      exact ⟨sound_of_none rfl rfl, List.forall_mem_singleton.mpr (sound_of_none rfl rfl)⟩
  | @itemTaken item ledger active received room =>
      refine ⟨sized.config_eq, ?_, none⟩
      rw [List.length_append, ← sized.config_eq]
      exact room
  | @itemLast item ledger active received full =>
      refine ⟨sized.config_eq, empty, List.forall_mem_singleton.mpr (sound_setAlarm ?_ ?_)⟩
      · have room := sized.room
        rw [Fits, List.length_append, List.length_singleton]
        omega
      · change Trigger.size ≠ .completion
        decide
  | tickLate ended => exact sized
  | tickStale active stale => exact sized
  | tickEmpty active empty =>
      exact ⟨sized.config_eq, sized.room, List.forall_mem_singleton.mpr (sound_of_none rfl rfl)⟩
  | tickClosing active filled =>
      refine ⟨sized.config_eq, empty, List.forall_mem_singleton.mpr (sound_setAlarm ?_ ?_)⟩
      · exact sized.fits filled
      · change Trigger.time ≠ .completion
        decide
  | completedLate ended => exact sized
  | completedEmpty active empty =>
      exact ⟨sized.config_eq, sized.room, List.forall_mem_singleton.mpr (sound_of_none rfl rfl)⟩
  | completed active filled delivery =>
      refine ⟨delivery.config_eq.trans sized.config_eq, ?_, delivery.sound (sized.fits filled)⟩
      rw [delivery.batch_eq]
      exact empty
  | failed failure => exact failure.sized sized
  | cancelledEmpty nothing => exact ⟨sized.config_eq, empty, sound_hookTasks⟩
  | cancelled filled => exact ⟨sized.config_eq, empty, sound_hookTasks⟩

end Work

section Step

variable {config : Config} {pipeline : Pipeline α} {task : Task α} {stage : Stage α}
  {timer : Timer UInt64} {events : List (Event α)} {tasks : List (Task α)}

theorem sound_cancelProducerTasks : ∀ task ∈ pipeline.cancelProducerTasks, Sound config task :=
  forall_cancelProducerTasks pipeline fun _ => sound_of_none rfl rfl

theorem Effect.sized (effect : Effect pipeline task stage timer events tasks)
    (sized : Sized config pipeline.stage [task]) : Sized config stage tasks := by
  have sound := List.forall_mem_singleton.mp sized.sound
  have kept : ∀ {next : Stage α}, next.config = pipeline.stage.config →
      next.batch = pipeline.stage.batch → (∀ task ∈ tasks, Sound config task) →
      Sized config next tasks := by
    intro next config_eq batch_eq each
    refine ⟨config_eq.trans sized.config_eq, ?_, each⟩
    rw [batch_eq]
    exact sized.room
  cases effect with
  | free aside inert allFree =>
      exact kept rfl rfl fun task member => sound_of_isFree (allFree task member)
  | swept aside gone =>
      exact ⟨sized.config_eq, Nat.zero_lt_of_lt sized.room, List.forall_mem_nil _⟩
  | timerClosed =>
      refine kept rfl rfl fun task member => sound_of_isFree ?_
      obtain ⟨line, _, rfl⟩ := List.mem_map.mp member
      rfl
  | called actions =>
      exact kept rfl rfl fun task member => sound_of_isFree (isFree_acts actions task member)
  | enteredSignal announces => exact kept rfl rfl sound_wakeTasks
  | announced => exact kept rfl rfl sound_wakeTasks
  | cancelled active =>
      refine kept rfl rfl (List.forall_mem_append.mpr ⟨sound_cancelProducerTasks, ?_⟩)
      exact List.forall_mem_singleton.mpr (sound_of_none rfl rfl)
  | handled first dispatch =>
      have popped := dispatch.sized ⟨sized.config_eq, sized.room, List.forall_mem_nil _⟩
      refine ⟨popped.config_eq, popped.room, List.forall_mem_append.mpr ⟨popped.sound, ?_⟩⟩
      exact List.forall_mem_singleton.mpr (sound_of_none rfl rfl)
  | @alarmSet handOff =>
      refine kept rfl rfl ?_
      rw [List.forall_mem_cons, List.forall_mem_singleton]
      exact ⟨sound_of_none rfl rfl, ⟨sound.fits, sound.trigger, rfl⟩⟩
  | @acceptedHandOff token handOff stage timer events tasks delivery =>
      refine kept delivery.config_eq delivery.batch_eq (delivery.sound ?_)
      exact sound.fits handOff.batch rfl
  | refusedHandOff => exact kept rfl rfl sound_failureTasks
  | failed failure =>
      exact failure.sized ⟨sized.config_eq, sized.room, List.forall_mem_nil _⟩
  | reportedStage =>
      refine kept rfl rfl (List.forall_mem_append.mpr ⟨sound_cancelProducerTasks, ?_⟩)
      exact List.forall_mem_singleton.mpr (sound_of_none rfl rfl)
  | attached first =>
      refine kept rfl rfl fun task member => ?_
      rcases List.mem_cons.mp member with rfl | member
      · exact sound_of_none rfl rfl
      · rcases List.mem_pair.mp member with rfl | rfl <;> exact sound_of_none rfl rfl
  | attachedTwice second =>
      refine kept rfl rfl fun task member => ?_
      rcases List.mem_cons.mp member with rfl | member
      · exact sound_of_none rfl rfl
      · rcases List.mem_pair.mp member with rfl | rfl <;> exact sound_of_none rfl rfl
  | alarmFired due live held =>
      refine kept rfl rfl fun task member => ?_
      rcases List.mem_cons.mp member with rfl | member
      · exact sound_of_none rfl rfl
      · rcases List.mem_pair.mp member with rfl | rfl <;> exact sound_of_none rfl rfl
  | _ =>
      first
        | exact kept rfl rfl (List.forall_mem_nil _)
        | exact kept rfl rfl (List.forall_mem_singleton.mpr (sound_of_none rfl rfl))

theorem Sized.step (sized : Sized config pipeline.stage (task :: pipeline.agenda))
    (effect : Effect pipeline task stage timer events tasks) :
    Sized config stage (tasks ++ pipeline.agenda) := by
  obtain ⟨sound, others⟩ := List.forall_mem_cons.mp sized.sound
  have next := effect.sized ⟨sized.config_eq, sized.room, List.forall_mem_singleton.mpr sound⟩
  exact ⟨next.config_eq, next.room, List.forall_mem_append.mpr ⟨next.sound, others⟩⟩

end Step

/-! ## Pivots -/

section Work

variable {hook : DiscardHook} {stage next : Stage α} {timer clock : Timer UInt64}
  {events : List (Event α)} {tasks : List (Task α)}

theorem isPivot_of_isFree {task : Task α} (free : task.isFree = true) : task.isPivot = false := by
  cases task with
  | call call => cases call <;> first | rfl | cases free
  | _ => first | rfl | cases free

theorem isPivot_of_isOuter {task : Task α} (outer : task.isOuter = true) :
    task.isPivot = false := by
  by_contra pivot
  have inner := Task.isInner_of_isPivot (eq_true_of_ne_false pivot)
  rw [Task.isOuter, inner] at outer
  cases outer

theorem countP_closingTasks {counts : Task α → Bool} {handOff : HandOff α}
    (blind : counts .finish = false) : (closingTasks handOff).countP counts = 0 := by
  rw [closingTasks]
  split <;> simp [blind]

theorem Delivery.pivots {handOff : HandOff α}
    (delivery : Delivery hook stage timer handOff next clock events tasks) :
    tasks.countP Task.isPivot ≤ 1 := by
  cases delivery with
  | late ended =>
      rw [countP_hookTasks fun _ => rfl]
      exact Nat.zero_le 1
  | unpaid active unpaid =>
      rw [failureTasks, List.countP_append, countP_hookTasks fun _ => rfl]
      exact Nat.le_refl 1
  | paid active paid =>
      rw [List.countP_cons, countP_closingTasks rfl]
      exact Nat.le_refl 1

theorem Failure.pivots {error : StreamError} {origin : Origin}
    (failure : Failure hook stage timer error origin next clock events tasks) :
    tasks.countP Task.isPivot = 0 := by
  cases failure with
  | late ended => rfl
  | ended active =>
      rw [List.countP_append, countP_hookTasks fun _ => rfl]
      rfl

theorem Dispatch.pivots {signal : Signal α}
    (dispatch : Dispatch hook stage timer signal next clock events tasks) :
    tasks.countP Task.isPivot ≤ 1 := by
  cases dispatch with
  | completed active filled delivery => exact delivery.pivots
  | failed failure =>
      rw [failure.pivots]
      exact Nat.zero_le 1
  | cancelledEmpty empty =>
      rw [countP_hookTasks fun _ => rfl]
      exact Nat.zero_le 1
  | cancelled filled =>
      rw [countP_hookTasks fun _ => rfl]
      exact Nat.zero_le 1
  | _ => simp [Task.isPivot]

end Work

section Step

variable {pipeline : Pipeline α} {task : Task α} {stage : Stage α} {timer : Timer UInt64}
  {events : List (Event α)} {tasks : List (Task α)}

/-- Only a pivot or the work on the queue makes room for a pivot. -/
theorem Effect.pivots (effect : Effect pipeline task stage timer events tasks) :
    tasks.countP Task.isPivot ≤ if task.isPivot || task.isWorkOff then 1 else 0 := by
  cases effect with
  | free aside inert allFree =>
      rw [countP_of_isFree isPivot_of_isFree allFree]
      exact Nat.zero_le _
  | timerClosed =>
      rw [countP_of_isFree isPivot_of_isFree (by simp [Task.isFree])]
      exact Nat.zero_le _
  | called actions =>
      rw [countP_of_isFree isPivot_of_isFree (isFree_acts actions)]
      exact Nat.zero_le _
  | enteredSignal announces =>
      rw [countP_wakeTasks fun _ => rfl]
      exact Nat.zero_le _
  | announced =>
      rw [countP_wakeTasks fun _ => rfl]
      exact Nat.zero_le _
  | cancelled active =>
      rw [List.countP_append, countP_cancelProducerTasks _ fun _ => rfl]
      exact Nat.zero_le _
  | handled first dispatch =>
      rw [List.countP_append]
      exact dispatch.pivots
  | acceptedHandOff delivery => exact delivery.pivots
  | refusedHandOff =>
      rw [failureTasks, List.countP_append, countP_hookTasks fun _ => rfl]
      exact Nat.le_refl 1
  | failed failure =>
      rw [failure.pivots]
      exact Nat.zero_le _
  | reportedStage =>
      rw [List.countP_append, countP_cancelProducerTasks _ fun _ => rfl]
      exact Nat.zero_le _
  | _ => simp [Task.isPivot, Task.isWorkOff]

/-- Below a pivot and below the work on the queue there is no other pivot. -/
theorem noPivot_below (order : InOrder stage (task :: pipeline.agenda))
    (single : (task :: pipeline.agenda).countP Task.isPivot ≤ 1)
    (deciding : (task.isPivot || task.isWorkOff) = true) :
    ∀ other ∈ pipeline.agenda, other.isPivot = false := by
  cases pivot : task.isPivot with
  | true =>
      rw [List.countP_cons_of_pos pivot] at single
      have none : pipeline.agenda.countP Task.isPivot = 0 := by omega
      intro other member
      exact eq_false_of_ne_true (List.countP_eq_zero.mp none other member)
  | false =>
      rw [pivot, Bool.false_or] at deciding
      intro other member
      exact isPivot_of_isOuter ((List.pairwise_cons.mp order.beneath).1 other member deciding)

theorem Effect.single (effect : Effect pipeline task stage timer events tasks)
    (order : InOrder pipeline.stage (task :: pipeline.agenda))
    (single : (task :: pipeline.agenda).countP Task.isPivot ≤ 1) :
    (tasks ++ pipeline.agenda).countP Task.isPivot ≤ 1 := by
  have added := effect.pivots
  rw [List.countP_append]
  by_cases deciding : (task.isPivot || task.isWorkOff) = true
  · have none : pipeline.agenda.countP Task.isPivot = 0 := by
      rw [List.countP_eq_zero]
      intro other member
      rw [noPivot_below order single deciding other member]
      decide
    rw [if_pos deciding] at added
    omega
  · have others : pipeline.agenda.countP Task.isPivot ≤ 1 :=
      Nat.le_trans (List.Sublist.countP_le (List.sublist_cons_self _ _)) single
    rw [if_neg deciding] at added
    omega

end Step

/-! ## The notice of a cancellation -/

/-- The notice of a cancellation is on its way or waits in the queue. -/
def HasNotice (stage : Stage α) (agenda : List (Task α)) : Prop :=
  .cancelled ∈ stage.signals ∨ .announce .cancelled ∈ agenda

/-- A stage that ended holds no items, unless it was cancelled and does not know it yet. -/
structure Noticed (stage : Stage α) (agenda : List (Task α)) : Prop where
  finishing : .finish ∈ agenda → stage.batch = []
  pending : stage.status ≠ .active → stage.batch = [] ∨ HasNotice stage agenda
  ended : HasNotice stage agenda → stage.status ≠ .active

/-- Whether a task completes the stage or gives notice of a cancellation. -/
def isClosing : Task α → Bool
  | .finish => true
  | .announce .cancelled => true
  | _ => false

theorem isClosing_of_isFree {task : Task α} (free : task.isFree = true) :
    isClosing task = false := by
  cases task with
  | announce signal => cases free
  | finish => cases free
  | _ => rfl

section Work

variable {hook : DiscardHook} {stage next : Stage α} {timer clock : Timer UInt64}
  {events : List (Event α)} {task : Task α} {agenda tasks : List (Task α)}

namespace Noticed

/-- A task that makes no room for closing ones leaves the notice alone. -/
theorem keep (noticed : Noticed stage (task :: agenda))
    (batch_eq : next.batch = stage.batch ∨ next.batch = []) (status_eq : next.status = stage.status)
    (signals_eq : next.signals = stage.signals) (other : task ≠ .announce .cancelled)
    (none : ∀ task ∈ tasks, isClosing task = false) : Noticed next (tasks ++ agenda) := by
  have below : ∀ {closing : Task α}, isClosing closing = true → closing ∈ tasks ++ agenda →
      closing ∈ agenda := mem_below none
  have before : HasNotice next (tasks ++ agenda) → HasNotice stage (task :: agenda) := by
    intro notice
    rcases notice with waiting | coming
    · left
      rw [← signals_eq]
      exact waiting
    · exact Or.inr (List.mem_cons_of_mem _ (below rfl coming))
  constructor
  · intro member
    have empty := noticed.finishing (List.mem_cons_of_mem _ (below rfl member))
    rcases batch_eq with same | cleared
    · rw [same, empty]
    · exact cleared
  · intro finished
    rw [status_eq] at finished
    rcases batch_eq with same | cleared
    · rcases noticed.pending finished with empty | waiting | coming
      · exact Or.inl (same.trans empty)
      · refine Or.inr (Or.inl ?_)
        rw [signals_eq]
        exact waiting
      · refine Or.inr (Or.inr (List.mem_append_right _ ?_))
        rcases List.mem_cons.mp coming with same | coming
        · exact absurd same.symm other
        · exact coming
    · exact Or.inl cleared
  · intro notice
    rw [status_eq]
    exact noticed.ended (before notice)

end Noticed

theorem isClosing_hookTasks {items : List α} :
    ∀ task ∈ hookTasks hook items, isClosing task = false := by
  intro task member
  obtain ⟨call, _, rfl⟩ := List.mem_map.mp member
  rfl

theorem isClosing_failureTasks {items : List α} {error : StreamError} :
    ∀ task ∈ failureTasks hook items error, isClosing task = false := by
  rw [failureTasks, List.forall_mem_append]
  exact ⟨isClosing_hookTasks, List.forall_mem_singleton.mpr rfl⟩

theorem isClosing_wakeTasks : ∀ task ∈ wakeTasks stage, isClosing task = false := by
  rw [wakeTasks]
  split
  · exact List.forall_mem_singleton.mpr rfl
  · exact List.forall_mem_nil _

/-- A batch that is not the last one goes without closing the stage. -/
theorem Delivery.isClosing {handOff : HandOff α}
    (delivery : Delivery hook stage timer handOff next clock events tasks)
    (trigger : handOff.trigger ≠ .completion) : ∀ task ∈ tasks, isClosing task = false := by
  cases delivery with
  | late ended => exact isClosing_hookTasks
  | unpaid active unpaid => exact isClosing_failureTasks
  | paid active paid =>
      rw [closingTasks, if_neg trigger]
      exact List.forall_mem_singleton.mpr rfl

theorem Failure.batch_of_ended {error : StreamError} {origin : Origin}
    (failure : Failure hook stage timer error origin next clock events tasks) :
    next.batch = [] ∨ (next.batch = stage.batch ∧ stage.status ≠ .active) := by
  cases failure with
  | late ended => exact Or.inr ⟨rfl, ended⟩
  | ended active => exact Or.inl rfl

/-- A stage that has ended gives its items away or leaves them for the notice. -/
theorem Dispatch.batch_of_ended {signal : Signal α}
    (dispatch : Dispatch hook stage timer signal next clock events tasks)
    (finished : next.status ≠ .active) :
    next.batch = [] ∨
      (next.batch = stage.batch ∧ stage.status ≠ .active ∧ signal ≠ .cancelled) := by
  have other : ∀ {signal : Signal α}, stage.status ≠ .active → signal ≠ .cancelled →
      stage.batch = [] ∨
        (stage.batch = stage.batch ∧ stage.status ≠ .active ∧ signal ≠ .cancelled) :=
    fun ended different => Or.inr ⟨rfl, ended, different⟩
  cases dispatch with
  | subscribedAgain idle => exact other finished (by simp)
  | subscribed active unset => exact absurd active finished
  | itemLate ended => exact other ended (by simp)
  | itemUnrequested active unrequested => exact absurd active finished
  | itemTaken active received room => exact absurd active finished
  | itemLast active received full => exact Or.inl rfl
  | tickLate ended => exact other ended (by simp)
  | tickStale active stale => exact absurd active finished
  | tickEmpty active empty => exact Or.inl empty
  | tickClosing active filled => exact Or.inl rfl
  | completedLate ended => exact other ended (by simp)
  | completedEmpty active empty => exact Or.inl empty
  | completed active filled delivery =>
      rw [delivery.batch_eq]
      exact Or.inl rfl
  | failed failure =>
      rcases failure.batch_of_ended with empty | ⟨batch_eq, ended⟩
      · exact Or.inl empty
      · exact Or.inr ⟨batch_eq, ended, by simp⟩
  | cancelledEmpty empty => exact Or.inl rfl
  | cancelled filled => exact Or.inl rfl

/-- The stage is about to complete only when it holds no items. -/
theorem Dispatch.finishing {signal : Signal α}
    (dispatch : Dispatch hook stage timer signal next clock events tasks)
    (member : .finish ∈ tasks) : next.batch = [] := by
  cases dispatch with
  | completedEmpty active empty => exact empty
  | completed active filled delivery =>
      rw [delivery.batch_eq]
      rfl
  | failed failure =>
      cases failure with
      | late ended => cases member
      | ended active => rfl
  | cancelledEmpty empty => rfl
  | cancelled filled => rfl
  | _ => simp at member

theorem Dispatch.active_of_active {signal : Signal α}
    (dispatch : Dispatch hook stage timer signal next clock events tasks)
    (active : next.status = .active) : stage.status = .active := by
  by_contra ended
  exact ended (dispatch.status_eq ended ▸ active)

namespace Noticed

theorem handle {signal : Signal α} {rest : List (Signal α)} {missed : Nat}
    (noticed : Noticed stage (.workOff missed :: agenda))
    (outer : ∀ task ∈ agenda, task.isOuter = true) (first : stage.signals = signal :: rest)
    (dispatch : Dispatch hook { stage with signals := rest } timer signal next clock events tasks) :
    Noticed next (tasks ++ [Task.workOff missed] ++ agenda) := by
  have signals_eq : next.signals = rest := dispatch.queue_eq.1
  have below : ∀ {other : Task α}, other.isInner = false → other.isWorkOff = false →
      other ∈ tasks ++ [Task.workOff missed] ++ agenda → other ∈ agenda := by
    intro other noInner noWork member
    rw [List.append_assoc] at member
    rcases List.mem_cons.mp (mem_below dispatch.isInner noInner member) with rfl | member
    · cases noWork
    · exact member
  constructor
  · intro member
    rw [List.append_assoc] at member
    rcases List.mem_append.mp member with member | member
    · exact dispatch.finishing member
    · rcases List.mem_cons.mp member with same | member
      · cases same
      · cases outer _ member
  · intro finished
    rcases dispatch.batch_of_ended finished with empty | ⟨batch_eq, ended, different⟩
    · exact Or.inl empty
    · rcases noticed.pending ended with empty | waiting | coming
      · exact Or.inl (batch_eq.trans empty)
      · rw [first] at waiting
        rcases List.mem_cons.mp waiting with same | waiting
        · exact absurd same.symm different
        · refine Or.inr (Or.inl ?_)
          rw [signals_eq]
          exact waiting
      · rcases List.mem_cons.mp coming with same | coming
        · cases same
        · exact Or.inr (Or.inr (List.mem_append_right _ coming))
  · intro notice active
    have before := dispatch.active_of_active active
    rcases notice with waiting | coming
    · refine noticed.ended (Or.inl ?_) before
      rw [first]
      rw [signals_eq] at waiting
      exact List.mem_cons_of_mem _ waiting
    · exact noticed.ended (Or.inr (List.mem_cons_of_mem _ (below rfl rfl coming))) before

theorem of_empty (empty : stage.batch = []) (ended : stage.status ≠ .active) :
    Noticed stage agenda :=
  ⟨fun _ => empty, fun _ => Or.inl empty, fun _ => ended⟩

/-- A notice leaves the agenda when it joins the queue. -/
theorem announce {signal : Signal α} (noticed : Noticed stage (task :: agenda))
    (notice_iff : signal = .cancelled ↔ task = .announce .cancelled) :
    Noticed (queued stage signal) (wakeTasks stage ++ agenda) := by
  have below : ∀ {closing : Task α}, isClosing closing = true →
      closing ∈ wakeTasks stage ++ agenda → closing ∈ agenda := mem_below isClosing_wakeTasks
  constructor
  · intro member
    exact noticed.finishing (List.mem_cons_of_mem _ (below rfl member))
  · intro ended
    rcases noticed.pending ended with empty | waiting | coming
    · exact Or.inl empty
    · exact Or.inr (Or.inl (List.mem_append_left _ waiting))
    · rcases List.mem_cons.mp coming with same | coming
      · refine Or.inr (Or.inl (List.mem_append_right _ ?_))
        rw [List.mem_singleton, notice_iff.mpr same.symm]
      · exact Or.inr (Or.inr (List.mem_append_right _ coming))
  · intro notice
    apply noticed.ended
    rcases notice with waiting | coming
    · rcases List.mem_append.mp waiting with waiting | same
      · exact Or.inl waiting
      · right
        rw [notice_iff.mp (List.mem_singleton.mp same).symm]
        exact List.mem_cons_self
    · exact Or.inr (List.mem_cons_of_mem _ (below rfl coming))

theorem cancel {pipeline : Pipeline α} (noticed : Noticed stage (task :: agenda)) :
    Noticed { stage with status := .cancelled }
      (pipeline.cancelProducerTasks ++ [Task.announce .cancelled] ++ agenda) := by
  constructor
  · intro member
    rw [List.append_assoc] at member
    rcases List.mem_append.mp member with member | member
    · obtain ⟨producer, _, impossible⟩ := List.mem_map.mp member
      cases impossible
    · rcases List.mem_cons.mp member with impossible | member
      · cases impossible
      · exact noticed.finishing (List.mem_cons_of_mem _ member)
  · exact fun _ => Or.inr (Or.inr (by simp))
  · exact fun _ => by simp

theorem opening (config : Config) : Noticed (.opening config : Stage α) [] := by
  constructor
  · exact fun _ => rfl
  · exact fun ended => absurd rfl ended
  · intro notice
    rcases notice with waiting | coming
    · cases waiting
    · cases coming

theorem begin (noticed : Noticed stage []) (action : Action α) :
    Noticed stage [.act action] := by
  have nothing : HasNotice stage [.act action] → HasNotice stage [] := by
    intro notice
    rcases notice with waiting | coming
    · exact Or.inl waiting
    · cases List.mem_singleton.mp coming
  constructor
  · intro member
    cases List.mem_singleton.mp member
  · intro ended
    rcases noticed.pending ended with empty | waiting | coming
    · exact Or.inl empty
    · exact Or.inr (Or.inl waiting)
    · cases coming
  · exact fun notice => noticed.ended (nothing notice)

end Noticed

end Work

section Step

variable {config : Config} {pipeline : Pipeline α} {task : Task α} {stage : Stage α}
  {timer : Timer UInt64} {events : List (Event α)} {tasks : List (Task α)}

theorem Noticed.step (noticed : Noticed pipeline.stage (task :: pipeline.agenda))
    (order : InOrder pipeline.stage (task :: pipeline.agenda))
    (sized : Sized config pipeline.stage (task :: pipeline.agenda))
    (effect : Effect pipeline task stage timer events tasks) :
    Noticed stage (tasks ++ pipeline.agenda) := by
  cases effect with
  | free aside inert allFree =>
      refine noticed.keep (Or.inl rfl) rfl rfl ?_
        fun task member => isClosing_of_isFree (allFree task member)
      rintro rfl
      cases aside
  | swept aside gone =>
      refine noticed.keep (Or.inr rfl) rfl rfl ?_ (List.forall_mem_nil _)
      rintro rfl
      cases aside
  | timerClosed =>
      refine noticed.keep (Or.inl rfl) rfl rfl nofun fun task member => isClosing_of_isFree ?_
      obtain ⟨line, _, rfl⟩ := List.mem_map.mp member
      rfl
  | called actions =>
      exact noticed.keep (Or.inl rfl) rfl rfl nofun
        fun task member => isClosing_of_isFree (isFree_acts actions task member)
  | @enteredSignal call signal announces =>
      refine noticed.announce ⟨?_, nofun⟩
      rintro rfl
      cases call <;> cases announces
  | @announced signal =>
      refine noticed.announce ⟨?_, ?_⟩
      · rintro rfl
        rfl
      · rintro ⟨⟩
        rfl
  | cancelled active => exact noticed.cancel
  | handled first dispatch => exact noticed.handle order.outer_of_workOff first dispatch
  | @acceptedHandOff token handOff stage timer events tasks delivery =>
      have trigger := (sized.sound _ List.mem_cons_self).trigger handOff rfl
      exact noticed.keep (Or.inl delivery.batch_eq) delivery.status_eq delivery.queue_eq.1 nofun
        (delivery.isClosing trigger)
  | refusedHandOff => exact noticed.keep (Or.inl rfl) rfl rfl nofun isClosing_failureTasks
  | failed failure =>
      cases failure with
      | late ended => exact noticed.keep (Or.inl rfl) rfl rfl nofun (List.forall_mem_nil _)
      | ended active => exact .of_empty rfl (by simp)
  | finished active => exact .of_empty (noticed.finishing List.mem_cons_self) (by simp)
  | reportedStage =>
      refine noticed.keep (Or.inl rfl) rfl rfl nofun (List.forall_mem_append.mpr ⟨?_, ?_⟩)
      · exact forall_cancelProducerTasks pipeline fun _ => rfl
      · exact List.forall_mem_singleton.mpr rfl
  | _ =>
      first
        | exact noticed.keep (Or.inl rfl) rfl rfl nofun (List.forall_mem_nil _)
        | exact noticed.keep (Or.inl rfl) rfl rfl nofun (by simp [isClosing])

end Step

/-! ## The balance -/

def carried (tasks : List (Task α)) : List α :=
  tasks.flatMap Task.items

/-- The items that wait in the queue. -/
def waiting (stage : Stage α) : List α :=
  stage.signals.filterMap Signal.item?

theorem carried_cons (task : Task α) (agenda : List (Task α)) :
    carried (task :: agenda) = task.items ++ carried agenda :=
  List.flatMap_cons

theorem carried_append (upper lower : List (Task α)) :
    carried (upper ++ lower) = carried upper ++ carried lower :=
  List.flatMap_append

theorem carried_of_none {tasks : List (Task α)} (none : ∀ task ∈ tasks, task.items = []) :
    carried tasks = [] :=
  List.flatMap_eq_nil_iff.mpr none

theorem items_of_isFree {task : Task α} (free : task.isFree = true) : task.items = [] := by
  cases task with
  | call call => cases call <;> first | rfl | cases free
  | _ => first | rfl | cases free

theorem items_of_isOuter {task : Task α} (outer : task.isOuter = true) : task.items = [] := by
  cases task with
  | call call => cases call <;> first | rfl | cases outer
  | _ => first | rfl | cases outer

theorem carried_cancelProducerTasks (pipeline : Pipeline α) :
    carried pipeline.cancelProducerTasks = [] :=
  carried_of_none (forall_cancelProducerTasks pipeline fun _ => rfl)

theorem carried_wakeTasks (stage : Stage α) : carried (wakeTasks stage) = [] := by
  rw [wakeTasks]
  split <;> rfl

/-- Every way of calling a hook gives it the same items. -/
theorem carried_hookTasks (hook : DiscardHook) (items : List α) :
    carried (hookTasks hook items) = items := by
  have single : ∀ items : List α,
      carried ((items.map Discard.item).map fun call => .call (.discard call)) = items := by
    intro items
    induction items with
    | nil => rfl
    | cons item items ih => exact congrArg (item :: ·) ih
  cases hook with
  | ignore => exact single items
  | each => exact single items
  | bulk => exact List.append_nil items

theorem carried_failureTasks (hook : DiscardHook) (items : List α) (error : StreamError) :
    carried (failureTasks hook items error) = items := by
  rw [failureTasks, carried_append, carried_hookTasks]
  exact List.append_nil items

theorem carried_setAlarm (handOff : HandOff α) :
    carried [.setAlarm (some handOff)] = handOff.batch :=
  (List.append_nil _).trans (List.append_nil _)

theorem carried_closingTasks (handOff : HandOff α) : carried (closingTasks handOff) = [] := by
  rw [closingTasks]
  split <;> rfl

section Work

variable {hook : DiscardHook} {stage next : Stage α} {timer clock : Timer UInt64}
  {events : List (Event α)} {tasks : List (Task α)}

theorem Delivery.carried_eq {handOff : HandOff α}
    (delivery : Delivery hook stage timer handOff next clock events tasks) :
    carried tasks = handOff.batch := by
  cases delivery with
  | late ended => exact carried_hookTasks hook handOff.batch
  | unpaid active unpaid => exact carried_failureTasks hook handOff.batch _
  | paid active paid =>
      change handOff.batch ++ [] ++ carried (closingTasks handOff) = handOff.batch
      rw [carried_closingTasks, List.append_nil, List.append_nil]

theorem Failure.carried_eq {error : StreamError} {origin : Origin}
    (failure : Failure hook stage timer error origin next clock events tasks) :
    carried tasks ++ next.batch = stage.batch := by
  cases failure with
  | late ended => rfl
  | ended active =>
      rw [carried_append, carried_hookTasks]
      exact (List.append_nil _).trans (List.append_nil _)

/-- A batch that an active stage delivers is not discarded. -/
theorem Delivery.isDiscarding {handOff : HandOff α}
    (delivery : Delivery hook stage timer handOff next clock events tasks)
    (active : stage.status = .active) (unfailing : ∀ task ∈ tasks, task.isFailing = false) :
    ∀ task ∈ tasks, task.isDiscarding = false := by
  cases delivery with
  | late ended => exact absurd active ended
  | unpaid _ unpaid =>
      have impossible := (List.forall_mem_append.mp unfailing).2 _ List.mem_cons_self
      cases impossible
  | paid _ paid =>
      rw [closingTasks, List.forall_mem_cons]
      split
      · exact ⟨rfl, List.forall_mem_singleton.mpr rfl⟩
      · exact ⟨rfl, List.forall_mem_nil _⟩

/-- Working a signal off loses no item. -/
theorem Dispatch.carried_perm {signal : Signal α}
    (dispatch : Dispatch hook stage timer signal next clock events tasks) :
    (carried tasks ++ next.batch).Perm (stage.batch ++ signal.item?.toList) := by
  cases dispatch with
  | itemLate ended => exact List.perm_append_comm
  | itemUnrequested active unrequested => exact List.perm_append_comm
  | itemTaken active received room => exact List.Perm.refl _
  | itemLast active received full =>
      rw [carried_setAlarm]
      exact List.Perm.of_eq (List.append_nil _)
  | tickClosing active filled =>
      rw [carried_setAlarm]
      exact List.Perm.refl _
  | completed active filled delivery =>
      rw [delivery.carried_eq, delivery.batch_eq]
      exact List.Perm.refl _
  | failed failure =>
      rw [failure.carried_eq]
      exact List.Perm.of_eq (List.append_nil _).symm
  | cancelledEmpty empty =>
      rw [carried_hookTasks, empty]
      exact List.Perm.refl _
  | cancelled filled =>
      rw [carried_hookTasks]
      exact List.Perm.refl _
  | _ => exact List.Perm.of_eq (List.append_nil _).symm

/-- Working a signal off keeps the items in order while the stage works. -/
theorem Dispatch.carried_eq {signal : Signal α}
    (dispatch : Dispatch hook stage timer signal next clock events tasks)
    (active : next.status = .active) (unfailing : ∀ task ∈ tasks, task.isFailing = false)
    (current : signal ≠ .cancelled) :
    carried tasks ++ next.batch = stage.batch ++ signal.item?.toList ∧
      ∀ task ∈ tasks, task.isDiscarding = false := by
  cases dispatch with
  | subscribedAgain idle => exact ⟨(List.append_nil _).symm, List.forall_mem_nil _⟩
  | subscribed _ unset => exact ⟨(List.append_nil _).symm, List.forall_mem_singleton.mpr rfl⟩
  | itemLate ended => exact absurd active ended
  | itemUnrequested _ unrequested => simp [Task.isFailing] at unfailing
  | itemTaken _ received room => exact ⟨rfl, List.forall_mem_nil _⟩
  | itemLast _ received full =>
      rw [carried_setAlarm]
      exact ⟨List.append_nil _, List.forall_mem_singleton.mpr rfl⟩
  | tickLate ended => exact absurd active ended
  | tickStale _ stale => exact ⟨(List.append_nil _).symm, List.forall_mem_nil _⟩
  | tickEmpty _ empty => exact ⟨(List.append_nil _).symm, List.forall_mem_singleton.mpr rfl⟩
  | tickClosing _ filled =>
      rw [carried_setAlarm]
      exact ⟨rfl, List.forall_mem_singleton.mpr rfl⟩
  | completedLate ended => exact absurd active ended
  | completedEmpty _ empty => exact ⟨(List.append_nil _).symm, List.forall_mem_singleton.mpr rfl⟩
  | completed works filled delivery =>
      rw [delivery.carried_eq, delivery.batch_eq]
      exact ⟨rfl, delivery.isDiscarding works unfailing⟩
  | failed failure =>
      cases failure with
      | late ended => exact absurd active ended
      | ended _ => cases active
  | cancelledEmpty empty => exact absurd rfl current
  | cancelled filled => exact absurd rfl current

end Work

section Step

variable {config : Config} {pipeline : Pipeline α} {task : Task α} {stage : Stage α}
  {timer : Timer UInt64} {events : List (Event α)} {tasks : List (Task α)}

theorem Effect.passed_eq (effect : Effect pipeline task stage timer events tasks) :
    passedIn events = task.passed := by
  rw [passedIn, entries, effect.inbound_eq]
  cases task with
  | enter call => cases call <;> rfl
  | _ => rfl

theorem Effect.delivered_eq (effect : Effect pipeline task stage timer events tasks) :
    deliveredIn events = (task.outbound?.bind Outbound.batch?).toList := by
  rw [deliveredIn, effect.outbound_eq]
  cases task.outbound? with
  | none => rfl
  | some call => cases call <;> rfl

theorem Effect.discarded_eq (effect : Effect pipeline task stage timer events tasks) :
    discardedIn events = task.discards := by
  rw [discardedIn, effect.outbound_eq, Task.discards]
  cases task.outbound? with
  | none => rfl
  | some call => exact List.append_nil _

theorem waiting_queued (signal : Signal α) :
    waiting (queued stage signal) = waiting stage ++ signal.item?.toList := by
  rw [waiting, queued, List.filterMap_append]
  congr 1

/-- How items move: a task passes on what it carries and lets the queue grow at its end, or it
gathers items from the front of the queue and from the open batch. -/
inductive Motion (before after : Stage α) (task : Task α) (tasks : List (Task α)) : Prop where
  | pass (given_perm : (task.given ++ carried tasks).Perm task.items)
      (batch_eq : after.batch = before.batch)
      (waiting_eq : waiting after = waiting before ++ task.passed)
  | gather (front : List α) (given_eq : task.given = []) (items_eq : task.items = [])
      (passed_eq : task.passed = []) (waiting_eq : waiting before = front ++ waiting after)
      (gathered : (carried tasks ++ after.batch).Perm (before.batch ++ front))

/-- No task loses an item, but the sweep of a stage that is gone. -/
theorem Effect.motion (effect : Effect pipeline task stage timer events tasks)
    (noItem : task.item? = none) :
    Motion pipeline.stage stage task tasks ∨
      (task.isAside = true ∧ tasks = [] ∧ stage = cleared pipeline.stage ∧
        (pipeline.perform task).owned = false) := by
  have quiet : ∀ {next : Stage α}, task.given = [] → task.items = [] → task.passed = [] →
      carried tasks = [] → next.batch = pipeline.stage.batch →
      next.signals = pipeline.stage.signals → Motion pipeline.stage next task tasks := by
    intro next given items passed nothing batch_eq signals_eq
    refine .pass ?_ batch_eq ?_
    · rw [given, items, nothing]
      exact List.Perm.refl _
    · rw [waiting, signals_eq, passed, List.append_nil, waiting]
  cases effect with
  | free aside inert allFree =>
      have none := carried_of_none fun task member => items_of_isFree (allFree task member)
      refine Or.inl ?_
      cases task <;> first | exact quiet rfl rfl rfl none rfl rfl | cases aside
  | swept aside gone => exact Or.inr ⟨aside, rfl, rfl, gone⟩
  | timerClosed =>
      refine Or.inl (quiet rfl rfl rfl (carried_of_none fun task member => ?_) rfl rfl)
      obtain ⟨line, _, rfl⟩ := List.mem_map.mp member
      rfl
  | @called call actions =>
      have none := carried_of_none fun task member =>
        items_of_isFree (isFree_acts actions task member)
      refine Or.inl (.pass ?_ rfl (List.append_nil _).symm)
      rw [none, List.append_nil]
      exact List.Perm.refl _
  | @enteredSignal call signal announces =>
      have passed : (Task.enter call).passed = signal.item?.toList := by
        cases call <;> cases announces <;> rfl
      refine Or.inl (.pass ?_ rfl ?_)
      · rw [carried_wakeTasks]
        exact List.Perm.refl _
      · rw [waiting_queued, passed]
  | @announced signal =>
      have nothing : signal.item? = none := noItem
      refine Or.inl (.pass ?_ rfl ?_)
      · rw [carried_wakeTasks]
        exact List.Perm.refl _
      · rw [waiting_queued, nothing]
        rfl
  | cancelled active =>
      refine Or.inl (quiet rfl rfl rfl ?_ rfl rfl)
      rw [carried_append, carried_cancelProducerTasks]
      rfl
  | @handled missed signal rest stage timer events tasks first dispatch =>
      have same : carried (tasks ++ [Task.workOff missed]) = carried tasks := by
        rw [carried_append]
        exact List.append_nil _
      refine Or.inl (.gather signal.item?.toList rfl rfl rfl ?_ ?_)
      · rw [waiting, first, List.filterMap_cons, waiting, dispatch.queue_eq.1]
        cases signal.item? <;> rfl
      · rw [same]
        exact dispatch.carried_perm
  | @acceptedHandOff token handOff stage timer events tasks delivery =>
      refine Or.inl (.pass ?_ delivery.batch_eq ?_)
      · rw [delivery.carried_eq]
        exact List.Perm.of_eq (List.append_nil _).symm
      · rw [waiting, delivery.queue_eq.1]
        exact (List.append_nil _).symm
  | @refusedHandOff rejection handOff =>
      refine Or.inl (.pass ?_ rfl (List.append_nil _).symm)
      rw [carried_failureTasks]
      exact List.Perm.of_eq (List.append_nil _).symm
  | @failed error origin stage timer events tasks failure =>
      refine Or.inl (.gather [] rfl rfl rfl ?_ ?_)
      · rw [waiting, waiting, failure.queue_eq.1]
        rfl
      · rw [failure.carried_eq, List.append_nil]
  | reportedStage =>
      refine Or.inl (quiet rfl rfl rfl ?_ rfl rfl)
      rw [carried_append, carried_cancelProducerTasks]
      rfl
  | @alarmSet handOff =>
      exact Or.inl (.pass (List.Perm.of_eq (List.append_nil _)) rfl (List.append_nil _).symm)
  | _ => exact Or.inl (quiet rfl rfl rfl rfl rfl rfl)

/-- A stage that the driver still holds is not swept. -/
theorem Effect.stage_of_owned (effect : Effect pipeline task stage timer events tasks)
    (owned : (pipeline.perform task).owned = true) (aside : task.isAside = true) :
    stage = pipeline.stage := by
  cases effect with
  | free _ inert allFree => rfl
  | swept _ gone => cases owned.symm.trans gone
  | timerClosed => rfl
  | _ => cases aside

/-- No task loses an item of a stage that is not swept. -/
theorem Effect.balance (effect : Effect pipeline task stage timer events tasks)
    (kept : task.isAside = true → stage = pipeline.stage) (noItem : task.item? = none) :
    (task.given : Multiset α) + carried tasks + stage.batch + waiting stage =
      task.items + pipeline.stage.batch + waiting pipeline.stage + task.passed := by
  rcases effect.motion noItem with motion | ⟨aside, rfl, _, _⟩
  · cases motion with
    | pass given_perm batch_eq waiting_eq =>
        have moved : (task.given : Multiset α) + carried tasks = task.items :=
          Multiset.coe_eq_coe.mpr given_perm
        rw [moved, batch_eq, waiting_eq, ← Multiset.coe_add]
        abel
    | gather front given_eq items_eq passed_eq waiting_eq gathered =>
        have kept : (carried tasks : Multiset α) + stage.batch = pipeline.stage.batch + front :=
          Multiset.coe_eq_coe.mpr gathered
        rw [given_eq, items_eq, passed_eq, waiting_eq, ← Multiset.coe_add]
        simp only [Multiset.coe_nil, zero_add, add_zero]
        rw [kept]
        abel
  · have outside : task.given = [] ∧ task.items = [] ∧ task.passed = [] := by
      cases task <;> first | exact ⟨rfl, rfl, rfl⟩ | cases aside
    rw [kept aside, outside.1, outside.2.1, outside.2.2]
    exact (add_zero _).symm

theorem isDiscarding_of_isFree {task : Task α} (free : task.isFree = true) :
    task.isDiscarding = false := by
  cases task with
  | call call => cases call <;> first | rfl | cases free
  | _ => rfl

theorem isDiscarding_wakeTasks : ∀ task ∈ wakeTasks stage, task.isDiscarding = false := by
  rw [wakeTasks]
  split
  · exact List.forall_mem_singleton.mpr rfl
  · exact List.forall_mem_nil _

/-- A task discards nothing and keeps the items in order: it passes on what it carries and lets the
queue grow at its end, or it takes items from the front of the queue. -/
def InLine (pipeline : Pipeline α) (task : Task α) (stage : Stage α) (tasks : List (Task α)) :
    Prop :=
  (∀ task ∈ tasks, task.isDiscarding = false) ∧
    ((carried tasks = task.items ∧ stage.batch = pipeline.stage.batch ∧
        waiting stage = waiting pipeline.stage ++ task.passed) ∨
      (task.isWorkOff = true ∧
        carried tasks ++ stage.batch ++ waiting stage =
          pipeline.stage.batch ++ waiting pipeline.stage))

/-- While the stage works and is not about to fail, the items that a task does not give away keep
their order. -/
theorem Effect.inLine (effect : Effect pipeline task stage timer events tasks)
    (kept : task.isAside = true → stage = pipeline.stage) (noItem : task.item? = none)
    (active : stage.status = .active) (unfailing : ∀ task ∈ tasks, task.isFailing = false)
    (noticed : .cancelled ∈ pipeline.stage.signals → pipeline.stage.status ≠ .active)
    (keeps : task.given = []) : InLine pipeline task stage tasks := by
  have quiet : ∀ {next : Stage α}, (∀ task ∈ tasks, task.isDiscarding = false) →
      task.items = [] → task.passed = [] → carried tasks = [] →
      next.batch = pipeline.stage.batch → next.signals = pipeline.stage.signals →
      InLine pipeline task next tasks := by
    intro next none items passed nothing batch_eq signals_eq
    refine ⟨none, Or.inl ⟨nothing.trans items.symm, batch_eq, ?_⟩⟩
    rw [waiting, signals_eq, passed, List.append_nil, waiting]
  cases effect with
  | free aside inert allFree =>
      have none := carried_of_none fun task member => items_of_isFree (allFree task member)
      have keepsAll := fun task member => isDiscarding_of_isFree (allFree task member)
      cases task <;> first | exact quiet keepsAll rfl rfl none rfl rfl | cases aside
  | swept aside gone =>
      have same := kept aside
      cases task <;> first
        | exact quiet (List.forall_mem_nil _) rfl rfl rfl (congrArg Stage.batch same) rfl
        | cases aside
  | timerClosed =>
      refine quiet ?_ rfl rfl (carried_of_none ?_) rfl rfl
      · intro task member
        obtain ⟨line, _, rfl⟩ := List.mem_map.mp member
        rfl
      · intro task member
        obtain ⟨line, _, rfl⟩ := List.mem_map.mp member
        rfl
  | @called call actions =>
      refine quiet ?_ keeps rfl (carried_of_none ?_) rfl rfl
      · exact fun task member => isDiscarding_of_isFree (isFree_acts actions task member)
      · exact fun task member => items_of_isFree (isFree_acts actions task member)
  | @enteredSignal call signal announces =>
      have passed : (Task.enter call).passed = signal.item?.toList := by
        cases call <;> cases announces <;> rfl
      refine ⟨isDiscarding_wakeTasks, Or.inl ⟨carried_wakeTasks _, rfl, ?_⟩⟩
      rw [waiting_queued, passed]
  | @announced signal =>
      have nothing : signal.item? = none := noItem
      refine ⟨isDiscarding_wakeTasks, Or.inl ⟨carried_wakeTasks _, rfl, ?_⟩⟩
      rw [waiting_queued, nothing]
      rfl
  | cancelled works => cases active
  | @handled missed signal rest stage timer events tasks first dispatch =>
      have works := dispatch.active_of_active active
      have current : signal ≠ .cancelled := by
        rintro rfl
        refine noticed ?_ works
        rw [first]
        exact List.mem_cons_self
      obtain ⟨unfailing, _⟩ := List.forall_mem_append.mp unfailing
      obtain ⟨kept, none⟩ := dispatch.carried_eq active unfailing current
      have same : carried (tasks ++ [Task.workOff missed]) = carried tasks := by
        rw [carried_append]
        exact List.append_nil _
      have before : waiting pipeline.stage = signal.item?.toList ++ waiting stage := by
        rw [waiting, first, List.filterMap_cons, waiting, dispatch.queue_eq.1]
        cases signal.item? <;> rfl
      refine ⟨List.forall_mem_append.mpr ⟨none, List.forall_mem_singleton.mpr rfl⟩,
        Or.inr ⟨rfl, ?_⟩⟩
      rw [same, kept, before, List.append_assoc]
  | @acceptedHandOff token handOff stage timer events tasks delivery =>
      have works : pipeline.stage.status = .active := delivery.status_eq.symm.trans active
      refine ⟨delivery.isDiscarding works unfailing, Or.inl ⟨?_, delivery.batch_eq, ?_⟩⟩
      · rw [delivery.carried_eq]
        exact (List.append_nil _).symm
      · rw [waiting, delivery.queue_eq.1]
        exact (List.append_nil _).symm
  | refused => simp [Task.isFailing] at unfailing
  | refusedHandOff => cases (List.forall_mem_append.mp unfailing).2 _ List.mem_cons_self
  | failed failure =>
      cases failure with
      | late ended => exact absurd active ended
      | ended works => cases active
  | reportedStage =>
      refine quiet ?_ rfl rfl ?_ rfl rfl
      · rw [List.forall_mem_append]
        exact ⟨forall_cancelProducerTasks pipeline fun _ => rfl, List.forall_mem_singleton.mpr rfl⟩
      · rw [carried_append, carried_cancelProducerTasks]
        rfl
  | alarmSet =>
      refine ⟨by simp [Task.isDiscarding], Or.inl ⟨List.append_nil _, rfl, ?_⟩⟩
      exact (List.append_nil _).symm
  | finished works => cases active
  | _ => exact quiet (by simp [Task.isDiscarding]) rfl rfl rfl rfl rfl

/-- The items that were passed to the stage are those that were delivered, followed by the rest. The
rest are the items that were discarded or are still held; while the stage works and is not about to
fail, none was discarded, and they are held in their order. -/
structure Balance (stage : Stage α) (agenda : List (Task α)) (events : List (Event α))
    (rest : List α) : Prop where
  passed_eq : passedIn events = (deliveredIn events).flatten ++ rest
  rest_eq : (rest : Multiset α) =
    discardedIn events + carried agenda + stage.batch + waiting stage
  line : stage.status = .active → (∀ task ∈ agenda, task.isFailing = false) →
    discardedIn events = [] ∧ (∀ task ∈ agenda, task.isDiscarding = false) ∧
      rest = carried agenda ++ stage.batch ++ waiting stage

namespace Balance

variable {rest : List α}

/-- A batch is delivered from the front of the line. -/
theorem deliver {batch : List α}
    (balance : Balance pipeline.stage (.call (.next batch) :: pipeline.agenda) pipeline.chronicle
      rest)
    (effect : Effect pipeline (.call (.next batch)) stage timer events tasks)
    (active : pipeline.stage.status = .active)
    (others : ∀ task ∈ pipeline.agenda, task.isPivot = false) :
    ∃ rest, Balance stage (tasks ++ pipeline.agenda) (pipeline.chronicle ++ events) rest := by
  have unfailing : ∀ task ∈ Task.call (.next batch) :: pipeline.agenda, task.isFailing = false := by
    rw [List.forall_mem_cons]
    refine ⟨rfl, fun task member => ?_⟩
    have noPivot := others task member
    cases task <;> first | rfl | cases noPivot
  obtain ⟨undiscarded, keepsAll, rest_eq⟩ := balance.line active unfailing
  have given_eq : (Task.call (.next batch)).items = batch :=
    List.append_nil _
  rw [carried_cons, given_eq, List.append_assoc, List.append_assoc] at rest_eq
  have passed_eq := effect.passed_eq
  have delivered_eq := effect.delivered_eq
  have discarded_eq := effect.discarded_eq
  cases effect with
  | free aside inert allFree => cases aside
  | swept aside gone => cases aside
  | called actions =>
      have nothing : carried (actions.map Task.act) = [] :=
        carried_of_none fun task member => items_of_isFree (isFree_acts actions task member)
      refine ⟨carried pipeline.agenda ++ pipeline.stage.batch ++ waiting pipeline.stage, ?_, ?_, ?_⟩
      · rw [passedIn_append, deliveredIn_append, passed_eq, delivered_eq, balance.passed_eq,
          rest_eq]
        simp [Task.passed, Task.outbound?, Outbound.batch?]
      · rw [discardedIn_append, undiscarded, discarded_eq, carried_append, nothing,
          ← Multiset.coe_add, ← Multiset.coe_add]
        simp [Task.discards, Task.outbound?, Outbound.discards]
      · intro _ _
        rw [discardedIn_append, undiscarded, discarded_eq, carried_append, nothing]
        refine ⟨rfl, List.forall_mem_append.mpr ⟨?_, (List.forall_mem_cons.mp keepsAll).2⟩, rfl⟩
        exact fun task member => isDiscarding_of_isFree (isFree_acts actions task member)

/-- Every other task leaves what was delivered alone. -/
theorem keep (balance : Balance pipeline.stage (task :: pipeline.agenda) pipeline.chronicle rest)
    (effect : Effect pipeline task stage timer events tasks)
    (order : InOrder pipeline.stage (task :: pipeline.agenda))
    (kept : task.isAside = true → stage = pipeline.stage) (noItem : task.item? = none)
    (noticed : .cancelled ∈ pipeline.stage.signals → pipeline.stage.status ≠ .active)
    (other : task.outbound?.bind Outbound.batch? = none) :
    Balance stage (tasks ++ pipeline.agenda) (pipeline.chronicle ++ events)
      (rest ++ task.passed) := by
  have given_eq : task.given = task.discards := by
    cases task with
    | call call => cases call <;> first | rfl | exact (List.append_nil _).symm | cases other
    | _ => rfl
  have balanced := effect.balance kept noItem
  rw [given_eq] at balanced
  constructor
  · rw [passedIn_append, deliveredIn_append, effect.passed_eq, effect.delivered_eq, other,
      Option.toList_none, List.append_nil, balance.passed_eq, List.append_assoc]
  · have before := balance.rest_eq
    rw [carried_cons, ← Multiset.coe_add] at before
    rw [discardedIn_append, effect.discarded_eq, carried_append, ← Multiset.coe_add,
      ← Multiset.coe_add, ← Multiset.coe_add, before]
    -- The step divides the items anew between the batch, the queue and the tasks.
    calc
      (discardedIn pipeline.chronicle : Multiset α) + (task.items + carried pipeline.agenda) +
            pipeline.stage.batch + waiting pipeline.stage + task.passed =
          discardedIn pipeline.chronicle + carried pipeline.agenda +
            (task.items + pipeline.stage.batch + waiting pipeline.stage + task.passed) := by
        abel
      _ = discardedIn pipeline.chronicle + carried pipeline.agenda +
            (task.discards + carried tasks + stage.batch + waiting stage) := by
        rw [balanced]
      _ = _ := by
        abel
  · intro active unfailing
    obtain ⟨unfailingTasks, unfailingOthers⟩ := List.forall_mem_append.mp unfailing
    have works : pipeline.stage.status = .active := by
      by_contra ended
      exact ended (effect.status_eq ended ▸ active)
    have unfailingTask : task.isFailing = false := by
      cases task with
      | endWith error origin =>
          cases effect with
          | free aside inert allFree => cases aside
          | swept aside gone => cases aside
          | failed failure =>
              cases failure with
              | late ended => exact absurd active ended
              | ended _ => cases active
      | _ => rfl
    obtain ⟨undiscarded, keepsAll, rest_eq⟩ :=
      balance.line works (List.forall_mem_cons.mpr ⟨unfailingTask, unfailingOthers⟩)
    obtain ⟨keepsTask, keepsOthers⟩ := List.forall_mem_cons.mp keepsAll
    have noDiscard : task.discards = [] := by
      cases task with
      | call call => cases call <;> first | rfl | cases keepsTask
      | _ => rfl
    obtain ⟨keepsTasks, line⟩ :=
      effect.inLine kept noItem active unfailingTasks noticed (given_eq.trans noDiscard)
    refine ⟨?_, List.forall_mem_append.mpr ⟨keepsTasks, keepsOthers⟩, ?_⟩
    · rw [discardedIn_append, undiscarded, effect.discarded_eq, noDiscard]
      rfl
    · rw [rest_eq, carried_cons, carried_append]
      rcases line with ⟨carried_eq, batch_eq, waiting_eq⟩ | ⟨works, line⟩
      · rw [carried_eq, batch_eq, waiting_eq]
        simp only [List.append_assoc]
      -- Items leave the queue only by the work on it, and nothing beneath that work carries items.
      · have nothing : carried pipeline.agenda = [] := by
          refine carried_of_none fun other member => items_of_isOuter ?_
          exact (List.pairwise_cons.mp order.beneath).1 other member works
        have items : task.items = [] := by
          cases task <;> first | rfl | cases works
        have passed : task.passed = [] := by
          cases task <;> first | rfl | cases works
        rw [nothing, items, passed, List.append_nil, List.append_nil, List.append_nil, line]
        rfl

end Balance

end Step

/-! ## Conservation -/

/-- All that is known about the items of a stage that is held. -/
structure Conserved (config : Config) (stage : Stage α) (agenda : List (Task α))
    (events : List (Event α)) : Prop where
  order : InOrder stage agenda
  prompt : Prompt stage agenda
  sized : Sized config stage agenda
  single : agenda.countP Task.isPivot ≤ 1
  noticed : Noticed stage agenda
  fits : ∀ batch ∈ deliveredIn events, Fits config batch
  balance : ∃ rest, Balance stage agenda events rest

namespace Conserved

variable {config : Config} {stage : Stage α} {events : List (Event α)}

theorem opening (valid : config.fault? = none) (lines : List LogLine) :
    Conserved config (.opening config : Stage α) [] (lines.map .log) := by
  have silent : (lines.map .log : List (Event α)).filterMap Event.outbound? = [] :=
    filterMap_eq_nil_of_isAside Event.outbound?_of_isAside isAside_of_mem_logs
  have undelivered : deliveredIn (lines.map .log : List (Event α)) = [] := by
    rw [deliveredIn, silent]
    rfl
  have undiscarded : discardedIn (lines.map .log : List (Event α)) = [] := by
    rw [discardedIn, silent]
    rfl
  have unpassed : passedIn (lines.map .log : List (Event α)) = [] := by
    rw [passedIn, entries_logs]
    rfl
  constructor
  · exact .opening config
  · exact .of_forall (List.forall_mem_nil _)
  · refine ⟨rfl, ?_, List.forall_mem_nil _⟩
    rw [Config.fault?] at valid
    split at valid
    · cases valid
    · rename_i positive
      refine Nat.pos_of_ne_zero fun zero => positive ?_
      exact Amount.ext zero
  · exact Nat.zero_le 1
  · exact .opening config
  · rw [undelivered]
    exact List.forall_mem_nil _
  · refine ⟨[], ?_, ?_, ?_⟩
    · rw [unpassed, undelivered]
      rfl
    · rw [undiscarded]
      rfl
    · intro _ _
      rw [undiscarded]
      exact ⟨rfl, List.forall_mem_nil _, rfl⟩

theorem begin (conserved : Conserved config stage [] events) (action : Action α) :
    Conserved config stage [.act action] events := by
  obtain ⟨rest, balance⟩ := conserved.balance
  constructor
  · exact conserved.order.begin action
  · exact .of_forall (List.forall_mem_singleton.mpr rfl)
  · exact ⟨conserved.sized.config_eq, conserved.sized.room,
      List.forall_mem_singleton.mpr (sound_of_none rfl rfl)⟩
  · exact Nat.zero_le 1
  · exact conserved.noticed.begin action
  · exact conserved.fits
  · refine ⟨rest, balance.passed_eq, balance.rest_eq, fun active _ => ?_⟩
    obtain ⟨undiscarded, _, rest_eq⟩ := balance.line active (List.forall_mem_nil _)
    exact ⟨undiscarded, List.forall_mem_singleton.mpr rfl, rest_eq⟩

theorem step {pipeline : Pipeline α} {task : Task α} {timer : Timer UInt64}
    {tasks : List (Task α)}
    (conserved : Conserved config pipeline.stage (task :: pipeline.agenda) pipeline.chronicle)
    (effect : Effect pipeline task stage timer events tasks)
    (kept : task.isAside = true → stage = pipeline.stage) :
    Conserved config stage (tasks ++ pipeline.agenda) (pipeline.chronicle ++ events) := by
  have order := conserved.order
  have sound := conserved.sized.sound task List.mem_cons_self
  obtain ⟨rest, balance⟩ := conserved.balance
  constructor
  · exact order.step effect
  · exact conserved.prompt.step effect
  · exact conserved.sized.step effect
  · exact effect.single order conserved.single
  · exact conserved.noticed.step order conserved.sized effect
  · rw [deliveredIn_append, effect.delivered_eq, List.forall_mem_append]
    refine ⟨conserved.fits, fun batch member => sound.fits batch ?_⟩
    rw [Task.eq_next_of_delivers (Option.mem_toList.mp member)]
    exact Option.mem_some_self batch
  · cases delivers : task.outbound?.bind Outbound.batch? with
    | none =>
        refine ⟨_, balance.keep effect order kept sound.announces ?_ delivers⟩
        exact fun waits => conserved.noticed.ended (Or.inl waits)
    | some batch =>
        cases Task.eq_next_of_delivers delivers
        exact balance.deliver effect (conserved.prompt.head _ rfl rfl)
          (noPivot_below order conserved.single rfl)

end Conserved

section Reachable

variable {config : Config} {setup : Setup α} {pipeline : Pipeline α}

theorem Reachable.conserved (reachable : Reachable config setup pipeline)
    (owned : pipeline.owned = true) :
    Conserved config pipeline.stage pipeline.agenda pipeline.chronicle := by
  obtain ⟨opening, made, later⟩ := reachable
  obtain ⟨valid, stage_eq, agenda_eq, lines, chronicle_eq⟩ := opening?_eq_ok made
  -- A stage that is given up loses what is in it, so the invariant holds only of a stage that is
  -- held, which was held at every earlier step, too.
  induction later with
  | here =>
      rw [stage_eq, agenda_eq, chronicle_eq]
      exact .opening valid lines
  | @step last earlier ih =>
      cases next : last.agenda with
      | nil =>
          rw [step_of_atRest (List.isEmpty_iff.mpr next)] at owned ⊢
          exact ih owned
      | cons task rest =>
          obtain ⟨stage, timer, events, tasks, effect, becomes⟩ := exists_step_effect next
          have before := ih (becomes.owned_of owned)
          rw [next] at before
          rw [becomes.stage_eq, becomes.agenda_eq, becomes.chronicle_eq]
          rw [step_of_agenda next] at owned
          exact before.step effect fun aside => effect.stage_of_owned owned aside
  | @begin last earlier rest action ih =>
      have before := ih owned
      rw [List.isEmpty_iff.mp rest] at before
      rw [agenda_begin_of_atRest rest]
      exact before.begin action

/-- The items passed to a stage that is not given up are those of the delivered batches, in their
order, and then the open batch; once the stage has ended, what was not delivered was discarded. -/
theorem Reachable.items_conserved (reachable : Reachable config setup pipeline)
    (owned : pipeline.owned = true) (idle : pipeline.isIdle = true) :
    ∃ rest, pipeline.passed = pipeline.delivered.flatten ++ rest ∧
      (pipeline.stage.status = .active →
        pipeline.discarded = [] ∧ rest = pipeline.stage.batch) ∧
      (pipeline.stage.status ≠ .active →
        pipeline.stage.batch = [] ∧ pipeline.discarded.Perm rest) ∧
      ∀ batch ∈ pipeline.delivered, 1 ≤ batch.length ∧ batch.length ≤ config.maxSize.count := by
  have conserved := reachable.conserved owned
  have free := List.all_eq_true.mp idle
  obtain ⟨rest, balance⟩ := conserved.balance
  have nothingCarried : carried pipeline.agenda = [] :=
    carried_of_none fun task member => items_of_isFree (free task member)
  have nothingWaits : waiting pipeline.stage = [] := by
    rw [waiting, (conserved.order.resting_of_isIdle idle).2]
    rfl
  refine ⟨rest, ?_, ?_, ?_, ?_⟩
  · rw [passed_eq, delivered_eq]
    exact balance.passed_eq
  · intro active
    have unfailing : ∀ task ∈ pipeline.agenda, task.isFailing = false := by
      intro task member
      have isFree := free task member
      cases task <;> first | rfl | cases isFree
    obtain ⟨undiscarded, _, rest_eq⟩ := balance.line active unfailing
    rw [nothingCarried, nothingWaits, List.append_nil] at rest_eq
    exact ⟨undiscarded, rest_eq⟩
  · intro ended
    have empty : pipeline.stage.batch = [] := by
      rcases conserved.noticed.pending ended with empty | waits | coming
      · exact empty
      · rw [(conserved.order.resting_of_isIdle idle).2] at waits
        cases waits
      · cases free _ coming
    refine ⟨empty, ?_⟩
    have rest_eq := balance.rest_eq
    rw [nothingCarried, nothingWaits, empty] at rest_eq
    simp only [Multiset.coe_nil, add_zero] at rest_eq
    exact Multiset.coe_eq_coe.mp rest_eq.symm
  · rw [delivered_eq]
    exact conserved.fits

end Reachable

theorem items_conserved_of_cancel_in_batch :
    ∃ pipeline : Pipeline Nat,
      Reachable ⟨2, .ofMillis 10, .unbounded⟩
        { hook := .bulk
          reactions := fun kind count =>
            if kind = .subscribe then [.request 5]
            else if kind = .next ∧ count = 1 then [.next [5, 6], .cancel, .next [7]]
            else [] } pipeline ∧
      pipeline.stage.status = .cancelled ∧ pipeline.passed = [1, 2, 3, 4, 5, 6, 7] ∧
      pipeline.delivered = [[1, 2], [3, 4]] ∧
      ∃ rest, pipeline.passed = pipeline.delivered.flatten ++ rest ∧
        (pipeline.stage.status = .active →
          pipeline.discarded = [] ∧ rest = pipeline.stage.batch) ∧
        (pipeline.stage.status ≠ .active →
          pipeline.stage.batch = [] ∧ pipeline.discarded.Perm rest) ∧
        ∀ batch ∈ pipeline.delivered, 1 ≤ batch.length ∧ batch.length ≤ (2 : Amount).count := by
  have start : @Reachable Nat ⟨2, .ofMillis 10, .unbounded⟩
      { hook := .bulk
        reactions := fun kind count =>
          if kind = .subscribe then [.request 5]
          else if kind = .next ∧ count = 1 then [.next [5, 6], .cancel, .next [7]]
          else [] } _ := Reachable.of_opening rfl
  have subscribed := start.act rfl .subscribe 20
  have ended := subscribed.act rfl (.next [1, 2, 3, 4]) 80
  exact ⟨_, ended, rfl, rfl, rfl, Reachable.items_conserved ended rfl rfl⟩

end Pipeline

end TimedBatch
