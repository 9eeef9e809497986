import TimedBatch.Proofs.Agenda

/-!
# One outcome

A consumer hears of its subscription, then gets batches, and at last hears at most one ending. The
status of a stage changes once, and it tells which ending the consumer heard.

Three accounts carry the proof: of the endings that were told or are still due, of the subscription,
and of the tasks that are done as soon as they are put on the agenda. A task of the last kind that
needs an active stage finds one, because nothing comes between.
-/

namespace TimedBatch

variable {α : Type}

/-! ## What the consumer hears -/

/-- What the consumer hears in a call. -/
def Outbound.heard? : Outbound α → Option (Pipeline.Received α)
  | .subscribe => some .subscribed
  | .next batch => some (.next batch)
  | .error failure => some (.error failure)
  | .complete => some .complete
  | _ => none

/-- Whether the consumer hears that the stage ended in a status. -/
def Pipeline.Received.tells (ending : Status) : Pipeline.Received α → Bool
  | .error _ => ending = .errored
  | .complete => ending = .completed
  | _ => false

def Pipeline.Received.isSubscribed : Pipeline.Received α → Bool
  | .subscribed => true
  | _ => false

namespace Task

/-- Whether it is due to tell the consumer that the stage ended in a status. -/
def tells (ending : Status) : Task α → Bool
  | .reportError _ _ => ending = .errored
  | .call outbound => outbound.heard?.any (Pipeline.Received.tells ending)
  | _ => false

/-- Whether it is due to tell the consumer of its subscription. -/
def isSubscription : Task α → Bool
  | .call .subscribe => true
  | _ => false

/-- Whether a task is done only while the stage is active. -/
def isProductive : Task α → Bool
  | .setAlarm _ => true
  | .call (.next _) => true
  | .call (.request _ _) => true
  | .call (.schedule _ _) => true
  | _ => false

/-- Whether a task is done as soon as it is put on the agenda. -/
def isPrompt (task : Task α) : Bool :=
  task.isProductive || task.isSubscription

theorem isPrompt_of_isFree {task : Task α} (free : task.isFree = true) : task.isPrompt = false := by
  cases task with
  | call call => cases call <;> first | rfl | cases free
  | _ => first | rfl | cases free

theorem tells_of_isFree (ending : Status) {task : Task α} (free : task.isFree = true) :
    task.tells ending = false := by
  cases task with
  | call call => cases call <;> first | rfl | cases free
  | _ => first | rfl | cases free

theorem isSubscription_of_isFree {task : Task α} (free : task.isFree = true) :
    task.isSubscription = false := by
  cases task with
  | call call => cases call <;> first | rfl | cases free
  | _ => rfl

end Task

namespace Pipeline

/-- What the consumer heard in some events. -/
def heard (events : List (Event α)) : List (Received α) :=
  (events.filterMap Event.outbound?).filterMap Outbound.heard?

theorem outboundCalls_eq (pipeline : Pipeline α) :
    pipeline.outboundCalls = pipeline.chronicle.filterMap Event.outbound? :=
  rfl

theorem received_eq (pipeline : Pipeline α) : pipeline.received = heard pipeline.chronicle :=
  rfl

theorem countP_hookTasks {counts : Task α → Bool} {hook : DiscardHook} {items : List α}
    (blind : ∀ call, counts (.call (.discard call)) = false) :
    (hookTasks hook items).countP counts = 0 := by
  rw [List.countP_eq_zero]
  intro task member
  obtain ⟨call, _, rfl⟩ := List.mem_map.mp member
  simp [blind]

theorem countP_cancelProducerTasks {counts : Task α → Bool} (pipeline : Pipeline α)
    (blind : ∀ producer, counts (.call (.cancel producer)) = false) :
    pipeline.cancelProducerTasks.countP counts = 0 := by
  rw [List.countP_eq_zero]
  apply forall_cancelProducerTasks
  intro producer
  simp [blind]

theorem isFree_acts (actions : List (Action α)) :
    ∀ task ∈ actions.map Task.act, task.isFree = true := by
  intro task member
  obtain ⟨action, _, rfl⟩ := List.mem_map.mp member
  rfl

theorem countP_of_isFree {counts : Task α → Bool} {tasks : List (Task α)}
    (blind : ∀ {task : Task α}, task.isFree = true → counts task = false)
    (allFree : ∀ task ∈ tasks, task.isFree = true) : tasks.countP counts = 0 := by
  rw [List.countP_eq_zero]
  intro task member
  rw [blind (allFree task member)]
  decide

theorem countP_wakeTasks {counts : Task α → Bool} {stage : Stage α}
    (blind : ∀ missed, counts (.workOff missed) = false) : (wakeTasks stage).countP counts = 0 := by
  rw [wakeTasks]
  split <;> simp [blind]

/-! ## The account of endings -/

/-- One for a status that is the given ending, and nothing for any other. -/
def due (ending status : Status) : Nat :=
  if status = ending then 1 else 0

section Work

variable {hook : DiscardHook} {stage next : Stage α} {timer clock : Timer UInt64}
  {events : List (Event α)} {tasks : List (Task α)} {ending : Status}

theorem Delivery.status_eq {handOff : HandOff α}
    (delivery : Delivery hook stage timer handOff next clock events tasks) :
    next.status = stage.status := by
  cases delivery <;> rfl

theorem Delivery.producer_eq {handOff : HandOff α}
    (delivery : Delivery hook stage timer handOff next clock events tasks) :
    next.producer = stage.producer := by
  cases delivery <;> rfl

theorem Failure.producer_eq {error : StreamError} {origin : Origin}
    (failure : Failure hook stage timer error origin next clock events tasks) :
    next.producer = stage.producer := by
  cases failure <;> rfl

theorem Dispatch.producer_eq {signal : Signal α}
    (dispatch : Dispatch hook stage timer signal next clock events tasks) :
    next.producer = stage.producer := by
  cases dispatch with
  | completed active filled delivery => exact delivery.producer_eq
  | failed failure => exact failure.producer_eq
  | _ => rfl

theorem Delivery.tells_eq {handOff : HandOff α}
    (delivery : Delivery hook stage timer handOff next clock events tasks) :
    tasks.countP (Task.tells ending) + due ending stage.status = due ending next.status := by
  have quiet : (hookTasks hook handOff.batch).countP (Task.tells ending) = 0 :=
    countP_hookTasks fun _ => rfl
  have silent : tasks.countP (Task.tells ending) = 0 := by
    cases delivery with
    | late ended => exact quiet
    | unpaid active unpaid =>
        rw [failureTasks, List.countP_append, quiet]
        rfl
    | paid active paid =>
        rw [closingTasks]
        split <;> rfl
  rw [silent, delivery.status_eq]
  exact Nat.zero_add _

theorem Failure.tells_eq {error : StreamError} {origin : Origin} (terminal : ending.isTerminated)
    (failure : Failure hook stage timer error origin next clock events tasks) :
    tasks.countP (Task.tells ending) + due ending stage.status = due ending next.status := by
  have quiet : (hookTasks hook stage.batch).countP (Task.tells ending) = 0 :=
    countP_hookTasks fun _ => rfl
  cases failure with
  | late ended => exact Nat.zero_add _
  | ended active =>
      rw [List.countP_append, quiet, active]
      cases ending <;> first | rfl | cases terminal

theorem Dispatch.tells_eq {signal : Signal α} (terminal : ending.isTerminated)
    (dispatch : Dispatch hook stage timer signal next clock events tasks) :
    tasks.countP (Task.tells ending) + due ending stage.status = due ending next.status := by
  cases dispatch with
  | completed active filled delivery => exact delivery.tells_eq
  | failed failure => exact failure.tells_eq terminal
  | cancelledEmpty empty =>
      rw [countP_hookTasks fun _ => rfl]
      exact Nat.zero_add _
  | cancelled filled =>
      rw [countP_hookTasks fun _ => rfl]
      exact Nat.zero_add _
  | _ => exact Nat.zero_add _

end Work

section Step

variable {pipeline : Pipeline α} {task : Task α} {stage : Stage α} {timer : Timer UInt64}
  {events : List (Event α)} {tasks : List (Task α)}

/-- The consumer hears what the task calls it with. -/
theorem Effect.heard_eq (effect : Effect pipeline task stage timer events tasks) :
    heard events = (task.outbound?.bind Outbound.heard?).toList := by
  rw [heard, effect.outbound_eq]
  cases task.outbound? with
  | none => rfl
  | some call => cases call <;> rfl

/-- What the consumer has heard of an ending and what it is due to hear make one, if the stage ended
so, and nothing otherwise. -/
theorem Effect.tells_eq {ending : Status} (terminal : ending.isTerminated)
    (effect : Effect pipeline task stage timer events tasks) :
    (heard events).countP (Received.tells ending) +
        tasks.countP (Task.tells ending) + due ending pipeline.stage.status =
      (if task.tells ending then 1 else 0) + due ending stage.status := by
  rw [effect.heard_eq]
  cases effect with
  | free aside inert allFree =>
      rw [countP_of_isFree (Task.tells_of_isFree ending) allFree,
        Task.tells_of_isFree ending (Task.isFree_of_isAside aside)]
      cases task <;> first | rfl | cases aside
  | handled first dispatch =>
      have same := dispatch.tells_eq terminal
      simpa [Task.tells, Task.outbound?] using same
  | acceptedHandOff delivery =>
      have same : _ = due ending _ := delivery.tells_eq
      simpa [Task.tells, Task.outbound?] using same
  | failed failure =>
      have same := failure.tells_eq terminal
      simpa [Task.tells, Task.outbound?] using same
  | swept aside gone =>
      rw [Task.tells_of_isFree ending (Task.isFree_of_isAside aside)]
      cases task <;> first | rfl | cases aside
  | called actions =>
      rename_i call
      rw [countP_of_isFree (Task.tells_of_isFree ending) (isFree_acts actions)]
      cases call <;> cases ending <;> rfl
  | enteredSignal announces =>
      rw [countP_wakeTasks fun _ => rfl]
      rfl
  | announced =>
      rw [countP_wakeTasks fun _ => rfl]
      rfl
  | cancelled active =>
      rw [active, List.countP_append, countP_cancelProducerTasks _ fun _ => rfl]
      cases ending <;> first | rfl | cases terminal
  | finished active =>
      rw [active]
      cases ending <;> first | rfl | cases terminal
  | refusedHandOff =>
      rw [failureTasks, List.countP_append, countP_hookTasks fun _ => rfl]
      rfl
  | reportedStage =>
      rw [List.countP_append, countP_cancelProducerTasks _ fun _ => rfl]
      cases ending <;> rfl
  | timerClosed =>
      rw [countP_of_isFree (Task.tells_of_isFree ending) (by simp [Task.isFree])]
      rfl
  | _ => cases ending <;> rfl

/-! ## The account of the subscription -/

/-- One for a stage to which a producer subscribed. -/
def attachments (stage : Stage α) : Nat :=
  if stage.producer.isSome then 1 else 0

theorem isSubscription_of_isInner {task : Task α} (inner : task.isInner = true) :
    task.isSubscription = false := by
  cases task with
  | call call => cases call <;> first | rfl | cases inner
  | _ => rfl

theorem countP_subscription_of_isInner {tasks : List (Task α)}
    (inner : ∀ task ∈ tasks, task.isInner = true) : tasks.countP Task.isSubscription = 0 := by
  rw [List.countP_eq_zero]
  intro task member
  rw [isSubscription_of_isInner (inner task member)]
  decide

theorem Effect.subscription_eq (effect : Effect pipeline task stage timer events tasks) :
    (heard events).countP Received.isSubscribed +
        tasks.countP Task.isSubscription + attachments pipeline.stage =
      (if task.isSubscription then 1 else 0) + attachments stage := by
  rw [effect.heard_eq]
  cases effect with
  | free aside inert allFree =>
      rw [countP_of_isFree Task.isSubscription_of_isFree allFree]
      cases task <;> first | rfl | cases aside
  | handled first dispatch =>
      rw [List.countP_append, countP_subscription_of_isInner dispatch.isInner]
      simp [attachments, dispatch.producer_eq, Task.outbound?, Task.isSubscription]
  | acceptedHandOff delivery =>
      rw [countP_subscription_of_isInner delivery.isInner]
      simp [attachments, delivery.producer_eq, Task.outbound?, Task.isSubscription]
  | failed failure =>
      rw [countP_subscription_of_isInner failure.isInner]
      simp [attachments, failure.producer_eq, Task.outbound?, Task.isSubscription]
  | swept aside gone => cases task <;> first | rfl | cases aside
  | timerClosed =>
      rw [countP_of_isFree Task.isSubscription_of_isFree (by simp [Task.isFree])]
      rfl
  | called actions =>
      rename_i call
      rw [countP_of_isFree Task.isSubscription_of_isFree (isFree_acts actions)]
      cases call <;> rfl
  | enteredSignal announces =>
      rw [countP_wakeTasks fun _ => rfl]
      rfl
  | announced =>
      rw [countP_wakeTasks fun _ => rfl]
      rfl
  | attached first =>
      rw [attachments, first]
      rfl
  | cancelled active =>
      rw [List.countP_append, countP_cancelProducerTasks _ fun _ => rfl]
      rfl
  | refusedHandOff =>
      rw [countP_subscription_of_isInner (isInner_failureTasks _ _)]
      rfl
  | reportedStage =>
      rw [List.countP_append, countP_cancelProducerTasks _ fun _ => rfl]
      rfl
  | _ => rfl

/-! ## Tasks that are done at once -/

/-- A prompt task stands in front, and the stage is active while a productive one does. -/
structure Prompt (stage : Stage α) (agenda : List (Task α)) : Prop where
  tail : ∀ task ∈ agenda.tail, task.isPrompt = false
  head : ∀ task ∈ agenda.head?, task.isProductive = true → stage.status = .active

namespace Prompt

theorem of_forall {agenda : List (Task α)} (none : ∀ task ∈ agenda, task.isPrompt = false) :
    Prompt stage agenda := by
  constructor
  · intro task member
    exact none task (List.mem_of_mem_tail member)
  · intro task member productive
    have prompt := none task (List.mem_of_mem_head? member)
    rw [Task.isPrompt, productive] at prompt
    cases prompt

theorem of_head {agenda : List (Task α)} (active : stage.status = .active)
    (none : ∀ task ∈ agenda, task.isPrompt = false) : Prompt stage (task :: agenda) :=
  ⟨none, fun _ _ _ => active⟩

theorem append {agenda : List (Task α)} (prompt : Prompt stage tasks)
    (none : ∀ task ∈ agenda, task.isPrompt = false) : Prompt stage (tasks ++ agenda) := by
  cases tasks with
  | nil => exact of_forall none
  | cons first others =>
      constructor
      · intro task member
        rcases List.mem_append.mp member with member | member
        · exact prompt.tail task member
        · exact none task member
      · exact prompt.head

end Prompt

attribute [local simp] Task.isPrompt Task.isProductive Task.isSubscription

theorem isPrompt_hookTasks {hook : DiscardHook} {items : List α} :
    ∀ task ∈ hookTasks hook items, task.isPrompt = false := by
  intro task member
  obtain ⟨call, _, rfl⟩ := List.mem_map.mp member
  rfl

theorem isPrompt_failureTasks {hook : DiscardHook} {items : List α} {error : StreamError} :
    ∀ task ∈ failureTasks hook items error, task.isPrompt = false := by
  intro task member
  rcases List.mem_append.mp member with member | member
  · exact isPrompt_hookTasks task member
  · rw [List.mem_singleton.mp member]
    rfl

theorem isPrompt_closingTasks {handOff : HandOff α} :
    ∀ task ∈ closingTasks handOff, task.isPrompt = false := by
  rw [closingTasks]
  split <;> simp

theorem isPrompt_wakeTasks : ∀ task ∈ wakeTasks stage, task.isPrompt = false := by
  rw [wakeTasks]
  split <;> simp

theorem Delivery.prompt {hook : DiscardHook} {next : Stage α} {clock : Timer UInt64}
    {handOff : HandOff α}
    (delivery : Delivery hook stage timer handOff next clock events tasks) :
    Prompt next tasks := by
  cases delivery with
  | late ended => exact .of_forall isPrompt_hookTasks
  | unpaid active unpaid => exact .of_forall isPrompt_failureTasks
  | paid active paid => exact .of_head active isPrompt_closingTasks

theorem Failure.prompt {hook : DiscardHook} {next : Stage α} {clock : Timer UInt64}
    {error : StreamError} {origin : Origin}
    (failure : Failure hook stage timer error origin next clock events tasks) :
    Prompt next tasks := by
  cases failure with
  | late ended => exact .of_forall (List.forall_mem_nil _)
  | ended active =>
      refine .of_forall (List.forall_mem_append.mpr ⟨isPrompt_hookTasks, ?_⟩)
      exact List.forall_mem_singleton.mpr rfl

theorem Dispatch.prompt {hook : DiscardHook} {next : Stage α} {clock : Timer UInt64}
    {signal : Signal α}
    (dispatch : Dispatch hook stage timer signal next clock events tasks) :
    Prompt next tasks := by
  cases dispatch with
  | subscribed active unset => exact .of_head active (List.forall_mem_nil _)
  | itemLast active received full => exact .of_head active (List.forall_mem_nil _)
  | tickEmpty active empty => exact .of_head active (List.forall_mem_nil _)
  | tickClosing active filled => exact .of_head active (List.forall_mem_nil _)
  | completed active filled delivery => exact delivery.prompt
  | failed failure => exact failure.prompt
  | cancelledEmpty empty => exact .of_forall isPrompt_hookTasks
  | cancelled filled => exact .of_forall isPrompt_hookTasks
  | _ => exact .of_forall (by simp)

/-- A productive task is done while the stage is active, and so makes room for prompt ones. -/
theorem Prompt.step (prompt : Prompt pipeline.stage (task :: pipeline.agenda))
    (effect : Effect pipeline task stage timer events tasks) :
    Prompt stage (tasks ++ pipeline.agenda) := by
  have others : ∀ task ∈ pipeline.agenda, task.isPrompt = false := prompt.tail
  refine Prompt.append ?_ others
  cases effect with
  | free aside inert allFree =>
      exact .of_forall fun task member => Task.isPrompt_of_isFree (allFree task member)
  | timerClosed =>
      refine .of_forall fun task member => Task.isPrompt_of_isFree ?_
      obtain ⟨line, _, rfl⟩ := List.mem_map.mp member
      rfl
  | called actions =>
      exact .of_forall fun task member => Task.isPrompt_of_isFree (isFree_acts actions task member)
  | enteredSignal announces => exact .of_forall isPrompt_wakeTasks
  | announced => exact .of_forall isPrompt_wakeTasks
  | attached first =>
      constructor
      · simp
      · simp
  | requestedMore some active attached short => exact .of_head active (List.forall_mem_nil _)
  | firstRequest active short => exact .of_head active (List.forall_mem_nil _)
  | cancelled active =>
      refine .of_forall (List.forall_mem_append.mpr ⟨?_, List.forall_mem_singleton.mpr rfl⟩)
      exact forall_cancelProducerTasks pipeline fun _ => rfl
  | handled first dispatch =>
      exact dispatch.prompt.append (List.forall_mem_singleton.mpr rfl)
  | alarmSet =>
      have active := prompt.head _ rfl rfl
      exact .of_head active (List.forall_mem_singleton.mpr rfl)
  | acceptedHandOff delivery => exact delivery.prompt
  | refusedHandOff => exact .of_forall isPrompt_failureTasks
  | failed failure => exact failure.prompt
  | reportedStage =>
      refine .of_forall (List.forall_mem_append.mpr ⟨?_, List.forall_mem_singleton.mpr rfl⟩)
      exact forall_cancelProducerTasks pipeline fun _ => rfl
  | _ => exact .of_forall (by simp)

end Step

/-! ## What the consumer hears, in order -/

/-- The subscription and some batches. -/
def opened (batches : List (List α)) : List (Received α) :=
  .subscribed :: batches.map .next

/-- The consumer hears of its subscription, gets batches and hears at most one ending. -/
def Orderly (received : List (Received α)) : Prop :=
  ∃ batches ending, received = opened batches ++ ending ∧
    (ending = [] ∨ (∃ error, ending = [.error error]) ∨ ending = [.complete])

namespace Orderly

variable {received : List (Received α)}

theorem countP_isSubscribed (orderly : Orderly received) :
    received.countP Received.isSubscribed = 1 := by
  obtain ⟨batches, ending, rfl, shape⟩ := orderly
  have silent : (batches.map Received.next).countP Received.isSubscribed = 0 := by
    simp [List.countP_eq_zero, Received.isSubscribed]
  rw [opened, List.countP_append, List.countP_cons, silent]
  rcases shape with rfl | ⟨error, rfl⟩ | rfl <;> rfl

/-- Where no ending was told there are only batches behind the subscription. -/
theorem exists_batches (orderly : Orderly received)
    (unfailed : received.countP (Received.tells .errored) = 0)
    (uncompleted : received.countP (Received.tells .completed) = 0) :
    ∃ batches, received = opened batches := by
  obtain ⟨batches, ending, rfl, shape⟩ := orderly
  rw [List.countP_append] at unfailed uncompleted
  rcases shape with rfl | ⟨error, rfl⟩ | rfl
  · exact ⟨batches, List.append_nil _⟩
  · cases (Nat.add_eq_zero_iff.mp unfailed).2
  · cases (Nat.add_eq_zero_iff.mp uncompleted).2

end Orderly

theorem orderly_subscribed : Orderly ([.subscribed] : List (Received α)) :=
  ⟨[], [], rfl, Or.inl rfl⟩

theorem orderly_next (batches : List (List α)) (batch : List α) :
    Orderly (opened batches ++ [Received.next batch]) := by
  refine ⟨batches ++ [batch], [], ?_, Or.inl rfl⟩
  rw [opened, opened, List.map_append, List.append_nil]
  rfl

theorem orderly_error (batches : List (List α)) (error : StreamError) :
    Orderly (opened batches ++ [Received.error error]) :=
  ⟨batches, [.error error], rfl, Or.inr (Or.inl ⟨error, rfl⟩)⟩

theorem orderly_complete (batches : List (List α)) :
    Orderly (opened batches ++ [Received.complete]) :=
  ⟨batches, [.complete], rfl, Or.inr (Or.inr rfl)⟩

def entries (events : List (Event α)) : List (Inbound α) :=
  events.filterMap Event.inbound?

/-- The accounts are balanced, and a stage that was never called did nothing. -/
structure Told (stage : Stage α) (agenda : List (Task α)) (events : List (Event α)) : Prop where
  endings : ∀ ending : Status, ending.isTerminated →
    (heard events).countP (Received.tells ending) + agenda.countP (Task.tells ending) =
      due ending stage.status
  subscription : (heard events).countP Received.isSubscribed + agenda.countP Task.isSubscription =
    attachments stage
  prompt : Prompt stage agenda
  untouched : entries events = [] → (∀ task ∈ agenda, task.isFree = true) ∧ heard events = []
  attached : ∀ producer, (entries events).head? = some (.subscribe producer) →
    stage.producer.isSome
  orderly : ∀ producer, (entries events).head? = some (.subscribe producer) →
    heard events = [] ∨ Orderly (heard events)

section Step

variable {pipeline : Pipeline α} {task : Task α} {stage : Stage α} {timer : Timer UInt64}
  {events : List (Event α)} {tasks : List (Task α)}

theorem entries_append (earlier later : List (Event α)) :
    entries (earlier ++ later) = entries earlier ++ entries later :=
  List.filterMap_append

theorem heard_append (earlier later : List (Event α)) :
    heard (earlier ++ later) = heard earlier ++ heard later := by
  rw [heard, List.filterMap_append, List.filterMap_append]
  rfl

theorem entries_logs (lines : List LogLine) :
    entries (lines.map .log : List (Event α)) = [] :=
  filterMap_eq_nil_of_isAside Event.inbound?_of_isAside isAside_of_mem_logs

theorem heard_logs (lines : List LogLine) : heard (lines.map .log : List (Event α)) = [] := by
  rw [heard, filterMap_eq_nil_of_isAside Event.outbound?_of_isAside isAside_of_mem_logs]
  rfl

/-- What is done outside the calls of the stage stays outside until the stage is called. -/
theorem Effect.isFree (effect : Effect pipeline task stage timer events tasks)
    (free : task.isFree = true) (uncalled : entries events = []) :
    ∀ task ∈ tasks, task.isFree = true := by
  cases effect with
  | free aside inert allFree => exact allFree
  | timerClosed =>
      intro task member
      obtain ⟨line, _, rfl⟩ := List.mem_map.mp member
      rfl
  | called actions => exact isFree_acts actions
  | enteredSignal announces => cases uncalled
  | attached first => cases uncalled
  | attachedTwice second => cases uncalled
  | requestedMore some active attached short => cases uncalled
  | cancelled active => cases uncalled
  | announced => cases free
  | firstRequest active short => cases free
  | accountedMore empty more => cases free
  | handled first dispatch => cases free
  | alarmSet => cases free
  | acceptedHandOff delivery => cases free
  | refused => cases free
  | refusedHandOff => cases free
  | failed failure => cases free
  | reportedProducer => cases free
  | reportedStage => cases free
  | finished active => cases free
  | _ => simp [Task.isFree]

theorem heard?_of_isFree (free : task.isFree = true) :
    task.outbound?.bind Outbound.heard? = none := by
  cases task with
  | call call => cases call <;> first | rfl | cases free
  | _ => rfl

theorem Effect.attaches (effect : Effect pipeline task stage timer events tasks) {producer : Nat}
    (first : (entries events).head? = some (.subscribe producer)) : stage.producer.isSome := by
  rw [entries, effect.inbound_eq] at first
  cases effect with
  | free aside inert allFree => cases task <;> cases aside <;> cases first
  | swept aside gone => cases task <;> cases aside <;> cases first
  | enteredSignal announces =>
      cases first
      cases announces
  | attached unattached => rfl
  | attachedTwice second => exact Option.isSome_iff_ne_none.mpr second
  | _ => cases first

theorem Effect.producer_isSome (effect : Effect pipeline task stage timer events tasks)
    (attached : pipeline.stage.producer.isSome) : stage.producer.isSome := by
  cases effect with
  | attached first => rfl
  | handled first dispatch =>
      rw [dispatch.producer_eq]
      exact attached
  | acceptedHandOff delivery =>
      rw [delivery.producer_eq]
      exact attached
  | failed failure =>
      rw [failure.producer_eq]
      exact attached
  | _ => exact attached

namespace Told

theorem opening (config : Config) (lines : List LogLine) :
    Told (.opening config : Stage α) [] (lines.map .log) := by
  constructor
  · intro ending terminal
    rw [heard_logs]
    cases ending <;> first | rfl | cases terminal
  · rw [heard_logs]
    rfl
  · exact .of_forall (List.forall_mem_nil _)
  · exact fun _ => ⟨List.forall_mem_nil _, heard_logs lines⟩
  · intro producer first
    rw [entries_logs] at first
    cases first
  · exact fun _ _ => Or.inl (heard_logs lines)

theorem begin (told : Told stage [] events) (action : Action α) :
    Told stage [.act action] events := by
  have noPrompt : ∀ task ∈ [Task.act action], task.isPrompt = false :=
    List.forall_mem_singleton.mpr rfl
  have allFree : ∀ task ∈ [Task.act action], task.isFree = true :=
    List.forall_mem_singleton.mpr rfl
  exact {
    endings := told.endings
    subscription := told.subscription
    prompt := .of_forall noPrompt
    untouched := fun uncalled => ⟨allFree, (told.untouched uncalled).2⟩
    attached := told.attached
    orderly := told.orderly }

/-- What the consumer hears while it was told of no ending stands behind its subscription. -/
theorem exists_batches {agenda : List (Task α)} {producer : Nat}
    (told : Told stage (task :: agenda) events)
    (first : (entries events).head? = some (.subscribe producer))
    (other : task.isSubscription = false)
    (untold : ∀ ending : Status, ending.isTerminated →
      (heard events).countP (Received.tells ending) = 0) :
    ∃ batches, heard events = opened batches := by
  have attached : attachments stage = 1 := if_pos (told.attached producer first)
  have noneDue : (task :: agenda).countP Task.isSubscription = 0 := by
    rw [List.countP_eq_zero]
    intro task member
    rcases List.mem_cons.mp member with rfl | member
    · simp [other]
    · have prompt := told.prompt.tail task member
      rw [Task.isPrompt, Bool.or_eq_false_iff] at prompt
      simp [prompt.2]
  have subscribed := told.subscription
  rw [noneDue, attached] at subscribed
  rcases told.orderly producer first with silent | orderly
  · rw [silent] at subscribed
    cases subscribed
  · exact orderly.exists_batches (untold .errored rfl) (untold .completed rfl)

theorem untold_of_active {agenda : List (Task α)} (told : Told stage agenda events)
    (active : stage.status = .active) (ending : Status) (terminal : ending.isTerminated) :
    (heard events).countP (Received.tells ending) = 0 := by
  have account := told.endings ending terminal
  rw [active] at account
  cases ending with
  | active => cases terminal
  | cancelled => cases terminal
  | completed => exact (Nat.add_eq_zero_iff.mp account).1
  | errored => exact (Nat.add_eq_zero_iff.mp account).1

/-- A task that tells of an ending is the first one to do so. -/
theorem status_eq_of_tells {agenda : List (Task α)} (outcome : Status)
    (told : Told stage (task :: agenda) events) (terminal : outcome.isTerminated)
    (tells : task.tells outcome = true) : stage.status = outcome := by
  have account := told.endings outcome terminal
  rw [List.countP_cons_of_pos tells] at account
  by_contra other
  rw [due, if_neg other] at account
  omega

theorem untold_of_tells {agenda : List (Task α)} (outcome : Status)
    (told : Told stage (task :: agenda) events) (terminal : outcome.isTerminated)
    (tells : task.tells outcome = true) (ending : Status) (isTerminal : ending.isTerminated) :
    (heard events).countP (Received.tells ending) = 0 := by
  have status_eq := told.status_eq_of_tells outcome terminal tells
  have one := told.endings outcome terminal
  rw [List.countP_cons_of_pos tells] at one
  have other := told.endings ending isTerminal
  -- The task at hand uses up the account of its own ending, and that of the other is empty.
  by_cases same : outcome = ending
  · subst same
    rw [due, if_pos status_eq] at one
    omega
  · rw [due, status_eq, if_neg same] at other
    omega

/-- What the consumer hears next is in order. -/
theorem orderly_append {agenda : List (Task α)} {producer : Nat}
    (told : Told stage (task :: agenda) events)
    (first : (entries events).head? = some (.subscribe producer)) :
    heard events ++ (task.outbound?.bind Outbound.heard?).toList = [] ∨
      Orderly (heard events ++ (task.outbound?.bind Outbound.heard?).toList) := by
  cases heard_eq : task.outbound?.bind Outbound.heard? with
  | none =>
      rw [Option.toList_none, List.append_nil]
      exact told.orderly producer first
  | some signal =>
      right
      obtain ⟨call, task_eq, call_heard⟩ := Option.bind_eq_some_iff.mp heard_eq
      cases task with
      | call outbound =>
          cases task_eq
          cases call with
          | subscribe =>
              cases call_heard
              have account := told.subscription
              have bound : attachments stage ≤ 1 := by
                rw [attachments]
                split <;> omega
              rw [List.countP_cons_of_pos rfl] at account
              rcases told.orderly producer first with silent | orderly
              · rw [silent]
                exact orderly_subscribed
              · rw [orderly.countP_isSubscribed] at account
                omega
          | next batch =>
              cases call_heard
              have active := told.prompt.head _ rfl rfl
              obtain ⟨batches, heard_eq⟩ :=
                told.exists_batches first rfl (told.untold_of_active active)
              rw [heard_eq]
              exact orderly_next batches batch
          | error error =>
              cases call_heard
              obtain ⟨batches, heard_eq⟩ :=
                told.exists_batches first rfl (told.untold_of_tells .errored rfl rfl)
              rw [heard_eq]
              exact orderly_error batches error
          | complete =>
              cases call_heard
              obtain ⟨batches, heard_eq⟩ :=
                told.exists_batches first rfl (told.untold_of_tells .completed rfl rfl)
              rw [heard_eq]
              exact orderly_complete batches
          | _ => cases call_heard
      | _ => cases task_eq

theorem step (told : Told pipeline.stage (task :: pipeline.agenda) pipeline.chronicle)
    (effect : Effect pipeline task stage timer events tasks) :
    Told stage (tasks ++ pipeline.agenda) (pipeline.chronicle ++ events) := by
  constructor
  · intro ending terminal
    have before := told.endings ending terminal
    have change := effect.tells_eq terminal
    rw [List.countP_cons] at before
    rw [heard_append, List.countP_append, List.countP_append]
    omega
  · have before := told.subscription
    have change := effect.subscription_eq
    rw [List.countP_cons] at before
    rw [heard_append, List.countP_append, List.countP_append]
    omega
  · exact told.prompt.step effect
  · intro uncalled
    rw [entries_append] at uncalled
    obtain ⟨before, uncalled⟩ := List.append_eq_nil_iff.mp uncalled
    obtain ⟨allFree, silent⟩ := told.untouched before
    have free := allFree task List.mem_cons_self
    constructor
    · rw [List.forall_mem_append]
      exact ⟨effect.isFree free uncalled,
        fun task member => allFree task (List.mem_cons_of_mem _ member)⟩
    · rw [heard_append, silent, effect.heard_eq, heard?_of_isFree free]
      rfl
  · intro producer first
    rw [entries_append] at first
    cases before : entries pipeline.chronicle with
    | nil =>
        rw [before] at first
        exact effect.attaches first
    | cons call calls =>
        rw [before] at first
        exact effect.producer_isSome (told.attached producer (by rw [before]; exact first))
  · intro producer first
    rw [entries_append] at first
    rw [heard_append, effect.heard_eq]
    cases before : entries pipeline.chronicle with
    | nil =>
        obtain ⟨allFree, silent⟩ := told.untouched before
        rw [silent, heard?_of_isFree (allFree task List.mem_cons_self)]
        exact Or.inl rfl
    | cons call calls =>
        have called : (entries pipeline.chronicle).head? = some (.subscribe producer) := by
          rw [before] at first ⊢
          exact first
        exact told.orderly_append called

end Told

end Step

theorem Reachable.told {config : Config} {setup : Setup α} {pipeline : Pipeline α}
    (reachable : Reachable config setup pipeline) :
    Told pipeline.stage pipeline.agenda pipeline.chronicle :=
  reachable.preserve Told (fun lines => .opening config lines)
    (fun _ _ action told => told.begin action) (fun _ _ _ _ _ _ effect told => told.step effect)

/-! ## After the end -/

section Later

variable {first last : Pipeline α}

theorem Later.told (later : Later first last)
    (told : Told first.stage first.agenda first.chronicle) :
    Told last.stage last.agenda last.chronicle :=
  later.preserve Told told (fun _ _ action told => told.begin action)
    (fun _ _ _ _ _ _ effect told => told.step effect)

theorem Dispatch.status_eq {hook : DiscardHook} {stage next : Stage α} {timer clock : Timer UInt64}
    {events : List (Event α)} {tasks : List (Task α)} {signal : Signal α}
    (dispatch : Dispatch hook stage timer signal next clock events tasks)
    (ended : stage.status ≠ .active) : next.status = stage.status := by
  cases dispatch with
  | completed active filled delivery => exact delivery.status_eq
  | failed failure =>
      cases failure with
      | late _ => rfl
      | ended active => exact absurd active ended
  | _ => rfl

theorem Effect.status_eq {pipeline : Pipeline α} {task : Task α} {stage : Stage α}
    {timer : Timer UInt64} {events : List (Event α)} {tasks : List (Task α)}
    (effect : Effect pipeline task stage timer events tasks)
    (ended : pipeline.stage.status ≠ .active) : stage.status = pipeline.stage.status := by
  cases effect with
  | cancelled active => exact absurd active ended
  | handled _ dispatch => exact dispatch.status_eq ended
  | acceptedHandOff delivery => exact delivery.status_eq
  | failed failure =>
      cases failure with
      | late _ => rfl
      | ended active => exact absurd active ended
  | finished active => exact absurd active ended
  | _ => rfl

/-- A stage that works after a task did so before. -/
theorem Effect.active_of_active {pipeline : Pipeline α} {task : Task α} {stage : Stage α}
    {timer : Timer UInt64} {events : List (Event α)} {tasks : List (Task α)}
    (effect : Effect pipeline task stage timer events tasks) (active : stage.status = .active) :
    pipeline.stage.status = .active := by
  by_contra ended
  exact ended (effect.status_eq ended ▸ active)

/-- The end of a stage is its last change of status. -/
theorem Later.status_eq (later : Later first last) (ended : first.stage.status ≠ .active) :
    last.stage.status = first.stage.status := by
  refine later.preserve (fun stage _ _ => stage.status = first.stage.status) rfl
    (fun _ _ _ same => same) ?_
  intro pipeline task stage timer events tasks effect same
  rw [← same] at ended ⊢
  exact effect.status_eq ended

/-- Every call that is made after a moment is made by a task that finds the stage as it was. -/
theorem Later.exists_calls (later : Later first last)
    (told : Told first.stage first.agenda first.chronicle) :
    ∃ more, last.outboundCalls = first.outboundCalls ++ more ∧
      ∀ call ∈ more, ∃ stage agenda events,
        Told stage (.call call :: agenda) events ∧
        (first.stage.status ≠ .active → stage.status = first.stage.status) := by
  induction later with
  | here => exact ⟨[], (List.append_nil _).symm, List.forall_mem_nil _⟩
  | @step last earlier ih =>
      obtain ⟨more, calls_eq, each⟩ := ih
      -- Only a task that is a call adds to the calls, and it finds the stage as it is.
      cases agenda_eq : last.agenda with
      | nil =>
          rw [step_of_atRest (List.isEmpty_iff.mpr agenda_eq)]
          exact ⟨more, calls_eq, each⟩
      | cons task rest =>
          obtain ⟨stage, timer, events, tasks, effect, becomes⟩ := exists_step_effect agenda_eq
          refine ⟨more ++ task.outbound?.toList, ?_, ?_⟩
          · rw [outboundCalls_eq, becomes.chronicle_eq, List.filterMap_append, effect.outbound_eq,
              ← List.append_assoc, ← calls_eq]
            rfl
          · rw [List.forall_mem_append]
            refine ⟨each, ?_⟩
            intro call member
            have before := earlier.told told
            rw [agenda_eq] at before
            cases task with
            | call outbound =>
                cases List.mem_singleton.mp member
                exact ⟨last.stage, rest, last.chronicle, before, earlier.status_eq⟩
            | _ => cases member
  | begin earlier rest action ih => exact ih

end Later

/-! ## The outcome -/

/-- A stage has one outcome, and the consumer hears of it at most once. -/
structure OneOutcome (pipeline : Pipeline α) : Prop where
  /-- A consumer of a stage that was first called with a subscription hears that first, then
  batches, then at most one ending. -/
  orderly : ∀ producer, pipeline.inboundCalls.head? = some (.subscribe producer) →
    Orderly pipeline.received ∨ (pipeline.received = [] ∧ pipeline.isIdle = false)
  /-- The status changes once. -/
  final : ∀ later, Later pipeline later → pipeline.stage.status ≠ .active →
    later.stage.status = pipeline.stage.status
  errored_iff : pipeline.isIdle = true →
    (pipeline.stage.status = .errored ↔ pipeline.errors.length = 1)
  completed_iff : pipeline.isIdle = true →
    (pipeline.stage.status = .completed ↔ pipeline.completions = 1)
  open_iff : pipeline.isIdle = true →
    (pipeline.stage.status = .active ∨ pipeline.stage.status = .cancelled ↔
      pipeline.errors = [] ∧ pipeline.completions = 0)
  /-- No call of the consumer but that of its subscription begins after it cancelled. -/
  silent : ∀ later, Later pipeline later → pipeline.stage.status = .cancelled →
    ∃ more, later.outboundCalls = pipeline.outboundCalls ++ more ∧
      ∀ call ∈ more, (∀ batch, call ≠ .next batch) ∧ (∀ error, call ≠ .error error) ∧
        call ≠ .complete
  /-- After the end no batch is delivered, no item requested and no alarm set. -/
  idle : ∀ later, Later pipeline later → pipeline.stage.status ≠ .active →
    ∃ more, later.outboundCalls = pipeline.outboundCalls ++ more ∧
      ∀ call ∈ more, (∀ batch, call ≠ .next batch) ∧
        (∀ producer items, call ≠ .request producer items) ∧
        (∀ delay accepted, call ≠ .schedule delay accepted)

section Count

variable {pipeline : Pipeline α}

theorem length_errors (pipeline : Pipeline α) :
    pipeline.errors.length = (heard pipeline.chronicle).countP (Received.tells .errored) := by
  rw [errors, received_eq, List.length_filterMap_eq_countP]
  congr 1
  funext signal
  cases signal <;> rfl

theorem completions_eq (pipeline : Pipeline α) :
    pipeline.completions = (heard pipeline.chronicle).countP (Received.tells .completed) := by
  rw [completions, received_eq]
  congr 1
  funext signal
  cases signal <;> rfl

theorem countP_eq_zero_of_isIdle {counts : Task α → Bool} (idle : pipeline.isIdle = true)
    (blind : ∀ {task : Task α}, task.isFree = true → counts task = false) :
    pipeline.agenda.countP counts = 0 :=
  countP_of_isFree blind (List.all_eq_true.mp idle)

theorem Told.errors_of_isIdle (told : Told pipeline.stage pipeline.agenda pipeline.chronicle)
    (idle : pipeline.isIdle = true) :
    pipeline.errors.length = due .errored pipeline.stage.status := by
  have account := told.endings .errored rfl
  rw [countP_eq_zero_of_isIdle idle (Task.tells_of_isFree .errored)] at account
  rw [length_errors]
  exact account

theorem Told.completions_of_isIdle
    (told : Told pipeline.stage pipeline.agenda pipeline.chronicle)
    (idle : pipeline.isIdle = true) :
    pipeline.completions = due .completed pipeline.stage.status := by
  have account := told.endings .completed rfl
  rw [countP_eq_zero_of_isIdle idle (Task.tells_of_isFree .completed)] at account
  rw [completions_eq]
  exact account

theorem due_eq_one_iff {ending status : Status} : due ending status = 1 ↔ status = ending := by
  rw [due]
  split <;> simp_all

end Count

theorem Reachable.oneOutcome {config : Config} {setup : Setup α} {pipeline : Pipeline α}
    (reachable : Reachable config setup pipeline) : OneOutcome pipeline := by
  have told := reachable.told
  constructor
  · intro producer first
    rcases told.orderly producer first with silent | orderly
    · refine Or.inr ⟨silent, ?_⟩
      by_contra idle
      rw [Bool.not_eq_false] at idle
      have account := told.subscription
      rw [silent, countP_eq_zero_of_isIdle idle Task.isSubscription_of_isFree, attachments,
        if_pos (told.attached producer first)] at account
      cases account
    · exact Or.inl orderly
  · intro later run ended
    exact run.status_eq ended
  · intro idle
    rw [told.errors_of_isIdle idle, due_eq_one_iff]
  · intro idle
    rw [told.completions_of_isIdle idle, due_eq_one_iff]
  · intro idle
    rw [← List.length_eq_zero_iff, told.errors_of_isIdle idle, told.completions_of_isIdle idle]
    cases pipeline.stage.status <;> decide
  · intro later run cancelled
    have ended : pipeline.stage.status ≠ .active := by
      rw [cancelled]
      decide
    obtain ⟨more, calls_eq, each⟩ := run.exists_calls told
    refine ⟨more, calls_eq, ?_⟩
    intro call member
    obtain ⟨stage, agenda, events, before, status_eq⟩ := each call member
    have still : stage.status = .cancelled := (status_eq ended).trans cancelled
    refine ⟨?_, ?_, ?_⟩
    · rintro batch rfl
      have active := before.prompt.head _ rfl rfl
      rw [still] at active
      cases active
    · rintro error rfl
      have errored := before.status_eq_of_tells .errored rfl rfl
      rw [still] at errored
      cases errored
    · rintro rfl
      have completed := before.status_eq_of_tells .completed rfl rfl
      rw [still] at completed
      cases completed
  · intro later run ended
    obtain ⟨more, calls_eq, each⟩ := run.exists_calls told
    refine ⟨more, calls_eq, ?_⟩
    intro call member
    obtain ⟨stage, agenda, events, before, status_eq⟩ := each call member
    have still : stage.status ≠ .active := by
      rw [status_eq ended]
      exact ended
    refine ⟨?_, ?_, ?_⟩
    · rintro batch rfl
      exact still (before.prompt.head _ rfl rfl)
    · rintro producer items rfl
      exact still (before.prompt.head _ rfl rfl)
    · rintro delay accepted rfl
      exact still (before.prompt.head _ rfl rfl)

theorem oneOutcome_of_cancel_in_batch :
    ∃ pipeline : Pipeline Nat,
      Reachable ⟨2, .ofMillis 10, .unbounded⟩
        { reactions := RecordingConsumer.reactions ⟨2, some 1⟩ } pipeline ∧
      pipeline.received = [.subscribed, .next [1, 2]] ∧ pipeline.discarded = [3] ∧
      pipeline.stage.status = .cancelled ∧ OneOutcome pipeline := by
  have start : @Reachable Nat ⟨2, .ofMillis 10, .unbounded⟩
      { reactions := RecordingConsumer.reactions ⟨2, some 1⟩ } _ := Reachable.of_opening rfl
  have subscribed := start.act rfl .subscribe 20
  have ended := subscribed.act rfl (.next [1, 2, 3]) 60
  exact ⟨_, ended, rfl, rfl, rfl, Reachable.oneOutcome ended⟩

end Pipeline

end TimedBatch
