import TimedBatch.Proofs.Verdict
import TimedBatch.Proofs.Watch

/-!
# The credit of the producer

The producer sends what it was asked for. A request is booked in the ledger before it is made, and
an item is drawn from the credit when it is taken in, so the outstanding credit agrees at any time
with the requests and the items taken in so far, where a request that is about to be made counts as
made. An item that finds no credit ends the stage.
-/

namespace TimedBatch

variable {α : Type}

/-! ## Requests and items taken in -/

/-- A request of the stage: the producer that is asked, and for how many items. -/
structure Grant where
  producer : Nat
  credit : Amount
  deriving DecidableEq

def Outbound.grant? : Outbound α → Option Grant
  | .request producer credit => some ⟨producer, credit⟩
  | _ => none

/-- The producer that subscribes in a call. -/
def Inbound.producer? : Inbound α → Option Nat
  | .subscribe producer => some producer
  | _ => none

/-- The item that the stage takes into the open batch. -/
def Event.taken? : Event α → Option α
  | .takenIn item => some item
  | _ => none

namespace Task

/-- The request that a task makes. -/
def grant? : Task α → Option Grant
  | .call outbound => outbound.grant?
  | _ => none

def isFirstRequest : Task α → Bool
  | .firstRequest _ => true
  | _ => false

theorem grant?_of_not_isPrompt {task : Task α} (unhurried : task.isPrompt = false) :
    task.grant? = none := by
  cases task with
  | call call => cases call <;> first | rfl | cases unhurried
  | _ => rfl

theorem grant?_of_isInner {task : Task α} (inner : task.isInner = true) : task.grant? = none := by
  cases task with
  | call call => cases call <;> first | rfl | cases inner
  | _ => rfl

theorem isFirstRequest_of_isFree {task : Task α} (free : task.isFree = true) :
    task.isFirstRequest = false := by
  cases task <;> first | rfl | cases free

theorem isFirstRequest_of_isInner {task : Task α} (inner : task.isInner = true) :
    task.isFirstRequest = false := by
  cases task <;> first | rfl | cases inner

end Task

theorem Event.taken?_of_isInert {event : Event α} (inert : event.isInert = true) :
    event.taken? = none := by
  cases event <;> first | rfl | cases inert

/-- The sum of some credits, which nothing cuts off. -/
def creditSum (credits : List Amount) : Nat :=
  (credits.map Amount.count).sum

theorem creditSum_concat (credits : List Amount) (credit : Amount) :
    creditSum (credits ++ [credit]) = creditSum credits + credit.count := by
  simp [creditSum]

/-! ## The ledger -/

namespace Ledger

variable {ledger next : Ledger} {credit : Amount}

/-- What a ledger never changes. -/
def terms (ledger : Ledger) : Policy × Amount :=
  (ledger.policy, ledger.batchSize)

theorem ask_zero (ledger : Ledger) : ledger.ask 0 = ledger := by
  rw [ask, Amount.add_zero]

theorem terms_ask (batches : Amount) : (ledger.ask batches).terms = ledger.terms :=
  rfl

/-- A claim raises the outstanding credit to the target. -/
theorem of_topUp (short : ledger.topUp = some (credit, next)) :
    ledger.policy = .prefetch ∧ ledger.outstanding ≠ .unbounded ∧
      ledger.outstanding < ledger.target ∧ next = { ledger with outstanding := ledger.target } ∧
      credit = if ledger.target = .unbounded then .unbounded
        else ledger.target - ledger.outstanding := by
  unfold topUp at short
  split at short
  · cases short
  · rename_i policy
    split at short
    · cases short
    · rename_i lacking
      obtain ⟨bounded, above⟩ := not_or.mp lacking
      cases short
      exact ⟨policy, bounded, Nat.lt_of_not_le above, rfl, rfl⟩

/-- Nothing is claimed where the outstanding credit reaches the target. -/
theorem of_topUp_eq_none (prefetch : ledger.policy = .prefetch) (idle : ledger.topUp = none) :
    ledger.outstanding = .unbounded ∨ ledger.target ≤ ledger.outstanding := by
  rw [topUp, prefetch] at idle
  by_contra lacking
  simp [if_neg lacking] at idle

theorem target_le_of_topUp_eq_none (prefetch : ledger.policy = .prefetch)
    (idle : ledger.topUp = none) : ledger.target ≤ ledger.outstanding := by
  rcases of_topUp_eq_none prefetch idle with boundless | reached
  · rw [boundless]
    exact Amount.le_unbounded ledger.target
  · exact reached

theorem terms_topUp (short : ledger.topUp = some (credit, next)) : next.terms = ledger.terms := by
  obtain ⟨_, _, _, rfl, _⟩ := of_topUp short
  rfl

theorem of_firstRequest (short : ledger.firstRequest = some (credit, next)) :
    (ledger.policy = .unbounded ∧ credit = .unbounded ∧ next = ledger) ∨
      ledger.topUp = some (credit, next) := by
  unfold firstRequest at short
  split at short
  · rename_i policy
    cases short
    exact Or.inl ⟨policy, rfl, rfl⟩
  · exact Or.inr short

theorem terms_firstRequest (short : ledger.firstRequest = some (credit, next)) :
    next.terms = ledger.terms := by
  rcases of_firstRequest short with ⟨_, _, rfl⟩ | short
  · rfl
  · exact terms_topUp short

theorem of_receiveItem (received : ledger.receiveItem = some next) :
    (ledger.outstanding = .unbounded ∧ next = ledger) ∨
      (ledger.outstanding ≠ .unbounded ∧ ledger.outstanding ≠ 0 ∧
        next = { ledger with outstanding := ledger.outstanding - 1 }) := by
  unfold receiveItem at received
  split at received
  · rename_i unbounded
    cases received
    exact Or.inl ⟨unbounded, rfl⟩
  · rename_i bounded
    split at received
    · cases received
    · rename_i some
      cases received
      exact Or.inr ⟨bounded, some, rfl⟩

theorem receiveItem_eq_none_iff : ledger.receiveItem = none ↔ ledger.outstanding = 0 := by
  unfold receiveItem
  split
  · rename_i unbounded
    rw [unbounded]
    exact ⟨nofun, fun impossible => absurd impossible (by decide)⟩
  · split
    · rename_i nothing
      exact ⟨fun _ => nothing, fun _ => rfl⟩
    · rename_i some
      exact ⟨nofun, fun nothing => absurd nothing some⟩

theorem terms_receiveItem (received : ledger.receiveItem = some next) :
    next.terms = ledger.terms := by
  rcases of_receiveItem received with ⟨_, rfl⟩ | ⟨_, _, rfl⟩ <;> rfl

theorem of_payBatch (paid : ledger.payBatch = some next) :
    (ledger.requested = .unbounded ∧ next = ledger) ∨
      (ledger.requested ≠ .unbounded ∧ ledger.requested ≠ 0 ∧
        next = { ledger with requested := ledger.requested - 1 }) := by
  unfold payBatch at paid
  split at paid
  · rename_i unbounded
    cases paid
    exact Or.inl ⟨unbounded, rfl⟩
  · rename_i bounded
    split at paid
    · cases paid
    · rename_i some
      cases paid
      exact Or.inr ⟨bounded, some, rfl⟩

theorem outstanding_payBatch (paid : ledger.payBatch = some next) :
    next.outstanding = ledger.outstanding := by
  rcases of_payBatch paid with ⟨_, rfl⟩ | ⟨_, _, rfl⟩ <;> rfl

theorem terms_payBatch (paid : ledger.payBatch = some next) : next.terms = ledger.terms := by
  rcases of_payBatch paid with ⟨_, rfl⟩ | ⟨_, _, rfl⟩ <;> rfl

end Ledger

namespace Pipeline

/-- The requests that were made in some events. -/
def grantsIn (events : List (Event α)) : List Grant :=
  (events.filterMap Event.outbound?).filterMap Outbound.grant?

/-- The credits that were requested in some events. -/
def creditsIn (events : List (Event α)) : List Amount :=
  (grantsIn events).map Grant.credit

/-- The items that were taken in in some events. -/
def takenIn (events : List (Event α)) : List α :=
  events.filterMap Event.taken?

/-- The request that is about to be made, if one is. -/
def dueGrants (agenda : List (Task α)) : List Grant :=
  (agenda.head?.bind Task.grant?).toList

/-- The requests of the stage in their order. -/
def grants (pipeline : Pipeline α) : List Grant :=
  grantsIn pipeline.chronicle ++ dueGrants pipeline.agenda

/-- The credits that the stage requested, request by request. -/
def credits (pipeline : Pipeline α) : List Amount :=
  pipeline.grants.map Grant.credit

/-- The items taken in, in their order. -/
def taken (pipeline : Pipeline α) : List α :=
  takenIn pipeline.chronicle

theorem countP_of_isInner {tasks : List (Task α)} (inner : ∀ task ∈ tasks, task.isInner = true) :
    tasks.countP Task.isFirstRequest = 0 := by
  rw [List.countP_eq_zero]
  intro task member
  rw [Task.isFirstRequest_of_isInner (inner task member)]
  decide

theorem grantsIn_append (earlier later : List (Event α)) :
    grantsIn (earlier ++ later) = grantsIn earlier ++ grantsIn later := by
  rw [grantsIn, List.filterMap_append, List.filterMap_append]
  rfl

theorem takenIn_append (earlier later : List (Event α)) :
    takenIn (earlier ++ later) = takenIn earlier ++ takenIn later :=
  List.filterMap_append

theorem grantsIn_logs (lines : List LogLine) :
    grantsIn (lines.map .log : List (Event α)) = [] := by
  rw [grantsIn, filterMap_eq_nil_of_isAside Event.outbound?_of_isAside isAside_of_mem_logs]
  rfl

theorem takenIn_logs (lines : List LogLine) : takenIn (lines.map .log : List (Event α)) = [] := by
  refine List.filterMap_eq_nil_iff.mpr fun event member => ?_
  obtain ⟨line, _, rfl⟩ := List.mem_map.mp member
  rfl

theorem dueGrants_of_forall {tasks : List (Task α)} (none : ∀ task ∈ tasks, task.grant? = none) :
    dueGrants tasks = [] := by
  cases tasks with
  | nil => rfl
  | cons task others =>
      rw [dueGrants, List.head?_cons, Option.bind_some, none task List.mem_cons_self]
      rfl

theorem dueGrants_append {tasks agenda : List (Task α)}
    (still : ∀ task ∈ agenda, task.isPrompt = false) :
    dueGrants (tasks ++ agenda) = dueGrants tasks := by
  cases tasks with
  | nil =>
      exact dueGrants_of_forall fun task member => Task.grant?_of_not_isPrompt (still task member)
  | cons task others => rfl

/-! ## What a task does to the credit -/

/-- What a task does to the outstanding credit: it leaves it alone, it books a request that is made
next, or it takes an item in from the front of the queue. -/
inductive Turnover (before after : Stage α) (task : Task α) : List Grant → List α → Prop where
  | none (outstanding_eq : after.ledger.outstanding = before.ledger.outstanding) :
      Turnover before after task [] []
  /-- Under the unbounded policy everything is asked for at once. -/
  | opened {producer : Nat} (task_eq : task = .firstRequest producer)
      (policy : before.ledger.policy = .unbounded) (ledger_eq : after.ledger = before.ledger) :
      Turnover before after task [⟨producer, .unbounded⟩] []
  | claimed {producer : Nat} {batches credit : Amount}
      (addressed : task = .firstRequest producer ∨ before.producer = some producer)
      (short : (before.ledger.ask batches).topUp = some (credit, after.ledger)) :
      Turnover before after task [⟨producer, credit⟩] []
  | taken {item : α} (received : before.ledger.receiveItem = some after.ledger)
      (first : before.signals = .item item :: after.signals) (works : task.isWorkOff = true) :
      Turnover before after task [] [item]

section Work

variable {hook : DiscardHook} {stage next : Stage α} {timer clock : Timer UInt64}
  {events : List (Event α)} {tasks : List (Task α)}

theorem Delivery.outstanding_eq {handOff : HandOff α}
    (delivery : Delivery hook stage timer handOff next clock events tasks) :
    next.ledger.outstanding = stage.ledger.outstanding ∧ takenIn events = [] := by
  cases delivery with
  | late ended => exact ⟨rfl, rfl⟩
  | unpaid active unpaid => exact ⟨rfl, rfl⟩
  | paid active paid => exact ⟨Ledger.outstanding_payBatch paid, rfl⟩

theorem Failure.ledger_eq {error : StreamError} {origin : Origin}
    (failure : Failure hook stage timer error origin next clock events tasks) :
    next.ledger = stage.ledger ∧ takenIn events = [] := by
  cases failure <;> exact ⟨rfl, rfl⟩

/-- Working a signal off draws on the credit only where it takes an item in. -/
theorem Dispatch.draws {signal : Signal α}
    (dispatch : Dispatch hook stage timer signal next clock events tasks) :
    (next.ledger.outstanding = stage.ledger.outstanding ∧ takenIn events = []) ∨
      ∃ item, signal = .item item ∧ stage.ledger.receiveItem = some next.ledger ∧
        takenIn events = [item] := by
  cases dispatch with
  | itemTaken active received room => exact Or.inr ⟨_, rfl, received, rfl⟩
  | itemLast active received full => exact Or.inr ⟨_, rfl, received, rfl⟩
  | completed active filled delivery => exact Or.inl delivery.outstanding_eq
  | failed failure =>
      exact Or.inl ⟨congrArg Ledger.outstanding failure.ledger_eq.1, failure.ledger_eq.2⟩
  | _ => exact Or.inl ⟨rfl, rfl⟩

theorem Delivery.terms_eq {handOff : HandOff α}
    (delivery : Delivery hook stage timer handOff next clock events tasks) :
    next.ledger.terms = stage.ledger.terms := by
  cases delivery with
  | paid active paid => exact Ledger.terms_payBatch paid
  | _ => rfl

theorem Dispatch.terms_eq {signal : Signal α}
    (dispatch : Dispatch hook stage timer signal next clock events tasks) :
    next.ledger.terms = stage.ledger.terms := by
  cases dispatch with
  | itemTaken active received room => exact Ledger.terms_receiveItem received
  | itemLast active received full => exact Ledger.terms_receiveItem received
  | completed active filled delivery => exact delivery.terms_eq
  | failed failure => exact congrArg Ledger.terms failure.ledger_eq.1
  | _ => rfl

end Work

section Step

variable {pipeline : Pipeline α} {task : Task α} {stage : Stage α} {timer : Timer UInt64}
  {events : List (Event α)} {tasks : List (Task α)}

theorem Effect.grants_eq (effect : Effect pipeline task stage timer events tasks) :
    grantsIn events = task.grant?.toList := by
  rw [grantsIn, effect.outbound_eq]
  cases task with
  | call outbound => cases outbound <;> rfl
  | _ => rfl

theorem Effect.terms_eq (effect : Effect pipeline task stage timer events tasks) :
    stage.ledger.terms = pipeline.stage.ledger.terms := by
  cases effect with
  | requestedMore some active attached short =>
      exact (Ledger.terms_topUp short).trans (Ledger.terms_ask _)
  | firstRequest active short => exact Ledger.terms_firstRequest short
  | handled first dispatch => exact dispatch.terms_eq
  | acceptedHandOff delivery => exact delivery.terms_eq
  | failed failure => exact congrArg Ledger.terms failure.ledger_eq.1
  | _ => rfl

theorem Effect.policy_eq (effect : Effect pipeline task stage timer events tasks) :
    stage.ledger.policy = pipeline.stage.ledger.policy :=
  congrArg Prod.fst effect.terms_eq

theorem Effect.batchSize_eq (effect : Effect pipeline task stage timer events tasks) :
    stage.ledger.batchSize = pipeline.stage.ledger.batchSize :=
  congrArg Prod.snd effect.terms_eq

/-- Every task moves the credit in one of the ways of a turnover. -/
theorem Effect.turnover (effect : Effect pipeline task stage timer events tasks) :
    Turnover pipeline.stage stage task (dueGrants tasks) (takenIn events) := by
  have unasked : ∀ {tasks : List (Task α)}, (∀ task ∈ tasks, task.isPrompt = false) →
      dueGrants tasks = [] := fun still =>
    dueGrants_of_forall fun task member => Task.grant?_of_not_isPrompt (still task member)
  cases effect with
  | free aside inert allFree =>
      have untaken : takenIn events = [] :=
        List.filterMap_eq_nil_iff.mpr fun event member =>
          Event.taken?_of_isInert (inert event member)
      rw [untaken, unasked fun task member => Task.isPrompt_of_isFree (allFree task member)]
      exact .none rfl
  | timerClosed =>
      rw [unasked fun task member => ?_]
      · exact .none rfl
      · obtain ⟨line, _, rfl⟩ := List.mem_map.mp member
        rfl
  | called actions =>
      rw [unasked fun task member => Task.isPrompt_of_isFree (isFree_acts actions task member)]
      exact .none rfl
  | enteredSignal announces =>
      rw [unasked isPrompt_wakeTasks]
      exact .none rfl
  | announced =>
      rw [unasked isPrompt_wakeTasks]
      exact .none rfl
  | requestedMore some active attached short => exact .claimed (Or.inr attached) short
  | cancelled active =>
      rw [unasked (List.forall_mem_append.mpr
        ⟨forall_cancelProducerTasks pipeline fun _ => rfl, List.forall_mem_singleton.mpr rfl⟩)]
      exact .none rfl
  | @firstRequest producer credit ledger active short =>
      rcases Ledger.of_firstRequest short with ⟨policy, rfl, rfl⟩ | claims
      · exact .opened rfl policy rfl
      · rw [← Ledger.ask_zero pipeline.stage.ledger] at claims
        exact .claimed (Or.inl rfl) claims
  | @handled missed signal rest stage timer events tasks first dispatch =>
      have unasking : dueGrants (tasks ++ [Task.workOff missed]) = [] := by
        rw [dueGrants_append (List.forall_mem_singleton.mpr rfl)]
        exact dueGrants_of_forall fun task member =>
          Task.grant?_of_isInner (dispatch.isInner task member)
      have taken_eq : takenIn (.handled signal :: events) = takenIn events := rfl
      rw [unasking, taken_eq]
      rcases dispatch.draws with ⟨outstanding_eq, untaken⟩ | ⟨item, rfl, received, taken⟩
      · rw [untaken]
        exact .none outstanding_eq
      · rw [taken]
        refine .taken received ?_ rfl
        rw [first, dispatch.queue_eq.1]
  | acceptedHandOff delivery =>
      rw [delivery.outstanding_eq.2, dueGrants_of_forall fun task member =>
        Task.grant?_of_isInner (delivery.isInner task member)]
      exact .none delivery.outstanding_eq.1
  | refusedHandOff =>
      rw [unasked isPrompt_failureTasks]
      exact .none rfl
  | failed failure =>
      rw [failure.ledger_eq.2, dueGrants_of_forall fun task member =>
        Task.grant?_of_isInner (failure.isInner task member)]
      exact .none (congrArg Ledger.outstanding failure.ledger_eq.1)
  | reportedStage =>
      rw [unasked (List.forall_mem_append.mpr
        ⟨forall_cancelProducerTasks pipeline fun _ => rfl, List.forall_mem_singleton.mpr rfl⟩)]
      exact .none rfl
  | _ => exact .none rfl

/-- The stage is attached to the first producer that subscribes. -/
theorem Effect.producer_eq (effect : Effect pipeline task stage timer events tasks) :
    stage.producer =
      pipeline.stage.producer.or ((entries events).findSome? Inbound.producer?) := by
  have still : (entries events).findSome? Inbound.producer? = none →
      stage.producer = pipeline.stage.producer →
      stage.producer =
        pipeline.stage.producer.or ((entries events).findSome? Inbound.producer?) := by
    intro silent same
    rw [silent, Option.or_none]
    exact same
  have uncalled : task.inbound? = none →
      (entries events).findSome? Inbound.producer? = none := by
    intro outside
    rw [entries, effect.inbound_eq, outside]
    rfl
  cases effect with
  | free aside inert allFree =>
      refine still (uncalled ?_) rfl
      cases task <;> first | rfl | cases aside
  | swept aside gone =>
      refine still (uncalled ?_) rfl
      cases task <;> first | rfl | cases aside
  | @enteredSignal call signal announces =>
      refine still ?_ rfl
      cases call <;> first | rfl | cases announces
  | attached first =>
      rw [first]
      rfl
  | @attachedTwice producer second =>
      obtain ⟨earlier, attached⟩ := Option.ne_none_iff_exists'.mp second
      rw [attached]
      rfl
  | handled first dispatch => exact still (uncalled rfl) dispatch.producer_eq
  | acceptedHandOff delivery => exact still (uncalled rfl) delivery.producer_eq
  | failed failure => exact still (uncalled rfl) failure.producer_eq
  | _ => first | exact still (uncalled rfl) rfl | exact still rfl rfl

/-- The task of the first request is put on the agenda when the first producer subscribes, and at
no other time. -/
theorem Effect.firstRequests (effect : Effect pipeline task stage timer events tasks) :
    tasks.countP Task.isFirstRequest = 0 ∨
      pipeline.stage.producer = none ∧ ∃ producer, stage.producer = some producer ∧
        tasks = [.call .subscribe, .announce .subscribed, .firstRequest producer] := by
  cases effect with
  | free aside inert allFree =>
      exact Or.inl (countP_of_isFree Task.isFirstRequest_of_isFree allFree)
  | timerClosed =>
      refine Or.inl (countP_of_isFree Task.isFirstRequest_of_isFree fun task member => ?_)
      obtain ⟨line, _, rfl⟩ := List.mem_map.mp member
      rfl
  | called actions =>
      exact Or.inl (countP_of_isFree Task.isFirstRequest_of_isFree (isFree_acts actions))
  | enteredSignal announces => exact Or.inl (countP_wakeTasks fun _ => rfl)
  | announced => exact Or.inl (countP_wakeTasks fun _ => rfl)
  | attached first => exact Or.inr ⟨first, _, rfl, rfl⟩
  | cancelled active =>
      rw [List.countP_append, countP_cancelProducerTasks _ fun _ => rfl]
      exact Or.inl rfl
  | handled first dispatch =>
      rw [List.countP_append, countP_of_isInner dispatch.isInner]
      exact Or.inl rfl
  | acceptedHandOff delivery => exact Or.inl (countP_of_isInner delivery.isInner)
  | refusedHandOff => exact Or.inl (countP_of_isInner (isInner_failureTasks _ _))
  | failed failure => exact Or.inl (countP_of_isInner failure.isInner)
  | reportedStage =>
      rw [List.countP_append, countP_cancelProducerTasks _ fun _ => rfl]
      exact Or.inl rfl
  | _ => exact Or.inl rfl

end Step

/-! ## The producer that is asked -/

section Reachable

variable {config : Config} {setup : Setup α} {pipeline : Pipeline α}

theorem Reachable.terms_eq (reachable : Reachable config setup pipeline) :
    pipeline.stage.ledger.terms = (config.policy, config.maxSize) :=
  reachable.preserve (fun stage _ _ => stage.ledger.terms = (config.policy, config.maxSize))
    (fun _ => rfl) (fun _ _ _ same => same)
    (fun _ _ _ _ _ _ effect same => effect.terms_eq.trans same)

theorem Reachable.policy_eq (reachable : Reachable config setup pipeline) :
    pipeline.stage.ledger.policy = config.policy :=
  congrArg Prod.fst reachable.terms_eq

theorem Reachable.batchSize_eq (reachable : Reachable config setup pipeline) :
    pipeline.stage.ledger.batchSize = config.maxSize :=
  congrArg Prod.snd reachable.terms_eq

theorem Reachable.producer_eq (reachable : Reachable config setup pipeline) :
    pipeline.stage.producer = pipeline.inboundCalls.findSome? Inbound.producer? := by
  refine reachable.preserve
    (fun stage _ events => stage.producer = (entries events).findSome? Inbound.producer?)
    ?_ (fun _ _ _ same => same) ?_
  · intro lines
    rw [entries_logs]
    rfl
  · intro pipeline task stage timer events tasks effect same
    rw [effect.producer_eq, same, entries_append, List.findSome?_append]

end Reachable

/-- Requests go to the attached producer. -/
structure Addressed (stage : Stage α) (agenda : List (Task α)) (events : List (Event α)) :
    Prop where
  granted : ∀ grant ∈ grantsIn events ++ dueGrants agenda, stage.producer = some grant.producer
  asking : ∀ producer, .firstRequest producer ∈ agenda → stage.producer = some producer

section Step

variable {config : Config} {pipeline : Pipeline α} {task : Task α} {stage : Stage α}
  {timer : Timer UInt64} {events : List (Event α)} {tasks : List (Task α)}

/-- The requests after a task are those before it and the one that it books. -/
theorem Steady.grants_eq (steady : Steady config pipeline.stage (task :: pipeline.agenda))
    (effect : Effect pipeline task stage timer events tasks) :
    grantsIn (pipeline.chronicle ++ events) ++ dueGrants (tasks ++ pipeline.agenda) =
      grantsIn pipeline.chronicle ++ dueGrants (task :: pipeline.agenda) ++ dueGrants tasks := by
  have still : ∀ task ∈ pipeline.agenda, task.isPrompt = false := steady.prompt.tail
  rw [grantsIn_append, effect.grants_eq, dueGrants_append still]
  rfl

theorem Addressed.step
    (addressed : Addressed pipeline.stage (task :: pipeline.agenda) pipeline.chronicle)
    (steady : Steady config pipeline.stage (task :: pipeline.agenda))
    (effect : Effect pipeline task stage timer events tasks) :
    Addressed stage (tasks ++ pipeline.agenda) (pipeline.chronicle ++ events) := by
  have stays : ∀ {producer}, pipeline.stage.producer = some producer →
      stage.producer = some producer := by
    intro producer attached
    rw [effect.producer_eq, attached]
    rfl
  constructor
  · rw [steady.grants_eq effect]
    intro grant member
    rcases List.mem_append.mp member with before | booked
    · exact stays (addressed.granted grant before)
    · have turnover := effect.turnover
      generalize dueGrants tasks = due at turnover booked
      generalize takenIn events = items at turnover
      cases turnover with
      | none _ => cases booked
      | opened task_eq _ _ =>
          cases List.mem_singleton.mp booked
          exact stays (addressed.asking _ (task_eq ▸ List.mem_cons_self))
      | claimed attached _ =>
          cases List.mem_singleton.mp booked
          rcases attached with task_eq | attached
          · exact stays (addressed.asking _ (task_eq ▸ List.mem_cons_self))
          · exact stays attached
      | taken _ _ _ => cases booked
  · intro producer member
    rcases List.mem_append.mp member with added | stayed
    · rcases effect.firstRequests with nothing | ⟨_, first, attached, rfl⟩
      · exact absurd rfl (List.countP_eq_zero.mp nothing _ added)
      · simp only [List.mem_cons, List.not_mem_nil, or_false] at added
        rcases added with impossible | impossible | same
        · cases impossible
        · cases impossible
        · cases same
          exact attached
    · exact stays (addressed.asking producer (List.mem_cons_of_mem _ stayed))

end Step

theorem Reachable.addressed {config : Config} {setup : Setup α} {pipeline : Pipeline α}
    (reachable : Reachable config setup pipeline) :
    Addressed pipeline.stage pipeline.agenda pipeline.chronicle := by
  refine reachable.preserve_of_steady Addressed ?_ ?_ fun _ _ _ _ _ _ steady effect addressed =>
    addressed.step steady effect
  · intro lines
    constructor
    · simp [grantsIn_logs, dueGrants]
    · simp
  · intro stage events action addressed
    constructor
    · exact addressed.granted
    · simp

/-! ## The account of the credit -/

/-- The outstanding credit is what was requested and not yet taken in. It is without bound as soon
as a request without bound was booked. -/
structure Booked (outstanding : Amount) (credits : List Amount) (taken : Nat) : Prop where
  positive : ∀ credit ∈ credits, credit ≠ 0
  boundless : outstanding = .unbounded ↔ .unbounded ∈ credits
  balance : .unbounded ∉ credits → outstanding.count + taken = creditSum credits

namespace Booked

variable {ledger next : Ledger} {credits : List Amount} {taken : Nat}

theorem claim {credit : Amount} (booked : Booked ledger.outstanding credits taken)
    (short : ledger.topUp = some (credit, next)) :
    Booked next.outstanding (credits ++ [credit]) taken := by
  obtain ⟨_, bounded, below, rfl, rfl⟩ := Ledger.of_topUp short
  have noneBefore : .unbounded ∉ credits := fun member => bounded (booked.boundless.mpr member)
  rw [Amount.lt_def] at below
  by_cases whole : ledger.target = .unbounded
  · rw [if_pos whole]
    constructor
    · intro credit member
      rcases List.mem_append.mp member with before | last
      · exact booked.positive credit before
      · rw [List.mem_singleton.mp last]
        decide
    · simp [whole]
    · simp
  · rw [if_neg whole]
    have small : ledger.target - ledger.outstanding ≠ .unbounded := by
      have cap := ledger.target.count_le
      rw [Amount.eq_unbounded_iff] at whole
      rw [ne_eq, Amount.eq_unbounded_iff, Amount.count_sub]
      omega
    constructor
    · intro credit member
      rcases List.mem_append.mp member with before | last
      · exact booked.positive credit before
      · rw [List.mem_singleton.mp last, ne_eq, Amount.ext_iff, Amount.count_sub, Amount.count_zero]
        omega
    · simp [whole, noneBefore, small.symm]
    · intro _
      have balance := booked.balance noneBefore
      rw [creditSum_concat, Amount.count_sub, ← balance]
      simp only
      omega

theorem take (booked : Booked ledger.outstanding credits taken)
    (received : ledger.receiveItem = some next) :
    Booked next.outstanding credits (taken + 1) := by
  rcases Ledger.of_receiveItem received with ⟨unbounded, rfl⟩ | ⟨bounded, funded, rfl⟩
  · have boundless := booked.boundless.mp unbounded
    exact ⟨booked.positive, booked.boundless, fun bounded => absurd boundless bounded⟩
  · have noneBefore : .unbounded ∉ credits := fun member => bounded (booked.boundless.mpr member)
    rw [ne_eq, Amount.ext_iff, Amount.count_zero] at funded
    have cap := ledger.outstanding.count_le
    refine ⟨booked.positive, ?_, fun _ => ?_⟩
    · have small : ledger.outstanding - 1 ≠ .unbounded := by
        rw [ne_eq, Amount.eq_unbounded_iff, Amount.count_sub, Amount.count_one]
        omega
      simp [noneBefore, small]
    · have balance := booked.balance noneBefore
      simp only [Amount.count_sub, Amount.count_one]
      omega

end Booked

/-- The account of a ledger under its policy: everything is asked for at once, or the credit is
booked request by request. -/
structure Credited (ledger : Ledger) (credits : List Amount) (taken : Nat) : Prop where
  unbounded : ledger.policy = .unbounded →
    ledger.outstanding = .unbounded ∧ ∀ credit ∈ credits, credit = .unbounded
  prefetch : ledger.policy = .prefetch → Booked ledger.outstanding credits taken

section Step

variable {config : Config} {pipeline : Pipeline α} {task : Task α} {stage : Stage α}
  {timer : Timer UInt64} {events : List (Event α)} {tasks : List (Task α)}

theorem Credited.turn {granted : List Grant} {items : List α} {credits : List Amount} {taken : Nat}
    (credited : Credited pipeline.stage.ledger credits taken)
    (policy_eq : stage.ledger.policy = pipeline.stage.ledger.policy)
    (turnover : Turnover pipeline.stage stage task granted items) :
    Credited stage.ledger (credits ++ granted.map Grant.credit) (taken + items.length) := by
  cases turnover with
  | none outstanding_eq =>
      constructor <;> rw [policy_eq, outstanding_eq, List.map_nil, List.append_nil]
      · exact credited.unbounded
      · exact credited.prefetch
  | opened task_eq policy ledger_eq =>
      rw [ledger_eq]
      constructor
      · intro _
        obtain ⟨outstanding_eq, whole⟩ := credited.unbounded policy
        refine ⟨outstanding_eq, List.forall_mem_append.mpr ⟨whole, ?_⟩⟩
        exact List.forall_mem_singleton.mpr rfl
      · intro prefetch
        rw [policy] at prefetch
        cases prefetch
  | @claimed producer batches credit addressed short =>
      have prefetch : pipeline.stage.ledger.policy = .prefetch := (Ledger.of_topUp short).1
      constructor
      · intro unbounded
        rw [policy_eq, prefetch] at unbounded
        cases unbounded
      · intro _
        have before : Booked (pipeline.stage.ledger.ask batches).outstanding credits taken :=
          credited.prefetch prefetch
        exact before.claim short
  | taken received first works =>
      rw [List.map_nil, List.append_nil]
      constructor
      · intro unbounded
        obtain ⟨outstanding_eq, whole⟩ := credited.unbounded (policy_eq ▸ unbounded)
        rcases Ledger.of_receiveItem received with ⟨_, same⟩ | ⟨bounded, _⟩
        · rw [same]
          exact ⟨outstanding_eq, whole⟩
        · exact absurd outstanding_eq bounded
      · intro prefetch
        exact (credited.prefetch (policy_eq ▸ prefetch)).take received

end Step

section Reachable

variable {config : Config} {setup : Setup α} {pipeline : Pipeline α}

theorem Reachable.credited (reachable : Reachable config setup pipeline) :
    Credited pipeline.stage.ledger pipeline.credits pipeline.taken.length := by
  refine reachable.preserve_of_steady (fun stage agenda events =>
    Credited stage.ledger ((grantsIn events ++ dueGrants agenda).map Grant.credit)
      (takenIn events).length) ?_ (fun _ _ _ credited => credited) ?_
  · intro lines
    rw [grantsIn_logs, takenIn_logs]
    constructor
    · intro unbounded
      have policy : config.policy = .unbounded := unbounded
      simp [Stage.opening, Ledger.opening, dueGrants, policy]
    · intro prefetch
      have policy : config.policy = .prefetch := prefetch
      constructor
      · simp [dueGrants]
      · simp [Stage.opening, Ledger.opening, dueGrants, policy, Amount.ext_iff]
      · simp [Stage.opening, Ledger.opening, dueGrants, policy, creditSum]
  · intro pipeline task stage timer events tasks steady effect credited
    rw [steady.grants_eq effect, List.map_append, takenIn_append, List.length_append]
    exact credited.turn effect.policy_eq effect.turnover

/-- Under the unbounded policy there is one request at most, and it is due only once a producer
subscribed. -/
theorem Reachable.grants_le (reachable : Reachable config setup pipeline)
    (unbounded : config.policy = .unbounded) :
    pipeline.grants.length + pipeline.agenda.countP Task.isFirstRequest ≤
      attachments pipeline.stage := by
  have both := reachable.preserve_of_steady (fun stage agenda events =>
    stage.ledger.policy = .unbounded ∧
      (grantsIn events ++ dueGrants agenda).length + agenda.countP Task.isFirstRequest ≤
        attachments stage) ?_ ?_ ?_
  · exact both.2
  · intro lines
    rw [grantsIn_logs]
    exact ⟨unbounded, Nat.zero_le _⟩
  · rintro stage events action ⟨policy, few⟩
    exact ⟨policy, few⟩
  · rintro pipeline task stage timer events tasks steady effect ⟨policy, few⟩
    refine ⟨effect.policy_eq.trans policy, ?_⟩
    have grows : attachments pipeline.stage ≤ attachments stage := by
      rw [attachments, attachments]
      split
      · rw [if_pos (effect.producer_isSome ‹_›)]
      · exact Nat.zero_le _
    rw [List.countP_cons] at few
    rw [steady.grants_eq effect, List.length_append, List.countP_append]
    have turnover := effect.turnover
    have asks := effect.firstRequests
    rcases asks with nothing | ⟨unattached, producer, attached, rfl⟩
    · rw [nothing]
      generalize dueGrants tasks = due at turnover
      generalize takenIn events = items at turnover
      cases turnover with
      | none _ =>
          simp only [List.length_nil]
          omega
      | opened task_eq _ _ =>
          have asks : task.isFirstRequest = true := task_eq ▸ rfl
          rw [if_pos asks] at few
          simp only [List.length_singleton]
          omega
      | claimed _ short => cases policy.symm.trans (Ledger.of_topUp short).1
      | taken _ _ _ =>
          simp only [List.length_nil]
          omega
    · have one : attachments stage = 1 := if_pos (attached ▸ rfl)
      have none : attachments pipeline.stage = 0 := if_neg (unattached ▸ Bool.false_ne_true)
      have before : List.countP Task.isFirstRequest ([.call .subscribe, .announce .subscribed,
          .firstRequest producer] : List (Task α)) = 1 := rfl
      have idle : dueGrants ([.call .subscribe, .announce .subscribed,
          .firstRequest producer] : List (Task α)) = [] := rfl
      rw [before, idle, List.length_nil]
      omega

/-- What was taken in and what waits in the queue was passed to the stage. -/
theorem Reachable.taken_le (reachable : Reachable config setup pipeline) :
    pipeline.taken.length + (waiting pipeline.stage).length ≤ pipeline.passed.length := by
  refine reachable.preserve_of_steady (fun stage _ events =>
    (takenIn events).length + (waiting stage).length ≤ (passedIn events).length) ?_
    (fun _ _ _ fewer => fewer) ?_
  · intro lines
    rw [takenIn_logs]
    exact Nat.zero_le _
  · intro pipeline task stage timer events tasks steady effect fewer
    rw [takenIn_append, List.length_append, passedIn_append, List.length_append, effect.passed_eq]
    have turnover := effect.turnover
    generalize takenIn events = items at turnover ⊢
    -- An item that is taken in leaves the queue; otherwise the queue grows by what is passed.
    have kept : items = [] → (waiting stage).length ≤
        (waiting pipeline.stage).length + task.passed.length := by
      intro _
      rcases effect.motion (steady.sized.sound task List.mem_cons_self).announces with
        motion | ⟨_, _, rfl, _⟩
      · cases motion with
        | pass given_perm batch_eq waiting_eq => rw [waiting_eq, List.length_append]
        | gather front given_eq items_eq passed_eq waiting_eq gathered =>
            rw [waiting_eq, List.length_append]
            omega
      · exact Nat.le_add_right _ _
    generalize dueGrants tasks = due at turnover
    cases turnover with
    | @taken item received first works =>
        have left : (waiting pipeline.stage).length = (waiting stage).length + 1 := by
          rw [waiting, first]
          rfl
        simp only [List.length_singleton]
        omega
    | _ =>
        have grown := kept rfl
        simp only [List.length_nil]
        omega

end Reachable

/-! ## Items that find no credit -/

/-- A stage that works is about to work an item off. -/
structure IsTaking (pipeline : Pipeline α) (item : α) : Prop where
  active : pipeline.stage.status = .active
  working : ∃ missed, pipeline.agenda.head? = some (.workOff missed)
  first : ∃ rest, pipeline.stage.signals = .item item :: rest

/-- An item is answered with an error: it is given to the discard hook, and then the error ends the
stage. -/
def Refuses (pipeline : Pipeline α) (item : α) : Prop :=
  pipeline.step.agenda =
    .call (.discard (.item item)) :: .endWith .unrequestedElement .stage :: pipeline.agenda

/-- At no moment has the producer sent more than it was asked for until then. -/
def WithinCredit (events : List (Event α)) : Prop :=
  ∀ earlier later, events = earlier ++ later →
    .unbounded ∈ creditsIn earlier ∨ (passedIn earlier).length ≤ creditSum (creditsIn earlier)

theorem WithinCredit.of_append {earlier later : List (Event α)}
    (within : WithinCredit (earlier ++ later)) : WithinCredit earlier := by
  rintro front back rfl
  exact within front (back ++ later) (List.append_assoc _ _ _)

theorem Later.exists_chronicle {first last : Pipeline α} (later : Later first last) :
    ∃ more, last.chronicle = first.chronicle ++ more := by
  refine later.preserve (fun _ _ events => ∃ more, events = first.chronicle ++ more)
    ⟨[], (List.append_nil _).symm⟩ (fun _ _ _ grown => grown) ?_
  rintro pipeline task stage timer events tasks effect ⟨more, chronicle_eq⟩
  exact ⟨more ++ events, by rw [chronicle_eq, List.append_assoc]⟩

section Taking

variable {config : Config} {setup : Setup α} {pipeline : Pipeline α} {item : α}

/-- An item that finds credit is taken in, and one that finds none is refused. -/
theorem IsTaking.answer (taking : IsTaking pipeline item) :
    (pipeline.stage.ledger.receiveItem = none ∧ Refuses pipeline item ∧
        pipeline.step.stage.status = .active) ∨
      (pipeline.stage.ledger.receiveItem ≠ none ∧ ¬Refuses pipeline item ∧
        pipeline.step.taken = pipeline.taken ++ [item]) := by
  obtain ⟨active, ⟨missed, working⟩, rest, first⟩ := taking
  obtain ⟨others, agenda_eq⟩ := List.head?_eq_some_iff.mp working
  obtain ⟨stage, timer, events, tasks, effect, becomes⟩ := exists_step_effect agenda_eq
  rw [Refuses, becomes.agenda_eq, becomes.stage_eq, taken, becomes.chronicle_eq, takenIn_append,
    agenda_eq]
  cases effect with
  | free aside inert allFree => cases aside
  | swept aside gone => cases aside
  | accounted empty done => cases first.symm.trans empty
  | accountedMore empty more => cases first.symm.trans empty
  | handled queue dispatch =>
      obtain ⟨rfl, rfl⟩ := List.cons.inj (first.symm.trans queue)
      cases dispatch with
      | itemLate ended => exact absurd active ended
      | itemUnrequested works unrequested => exact Or.inl ⟨unrequested, rfl, works⟩
      | itemTaken works received room =>
          refine Or.inr ⟨?_, nofun, rfl⟩
          exact Option.ne_none_iff_exists'.mpr ⟨_, received⟩
      | itemLast works received full =>
          refine Or.inr ⟨?_, nofun, rfl⟩
          exact Option.ne_none_iff_exists'.mpr ⟨_, received⟩

theorem IsTaking.refuses_iff_receiveItem (taking : IsTaking pipeline item) :
    Refuses pipeline item ↔ pipeline.stage.ledger.receiveItem = none := by
  rcases taking.answer with ⟨unrequested, refuses, _⟩ | ⟨requested, accepts, _⟩
  · exact iff_of_true refuses unrequested
  · exact iff_of_false accepts requested

theorem IsTaking.credits_eq (taking : IsTaking pipeline item) :
    pipeline.credits = creditsIn pipeline.chronicle := by
  obtain ⟨missed, working⟩ := taking.working
  rw [credits, grants, dueGrants, working]
  exact congrArg (List.map Grant.credit) (List.append_nil _)

/-- An item is refused exactly if the items before it have used up what was asked for. -/
theorem Reachable.refuses_iff (reachable : Reachable config setup pipeline)
    (taking : IsTaking pipeline item) :
    Refuses pipeline item ↔
      config.policy = .prefetch ∧ .unbounded ∉ pipeline.credits ∧
        pipeline.taken.length = creditSum pipeline.credits := by
  have policy_eq := reachable.policy_eq
  have credited := reachable.credited
  rw [taking.refuses_iff_receiveItem, Ledger.receiveItem_eq_none_iff]
  cases policy : config.policy with
  | unbounded =>
      have endless := (credited.unbounded (policy_eq.trans policy)).1
      simp [endless, Amount.ext_iff]
  | prefetch =>
      have booked := credited.prefetch (policy_eq.trans policy)
      by_cases boundless : .unbounded ∈ pipeline.credits
      · have endless := booked.boundless.mpr boundless
        simp [endless, boundless, Amount.ext_iff]
      · have balance := booked.balance boundless
        simp only [Amount.ext_iff, Amount.count_zero, boundless, not_false_eq_true, true_and]
        omega

/-- Nothing is refused under the unbounded policy, nor of a producer that sends no more than it was
asked for. -/
theorem Reachable.not_refuses (reachable : Reachable config setup pipeline)
    (trusted : config.policy = .unbounded ∨ WithinCredit pipeline.chronicle)
    (taking : IsTaking pipeline item) : ¬Refuses pipeline item := by
  rw [reachable.refuses_iff taking]
  rintro ⟨prefetch, bounded, spent⟩
  rcases trusted with unbounded | within
  · cases prefetch.symm.trans unbounded
  · have fewer := reachable.taken_le
    have some : 1 ≤ (waiting pipeline.stage).length := by
      obtain ⟨rest, first⟩ := taking.first
      rw [waiting, first]
      exact Nat.le_add_left 1 _
    rw [taking.credits_eq] at bounded spent
    rcases within pipeline.chronicle [] (List.append_nil _).symm with boundless | sent
    · exact bounded boundless
    · rw [← passed_eq] at sent
      omega

/-- The error of an item that was not asked for is found where such an item is worked off. -/
theorem Finds.exists_item (finds : Finds pipeline .unrequestedElement) :
    ∃ item, IsTaking pipeline item ∧ Refuses pipeline item := by
  obtain ⟨task, working, found⟩ := finds
  generalize error_eq : StreamError.unrequestedElement = error at found
  cases found with
  | @unrequested missed item rest active first unrequested =>
      have taking : IsTaking pipeline item := ⟨active, ⟨missed, working⟩, rest, first⟩
      exact ⟨item, taking, taking.refuses_iff_receiveItem.mpr unrequested⟩
  | unpaid active unpaid => exact absurd error_eq (by decide)
  | unpaidRest active first filled unpaid => exact absurd error_eq (by decide)
  | refused => exact absurd error_eq (ne_timerRejected (by decide))
  | attachedTwice => exact absurd error_eq (by decide)

/-- The error that answers an item ends the stage and reaches the consumer, unless the consumer
cancels before. -/
theorem Reachable.outcome_of_refuses (reachable : Reachable config setup pipeline)
    (taking : IsTaking pipeline item) (refuses : Refuses pipeline item) {last : Pipeline α}
    (later : Later pipeline.step last) (idle : last.isIdle = true) :
    last.stage.status = .cancelled ∨
      last.stage.status = .errored ∧ .unrequestedElement ∈ last.errors := by
  refine Sentenced.outcome later (.pending [.call (.discard (.item item))] pipeline.agenda .stage
    refuses (List.forall_mem_singleton.mpr rfl) ?_ ?_) idle
  · rcases taking.answer with ⟨_, _, active⟩ | ⟨_, accepts, _⟩
    · exact active
    · exact absurd refuses accepts
  · refine reachable.step.inOrder.inner_working (.endWith .unrequestedElement .stage) ?_ rfl
    rw [refuses]
    simp

end Taking

/-! ## The credit is kept -/

/-- The stage keeps account of what it asks the producer for. -/
structure CreditKept (config : Config) (pipeline : Pipeline α) : Prop where
  /-- Items are requested of the producer that subscribed first. -/
  addressed : ∀ grant ∈ pipeline.grants,
    pipeline.inboundCalls.findSome? Inbound.producer? = some grant.producer
  /-- A request is the next thing to be done, and the stage works. -/
  prompt : ∀ producer credit, .call (.request producer credit) ∈ pipeline.agenda →
    pipeline.agenda.head? = some (.call (.request producer credit)) ∧
      pipeline.stage.status = .active
  /-- Under the unbounded policy everything is requested at once. -/
  single : config.policy = .unbounded → pipeline.credits = [] ∨ pipeline.credits = [.unbounded]
  /-- Under the other policy the ledger agrees with the requests and the items taken in. -/
  booked : config.policy = .prefetch →
    Booked pipeline.stage.ledger.outstanding pipeline.credits pipeline.taken.length
  /-- An item is answered with an error exactly if the items before it used up the credit. -/
  refuses_iff : ∀ item, IsTaking pipeline item →
    (Refuses pipeline item ↔
      config.policy = .prefetch ∧ .unbounded ∉ pipeline.credits ∧
        pipeline.taken.length = creditSum pipeline.credits)
  takes : ∀ item, IsTaking pipeline item → ¬Refuses pipeline item →
    pipeline.step.taken = pipeline.taken ++ [item]
  /-- The consumer hears of that error, unless it cancels before. -/
  refused : ∀ item last, IsTaking pipeline item → Refuses pipeline item →
    Later pipeline.step last → last.isIdle = true →
      last.stage.status = .cancelled ∨
        last.stage.status = .errored ∧ .unrequestedElement ∈ last.errors
  /-- A producer that sends no more than it was asked for is never failed for an item, and under
  the unbounded policy no producer is. -/
  trusted : config.policy = .unbounded ∨ WithinCredit pipeline.chronicle →
    (∀ item, IsTaking pipeline item → ¬Refuses pipeline item) ∧
      (.unrequestedElement ∈ pipeline.errors →
        .error .unrequestedElement ∈ pipeline.inboundCalls)

theorem Reachable.creditKept {config : Config} {setup : Setup α} {pipeline : Pipeline α}
    (reachable : Reachable config setup pipeline) : CreditKept config pipeline := by
  have policy_eq := reachable.policy_eq
  have credited := reachable.credited
  constructor
  case addressed =>
    intro grant member
    rw [← reachable.producer_eq]
    exact reachable.addressed.granted grant member
  case prompt =>
    intro producer credit member
    have prompt := reachable.steady.prompt
    cases agenda_eq : pipeline.agenda with
    | nil =>
        rw [agenda_eq] at member
        cases member
    | cons task others =>
        rw [agenda_eq] at member prompt
        rcases List.mem_cons.mp member with rfl | beneath
        · exact ⟨rfl, prompt.head _ rfl rfl⟩
        · cases prompt.tail _ beneath
  case single =>
    intro unbounded
    have whole := (credited.unbounded (policy_eq.trans unbounded)).2
    have few : pipeline.credits.length ≤ 1 := by
      have bound := reachable.grants_le unbounded
      have one : attachments pipeline.stage ≤ 1 := by
        rw [attachments]
        split <;> omega
      rw [credits, List.length_map]
      omega
    generalize pipeline.credits = credits at whole few
    cases credits with
    | nil => exact Or.inl rfl
    | cons credit others =>
        obtain rfl := List.eq_nil_of_length_eq_zero (Nat.le_zero.mp (Nat.le_of_succ_le_succ few))
        rw [List.forall_mem_singleton.mp whole]
        exact Or.inr rfl
  case booked => exact fun prefetch => credited.prefetch (policy_eq.trans prefetch)
  case refuses_iff => exact fun item taking => reachable.refuses_iff taking
  case takes =>
    intro item taking accepts
    rcases taking.answer with ⟨_, refuses, _⟩ | ⟨_, _, taken_eq⟩
    · exact absurd refuses accepts
    · exact taken_eq
  case refused =>
    exact fun item last taking refuses later idle =>
      reachable.outcome_of_refuses taking refuses later idle
  case trusted =>
    intro trusted
    refine ⟨fun item taking => reachable.not_refuses trusted taking, fun told => ?_⟩
    rcases reachable.exists_finds (atLarge_of_errors told) with
      reported | ⟨earlier, reached, later, finds⟩
    · exact reported
    · -- The stage cannot have found that error at an earlier moment either.
      obtain ⟨item, taking, refuses⟩ := finds.exists_item
      obtain ⟨more, chronicle_eq⟩ := later.exists_chronicle
      rw [chronicle_eq] at trusted
      exact absurd refuses
        (reached.not_refuses (trusted.imp_right WithinCredit.of_append) taking)

/-- The producer sends three items in the middle of the first request, which is for four, and is
asked for one more afterwards. The last of the three items that it sends then was not asked for. -/
theorem creditKept_of_item_too_many :
    ∃ pipeline : Pipeline Nat,
      Reachable ⟨2, .ofMillis 10, .prefetch⟩
        { reactions := fun kind earlier =>
            if kind = .subscribe then [.request 2]
            else if kind = .request ∧ earlier = 0 then [.next [1, 2, 3]]
            else [] }
        pipeline ∧
      pipeline.credits = [4, 1] ∧ pipeline.taken = [1, 2, 3, 4, 5] ∧
      pipeline.discarded = [6, 5] ∧ pipeline.errors = [.unrequestedElement] ∧
      CreditKept ⟨2, .ofMillis 10, .prefetch⟩ pipeline := by
  have start : @Reachable Nat ⟨2, .ofMillis 10, .prefetch⟩
      { reactions := fun kind earlier =>
          if kind = .subscribe then [.request 2]
          else if kind = .request ∧ earlier = 0 then [.next [1, 2, 3]]
          else [] } _ := Reachable.of_opening rfl
  have subscribed := start.act rfl .subscribe 60
  have failed := subscribed.act rfl (.next [4, 5, 6]) 60
  exact ⟨_, failed, rfl, rfl, rfl, rfl, Reachable.creditKept failed⟩

end Pipeline

end TimedBatch
