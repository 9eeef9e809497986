import TimedBatch.Proofs.Credit

/-!
# Asking ahead

Under the prefetch policy the producer is asked for as many items as fill the batches that the
consumer asked for. Credit is claimed at requests of the consumer only. Still the consumer is never
starved: where no call of the stage is under way, the credit and the open batch together fill every
batch asked for. A batch that leaves the stage takes at most its greatest size and one unit of
demand along, so nothing has to be claimed for it.

The claim leaves out of account what is buffered already. The credit alone fits into the demand when
it is claimed; with the open batch or a batch on its way on top, the last batch may find no demand.
-/

namespace TimedBatch

variable {α : Type}

namespace Task

/-- Whether a task holds a batch that waits for the timer. -/
def isHandingOff (task : Task α) : Bool :=
  task.handOff?.isSome

theorem isHandingOff_of_isFree {task : Task α} (free : task.isFree = true) :
    task.isHandingOff = false := by
  cases task <;> first | rfl | cases free

theorem isHandingOff_of_isOuter {task : Task α} (outer : task.isOuter = true) :
    task.isHandingOff = false := by
  cases task <;> first | rfl | cases outer

theorem isPivot_of_isFailing {task : Task α} (failing : task.isFailing = true) :
    task.isPivot = true := by
  cases task <;> first | rfl | cases failing

end Task

/-! ## The ledger -/

namespace Ledger

variable {ledger next : Ledger} {onHand : Nat}

/-- The outstanding credit and some items on hand fill every batch asked for. -/
def Covers (ledger : Ledger) (onHand : Nat) : Prop :=
  ledger.outstanding = .unbounded ∨
    (ledger.requested ≠ .unbounded ∧
      ledger.requested.count * ledger.batchSize.count ≤ ledger.outstanding.count + onHand)

/-- The target is the product of demand and batch size, as far as amounts count. -/
theorem count_target (asked : ledger.requested ≠ 0) (sized : ledger.batchSize ≠ 0) :
    ledger.target.count =
      min (ledger.requested.count * ledger.batchSize.count) (2 ^ 64 - 1) := by
  have demand : 1 ≤ ledger.requested.count :=
    Nat.one_le_iff_ne_zero.mpr fun zero => asked (Amount.ext zero)
  have size : 1 ≤ ledger.batchSize.count :=
    Nat.one_le_iff_ne_zero.mpr fun zero => sized (Amount.ext zero)
  have first := Nat.le_mul_of_pos_right ledger.requested.count size
  have second := Nat.le_mul_of_pos_left ledger.batchSize.count demand
  rw [target, Amount.mul_def]
  split
  · rename_i whole
    rw [Amount.count_unbounded]
    rcases whole with whole | whole <;> rw [Amount.eq_unbounded_iff] at whole <;> omega
  · rfl

theorem covers_of_target_le (sized : ledger.batchSize ≠ 0)
    (reached : ledger.target ≤ ledger.outstanding) : ledger.Covers onHand := by
  by_cases boundless : ledger.outstanding = .unbounded
  · exact Or.inl boundless
  · have cap := ledger.outstanding.count_le
    rw [Amount.eq_unbounded_iff] at boundless
    rw [Amount.le_def] at reached
    by_cases asked : ledger.requested = 0
    · rw [Covers, asked, Amount.count_zero, Nat.zero_mul]
      exact Or.inr ⟨by decide, Nat.zero_le _⟩
    · rw [count_target asked sized] at reached
      have size : 1 ≤ ledger.batchSize.count :=
        Nat.one_le_iff_ne_zero.mpr fun zero => sized (Amount.ext zero)
      have grows := Nat.le_mul_of_pos_right ledger.requested.count size
      refine Or.inr ⟨?_, by omega⟩
      rw [ne_eq, Amount.eq_unbounded_iff]
      omega

theorem covers_of_topUp {credit : Amount} (sized : ledger.batchSize ≠ 0)
    (short : ledger.topUp = some (credit, next)) : next.Covers onHand := by
  obtain ⟨_, _, _, rfl, _⟩ := of_topUp short
  exact covers_of_target_le sized (Nat.le_refl _)

theorem covers_of_idle (prefetch : ledger.policy = .prefetch) (sized : ledger.batchSize ≠ 0)
    (idle : ledger.topUp = none) : ledger.Covers onHand := by
  rcases of_topUp_eq_none prefetch idle with boundless | reached
  · exact Or.inl boundless
  · exact covers_of_target_le sized reached

theorem Covers.mono {more : Nat} (covers : ledger.Covers onHand) (le : onHand ≤ more) :
    ledger.Covers more := by
  rcases covers with boundless | ⟨bounded, enough⟩
  · exact Or.inl boundless
  · exact Or.inr ⟨bounded, by omega⟩

/-- An item moves from the credit to what is on hand. -/
theorem Covers.receive (covers : ledger.Covers onHand)
    (received : ledger.receiveItem = some next) : next.Covers (onHand + 1) := by
  rcases of_receiveItem received with ⟨boundless, rfl⟩ | ⟨_, funded, rfl⟩
  · exact Or.inl boundless
  · rcases covers with boundless | ⟨bounded, enough⟩
    · contradiction
    · rw [ne_eq, Amount.ext_iff, Amount.count_zero] at funded
      refine Or.inr ⟨bounded, ?_⟩
      simp only [Amount.count_sub, Amount.count_one]
      omega

/-- A batch takes no more along than what the unit of demand stood for. -/
theorem Covers.pay {less : Nat} (covers : ledger.Covers onHand)
    (paid : ledger.payBatch = some next) (le : onHand ≤ less + ledger.batchSize.count) :
    next.Covers less := by
  rcases of_payBatch paid with ⟨whole, rfl⟩ | ⟨bounded, asked, rfl⟩
  · rcases covers with boundless | ⟨bounded, _⟩
    · exact Or.inl boundless
    · exact absurd whole bounded
  · rcases covers with boundless | ⟨_, enough⟩
    · exact Or.inl boundless
    · have cap := ledger.requested.count_le
      rw [ne_eq, Amount.ext_iff, Amount.count_zero] at asked
      refine Or.inr ⟨?_, ?_⟩
      · rw [ne_eq, Amount.eq_unbounded_iff, Amount.count_sub, Amount.count_one]
        omega
      · simp only [Amount.count_sub, Amount.count_one, Nat.sub_mul, Nat.one_mul]
        omega

/-- The demand suffices for some items, where each unit stands for a batch of the greatest size. -/
def Absorbs (ledger : Ledger) (items : Nat) : Prop :=
  ledger.requested = .unbounded ∨ items ≤ ledger.requested.count * ledger.batchSize.count

theorem Absorbs.mono {items fewer : Nat} (absorbs : ledger.Absorbs items) (le : fewer ≤ items) :
    ledger.Absorbs fewer :=
  absorbs.imp_right le.trans

theorem Absorbs.ask {items : Nat} (absorbs : ledger.Absorbs items) (batches : Amount) :
    (ledger.ask batches).Absorbs items := by
  have cap := ledger.requested.count_le
  by_cases whole : (ledger.ask batches).requested = .unbounded
  · exact Or.inl whole
  · have added : (ledger.ask batches).requested.count =
        min (ledger.requested.count + batches.count) (2 ^ 64 - 1) := Amount.count_add _ _
    rw [Amount.eq_unbounded_iff] at whole
    rcases absorbs with boundless | enough
    · rw [Amount.eq_unbounded_iff] at boundless
      omega
    · have grows : ledger.requested.count ≤ (ledger.ask batches).requested.count := by omega
      exact Or.inr (enough.trans (Nat.mul_le_mul_right _ grows))

theorem Absorbs.claim {items : Nat} {credit : Amount} (absorbs : ledger.Absorbs items)
    (short : ledger.topUp = some (credit, next)) : next.Absorbs items := by
  obtain ⟨_, _, _, rfl, _⟩ := of_topUp short
  exact absorbs

theorem Absorbs.receive {items : Nat} (absorbs : ledger.Absorbs items)
    (received : ledger.receiveItem = some next) : next.Absorbs items := by
  rcases of_receiveItem received with ⟨_, rfl⟩ | ⟨_, _, rfl⟩ <;> exact absorbs

/-- A batch that is paid frees what its unit of demand stood for. -/
theorem Absorbs.pay {items fewer : Nat} (absorbs : ledger.Absorbs items)
    (paid : ledger.payBatch = some next) (le : fewer + ledger.batchSize.count ≤ items) :
    next.Absorbs fewer := by
  rcases of_payBatch paid with ⟨whole, rfl⟩ | ⟨bounded, asked, rfl⟩
  · exact Or.inl whole
  · rcases absorbs with whole | enough
    · exact absurd whole bounded
    · refine Or.inr ?_
      simp only [Amount.count_sub, Amount.count_one, Nat.sub_mul, Nat.one_mul]
      omega

/-- Where there are items to absorb, there is demand for a batch of the greatest size. -/
theorem Absorbs.batch {items : Nat} (absorbs : ledger.Absorbs items) (some : 0 < items) :
    ledger.Absorbs ledger.batchSize.count := by
  refine absorbs.imp_right fun enough => Nat.le_mul_of_pos_left _ ?_
  by_contra nothing
  rw [Nat.eq_zero_of_not_pos nothing, Nat.zero_mul] at enough
  omega

/-- Where there are items to absorb, a batch finds demand. -/
theorem Absorbs.payBatch_ne_none {items : Nat} (absorbs : ledger.Absorbs items)
    (some : 0 < items) : ledger.payBatch ≠ none := by
  rw [payBatch]
  rcases absorbs with whole | enough
  · rw [if_pos whole]
    exact nofun
  · split
    · exact nofun
    · rw [if_neg]
      · exact nofun
      · intro nothing
        rw [nothing, Amount.count_zero, Nat.zero_mul] at enough
        exact absurd some (Nat.not_lt_of_le enough)

end Ledger

namespace Pipeline

/-! ## How batches move -/

/-- How many batches wait for the timer. -/
def handOffs (agenda : List (Task α)) : Nat :=
  agenda.countP Task.isHandingOff

theorem handOffs_append (upper lower : List (Task α)) :
    handOffs (upper ++ lower) = handOffs upper + handOffs lower :=
  List.countP_append

theorem handOffs_cons (task : Task α) (agenda : List (Task α)) :
    handOffs (task :: agenda) = handOffs [task] + handOffs agenda :=
  handOffs_append [task] agenda

/-- While the queue is worked off no batch waits. -/
theorem InOrder.handOffs_eq {stage : Stage α} {task : Task α} {agenda : List (Task α)}
    (order : InOrder stage (task :: agenda)) (works : task.isWorkOff = true) :
    handOffs (task :: agenda) = 0 := by
  have outer := (List.pairwise_cons.mp order.beneath).1
  rw [handOffs, List.countP_eq_zero, List.forall_mem_cons]
  constructor
  · cases task <;> first | exact Bool.false_ne_true | cases works
  · intro task member
    simp [Task.isHandingOff_of_isOuter (outer task member works)]

/-- What a task does to the demand, the open batch and the batches on their way, as long as the
stage works. -/
inductive Haul (before after : Stage α) (task : Task α) (events : List (Event α))
    (tasks : List (Task α)) : Prop where
  | ended (ended : after.status ≠ .active)
  /-- The stage is about to end with an error. -/
  | failing (fails : ∃ added ∈ tasks, added.isFailing = true)
  /-- The stage is gone. -/
  | swept (aside : task.isAside = true) (after_eq : after = cleared before) (tasks_eq : tasks = [])
  /-- The first producer subscribes, and will be asked for items. -/
  | attached (asks : ∃ added ∈ tasks, added.isFirstRequest = true)
      (ledger_eq : after.ledger = before.ledger) (batch_eq : after.batch = before.batch)
      (handOffs_eq : handOffs tasks = handOffs [task])
  | still (unfailing : task.isFailing = false)
      (settled : task.isFirstRequest = true → before.ledger.policy = .unbounded)
      (ledger_eq : after.ledger = before.ledger) (batch_eq : after.batch = before.batch)
      (producer_eq : after.producer = before.producer)
      (handOffs_eq : handOffs tasks = handOffs [task])
  /-- The consumer asks for batches, and the credit suffices or nobody can be asked for more. -/
  | asked {batches : Amount} (ledger_eq : after.ledger = before.ledger.ask batches)
      (batch_eq : after.batch = before.batch) (producer_eq : after.producer = before.producer)
      (idle : before.producer = none ∨
        (after.ledger.policy = .prefetch → after.ledger.topUp = none))
      (handOffs_eq : handOffs tasks = handOffs [task])
  | claimed {batches credit : Amount}
      (short : (before.ledger.ask batches).topUp = some (credit, after.ledger))
      (batch_eq : after.batch = before.batch) (handOffs_eq : handOffs tasks = handOffs [task])
  /-- An item joins the open batch. -/
  | taken {item : α} (works : task.isWorkOff = true)
      (handled : events.filterMap Event.handled? = [.item item])
      (received : before.ledger.receiveItem = some after.ledger)
      (batch_eq : after.batch = before.batch ++ [item]) (handOffs_eq : handOffs tasks = 0)
      (producer_eq : after.producer = before.producer)
  /-- An item fills the open batch, which leaves the stage. -/
  | filled {item : α} (works : task.isWorkOff = true)
      (handled : events.filterMap Event.handled? = [.item item])
      (received : before.ledger.receiveItem = some after.ledger)
      (full : before.config.maxSize.count ≤ before.batch.length + 1)
      (batch_eq : after.batch = []) (handOffs_eq : handOffs tasks = 1)
      (producer_eq : after.producer = before.producer)
  /-- The open batch leaves the stage when its time span is over. -/
  | closed {generation : UInt64} (works : task.isWorkOff = true)
      (handled : events.filterMap Event.handled? = [.tick generation])
      (ledger_eq : after.ledger = before.ledger) (some : before.batch ≠ [])
      (batch_eq : after.batch = []) (handOffs_eq : handOffs tasks = 1)
      (producer_eq : after.producer = before.producer)
  /-- A batch that waited for the timer is delivered. -/
  | paid (waited : handOffs [task] = 1) (paid : before.ledger.payBatch = some after.ledger)
      (batch_eq : after.batch = before.batch) (handOffs_eq : handOffs tasks = 0)
      (producer_eq : after.producer = before.producer)
  /-- The open batch is delivered as the last one. -/
  | paidRest (works : task.isWorkOff = true)
      (paid : before.ledger.payBatch = some after.ledger) (batch_eq : after.batch = [])
      (closes : .finish ∈ tasks) (handOffs_eq : handOffs tasks = 0)
      (producer_eq : after.producer = before.producer)

section Step

variable {pipeline : Pipeline α} {task : Task α} {stage : Stage α} {timer : Timer UInt64}
  {events : List (Event α)} {tasks : List (Task α)}

theorem handOffs_of_isFree (free : ∀ task ∈ tasks, task.isFree = true) : handOffs tasks = 0 :=
  countP_of_isFree Task.isHandingOff_of_isFree free

theorem isFailing_failureTasks {hook : DiscardHook} {items : List α} {error : StreamError} :
    ∃ task ∈ failureTasks hook items error, task.isFailing = true :=
  ⟨.endWith error .stage, List.mem_append_right _ (List.mem_singleton.mpr rfl), rfl⟩

/-- Working a signal off moves demand and batches in one of the ways of a haul. -/
theorem Dispatch.haul {hook : DiscardHook} {before next : Stage α} {clock : Timer UInt64}
    {missed : Nat} {signal : Signal α} {rest : List (Signal α)}
    (dispatch : Dispatch hook { before with signals := rest } timer signal next clock events tasks)
    (noticed : signal = .cancelled → before.status ≠ .active) :
    Haul before next (.workOff missed) (.handled signal :: events)
      (tasks ++ [Task.workOff missed]) := by
  have silent : (Event.handled signal :: events).filterMap Event.handled? = [signal] := by
    rw [List.filterMap_cons,
      filterMap_eq_nil_of_isAside Event.handled?_of_isAside dispatch.aside]
    rfl
  have same : handOffs (tasks ++ [Task.workOff missed]) = handOffs tasks := handOffs_append _ _
  have still : next.ledger = before.ledger → next.batch = before.batch → handOffs tasks = 0 →
      Haul before next (.workOff missed) (.handled signal :: events)
        (tasks ++ [Task.workOff missed]) := fun ledger_eq batch_eq none =>
    .still rfl nofun ledger_eq batch_eq dispatch.producer_eq (same.trans none)
  cases dispatch with
  | subscribedAgain idle => exact still rfl rfl rfl
  | subscribed active unset => exact still rfl rfl rfl
  | itemLate ended => exact .ended ended
  | itemUnrequested active unrequested => exact .failing ⟨_, List.mem_cons_of_mem _
      List.mem_cons_self, rfl⟩
  | itemTaken active received room => exact .taken rfl silent received rfl same rfl
  | itemLast active received full => exact .filled rfl silent received full rfl same rfl
  | tickLate ended => exact .ended ended
  | tickStale active stale => exact still rfl rfl rfl
  | tickEmpty active empty => exact still rfl rfl rfl
  | tickClosing active filled => exact .closed rfl silent rfl filled rfl same rfl
  | completedLate ended => exact .ended ended
  | completedEmpty active empty => exact still rfl rfl rfl
  | completed active filled delivery =>
      cases delivery with
      | late ended => exact absurd active ended
      | unpaid _ unpaid =>
          obtain ⟨task, member, fails⟩ := isFailing_failureTasks
          exact .failing ⟨task, List.mem_append_left _ member, fails⟩
      | paid _ paid =>
          exact .paidRest rfl paid rfl (List.mem_cons_of_mem _ List.mem_cons_self) rfl rfl
  | failed failure =>
      cases failure with
      | late ended => exact .ended ended
      | ended active => exact .ended nofun
  | cancelledEmpty empty => exact .ended (noticed rfl)
  | cancelled filled => exact .ended (noticed rfl)

/-- Every task moves demand and batches in one of the ways of a haul. -/
theorem Effect.haul (effect : Effect pipeline task stage timer events tasks)
    (noticed : .cancelled ∈ pipeline.stage.signals → pipeline.stage.status ≠ .active) :
    Haul pipeline.stage stage task events tasks := by
  cases effect with
  | free aside inert allFree =>
      have free := Task.isFree_of_isAside aside
      refine .still ?_ ?_ rfl rfl rfl ?_
      · cases task <;> first | rfl | cases aside
      · intro asks
        rw [Task.isFirstRequest_of_isFree free] at asks
        cases asks
      · rw [handOffs_of_isFree allFree, handOffs_of_isFree (List.forall_mem_singleton.mpr free)]
  | swept aside gone => exact .swept aside rfl rfl
  | timerClosed =>
      refine .still rfl nofun rfl rfl rfl (handOffs_of_isFree fun task member => ?_)
      obtain ⟨line, _, rfl⟩ := List.mem_map.mp member
      rfl
  | called actions =>
      exact .still rfl nofun rfl rfl rfl (handOffs_of_isFree (isFree_acts actions))
  | enteredSignal announces => exact .still rfl nofun rfl rfl rfl (countP_wakeTasks fun _ => rfl)
  | announced => exact .still rfl nofun rfl rfl rfl (countP_wakeTasks fun _ => rfl)
  | @attached producer first => exact .attached ⟨.firstRequest producer, by simp, rfl⟩ rfl rfl rfl
  | requested some unmoved =>
      rcases unmoved with ended | unattached | idle
      · exact .ended ended
      · exact .asked rfl rfl rfl (Or.inl unattached) rfl
      · exact .asked rfl rfl rfl (Or.inr fun _ => idle) rfl
  | requestedMore some active attached short => exact .claimed short rfl rfl
  | cancelled active => exact .ended nofun
  | firstRequestIdle unmoved =>
      rcases unmoved with ended | idle
      · exact .ended ended
      · refine .asked (Ledger.ask_zero _).symm rfl rfl (Or.inr fun prefetch => ?_) rfl
        rw [Ledger.firstRequest, prefetch] at idle
        exact idle
  | firstRequest active short =>
      rcases Ledger.of_firstRequest short with ⟨policy, rfl, rfl⟩ | claims
      · exact .still rfl (fun _ => policy) rfl rfl rfl rfl
      · rw [← Ledger.ask_zero pipeline.stage.ledger] at claims
        exact .claimed claims rfl rfl
  | handled first dispatch =>
      refine dispatch.haul fun cancels => noticed ?_
      rw [first, cancels]
      exact List.mem_cons_self
  | alarmSet => exact .still rfl nofun rfl rfl rfl rfl
  | acceptedHandOff delivery =>
      cases delivery with
      | late ended => exact .ended ended
      | unpaid active unpaid => exact .failing isFailing_failureTasks
      | paid active paid => exact .paid rfl paid rfl (countP_closingTasks rfl) rfl
  | refused => exact .failing ⟨_, List.mem_singleton_self _, rfl⟩
  | refusedHandOff => exact .failing isFailing_failureTasks
  | failed failure =>
      cases failure with
      | late ended => exact .ended ended
      | ended active => exact .ended nofun
  | reportedStage =>
      refine .still rfl nofun rfl rfl rfl ?_
      rw [handOffs_append, handOffs, countP_cancelProducerTasks _ fun _ => rfl]
      rfl
  | finished active => exact .ended nofun
  | finishedLate ended => exact .ended ended
  | _ => exact .still rfl nofun rfl rfl rfl rfl

end Step

theorem Sized.maxSize_ne_zero {config : Config} {stage : Stage α} {agenda : List (Task α)}
    (sized : Sized config stage agenda) : config.maxSize ≠ 0 := by
  have room := Nat.zero_lt_of_lt sized.room
  intro zero
  rw [zero] at room
  exact absurd room (Nat.lt_irrefl _)

/-! ## The consumer is never starved -/

/-- Whether a task is about to end the stage with an error or to ask for items at first. -/
def isPending (task : Task α) : Bool :=
  task.isFailing || task.isFirstRequest

theorem isPending_of_isFree {task : Task α} (free : task.isFree = true) :
    isPending task = false := by
  cases task <;> first | rfl | cases free

/-- While the stage works, the credit, the open batch and the batches on their way fill what the
consumer asked for, unless the stage is about to fail or to ask for items at first. -/
def Supplied (stage : Stage α) (agenda : List (Task α)) : Prop :=
  stage.status = .active → stage.producer.isSome = true →
    (∃ task ∈ agenda, isPending task = true) ∨
      stage.ledger.Covers
        (stage.batch.length + stage.ledger.batchSize.count * handOffs agenda)

section Step

variable {config : Config} {pipeline : Pipeline α} {task : Task α} {stage : Stage α}
  {timer : Timer UInt64} {events : List (Event α)} {tasks : List (Task α)}

theorem Supplied.step (supplied : Supplied pipeline.stage (task :: pipeline.agenda))
    (prefetch : pipeline.stage.ledger.terms = (.prefetch, config.maxSize))
    (steady : Steady config pipeline.stage (task :: pipeline.agenda))
    (effect : Effect pipeline task stage timer events tasks)
    (same : task.isAside = true → stage = pipeline.stage) :
    Supplied stage (tasks ++ pipeline.agenda) := by
  intro active attached
  have policy : pipeline.stage.ledger.policy = .prefetch := congrArg Prod.fst prefetch
  have size_eq : pipeline.stage.ledger.batchSize = config.maxSize := congrArg Prod.snd prefetch
  have later_eq : stage.ledger.batchSize = config.maxSize := effect.batchSize_eq.trans size_eq
  have works := effect.active_of_active active
  have room := steady.sized.room
  have sized : stage.ledger.batchSize ≠ 0 := later_eq ▸ steady.sized.maxSize_ne_zero
  rw [handOffs_append, later_eq]
  -- What was pending beneath the task still is, so only a task that was itself pending matters.
  have before : pipeline.stage.producer.isSome = true → isPending task = false →
      (∃ task ∈ pipeline.agenda, isPending task = true) ∨ pipeline.stage.ledger.Covers
        (pipeline.stage.batch.length + config.maxSize.count *
          (handOffs [task] + handOffs pipeline.agenda)) := by
    intro attached settled
    rw [← handOffs_cons, ← size_eq]
    refine (supplied works attached).imp_left ?_
    rintro ⟨pending, member, waits⟩
    rcases List.mem_cons.mp member with rfl | member
    · rw [settled] at waits
      cases waits
    · exact ⟨pending, member, waits⟩
  have stays : (∃ task ∈ pipeline.agenda, isPending task = true) →
      ∃ task ∈ tasks ++ pipeline.agenda, isPending task = true := by
    rintro ⟨pending, member, waits⟩
    exact ⟨pending, List.mem_append_right _ member, waits⟩
  have unsettled : task.isWorkOff = true → isPending task = false := by
    intro works
    cases task <;> first | rfl | cases works
  have outer : task.isWorkOff = true → handOffs [task] + handOffs pipeline.agenda = 0 := by
    rw [← handOffs_cons]
    exact steady.order.handOffs_eq
  cases effect.haul fun waits => steady.noticed.ended (Or.inl waits) with
  | ended ended => exact absurd active ended
  | failing fails =>
      obtain ⟨added, member, fails⟩ := fails
      exact Or.inl ⟨added, List.mem_append_left _ member, by rw [isPending, fails]; rfl⟩
  | swept aside after_eq tasks_eq =>
      have settled : isPending task = false := by
        cases task <;> first | rfl | cases aside
      have empty : handOffs [task] = 0 := by
        cases task <;> first | rfl | cases aside
      rw [same aside] at attached ⊢
      rw [tasks_eq, show handOffs ([] : List (Task α)) = 0 from rfl, ← empty]
      exact before attached settled
  | attached asks ledger_eq batch_eq handOffs_eq =>
      obtain ⟨added, member, asks⟩ := asks
      exact Or.inl ⟨added, List.mem_append_left _ member, by
        rw [isPending, asks, Bool.or_true]⟩
  | still unfailing settled ledger_eq batch_eq producer_eq handOffs_eq =>
      have calm : isPending task = false := by
        rw [isPending, unfailing, Bool.false_or, Bool.eq_false_iff]
        exact fun asks => nomatch policy.symm.trans (settled asks)
      rw [ledger_eq, batch_eq, handOffs_eq]
      exact (before (producer_eq ▸ attached) calm).imp_left stays
  | asked ledger_eq batch_eq producer_eq idle handOffs_eq =>
      rcases idle with unattached | idle
      · rw [producer_eq, unattached] at attached
        cases attached
      · have prefetches := effect.policy_eq.trans policy
        exact Or.inr (Ledger.covers_of_idle prefetches sized (idle prefetches))
  | @claimed batches credit short batch_eq handOffs_eq =>
      refine Or.inr (Ledger.covers_of_topUp ?_ short)
      have kept : stage.ledger.batchSize = (pipeline.stage.ledger.ask batches).batchSize :=
        congrArg Prod.snd (Ledger.terms_topUp short)
      rw [← kept]
      exact sized
  | taken works handled received batch_eq handOffs_eq producer_eq =>
      refine (before (producer_eq ▸ attached) (unsettled works)).imp stays fun covers => ?_
      rw [outer works] at covers
      refine (covers.receive received).mono ?_
      rw [batch_eq, List.length_append, List.length_singleton]
      omega
  | filled works handled received full batch_eq handOffs_eq producer_eq =>
      refine (before (producer_eq ▸ attached) (unsettled works)).imp stays fun covers => ?_
      rw [outer works] at covers
      refine (covers.receive received).mono ?_
      rw [batch_eq, handOffs_eq, List.length_nil, Nat.mul_add, Nat.mul_one]
      omega
  | closed works handled ledger_eq some batch_eq handOffs_eq producer_eq =>
      refine (before (producer_eq ▸ attached) (unsettled works)).imp stays fun covers => ?_
      rw [outer works] at covers
      rw [ledger_eq]
      refine covers.mono ?_
      rw [batch_eq, handOffs_eq, List.length_nil, Nat.mul_add, Nat.mul_one]
      omega
  | paid waited paid batch_eq handOffs_eq producer_eq =>
      have settled : isPending task = false := by
        cases task <;> first | rfl | cases waited
      refine (before (producer_eq ▸ attached) settled).imp stays fun covers => ?_
      refine covers.pay paid ?_
      rw [batch_eq, handOffs_eq, waited, size_eq, Nat.mul_add, Nat.mul_one, Nat.zero_add]
      omega
  | paidRest works paid batch_eq closes handOffs_eq producer_eq =>
      refine (before (producer_eq ▸ attached) (unsettled works)).imp stays fun covers => ?_
      rw [outer works] at covers
      refine covers.pay paid ?_
      rw [batch_eq, size_eq, List.length_nil]
      omega

end Step

section Reachable

variable {config : Config} {setup : Setup α} {pipeline : Pipeline α}

theorem Reachable.supplied (reachable : Reachable config setup pipeline)
    (prefetch : config.policy = .prefetch) (held : pipeline.alive = true) :
    Supplied pipeline.stage pipeline.agenda := by
  have both := reachable.preserve_of_held held (fun stage agenda _ =>
    stage.ledger.terms = (.prefetch, config.maxSize) ∧ Supplied stage agenda) ?_ ?_ ?_
  · exact both.2
  · intro lines
    exact ⟨congrArg (·, config.maxSize) prefetch, fun _ attached => nomatch attached⟩
  · rintro stage events action ⟨terms_eq, supplied⟩
    refine ⟨terms_eq, fun active attached => ?_⟩
    rcases supplied active attached with ⟨_, impossible, _⟩ | covers
    · cases impossible
    · exact Or.inr covers
  · rintro pipeline task stage timer events tasks steady effect same ⟨terms_eq, supplied⟩
    exact ⟨effect.terms_eq.trans terms_eq, supplied.step terms_eq steady effect same⟩

/-- Where no call of the stage is under way, a stage that works and has a producer has asked it for
everything, or for as many items as fill, together with the open batch, every batch that the
consumer asked for. -/
theorem Reachable.neverStarved (reachable : Reachable config setup pipeline)
    (prefetch : config.policy = .prefetch) (held : pipeline.alive = true)
    (idle : pipeline.isIdle = true) (attached : pipeline.stage.producer.isSome = true)
    (active : pipeline.stage.status = .active) :
    pipeline.stage.ledger.outstanding = .unbounded ∨
      (pipeline.stage.ledger.requested ≠ .unbounded ∧
        pipeline.stage.ledger.requested.count * config.maxSize.count ≤
          pipeline.stage.ledger.outstanding.count + pipeline.stage.batch.length ∧
        pipeline.stage.ledger.requested.count ≤
          (pipeline.stage.ledger.outstanding.count + pipeline.stage.batch.length) /
            config.maxSize.count) := by
  have free := List.all_eq_true.mp idle
  have size_eq := reachable.batchSize_eq
  rcases reachable.supplied prefetch held active attached with ⟨task, member, waits⟩ | covers
  · rw [isPending_of_isFree (free task member)] at waits
    cases waits
  · rw [Ledger.Covers, handOffs_of_isFree free, size_eq, Nat.mul_zero, Nat.add_zero] at covers
    have positive := Nat.zero_lt_of_lt reachable.steady.sized.room
    refine covers.imp_right fun ⟨bounded, enough⟩ => ⟨bounded, enough, ?_⟩
    exact (Nat.le_div_iff_mul_le positive).mpr enough

end Reachable

/-- The time span of a batch ends with one item in it. One of the two batches that the consumer
asked for is gone with it, and the rest of the credit is more than enough for the other. -/
theorem neverStarved_of_partial_batch :
    ∃ pipeline : Pipeline Nat,
      Reachable ⟨3, .ofMillis 10, .prefetch⟩ { reactions := RecordingConsumer.reactions ⟨2, none⟩ }
        pipeline ∧
      pipeline.delivered = [[1]] ∧ pipeline.stage.ledger.requested.count = 1 ∧
      (pipeline.stage.ledger.outstanding = .unbounded ∨
        (pipeline.stage.ledger.requested ≠ .unbounded ∧
          pipeline.stage.ledger.requested.count * (3 : Amount).count ≤
            pipeline.stage.ledger.outstanding.count + pipeline.stage.batch.length ∧
          pipeline.stage.ledger.requested.count ≤
            (pipeline.stage.ledger.outstanding.count + pipeline.stage.batch.length) /
              (3 : Amount).count)) := by
  have start : @Reachable Nat ⟨3, .ofMillis 10, .prefetch⟩
      { reactions := RecordingConsumer.reactions ⟨2, none⟩ } _ := Reachable.of_opening rfl
  have subscribed := start.act rfl .subscribe 60
  have pushed := subscribed.act rfl (.next [1]) 60
  have ticked := pushed.act rfl (.advance (.ofMillis 10)) 60
  exact ⟨_, ticked, rfl, rfl, Reachable.neverStarved ticked rfl rfl rfl rfl rfl⟩

/-! ## What a claim leaves out of account -/

/-- How many items were worked off in some events. -/
def handledItems (events : List (Event α)) : Nat :=
  ((events.filterMap Event.handled?).filterMap Signal.item?).length

theorem handledItems_append (earlier later : List (Event α)) :
    handledItems (earlier ++ later) = handledItems earlier + handledItems later := by
  simp [handledItems]

theorem handledItems_of_item {events : List (Event α)} {item : α}
    (handled : events.filterMap Event.handled? = [.item item]) : handledItems events = 1 := by
  rw [handledItems, handled]
  rfl

/-- The producer uses up a credit: no more items than that are worked off, and no time span ends
before all of them are. -/
structure Delivering (credit : Nat) (events : List (Event α)) : Prop where
  within : handledItems events ≤ credit
  punctual : ∀ earlier generation later, events = earlier ++ .handled (.tick generation) :: later →
    credit ≤ handledItems earlier

theorem Delivering.of_append {credit : Nat} {earlier later : List (Event α)}
    (delivering : Delivering credit (earlier ++ later)) : Delivering credit earlier := by
  constructor
  · have within := delivering.within
    rw [handledItems_append] at within
    omega
  · rintro front generation back rfl
    exact delivering.punctual front generation (back ++ later) (List.append_assoc _ _ _)

/-- While the stage works, its demand suffices for the items to come, the open batch and the batches
on their way, unless it is about to end. -/
def Absorbing (toCome : Nat) (stage : Stage α) (agenda : List (Task α)) : Prop :=
  stage.status = .active →
    (∃ task ∈ agenda, task.isFailing = true) ∨ (.finish ∈ agenda ∧ handOffs agenda = 0) ∨
      stage.ledger.Absorbs
        (toCome + stage.batch.length + stage.ledger.batchSize.count * handOffs agenda)

section Step

variable {config : Config} {pipeline : Pipeline α} {task : Task α} {stage : Stage α}
  {timer : Timer UInt64} {events more : List (Event α)} {tasks : List (Task α)}

/-- A task that ends the stage leaves none that works. -/
theorem Effect.ends (effect : Effect pipeline task stage timer events tasks)
    (ending : task.isFailing = true ∨ task = .finish) : stage.status ≠ .active := by
  have endless : task.isAside = true → ¬(task.isFailing = true ∨ task = .finish) := by
    intro aside
    cases task <;> first | exact absurd aside Bool.false_ne_true | simp [Task.isFailing]
  cases effect with
  | free aside inert allFree => exact absurd ending (endless aside)
  | swept aside gone => exact absurd ending (endless aside)
  | failed failure =>
      cases failure with
      | late ended => exact ended
      | ended active => rintro ⟨⟩
  | finished active => rintro ⟨⟩
  | finishedLate ended => exact ended
  | _ => rcases ending with impossible | impossible <;> cases impossible

/-- A tick is worked off only when all of the credit is used up. -/
theorem Delivering.spent {credit : Nat} {generation : UInt64}
    (delivering : Delivering credit (more ++ events))
    (handled : events.filterMap Event.handled? = [.tick generation]) :
    credit ≤ handledItems more := by
  obtain ⟨front, event, back, rfl, silent, ticks, _⟩ := List.filterMap_eq_cons_iff.mp handled
  have quiet : handledItems front = 0 := by
    rw [handledItems, List.filterMap_eq_nil_iff.mpr silent]
    rfl
  have event_eq : event = .handled (.tick generation) := by
    cases event <;> cases ticks
    rfl
  have used := delivering.punctual (more ++ front) generation back
    (by rw [event_eq, List.append_assoc])
  rw [handledItems_append, quiet] at used
  exact used

/-- While the queue is worked off the stage is not about to end. -/
theorem Absorbing.of_workOff {toCome : Nat} {agenda : List (Task α)}
    (absorbing : Absorbing toCome stage (task :: agenda)) (order : InOrder stage (task :: agenda))
    (active : stage.status = .active) (works : task.isWorkOff = true) :
    handOffs agenda = 0 ∧ stage.ledger.Absorbs (toCome + stage.batch.length) := by
  have outer := (List.pairwise_cons.mp order.beneath).1
  have none := order.handOffs_eq works
  have before := absorbing active
  rw [none, Nat.mul_zero, Nat.add_zero] at before
  rw [handOffs_cons] at none
  refine ⟨by omega, ?_⟩
  rcases before with ⟨failing, member, fails⟩ | ⟨member, _⟩ | enough
  · rcases List.mem_cons.mp member with rfl | member
    · cases failing <;> first | exact absurd fails Bool.false_ne_true | cases works
    · have isOuter := outer failing member works
      cases failing <;> first | exact absurd fails Bool.false_ne_true | cases isOuter
  · rcases List.mem_cons.mp member with rfl | member
    · cases works
    · cases outer _ member works
  · exact enough

/-- A task that goes on passes on the batches on their way and the demand. -/
theorem Absorbing.pass {next : Stage α} {toCome less : Nat} {agenda : List (Task α)}
    (absorbing : Absorbing toCome stage (task :: agenda)) (active : stage.status = .active)
    (goesOn : ¬(task.isFailing = true ∨ task = .finish)) (le : less ≤ toCome)
    (size_eq : next.ledger.batchSize = stage.ledger.batchSize)
    (fewer : handOffs tasks ≤ handOffs [task]) (smaller : next.batch.length ≤ stage.batch.length)
    (absorbs : ∀ {items}, stage.ledger.Absorbs items → next.ledger.Absorbs items) :
    Absorbing less next (tasks ++ agenda) := by
  intro _
  have before := absorbing active
  rw [handOffs_cons] at before
  rw [handOffs_append, size_eq]
  rcases before with ⟨failing, member, fails⟩ | ⟨member, none⟩ | enough
  · rcases List.mem_cons.mp member with rfl | member
    · exact absurd (Or.inl fails) goesOn
    · exact Or.inl ⟨failing, List.mem_append_right _ member, fails⟩
  · rcases List.mem_cons.mp member with same | member
    · exact absurd (Or.inr same.symm) goesOn
    · exact Or.inr (Or.inl ⟨List.mem_append_right _ member, by omega⟩)
  · refine Or.inr (Or.inr ((absorbs enough).mono ?_))
    have scaled := Nat.mul_le_mul_left stage.ledger.batchSize.count
      (Nat.add_le_add_right fewer (handOffs agenda))
    omega

theorem Absorbing.step {credit : Nat}
    (absorbing : Absorbing (credit - handledItems more) pipeline.stage (task :: pipeline.agenda))
    (size_eq : pipeline.stage.ledger.batchSize = config.maxSize)
    (steady : Steady config pipeline.stage (task :: pipeline.agenda))
    (effect : Effect pipeline task stage timer events tasks)
    (delivering : Delivering credit (more ++ events)) :
    Absorbing (credit - handledItems (more ++ events)) stage (tasks ++ pipeline.agenda) := by
  intro active
  have later_eq := effect.batchSize_eq
  have works := effect.active_of_active active
  have goesOn : ¬(task.isFailing = true ∨ task = .finish) :=
    fun ending => effect.ends ending active
  have within := delivering.within
  rw [handledItems_append] at within
  have less : credit - handledItems (more ++ events) ≤ credit - handledItems more := by
    rw [handledItems_append]
    omega
  have worked := absorbing.of_workOff steady.order works
  cases effect.haul fun waits => steady.noticed.ended (Or.inl waits) with
  | ended ended => exact absurd active ended
  | failing fails =>
      obtain ⟨added, member, fails⟩ := fails
      exact Or.inl ⟨added, List.mem_append_left _ member, fails⟩
  | swept aside after_eq tasks_eq =>
      refine absorbing.pass works goesOn less later_eq ?_ ?_ ?_ active
      · rw [tasks_eq]
        exact Nat.zero_le _
      · rw [after_eq]
        exact Nat.zero_le _
      · rw [after_eq]
        exact id
  | attached asks ledger_eq batch_eq handOffs_eq =>
      refine absorbing.pass works goesOn less later_eq handOffs_eq.le ?_ ?_ active
      · rw [batch_eq]
      · rw [ledger_eq]
        exact id
  | still unfailing settled ledger_eq batch_eq producer_eq handOffs_eq =>
      refine absorbing.pass works goesOn less later_eq handOffs_eq.le ?_ ?_ active
      · rw [batch_eq]
      · rw [ledger_eq]
        exact id
  | @asked batches ledger_eq batch_eq producer_eq idle handOffs_eq =>
      refine absorbing.pass works goesOn less later_eq handOffs_eq.le ?_ (fun absorbs => ?_) active
      · rw [batch_eq]
      · rw [ledger_eq]
        exact absorbs.ask batches
  | @claimed batches claimed short batch_eq handOffs_eq =>
      refine absorbing.pass works goesOn less later_eq handOffs_eq.le ?_ (fun absorbs => ?_) active
      · rw [batch_eq]
      · exact (absorbs.ask batches).claim short
  | taken working handled received batch_eq handOffs_eq producer_eq =>
      obtain ⟨none, absorbs⟩ := worked working
      have one := handledItems_of_item handled
      refine Or.inr (Or.inr ((absorbs.receive received).mono ?_))
      rw [handledItems_append, handOffs_append, none, handOffs_eq, batch_eq, List.length_append,
        List.length_singleton]
      omega
  | filled working handled received full batch_eq handOffs_eq producer_eq =>
      obtain ⟨none, absorbs⟩ := worked working
      have one := handledItems_of_item handled
      rw [steady.sized.config_eq] at full
      refine Or.inr (Or.inr ((absorbs.receive received).mono ?_))
      rw [handledItems_append, handOffs_append, none, handOffs_eq, batch_eq, later_eq, size_eq,
        List.length_nil]
      omega
  | closed working handled ledger_eq some batch_eq handOffs_eq producer_eq =>
      obtain ⟨none, absorbs⟩ := worked working
      have spent := delivering.spent handled
      have positive := List.length_pos_iff.mpr some
      refine Or.inr (Or.inr ?_)
      rw [ledger_eq]
      refine (absorbs.batch (by omega)).mono ?_
      rw [handOffs_append, none, handOffs_eq, batch_eq, List.length_nil]
      omega
  | paid waited paid batch_eq handOffs_eq producer_eq =>
      have before := absorbing works
      rw [handOffs_cons, waited] at before
      rcases before with ⟨failing, member, fails⟩ | ⟨_, none⟩ | enough
      · rcases List.mem_cons.mp member with rfl | member
        · exact absurd (Or.inl fails) goesOn
        · exact Or.inl ⟨failing, List.mem_append_right _ member, fails⟩
      · omega
      · refine Or.inr (Or.inr (enough.pay paid ?_))
        rw [handOffs_append, handOffs_eq, batch_eq, later_eq]
        simp only [Nat.zero_add, Nat.mul_add, Nat.mul_one]
        omega
  | paidRest working paid batch_eq closes handOffs_eq producer_eq =>
      obtain ⟨none, _⟩ := worked working
      refine Or.inr (Or.inl ⟨List.mem_append_left _ closes, ?_⟩)
      rw [handOffs_append, handOffs_eq, none]

end Step

section Run

variable {config : Config} {first last : Pipeline α} {credit : Nat} {more : List (Event α)}

/-- As long as the credit is being used up, the demand absorbs what is still to come. -/
theorem Later.absorbing (later : Later first last)
    (steady : Steady config first.stage first.agenda)
    (size_eq : first.stage.ledger.batchSize = config.maxSize)
    (absorbing : Absorbing credit first.stage first.agenda)
    (chronicle_eq : last.chronicle = first.chronicle ++ more)
    (delivering : Delivering credit more) :
    Steady config last.stage last.agenda ∧
      Absorbing (credit - handledItems more) last.stage last.agenda := by
  have all := later.preserve (fun stage agenda events =>
    Steady config stage agenda ∧ stage.ledger.batchSize = config.maxSize ∧
      ∃ since, events = first.chronicle ++ since ∧
        (Delivering credit since → Absorbing (credit - handledItems since) stage agenda))
    ⟨steady, size_eq, [], (List.append_nil _).symm, fun _ => absorbing⟩ ?_ ?_
  · obtain ⟨still, _, since, since_eq, absorbs⟩ := all
    rw [chronicle_eq] at since_eq
    cases List.append_cancel_left since_eq
    exact ⟨still, absorbs delivering⟩
  · rintro stage events action ⟨steady, size_eq, since, since_eq, absorbs⟩
    refine ⟨steady.begin action, size_eq, since, since_eq, fun delivering active => ?_⟩
    rcases absorbs delivering active with ⟨_, impossible, _⟩ | ⟨impossible, _⟩ | enough
    · cases impossible
    · cases impossible
    · exact Or.inr (Or.inr enough)
  · rintro pipeline task stage timer events tasks effect ⟨steady, size_eq, since, since_eq, absorbs⟩
    refine ⟨steady.step effect, effect.batchSize_eq.trans size_eq,
      since ++ events, by rw [since_eq, List.append_assoc], fun delivering => ?_⟩
    exact (absorbs delivering.of_append).step size_eq steady effect delivering

end Run

section Reachable

variable {config : Config} {setup : Setup α} {pipeline : Pipeline α}

/-- Where the demand absorbs what is under way, no batch is about to find none. -/
theorem Absorbing.not_finds {toCome : Nat}
    (absorbing : Absorbing toCome pipeline.stage pipeline.agenda)
    (size_eq : pipeline.stage.ledger.batchSize = config.maxSize)
    (steady : Steady config pipeline.stage pipeline.agenda) :
    ¬Finds pipeline .insufficientDemand := by
  rintro ⟨task, working, found⟩
  obtain ⟨others, agenda_eq⟩ := List.head?_eq_some_iff.mp working
  rw [agenda_eq] at absorbing steady
  have size := Nat.zero_lt_of_lt steady.sized.room
  generalize error_eq : StreamError.insufficientDemand = error at found
  cases found with
  | unrequested active queue unrequested => exact absurd error_eq (by decide)
  | @unpaid token handOff active unpaid =>
      rcases absorbing active with ⟨failing, member, fails⟩ | ⟨_, none⟩ | enough
      · -- The stage cannot be about to fail while it decides about a batch.
        have single := steady.single
        rw [List.countP_cons_of_pos rfl] at single
        rcases List.mem_cons.mp member with rfl | member
        · cases fails
        · have another := List.countP_pos_iff.mpr
            ⟨failing, member, Task.isPivot_of_isFailing fails⟩
          omega
      · rw [handOffs, List.countP_cons_of_pos rfl] at none
        cases none
      · refine enough.payBatch_ne_none ?_ unpaid
        rw [handOffs, List.countP_cons_of_pos rfl, size_eq, Nat.mul_add, Nat.mul_one]
        omega
  | unpaidRest active queue filled unpaid =>
      have enough := (absorbing.of_workOff steady.order active rfl).2
      have some := List.length_pos_iff.mpr filled
      exact enough.payBatch_ne_none (Nat.add_pos_right _ some) unpaid
  | refused => exact absurd error_eq (ne_timerRejected (by decide))
  | attachedTwice => exact absurd error_eq (by decide)

/-- When a request is about to be made, the credit has just been raised to the target. -/
theorem Reachable.outstanding_eq_target (reachable : Reachable config setup pipeline)
    (prefetch : config.policy = .prefetch) (asks : dueGrants pipeline.agenda ≠ []) :
    pipeline.stage.ledger.outstanding = pipeline.stage.ledger.target := by
  have both := reachable.preserve_of_steady (fun stage agenda _ =>
    stage.ledger.policy = .prefetch ∧
      (dueGrants agenda ≠ [] → stage.ledger.outstanding = stage.ledger.target)) ?_ ?_ ?_
  · exact both.2 asks
  · intro lines
    exact ⟨prefetch, fun asks => absurd rfl asks⟩
  · rintro stage events action ⟨policy, _⟩
    exact ⟨policy, fun asks => absurd rfl asks⟩
  · rintro pipeline task stage timer events tasks steady effect ⟨policy, _⟩
    refine ⟨effect.policy_eq.trans policy, ?_⟩
    have still : ∀ task ∈ pipeline.agenda, task.isPrompt = false := steady.prompt.tail
    rw [dueGrants_append still]
    have turnover := effect.turnover
    generalize dueGrants tasks = due at turnover ⊢
    generalize takenIn events = items at turnover
    cases turnover with
    | none _ => exact fun asks => absurd rfl asks
    | opened _ unbounded _ => cases policy.symm.trans unbounded
    | claimed _ short =>
        obtain ⟨_, _, _, ledger_eq, _⟩ := Ledger.of_topUp short
        rw [ledger_eq]
        exact fun _ => rfl
    | taken _ _ _ => exact fun asks => absurd rfl asks

/-- What holds when the stage asks the producer for items and the consumer wants some batches. -/
structure FitsDemand (config : Config) (pipeline : Pipeline α) : Prop where
  /-- The credit is what fills the batches asked for, as far as amounts count. -/
  outstanding_eq : pipeline.stage.ledger.outstanding.count =
    min (pipeline.stage.ledger.requested.count * config.maxSize.count) (2 ^ 64 - 1)
  outstanding_le : pipeline.stage.ledger.outstanding.count ≤
    pipeline.stage.ledger.requested.count * config.maxSize.count
  /-- What is buffered comes on top, and is less than one more batch. -/
  buffered_lt : pipeline.stage.ledger.outstanding.count + pipeline.stage.batch.length <
    (pipeline.stage.ledger.requested.count + 1) * config.maxSize.count
  /-- If nothing is buffered and no batch is on its way, the producer may use up the credit, and
  every batch of it finds demand. -/
  absorbed : pipeline.stage.batch = [] → handOffs pipeline.agenda = 0 →
    ∀ last more, Later pipeline last → last.chronicle = pipeline.chronicle ++ more →
      Delivering pipeline.stage.ledger.outstanding.count more →
        ¬Finds last .insufficientDemand ∧
          (.insufficientDemand ∈ last.errors →
            AtLarge .insufficientDemand pipeline.stage pipeline.agenda pipeline.chronicle ∨
              .error .insufficientDemand ∈ last.inboundCalls)

/-- A request of the stage raises the credit to what the demand of the consumer stands for. -/
theorem Reachable.fitsDemand (reachable : Reachable config setup pipeline)
    (prefetch : config.policy = .prefetch) {producer : Nat} {credit : Amount}
    (asks : pipeline.agenda.head? = some (.call (.request producer credit)))
    (wanted : pipeline.stage.ledger.requested ≠ 0) : FitsDemand config pipeline := by
  have steady := reachable.steady
  have size_eq := reachable.batchSize_eq
  have room := steady.sized.room
  have sized : pipeline.stage.ledger.batchSize ≠ 0 := size_eq ▸ steady.sized.maxSize_ne_zero
  have outstanding_eq : pipeline.stage.ledger.outstanding.count =
      min (pipeline.stage.ledger.requested.count * config.maxSize.count) (2 ^ 64 - 1) := by
    have due : dueGrants pipeline.agenda ≠ [] := by
      rw [dueGrants, asks]
      exact List.cons_ne_nil _ _
    rw [reachable.outstanding_eq_target prefetch due, Ledger.count_target wanted sized, size_eq]
  have outstanding_le := outstanding_eq.trans_le (Nat.min_le_left _ _)
  constructor
  case outstanding_eq => exact outstanding_eq
  case outstanding_le => exact outstanding_le
  case buffered_lt =>
    rw [Nat.add_mul, Nat.one_mul]
    omega
  case absorbed =>
    intro empty unsent last more later chronicle_eq delivering
    have absorbing : Absorbing pipeline.stage.ledger.outstanding.count pipeline.stage
        pipeline.agenda := by
      intro _
      refine Or.inr (Or.inr (Or.inr ?_))
      rw [empty, unsent, size_eq]
      exact outstanding_le
    have spared : ∀ {middle : Pipeline α}, Later pipeline middle → Later middle last →
        ¬Finds middle .insufficientDemand := by
      intro middle earlier rest
      obtain ⟨since, since_eq⟩ := earlier.exists_chronicle
      obtain ⟨back, back_eq⟩ := rest.exists_chronicle
      rw [chronicle_eq, since_eq, List.append_assoc] at back_eq
      rw [List.append_cancel_left back_eq] at delivering
      obtain ⟨still, absorbs⟩ := earlier.absorbing steady size_eq absorbing since_eq
        delivering.of_append
      obtain ⟨_, made, first⟩ := reachable
      have kept : middle.stage.ledger.batchSize = config.maxSize :=
        Reachable.batchSize_eq ⟨_, made, first.trans earlier⟩
      exact absorbs.not_finds kept still
    refine ⟨spared later .here, fun told => ?_⟩
    rcases later.exists_finds (atLarge_of_errors told) with
      start | reported | ⟨middle, earlier, rest, finds⟩
    · exact Or.inl start
    · exact Or.inr reported
    · exact absurd finds (spared earlier rest)

end Reachable

/-- The consumer asks for two batches before any item is sent. -/
theorem fitsDemand_of_first_request :
    ∃ pipeline : Pipeline Nat,
      Reachable ⟨5, .ofMillis 10, .prefetch⟩ { reactions := RecordingConsumer.reactions ⟨2, none⟩ }
        pipeline ∧
      pipeline.agenda.head? = some (.call (.request 0 10)) ∧
      pipeline.stage.ledger.requested = 2 ∧ pipeline.stage.batch = [] ∧
      handOffs pipeline.agenda = 0 ∧ FitsDemand ⟨5, .ofMillis 10, .prefetch⟩ pipeline := by
  have start : @Reachable Nat ⟨5, .ofMillis 10, .prefetch⟩
      { reactions := RecordingConsumer.reactions ⟨2, none⟩ } _ := Reachable.of_opening rfl
  have asking := start.act rfl .subscribe 5
  exact ⟨_, asking, rfl, rfl, rfl, rfl, Reachable.fitsDemand asking rfl rfl (by decide)⟩

/-- The consumer asks for a second batch when an item is buffered already. The credit and that item
are one item more than two batches hold, and when the producer has used the credit up, the last
batch finds no demand. -/
theorem outstanding_exceeds_demand :
    ∃ pipeline last : Pipeline Nat,
      Reachable ⟨2, .ofMillis 10, .prefetch⟩ { reactions := RecordingConsumer.reactions ⟨1, none⟩ }
        pipeline ∧
      pipeline.agenda.head? = some (.call (.request 0 3)) ∧
      pipeline.stage.ledger.requested = 2 ∧ pipeline.stage.ledger.outstanding = 4 ∧
      pipeline.stage.batch = [1] ∧
      ¬pipeline.stage.ledger.outstanding.count + pipeline.stage.batch.length ≤
        pipeline.stage.ledger.requested.count * (2 : Amount).count ∧
      Later pipeline last ∧ last.passed = [1, 2, 3, 4, 5] ∧
      last.delivered = [[1, 2], [3, 4]] ∧ last.errors = [.insufficientDemand] := by
  have start : @Reachable Nat ⟨2, .ofMillis 10, .prefetch⟩
      { reactions := RecordingConsumer.reactions ⟨1, none⟩ } _ := Reachable.of_opening rfl
  have subscribed := start.act rfl .subscribe 20
  have pushed := subscribed.act rfl (.next [1]) 20
  have asking := pushed.act rfl (.request 1) 2
  exact ⟨_, _, asking, rfl, rfl, rfl, rfl, by decide,
    .act (.act (.run .here 20) rfl (.next [2, 3, 4, 5]) 60) rfl .complete 20,
    by decide +kernel, by decide +kernel, by decide +kernel⟩

end Pipeline

end TimedBatch
