import Mathlib.Data.List.Induction
import TimedBatch.Proofs.Conservation

/-!
# The demand of the consumer

The demand moves for two reasons only: the consumer asks for batches, and a batch is delivered. The
ledger is charged when the delivery of a batch is the next thing to be done, so it agrees at any
time with the movements so far, where a delivery that is about to be made counts as made. A batch
that is refused, unpaid or discarded on its way moves nothing.
-/

namespace TimedBatch

variable {α : Type}

/-- A movement of the demand. -/
inductive Movement where
  | asked (batches : Amount)
  | delivered
  deriving DecidableEq

namespace Movement

/-- The demand after a movement. Demand without bound is never drawn down. -/
def apply (demand : Amount) : Movement → Amount
  | asked batches => demand + batches
  | delivered => if demand = .unbounded then .unbounded else demand - 1

def asked? : Movement → Option Amount
  | asked batches => some batches
  | delivered => none

end Movement

/-- The demand that some movements make of none. -/
def demandAfter (movements : List Movement) : Amount :=
  movements.foldl Movement.apply 0

/-- How the demand moves where an event happens. -/
def Event.movement? : Event α → Option Movement
  | .entered (.request batches) => some (.asked batches)
  | .called (.next _) => some .delivered
  | _ => none

/-- How the demand moves where a call that is paid is made. -/
def Task.movement? : Task α → Option Movement
  | .call (.next _) => some .delivered
  | _ => none

namespace Pipeline

/-- The delivery that is about to be made, if one is. -/
def dueMovements (agenda : List (Task α)) : List Movement :=
  (agenda.head?.bind Task.movement?).toList

/-- The movements of the demand in their order. -/
def movements (pipeline : Pipeline α) : List Movement :=
  pipeline.chronicle.filterMap Event.movement? ++ dueMovements pipeline.agenda

/-- What the consumer asked for, call by call. -/
def asked (pipeline : Pipeline α) : List Amount :=
  pipeline.movements.filterMap Movement.asked?

end Pipeline

/-! ## Sequences of movements -/

/-- Every delivery finds demand. -/
def Backed (movements : List Movement) : Prop :=
  ∀ earlier later, movements = earlier ++ .delivered :: later → demandAfter earlier ≠ 0

theorem demandAfter_append (earlier later : List Movement) :
    demandAfter (earlier ++ later) = later.foldl Movement.apply (demandAfter earlier) :=
  List.foldl_append

theorem demandAfter_concat (earlier : List Movement) (movement : Movement) :
    demandAfter (earlier ++ [movement]) = movement.apply (demandAfter earlier) :=
  demandAfter_append earlier [movement]

theorem Amount.total_concat (amounts : List Amount) (amount : Amount) :
    Amount.total (amounts ++ [amount]) = Amount.total amounts + amount :=
  List.foldl_append

namespace Backed

variable {movements : List Movement}

theorem nil : Backed [] := by
  intro earlier later split
  simp at split

theorem concat {movement : Movement} (backed : Backed movements)
    (funded : movement = .delivered → demandAfter movements ≠ 0) :
    Backed (movements ++ [movement]) := by
  intro earlier later split
  rcases List.eq_nil_or_concat later with rfl | ⟨front, last, rfl⟩
  · obtain ⟨rfl, same⟩ := List.append_inj' split rfl
    exact funded (List.singleton_inj.mp same)
  · rw [List.concat_eq_append, ← List.cons_append, ← List.append_assoc] at split
    obtain ⟨rfl, _⟩ := List.append_inj' split rfl
    exact backed earlier front rfl

theorem of_concat {movement : Movement} (backed : Backed (movements ++ [movement])) :
    Backed movements := by
  rintro earlier later rfl
  exact backed earlier (later ++ [movement]) (by rw [List.append_assoc, List.cons_append])

/-- Unless the consumer asked without bound, what it asked for is what it got and what it is still
owed. -/
theorem total_eq (backed : Backed movements)
    (bounded : Amount.total (movements.filterMap Movement.asked?) ≠ .unbounded) :
    (demandAfter movements).count + movements.count .delivered =
      (Amount.total (movements.filterMap Movement.asked?)).count := by
  induction movements using List.reverseRecOn with
  | nil => rfl
  | append_singleton movements movement ih =>
      have before := ih backed.of_concat
      rw [List.filterMap_append] at bounded ⊢
      rw [demandAfter_concat, List.count_append]
      cases movement with
      | asked batches =>
          have silent : [Movement.asked batches].count .delivered = 0 := rfl
          rw [show [Movement.asked batches].filterMap Movement.asked? = [batches] from rfl,
            Amount.total_concat] at bounded ⊢
          rw [ne_eq, Amount.eq_unbounded_iff, Amount.count_add] at bounded
          rw [ne_eq, Amount.eq_unbounded_iff] at before
          rw [silent, Movement.apply, Amount.count_add, Amount.count_add]
          omega
      | delivered =>
          have funded : demandAfter movements ≠ 0 := backed movements [] rfl
          rw [ne_eq, Amount.ext_iff, Amount.count_zero] at funded
          rw [show [Movement.delivered].filterMap Movement.asked? = [] from rfl,
            List.append_nil] at bounded ⊢
          have balance := before bounded
          have short : demandAfter movements ≠ .unbounded := by
            intro unbounded
            rw [ne_eq, Amount.eq_unbounded_iff] at bounded
            rw [Amount.eq_unbounded_iff] at unbounded
            have cap := (Amount.total (movements.filterMap Movement.asked?)).count_le
            omega
          rw [Movement.apply, if_neg short, Amount.count_sub, Amount.count_one,
            List.count_singleton_self]
          omega

/-- No more is delivered than was asked for, as far as amounts count. -/
theorem count_le (backed : Backed movements) :
    Amount.ofNat (movements.count .delivered) ≤
      Amount.total (movements.filterMap Movement.asked?) := by
  rw [Amount.le_def, Amount.count_ofNat]
  by_cases bounded : Amount.total (movements.filterMap Movement.asked?) = .unbounded
  · rw [bounded]
    exact Nat.min_le_right _ _
  · have balance := backed.total_eq bounded
    omega

end Backed

/-! ## What the ledger is charged -/

namespace Ledger

theorem requested_topUp {ledger next : Ledger} {credit : Amount}
    (short : ledger.topUp = some (credit, next)) : next.requested = ledger.requested := by
  unfold topUp at short
  split at short
  · cases short
  · split at short
    · cases short
    · cases short
      rfl

theorem requested_firstRequest {ledger next : Ledger} {credit : Amount}
    (short : ledger.firstRequest = some (credit, next)) : next.requested = ledger.requested := by
  unfold firstRequest at short
  split at short
  · cases short
    rfl
  · exact requested_topUp short

theorem requested_receiveItem {ledger next : Ledger} (received : ledger.receiveItem = some next) :
    next.requested = ledger.requested := by
  unfold receiveItem at received
  split at received
  · cases received
    rfl
  · split at received <;> cases received
    rfl

theorem requested_payBatch {ledger next : Ledger} (paid : ledger.payBatch = some next) :
    ledger.requested ≠ 0 ∧ next.requested = Movement.delivered.apply ledger.requested := by
  unfold payBatch at paid
  split at paid
  · rename_i unbounded
    cases paid
    rw [Movement.apply, if_pos unbounded, unbounded]
    exact ⟨by decide, rfl⟩
  · rename_i bounded
    split at paid
    · cases paid
    · rename_i some
      cases paid
      rw [Movement.apply, if_neg bounded]
      exact ⟨some, rfl⟩

end Ledger

namespace Pipeline

theorem movement?_of_not_isPrompt {task : Task α} (unhurried : task.isPrompt = false) :
    task.movement? = none := by
  cases task with
  | call call => cases call <;> first | rfl | cases unhurried
  | _ => rfl

theorem movement?_of_isAside {event : Event α} (aside : event.isAside = true) :
    event.movement? = none := by
  cases event <;> first | rfl | cases aside

theorem dueMovements_of_forall {tasks : List (Task α)}
    (still : ∀ task ∈ tasks, task.isPrompt = false) : dueMovements tasks = [] := by
  cases tasks with
  | nil => rfl
  | cons task others =>
      rw [dueMovements, List.head?_cons, Option.bind_some,
        movement?_of_not_isPrompt (still task List.mem_cons_self)]
      rfl

theorem dueMovements_append {tasks agenda : List (Task α)}
    (still : ∀ task ∈ agenda, task.isPrompt = false) :
    dueMovements (tasks ++ agenda) = dueMovements tasks := by
  cases tasks with
  | nil => exact dueMovements_of_forall still
  | cons task others => rfl

/-- How the demand moves when a task is done: not at all, by a request that happens, or by the
charge for a batch that is about to be delivered. -/
inductive Charge (before after : Amount) : List Movement → List Movement → Prop where
  | none (same : after = before) : Charge before after [] []
  | asked {batches : Amount} (added : after = Movement.apply before (.asked batches)) :
      Charge before after [.asked batches] []
  | delivered (funded : before ≠ 0) (paid : after = Movement.apply before .delivered) :
      Charge before after [] [.delivered]

section Work

variable {hook : DiscardHook} {stage next : Stage α} {timer clock : Timer UInt64}
  {events : List (Event α)} {tasks : List (Task α)}

theorem Delivery.charge {handOff : HandOff α}
    (delivery : Delivery hook stage timer handOff next clock events tasks) :
    Charge stage.ledger.requested next.ledger.requested [] (dueMovements tasks) := by
  cases delivery with
  | late ended =>
      rw [dueMovements_of_forall isPrompt_hookTasks]
      exact .none rfl
  | unpaid active unpaid =>
      rw [dueMovements_of_forall isPrompt_failureTasks]
      exact .none rfl
  | paid active paid =>
      obtain ⟨funded, charged⟩ := Ledger.requested_payBatch paid
      exact .delivered funded charged

theorem Failure.charge {error : StreamError} {origin : Origin}
    (failure : Failure hook stage timer error origin next clock events tasks) :
    Charge stage.ledger.requested next.ledger.requested [] (dueMovements tasks) := by
  cases failure with
  | late ended => exact .none rfl
  | ended active =>
      rw [dueMovements_of_forall
        (List.forall_mem_append.mpr ⟨isPrompt_hookTasks, List.forall_mem_singleton.mpr rfl⟩)]
      exact .none rfl

theorem Dispatch.charge {signal : Signal α}
    (dispatch : Dispatch hook stage timer signal next clock events tasks) :
    Charge stage.ledger.requested next.ledger.requested [] (dueMovements tasks) := by
  cases dispatch with
  | itemTaken active received room => exact .none (Ledger.requested_receiveItem received)
  | itemLast active received full => exact .none (Ledger.requested_receiveItem received)
  | completed active filled delivery => exact delivery.charge
  | failed failure => exact failure.charge
  | cancelledEmpty empty =>
      rw [dueMovements_of_forall isPrompt_hookTasks]
      exact .none rfl
  | cancelled filled =>
      rw [dueMovements_of_forall isPrompt_hookTasks]
      exact .none rfl
  | _ => exact .none rfl

end Work

section Step

variable {pipeline : Pipeline α} {task : Task α} {stage : Stage α} {timer : Timer UInt64}
  {events : List (Event α)} {tasks : List (Task α)}

/-- Only a request and the charge for a batch move the ledger. -/
theorem Effect.charge (effect : Effect pipeline task stage timer events tasks)
    (other : task.movement? = none) :
    Charge pipeline.stage.ledger.requested stage.ledger.requested
      (events.filterMap Event.movement?) (dueMovements tasks) := by
  cases effect with
  | free aside inert allFree =>
      have unseen := fun event member => Event.isAside_of_isInert (inert event member)
      rw [filterMap_eq_nil_of_isAside movement?_of_isAside unseen,
        dueMovements_of_forall fun task member => Task.isPrompt_of_isFree (allFree task member)]
      exact .none rfl
  | timerClosed =>
      rw [dueMovements_of_forall (by simp [Task.isPrompt, Task.isProductive, Task.isSubscription])]
      exact .none rfl
  | called actions =>
      rename_i call
      have silent : (Event.called call).movement? = none := by
        cases call <;> first | rfl | cases other
      rw [List.filterMap_cons_none silent,
        dueMovements_of_forall fun task member =>
          Task.isPrompt_of_isFree (isFree_acts actions task member)]
      exact .none rfl
  | enteredSignal announces =>
      rename_i call signal
      have silent : (Event.entered call).movement? = none := by
        cases call <;> first | rfl | cases announces
      rw [List.filterMap_cons_none silent, dueMovements_of_forall isPrompt_wakeTasks]
      exact .none rfl
  | announced =>
      rw [dueMovements_of_forall isPrompt_wakeTasks]
      exact .none rfl
  | requestedNothing => exact .asked (Amount.add_zero _).symm
  | requested some unmoved => exact .asked rfl
  | requestedMore some active attached short => exact .asked (Ledger.requested_topUp short)
  | cancelled active =>
      rw [dueMovements_of_forall (List.forall_mem_append.mpr
        ⟨forall_cancelProducerTasks pipeline fun _ => rfl, List.forall_mem_singleton.mpr rfl⟩)]
      exact .none rfl
  | firstRequest active short => exact .none (Ledger.requested_firstRequest short)
  | handled first dispatch =>
      have silent := filterMap_eq_nil_of_isAside movement?_of_isAside dispatch.aside
      rw [List.filterMap_cons_none rfl, silent,
        dueMovements_append (List.forall_mem_singleton.mpr rfl)]
      exact dispatch.charge
  | acceptedHandOff delivery =>
      rw [filterMap_eq_nil_of_isAside movement?_of_isAside delivery.aside]
      exact delivery.charge
  | refusedHandOff =>
      rw [dueMovements_of_forall isPrompt_failureTasks]
      exact .none rfl
  | failed failure =>
      rw [filterMap_eq_nil_of_isAside movement?_of_isAside failure.aside]
      exact failure.charge
  | reportedStage =>
      rw [dueMovements_of_forall (List.forall_mem_append.mpr
        ⟨forall_cancelProducerTasks pipeline fun _ => rfl, List.forall_mem_singleton.mpr rfl⟩)]
      exact .none rfl
  | _ => exact .none rfl

end Step

/-- The ledger agrees with the movements, and every delivery finds demand. -/
structure Charged (requested : Amount) (movements : List Movement) : Prop where
  requested_eq : requested = demandAfter movements
  backed : Backed movements

theorem Charged.append {before after : Amount} {movements happened due : List Movement}
    (charged : Charged before movements) (charge : Charge before after happened due) :
    Charged after (movements ++ (happened ++ due)) := by
  have same := charged.requested_eq
  cases charge with
  | none kept =>
      rw [List.append_nil, List.append_nil, kept]
      exact charged
  | asked added =>
      refine ⟨?_, charged.backed.concat nofun⟩
      rw [List.append_nil, demandAfter_concat, ← same]
      exact added
  | delivered funded paid =>
      refine ⟨?_, charged.backed.concat fun _ => ?_⟩
      · rw [List.nil_append, demandAfter_concat, ← same]
        exact paid
      · rw [← same]
        exact funded

theorem dueMovements_cons (task : Task α) (agenda : List (Task α)) :
    dueMovements (task :: agenda) = task.movement?.toList :=
  rfl

theorem movement?_eq_none {task : Task α} (other : ∀ batch, task ≠ .call (.next batch)) :
    task.movement? = none := by
  cases task with
  | call call =>
      cases call with
      | next batch => exact absurd rfl (other batch)
      | _ => rfl
  | _ => rfl

section Step

variable {pipeline : Pipeline α} {task : Task α} {stage : Stage α} {timer : Timer UInt64}
  {events : List (Event α)} {tasks : List (Task α)}

/-- A delivery is charged before it is made, and making it moves nothing more. -/
theorem Charged.step (effect : Effect pipeline task stage timer events tasks)
    (prompt : Prompt pipeline.stage (task :: pipeline.agenda))
    (charged : Charged pipeline.stage.ledger.requested
      (pipeline.chronicle.filterMap Event.movement? ++ dueMovements (task :: pipeline.agenda))) :
    Charged stage.ledger.requested
      ((pipeline.chronicle ++ events).filterMap Event.movement? ++
        dueMovements (tasks ++ pipeline.agenda)) := by
  have still : ∀ task ∈ pipeline.agenda, task.isPrompt = false := prompt.tail
  rw [dueMovements_append still, List.filterMap_append, List.append_assoc]
  by_cases delivers : ∃ batch, task = .call (.next batch)
  · obtain ⟨batch, rfl⟩ := delivers
    cases effect with
    | called actions =>
        rw [dueMovements_of_forall fun task member =>
          Task.isPrompt_of_isFree (isFree_acts actions task member)]
        exact charged
    | free aside inert allFree => cases aside
    | swept aside gone => cases aside
  · have other := movement?_eq_none fun batch same => delivers ⟨batch, same⟩
    rw [dueMovements_cons, other, Option.toList_none, List.append_nil] at charged
    exact charged.append (effect.charge other)

end Step

section Reachable

variable {config : Config} {setup : Setup α} {pipeline : Pipeline α}

theorem Reachable.charged (reachable : Reachable config setup pipeline) :
    Charged pipeline.stage.ledger.requested pipeline.movements := by
  have both := reachable.preserve
    (fun stage agenda events => Told stage agenda events ∧
      Charged stage.ledger.requested (events.filterMap Event.movement? ++ dueMovements agenda))
    ?_ ?_ ?_
  · exact both.2
  · intro lines
    refine ⟨.opening config lines, ?_⟩
    rw [filterMap_eq_nil_of_isAside movement?_of_isAside isAside_of_mem_logs]
    exact ⟨rfl, .nil⟩
  · rintro stage events action ⟨told, charged⟩
    exact ⟨told.begin action, charged⟩
  · rintro pipeline task stage timer events tasks effect ⟨told, charged⟩
    exact ⟨told.step effect, charged.step effect told.prompt⟩

/-- The delivery that is about to be made is counted along with those that were made. -/
theorem count_delivered_movements (pipeline : Pipeline α) :
    pipeline.movements.count .delivered =
      pipeline.delivered.length + (dueMovements pipeline.agenda).length := by
  have made : (pipeline.chronicle.filterMap Event.movement?).count .delivered =
      pipeline.delivered.length := by
    rw [delivered_eq, deliveredIn, List.filterMap_filterMap, List.length_filterMap_eq_countP,
      List.count, List.countP_filterMap]
    congr 1
    funext event
    cases event with
    | entered call => cases call <;> rfl
    | called call => cases call <;> rfl
    | _ => rfl
  have due : (dueMovements pipeline.agenda).count .delivered =
      (dueMovements pipeline.agenda).length := by
    cases first : pipeline.agenda.head? with
    | none => simp [dueMovements, first]
    | some task =>
        cases task with
        | call call => cases call <;> simp [dueMovements, first, Task.movement?]
        | _ => simp [dueMovements, first, Task.movement?]
  rw [movements, List.count_append, made, due]

/-- The demand of the consumer is respected. -/
structure DemandRespected (pipeline : Pipeline α) : Prop where
  /-- The ledger is what the movements so far make of no demand. -/
  requested_eq : pipeline.stage.ledger.requested = demandAfter pipeline.movements
  /-- No batch is delivered while there is no demand. -/
  backed : ∀ earlier batch later,
    pipeline.chronicle = earlier ++ .called (.next batch) :: later →
      demandAfter (earlier.filterMap Event.movement?) ≠ 0
  /-- A batch that is about to be delivered found demand. -/
  funded : ∀ batch, pipeline.agenda.head? = some (.call (.next batch)) →
    demandAfter (pipeline.chronicle.filterMap Event.movement?) ≠ 0
  /-- No more batches are delivered than were asked for. -/
  delivered_le : Amount.ofNat pipeline.delivered.length ≤ Amount.total pipeline.asked
  /-- Unless the consumer asked without bound, what it asked for is what it got and what it is
  still owed. -/
  balance : Amount.total pipeline.asked ≠ .unbounded →
    pipeline.stage.ledger.requested.count + pipeline.delivered.length +
      (dueMovements pipeline.agenda).length = (Amount.total pipeline.asked).count
  /-- Demand is taken only by the charge for a batch whose delivery is the next thing to be done,
  and that while the stage is active. -/
  spared : pipeline.step.stage.ledger.requested < pipeline.stage.ledger.requested →
    pipeline.step.stage.status = .active ∧
      ∃ batch, pipeline.step.agenda.head? = some (.call (.next batch))

theorem exists_next_of_dueMovements {agenda : List (Task α)}
    (due : dueMovements agenda = [.delivered]) :
    ∃ batch, agenda.head? = some (.call (.next batch)) := by
  cases agenda with
  | nil => cases due
  | cons task others =>
      by_cases delivers : ∃ batch, task = .call (.next batch)
      · obtain ⟨batch, rfl⟩ := delivers
        exact ⟨batch, rfl⟩
      · have other := movement?_eq_none fun batch same => delivers ⟨batch, same⟩
        rw [dueMovements_cons, other] at due
        cases due

/-- Only the charge for a batch that is about to be delivered lowers the demand. -/
theorem Told.exists_next_of_lt (told : Told pipeline.stage pipeline.agenda pipeline.chronicle)
    (lowered : pipeline.step.stage.ledger.requested < pipeline.stage.ledger.requested) :
    ∃ batch, pipeline.step.agenda.head? = some (.call (.next batch)) := by
  rw [Amount.lt_def] at lowered
  cases agenda_eq : pipeline.agenda with
  | nil =>
      rw [step_of_atRest (List.isEmpty_iff.mpr agenda_eq)] at lowered
      exact absurd lowered (Nat.lt_irrefl _)
  | cons task rest =>
      rw [agenda_eq] at told
      obtain ⟨stage, timer, events, tasks, effect, becomes⟩ := exists_step_effect agenda_eq
      rw [becomes.stage_eq] at lowered
      by_cases delivers : ∃ batch, task = .call (.next batch)
      · -- Making the delivery leaves the ledger as it is.
        obtain ⟨batch, rfl⟩ := delivers
        cases effect with
        | free aside inert allFree => cases aside
        | swept aside gone => cases aside
        | called actions => exact absurd lowered (Nat.lt_irrefl _)
      · have other := movement?_eq_none fun batch same => delivers ⟨batch, same⟩
        have still : ∀ task ∈ rest, task.isPrompt = false := told.prompt.tail
        rw [becomes.agenda_eq]
        refine exists_next_of_dueMovements ?_
        rw [dueMovements_append still]
        generalize happened_eq : events.filterMap Event.movement? = happened
        generalize due_eq : dueMovements tasks = due
        have charge := effect.charge other
        rw [happened_eq, due_eq] at charge
        cases charge with
        | none same =>
            rw [same] at lowered
            exact absurd lowered (Nat.lt_irrefl _)
        | @asked batches added =>
            have raised : stage.ledger.requested.count =
                min (pipeline.stage.ledger.requested.count + batches.count) (2 ^ 64 - 1) :=
              congrArg Amount.count added
            have cap := pipeline.stage.ledger.requested.count_le
            omega
        | delivered funded paid => rfl

theorem Reachable.demandRespected (reachable : Reachable config setup pipeline) :
    DemandRespected pipeline := by
  have charged := reachable.charged
  have told := reachable.told
  have split : pipeline.movements =
      pipeline.chronicle.filterMap Event.movement? ++ dueMovements pipeline.agenda := rfl
  constructor
  case requested_eq => exact charged.requested_eq
  case backed =>
    intro earlier batch later chronicle_eq
    refine charged.backed _ (later.filterMap Event.movement? ++ dueMovements pipeline.agenda) ?_
    rw [split, chronicle_eq, List.filterMap_append, List.append_assoc]
    rfl
  case funded =>
    intro batch first
    refine charged.backed _ [] ?_
    rw [split, dueMovements, first]
    rfl
  case delivered_le =>
    have bound := charged.backed.count_le
    rw [count_delivered_movements, Amount.le_def, Amount.count_ofNat] at bound
    rw [asked, Amount.le_def, Amount.count_ofNat]
    omega
  case balance =>
    intro bounded
    have balance := charged.backed.total_eq bounded
    rw [← charged.requested_eq, count_delivered_movements] at balance
    rw [asked]
    omega
  case spared =>
    intro lowered
    obtain ⟨batch, first⟩ := told.exists_next_of_lt lowered
    obtain ⟨opening, made, earlier⟩ := reachable
    have next : Told pipeline.step.stage pipeline.step.agenda pipeline.step.chronicle :=
      Reachable.told ⟨opening, made, earlier.step⟩
    exact ⟨next.prompt.head _ first rfl, batch, first⟩

end Reachable

/-- A consumer that asks for one batch when it is subscribed and for another in the middle of the
first delivery: the third batch finds no demand and is discarded. -/
theorem demandRespected_of_unpaid_batch :
    ∃ pipeline : Pipeline Nat,
      Reachable ⟨2, .ofMillis 10, .unbounded⟩
        { reactions := fun kind earlier =>
            if kind = .subscribe ∨ kind = .next ∧ earlier = 0 then [.request 1] else [] }
        pipeline ∧
      pipeline.asked = [1, 1] ∧ pipeline.delivered = [[1, 2], [3, 4]] ∧
      pipeline.discarded = [5, 6] ∧ pipeline.stage.ledger.requested = 0 ∧
      DemandRespected pipeline := by
  have start : @Reachable Nat ⟨2, .ofMillis 10, .unbounded⟩
      { reactions := fun kind earlier =>
          if kind = .subscribe ∨ kind = .next ∧ earlier = 0 then [.request 1] else [] } _ :=
    Reachable.of_opening rfl
  have subscribed := start.act rfl .subscribe 20
  have failed := subscribed.act rfl (.next [1, 2, 3, 4, 5, 6]) 80
  exact ⟨_, failed, rfl, rfl, rfl, rfl, Reachable.demandRespected failed⟩

end Pipeline

end TimedBatch
