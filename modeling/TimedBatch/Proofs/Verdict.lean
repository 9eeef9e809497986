import TimedBatch.Proofs.Conservation

/-!
# Errors on their way

An error that ends a stage waits in the queue or on the agenda before the consumer hears of it. The
producer reports it, or the stage finds it itself, for which there are four occasions. Once the
stage is about to end with an error, nothing but a cancellation comes between: where no call of the
stage is under way any more, the consumer was told of that error or has cancelled.
-/

namespace TimedBatch

variable {α : Type}

/-! ## Where errors are -/

/-- The error that a signal brings. -/
def Signal.verdict? : Signal α → Option StreamError
  | .failed error _ => some error
  | _ => none

namespace Task

/-- The error that a task announces, ends the stage with or reports. -/
def verdict? : Task α → Option StreamError
  | .announce signal => signal.verdict?
  | .endWith error _ => some error
  | .reportError error _ => some error
  | .call (.error error) => some error
  | _ => none

/-- Whether a task stands aside while a signal is worked off: it is no part of that work, or it
gives something to the discard hook. -/
def isBystander (task : Task α) : Bool :=
  task.isOuter || task.isDiscarding

theorem verdict?_of_isFree {task : Task α} (free : task.isFree = true) : task.verdict? = none := by
  cases task with
  | call call => cases call <;> first | rfl | cases free
  | _ => first | rfl | cases free

theorem isBystander_of_isFree {task : Task α} (free : task.isFree = true) :
    task.isBystander = true := by
  obtain ⟨noInner, noWork⟩ := Pipeline.not_isInner_of_isFree free
  rw [isBystander, isOuter, noInner, noWork]
  rfl

end Task

namespace Pipeline

/-- An error waits in the queue or on the agenda, or the consumer has heard of it. -/
def AtLarge (error : StreamError) (stage : Stage α) (agenda : List (Task α))
    (events : List (Event α)) : Prop :=
  (∃ signal ∈ stage.signals, signal.verdict? = some error) ∨
    (∃ task ∈ agenda, task.verdict? = some error) ∨ .error error ∈ heard events

/-- The occasions on which the stage finds an error. -/
inductive Found (stage : Stage α) : Task α → StreamError → Prop where
  | unrequested {missed : Nat} {item : α} {rest : List (Signal α)}
      (active : stage.status = .active) (first : stage.signals = .item item :: rest)
      (unrequested : stage.ledger.receiveItem = none) :
      Found stage (.workOff missed) .unrequestedElement
  | unpaid {token : CancelToken} {handOff : HandOff α} (active : stage.status = .active)
      (unpaid : stage.ledger.payBatch = none) :
      Found stage (.answered (.ok token) (some handOff)) .insufficientDemand
  | unpaidRest {missed : Nat} {rest : List (Signal α)} (active : stage.status = .active)
      (first : stage.signals = .completed :: rest) (filled : stage.batch ≠ [])
      (unpaid : stage.ledger.payBatch = none) :
      Found stage (.workOff missed) .insufficientDemand
  | refused {rejection : TimerRejection} {handOff : Option (HandOff α)} :
      Found stage (.answered (.error rejection) handOff) (.timerRejected rejection)
  | attachedTwice {producer : Nat} :
      Found stage (.enter (.subscribe producer)) .duplicateSubscription

theorem ne_timerRejected {error : StreamError} {rejection : TimerRejection}
    (other : error.code ≠ StreamError.timerRejectedCode) : error ≠ .timerRejected rejection :=
  fun same => other (congrArg StreamError.code same)

section Work

variable {hook : DiscardHook} {stage next : Stage α} {timer clock : Timer UInt64}
  {events : List (Event α)} {tasks : List (Task α)} {error : StreamError}

theorem verdict?_hookTasks {items : List α} :
    ∀ task ∈ hookTasks hook items, task.verdict? = none := by
  intro task member
  obtain ⟨call, _, rfl⟩ := List.mem_map.mp member
  rfl

/-- A task that has an error is none of those that have none. -/
theorem not_mem_of_verdict {task : Task α} (verdict : task.verdict? = some error)
    (none : ∀ task ∈ tasks, task.verdict? = none) : task ∉ tasks := by
  intro member
  rw [none task member] at verdict
  cases verdict

theorem eq_of_failureTasks {items : List α} {found : StreamError} {task : Task α}
    (member : task ∈ failureTasks hook items found) (verdict : task.verdict? = some error) :
    error = found := by
  rcases List.mem_append.mp member with member | member
  · exact absurd member (not_mem_of_verdict verdict verdict?_hookTasks)
  · rw [List.mem_singleton.mp member] at verdict
    exact (Option.some.inj verdict).symm

theorem Delivery.verdict {handOff : HandOff α}
    (delivery : Delivery hook stage timer handOff next clock events tasks) {task : Task α}
    (member : task ∈ tasks) (verdict : task.verdict? = some error) :
    error = .insufficientDemand ∧ stage.status = .active ∧ stage.ledger.payBatch = none := by
  cases delivery with
  | late ended => exact absurd member (not_mem_of_verdict verdict verdict?_hookTasks)
  | unpaid active unpaid => exact ⟨eq_of_failureTasks member verdict, active, unpaid⟩
  | paid active paid =>
      rw [closingTasks] at member
      rcases List.mem_cons.mp member with rfl | member
      · cases verdict
      · split at member
        · rw [List.mem_singleton.mp member] at verdict
          cases verdict
        · cases member

theorem Failure.verdict {ending : StreamError} {origin : Origin}
    (failure : Failure hook stage timer ending origin next clock events tasks) {task : Task α}
    (member : task ∈ tasks) (verdict : task.verdict? = some error) : error = ending := by
  cases failure with
  | late ended => cases member
  | ended active =>
      rcases List.mem_append.mp member with member | member
      · exact absurd member (not_mem_of_verdict verdict verdict?_hookTasks)
      · rw [List.mem_singleton.mp member] at verdict
        exact (Option.some.inj verdict).symm

/-- The error that comes of a signal came with it, or it was found in working the signal off. -/
theorem Dispatch.verdict {missed : Nat} {signal : Signal α} {rest : List (Signal α)}
    (dispatch : Dispatch hook { stage with signals := rest } timer signal next clock events tasks)
    (first : stage.signals = signal :: rest) {task : Task α} (member : task ∈ tasks)
    (verdict : task.verdict? = some error) :
    signal.verdict? = some error ∨ Found stage (.workOff missed) error := by
  cases dispatch with
  | @itemUnrequested item active unrequested =>
      rcases List.mem_pair.mp member with rfl | rfl
      · cases verdict
      · cases verdict
        exact Or.inr (.unrequested active first unrequested)
  | completed active filled delivery =>
      obtain ⟨rfl, _, unpaid⟩ := delivery.verdict member verdict
      exact Or.inr (.unpaidRest active first filled unpaid)
  | failed failure => exact Or.inl (congrArg some (failure.verdict member verdict).symm)
  | cancelledEmpty empty => exact absurd member (not_mem_of_verdict verdict verdict?_hookTasks)
  | cancelled filled => exact absurd member (not_mem_of_verdict verdict verdict?_hookTasks)
  | _ => first
    | exact absurd member List.not_mem_nil
    | exact absurd member (not_mem_of_verdict verdict (List.forall_mem_singleton.mpr rfl))

end Work

section Step

variable {pipeline : Pipeline α} {task : Task α} {stage : Stage α} {timer : Timer UInt64}
  {events : List (Event α)} {tasks : List (Task α)} {error : StreamError}

/-- A signal is announced by a task of its own or by a call of the stage. -/
theorem Effect.announced_eq (effect : Effect pipeline task stage timer events tasks) :
    ∀ signal ∈ events.filterMap Event.announced?,
      task = .announce signal ∨ ∃ call, task = .enter call ∧ call.signal? = some signal := by
  cases effect with
  | free aside inert allFree =>
      have unseen := fun event member => Event.isAside_of_isInert (inert event member)
      rw [filterMap_eq_nil_of_isAside Event.announced?_of_isAside unseen]
      exact List.forall_mem_nil _
  | @enteredSignal call signal announces =>
      exact List.forall_mem_singleton.mpr (Or.inr ⟨call, rfl, announces⟩)
  | announced => exact List.forall_mem_singleton.mpr (Or.inl rfl)
  | handled first dispatch =>
      rw [List.filterMap_cons_none rfl,
        filterMap_eq_nil_of_isAside Event.announced?_of_isAside dispatch.aside]
      exact List.forall_mem_nil _
  | acceptedHandOff delivery =>
      rw [filterMap_eq_nil_of_isAside Event.announced?_of_isAside delivery.aside]
      exact List.forall_mem_nil _
  | failed failure =>
      rw [filterMap_eq_nil_of_isAside Event.announced?_of_isAside failure.aside]
      exact List.forall_mem_nil _
  | _ => exact List.forall_mem_nil _

/-- A task puts an error on the agenda that it brought along, that a signal brought, or that the
stage finds. -/
theorem Effect.verdict (effect : Effect pipeline task stage timer events tasks) {added : Task α}
    (member : added ∈ tasks) (verdict : added.verdict? = some error) :
    task.verdict? = some error ∨ (∃ signal ∈ pipeline.stage.signals, signal.verdict? = some error) ∨
      Found pipeline.stage task error := by
  have unwoken : ∀ {stage : Stage α}, added ∉ wakeTasks stage := by
    intro stage
    rw [wakeTasks]
    split
    · exact not_mem_of_verdict verdict (List.forall_mem_singleton.mpr rfl)
    · exact List.not_mem_nil
  cases effect with
  | free aside inert allFree =>
      exact absurd member (not_mem_of_verdict verdict fun task member =>
        Task.verdict?_of_isFree (allFree task member))
  | timerClosed =>
      refine absurd member (not_mem_of_verdict verdict fun task member => ?_)
      obtain ⟨line, _, rfl⟩ := List.mem_map.mp member
      rfl
  | called actions =>
      exact absurd member (not_mem_of_verdict verdict fun task member =>
        Task.verdict?_of_isFree (isFree_acts actions task member))
  | enteredSignal announces => exact absurd member unwoken
  | announced => exact absurd member unwoken
  | attachedTwice second =>
      have found : error = .duplicateSubscription := by
        simp only [List.mem_cons, List.not_mem_nil, or_false] at member
        rcases member with rfl | rfl | rfl <;> cases verdict
        rfl
      subst found
      exact Or.inr (Or.inr .attachedTwice)
  | cancelled active =>
      refine absurd member (not_mem_of_verdict verdict (List.forall_mem_append.mpr ⟨?_, ?_⟩))
      · exact forall_cancelProducerTasks pipeline fun _ => rfl
      · exact List.forall_mem_singleton.mpr rfl
  | @handled missed signal rest stage timer events tasks first dispatch =>
      rcases List.mem_append.mp member with member | member
      · rcases dispatch.verdict first member verdict with brought | found
        · refine Or.inr (Or.inl ⟨signal, ?_, brought⟩)
          rw [first]
          exact List.mem_cons_self
        · exact Or.inr (Or.inr found)
      · exact absurd member (not_mem_of_verdict verdict (List.forall_mem_singleton.mpr rfl))
  | acceptedHandOff delivery =>
      obtain ⟨rfl, active, unpaid⟩ := delivery.verdict member verdict
      exact Or.inr (Or.inr (.unpaid active unpaid))
  | refused =>
      rw [List.mem_singleton.mp member] at verdict
      cases verdict
      exact Or.inr (Or.inr .refused)
  | refusedHandOff =>
      cases eq_of_failureTasks member verdict
      exact Or.inr (Or.inr .refused)
  | failed failure => exact Or.inl (congrArg some (failure.verdict member verdict).symm)
  | reportedProducer =>
      rw [List.mem_singleton.mp member] at verdict
      exact Or.inl verdict
  | reportedStage =>
      rcases List.mem_append.mp member with member | member
      · exact absurd member
          (not_mem_of_verdict verdict (forall_cancelProducerTasks pipeline fun _ => rfl))
      · rw [List.mem_singleton.mp member] at verdict
        exact Or.inl verdict
  | alarmFired due live held =>
      exact absurd member (not_mem_of_verdict verdict (by simp [Task.verdict?]))
  | attached first =>
      exact absurd member (not_mem_of_verdict verdict (by simp [Task.verdict?, Signal.verdict?]))
  | alarmSet => exact absurd member (not_mem_of_verdict verdict (by simp [Task.verdict?]))
  | _ => first
    | exact absurd member List.not_mem_nil
    | exact absurd member (not_mem_of_verdict verdict (List.forall_mem_singleton.mpr rfl))

/-- An error that is at large was so before, or the producer reports it just now, or the stage finds
it. -/
theorem Effect.atLarge (effect : Effect pipeline task stage timer events tasks)
    (large : AtLarge error stage (tasks ++ pipeline.agenda) (pipeline.chronicle ++ events)) :
    AtLarge error pipeline.stage (task :: pipeline.agenda) pipeline.chronicle ∨
      .error error ∈ entries events ∨ Found pipeline.stage task error := by
  have brought : task.verdict? = some error →
      AtLarge error pipeline.stage (task :: pipeline.agenda) pipeline.chronicle :=
    fun verdict => Or.inr (Or.inl ⟨task, List.mem_cons_self, verdict⟩)
  rcases large with ⟨signal, member, verdict⟩ | ⟨added, member, verdict⟩ | told
  · -- A signal waited before, or it is announced just now.
    have waits : signal ∈ pipeline.stage.signals ++ events.filterMap Event.announced? := by
      rw [effect.queue_eq]
      exact List.mem_append_right _ member
    rcases List.mem_append.mp waits with waited | announced
    · exact Or.inl (Or.inl ⟨signal, waited, verdict⟩)
    · rcases effect.announced_eq signal announced with rfl | ⟨call, rfl, announces⟩
      · exact Or.inl (brought verdict)
      · have reports : call = .error error := by
          cases call <;> cases announces <;> cases verdict
          rfl
        rw [entries, effect.inbound_eq, reports]
        exact Or.inr (Or.inl (List.mem_singleton.mpr rfl))
  · rcases List.mem_append.mp member with added | stays
    · rcases effect.verdict added verdict with before | ⟨signal, waits, before⟩ | found
      · exact Or.inl (brought before)
      · exact Or.inl (Or.inl ⟨signal, waits, before⟩)
      · exact Or.inr (Or.inr found)
    · exact Or.inl (Or.inr (Or.inl ⟨added, List.mem_cons_of_mem _ stays, verdict⟩))
  · rw [heard_append, effect.heard_eq] at told
    rcases List.mem_append.mp told with earlier | now
    · exact Or.inl (Or.inr (Or.inr earlier))
    · refine Or.inl (brought ?_)
      obtain ⟨call, call_eq, hears⟩ := Option.bind_eq_some_iff.mp (Option.mem_toList.mp now)
      cases task with
      | call outbound =>
          cases call_eq
          cases call <;> cases hears
          rfl
      | _ => cases call_eq

end Step

/-! ## Where errors come from -/

/-- A task that finds an error is about to be done. -/
def Finds (pipeline : Pipeline α) (error : StreamError) : Prop :=
  ∃ task ∈ pipeline.agenda.head?, Found pipeline.stage task error

/-- An error that is at large was so at the beginning of a run, or the producer reported it since,
or the stage found it at some moment of the run. -/
theorem Later.exists_finds {first last : Pipeline α} {error : StreamError}
    (later : Later first last) (large : AtLarge error last.stage last.agenda last.chronicle) :
    AtLarge error first.stage first.agenda first.chronicle ∨ .error error ∈ last.inboundCalls ∨
      ∃ middle, Later first middle ∧ Later middle last ∧ middle.Finds error := by
  induction later with
  | here => exact Or.inl large
  | @step last run ih =>
      cases agenda_eq : last.agenda with
      | nil =>
          rw [step_of_atRest (List.isEmpty_iff.mpr agenda_eq)] at large ⊢
          exact ih large
      | cons task rest =>
          obtain ⟨stage, timer, events, tasks, effect, becomes⟩ := exists_step_effect agenda_eq
          rw [becomes.stage_eq, becomes.agenda_eq, becomes.chronicle_eq] at large
          have calls_eq : last.step.inboundCalls = last.inboundCalls ++ entries events := by
            rw [inboundCalls, becomes.chronicle_eq, List.filterMap_append]
            rfl
          rw [calls_eq]
          rcases effect.atLarge large with before | reported | found
          · rw [← agenda_eq] at before
            rcases ih before with start | reported | ⟨middle, earlier, more, finds⟩
            · exact Or.inl start
            · exact Or.inr (Or.inl (List.mem_append_left _ reported))
            · exact Or.inr (Or.inr ⟨middle, earlier, more.step, finds⟩)
          · exact Or.inr (Or.inl (List.mem_append_right _ reported))
          · refine Or.inr (Or.inr ⟨last, run, Later.here.step, task, ?_, found⟩)
            rw [agenda_eq]
            rfl
  | @begin last run rest action ih =>
      have before : AtLarge error last.stage last.agenda last.chronicle := by
        rw [agenda_begin_of_atRest rest] at large
        rcases large with waits | ⟨task, member, verdict⟩ | told
        · exact Or.inl waits
        · rw [List.mem_singleton.mp member] at verdict
          cases verdict
        · exact Or.inr (Or.inr told)
      rcases ih before with start | reported | ⟨middle, earlier, more, finds⟩
      · exact Or.inl start
      · exact Or.inr (Or.inl reported)
      · exact Or.inr (Or.inr ⟨middle, earlier, more.begin rest action, finds⟩)

/-- An error at large was reported by the producer, or the stage found it at some moment. -/
theorem Reachable.exists_finds {config : Config} {setup : Setup α} {pipeline : Pipeline α}
    {error : StreamError} (reachable : Reachable config setup pipeline)
    (large : AtLarge error pipeline.stage pipeline.agenda pipeline.chronicle) :
    .error error ∈ pipeline.inboundCalls ∨
      ∃ earlier, Reachable config setup earlier ∧ Later earlier pipeline ∧ earlier.Finds error := by
  obtain ⟨opening, made, later⟩ := reachable
  rcases later.exists_finds large with start | reported | ⟨middle, earlier, more, finds⟩
  · obtain ⟨_, stage_eq, agenda_eq, lines, chronicle_eq⟩ := opening?_eq_ok made
    rw [stage_eq, agenda_eq, chronicle_eq, AtLarge, heard_logs] at start
    rcases start with ⟨_, impossible, _⟩ | ⟨_, impossible, _⟩ | impossible <;> cases impossible
  · exact Or.inl reported
  · exact Or.inr ⟨middle, ⟨opening, made, earlier⟩, more, finds⟩

/-- What the consumer was told is at large. -/
theorem atLarge_of_errors {pipeline : Pipeline α} {error : StreamError}
    (told : error ∈ pipeline.errors) :
    AtLarge error pipeline.stage pipeline.agenda pipeline.chronicle := by
  rw [errors, received_eq] at told
  obtain ⟨signal, member, found⟩ := List.mem_filterMap.mp told
  cases signal <;> cases found
  exact Or.inr (Or.inr member)

/-! ## What becomes of an error that ends the stage -/

/-- The consumer is about to hear of an error that ended the stage, or has heard of it. -/
def IsReported (error : StreamError) (agenda : List (Task α)) (events : List (Event α)) : Prop :=
  (∃ origin, .reportError error origin ∈ agenda) ∨ .call (.error error) ∈ agenda ∨
    .error error ∈ heard events

/-- A stage is about to end with an error, or it ended so, unless it was cancelled first. -/
inductive Sentenced (error : StreamError) (stage : Stage α) (agenda : List (Task α))
    (events : List (Event α)) : Prop where
  | pending (upper lower : List (Task α)) (origin : Origin)
      (agenda_eq : agenda = upper ++ .endWith error origin :: lower)
      (bystanders : ∀ task ∈ upper, task.isBystander = true) (active : stage.status = .active)
      (busy : stage.work ≠ 0)
  | cancelled (status_eq : stage.status = .cancelled)
  | errored (status_eq : stage.status = .errored) (reported : IsReported error agenda events)

section Step

variable {pipeline : Pipeline α} {task : Task α} {stage : Stage α} {timer : Timer UInt64}
  {events : List (Event α)} {tasks : List (Task α)} {error : StreamError}

/-- While a signal is worked off, what stands aside of that work makes room for nothing else, and
it ends the stage by a cancellation only. -/
theorem Effect.bystander (effect : Effect pipeline task stage timer events tasks)
    (bystander : task.isBystander = true) (active : pipeline.stage.status = .active)
    (busy : pipeline.stage.work ≠ 0) :
    (∀ task ∈ tasks, task.isBystander = true) ∧ stage.work ≠ 0 ∧
      (stage.status = .active ∨ stage.status = .cancelled) := by
  have idle : wakeTasks pipeline.stage = [] := if_neg busy
  cases effect with
  | free aside inert allFree =>
      exact ⟨fun task member => Task.isBystander_of_isFree (allFree task member), busy,
        Or.inl active⟩
  | timerClosed =>
      refine ⟨fun task member => ?_, busy, Or.inl active⟩
      obtain ⟨line, _, rfl⟩ := List.mem_map.mp member
      rfl
  | called actions =>
      exact ⟨fun task member => Task.isBystander_of_isFree (isFree_acts actions task member), busy,
        Or.inl active⟩
  | enteredSignal announces =>
      rw [idle]
      exact ⟨List.forall_mem_nil _, Nat.succ_ne_zero _, Or.inl active⟩
  | announced =>
      rw [idle]
      exact ⟨List.forall_mem_nil _, Nat.succ_ne_zero _, Or.inl active⟩
  | cancelled _ =>
      refine ⟨List.forall_mem_append.mpr ⟨?_, List.forall_mem_singleton.mpr rfl⟩, busy, Or.inr rfl⟩
      exact forall_cancelProducerTasks pipeline fun _ => rfl
  | accounted empty done => cases bystander
  | accountedMore empty more => cases bystander
  | handled first dispatch => cases bystander
  | alarmSet => cases bystander
  | accepted => cases bystander
  | acceptedHandOff delivery => cases bystander
  | refused => cases bystander
  | refusedHandOff => cases bystander
  | failed failure => cases bystander
  | reportedProducer => cases bystander
  | reportedStage => cases bystander
  | finished _ => cases bystander
  | finishedLate _ => cases bystander
  | _ => exact ⟨by simp [Task.isBystander, Task.isOuter, Task.isInner, Task.isWorkOff], busy,
      Or.inl active⟩

theorem IsReported.step (effect : Effect pipeline task stage timer events tasks)
    (reported : IsReported error (task :: pipeline.agenda) pipeline.chronicle) :
    IsReported error (tasks ++ pipeline.agenda) (pipeline.chronicle ++ events) := by
  rcases reported with ⟨origin, member⟩ | member | told
  · rcases List.mem_cons.mp member with rfl | member
    · refine Or.inr (Or.inl (List.mem_append_left _ ?_))
      cases effect with
      | free aside inert allFree => cases aside
      | swept aside gone => cases aside
      | reportedProducer => exact List.mem_singleton.mpr rfl
      | reportedStage => exact List.mem_append_right _ (List.mem_singleton.mpr rfl)
    · exact Or.inl ⟨origin, List.mem_append_right _ member⟩
  · rcases List.mem_cons.mp member with rfl | member
    · rw [IsReported, heard_append, effect.heard_eq]
      exact Or.inr (Or.inr (List.mem_append_right _ (List.mem_singleton.mpr rfl)))
    · exact Or.inr (Or.inl (List.mem_append_right _ member))
  · rw [IsReported, heard_append]
    exact Or.inr (Or.inr (List.mem_append_left _ told))

theorem Sentenced.step (effect : Effect pipeline task stage timer events tasks)
    (sentenced : Sentenced error pipeline.stage (task :: pipeline.agenda) pipeline.chronicle) :
    Sentenced error stage (tasks ++ pipeline.agenda) (pipeline.chronicle ++ events) := by
  cases sentenced with
  | pending upper lower origin agenda_eq bystanders active busy =>
      cases upper with
      | nil =>
          -- The error ends the stage now, which is still active.
          obtain ⟨rfl, rfl⟩ := List.cons.inj agenda_eq
          cases effect with
          | free aside inert allFree => cases aside
          | swept aside gone => cases aside
          | failed failure =>
              cases failure with
              | late ended => exact absurd active ended
              | ended _ =>
                  refine .errored rfl (Or.inl ⟨origin, List.mem_append_left _ ?_⟩)
                  exact List.mem_append_right _ (List.mem_singleton.mpr rfl)
      | cons first others =>
          obtain ⟨rfl, rest_eq⟩ := List.cons.inj agenda_eq
          rw [List.forall_mem_cons] at bystanders
          obtain ⟨added, working, status⟩ := effect.bystander bystanders.1 active busy
          rcases status with goesOn | cancelled
          · refine .pending (tasks ++ others) lower origin ?_ ?_ goesOn working
            · rw [rest_eq, List.append_assoc]
              rfl
            · exact List.forall_mem_append.mpr ⟨added, bystanders.2⟩
          · exact .cancelled cancelled
  | cancelled status_eq =>
      have ended : pipeline.stage.status ≠ .active := by
        rw [status_eq]
        decide
      exact .cancelled ((effect.status_eq ended).trans status_eq)
  | errored status_eq reported =>
      have ended : pipeline.stage.status ≠ .active := by
        rw [status_eq]
        decide
      exact .errored ((effect.status_eq ended).trans status_eq) (reported.step effect)

end Step

/-- Where no call of the stage is under way, an error that was to end the stage did so and the
consumer heard of it, or the consumer had cancelled. -/
theorem Sentenced.outcome {first last : Pipeline α} {error : StreamError} (later : Later first last)
    (sentenced : Sentenced error first.stage first.agenda first.chronicle)
    (idle : last.isIdle = true) :
    last.stage.status = .cancelled ∨ last.stage.status = .errored ∧ error ∈ last.errors := by
  have free := List.all_eq_true.mp idle
  have now : Sentenced error last.stage last.agenda last.chronicle := by
    refine later.preserve (Sentenced error) sentenced ?_ fun _ _ _ _ _ _ effect before =>
      before.step effect
    intro stage events action before
    cases before with
    | pending upper lower origin agenda_eq => simp at agenda_eq
    | cancelled status_eq => exact .cancelled status_eq
    | errored status_eq reported =>
        rcases reported with ⟨_, impossible⟩ | impossible | told
        · cases impossible
        · cases impossible
        · exact .errored status_eq (Or.inr (Or.inr told))
  cases now with
  | pending upper lower origin agenda_eq =>
      have impossible := free (.endWith error origin) (by simp [agenda_eq])
      cases impossible
  | cancelled status_eq => exact Or.inl status_eq
  | errored status_eq reported =>
      refine Or.inr ⟨status_eq, ?_⟩
      rcases reported with ⟨origin, member⟩ | member | told
      · cases free _ member
      · cases free _ member
      · rw [errors, received_eq]
        exact List.mem_filterMap.mpr ⟨_, told, rfl⟩

end Pipeline

end TimedBatch
