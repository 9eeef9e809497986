import TimedBatch.Proofs.Demand
import TimedBatch.Proofs.Effort

/-!
# In the middle of the work on a signal

The work on a signal calls collaborators, and each of them acts in the middle of its call. Signals
that are announced meanwhile wait for their turn, so the open batch and the generation are safe from
whatever a collaborator does. It may ask for batches, and it may cancel; nothing else matters for
the rest of the work. This is stated for the time until a task of that work returns.
-/

namespace TimedBatch.Pipeline

variable {α : Type}

/-! ## Tasks that return -/

section Clears

variable {below upper middle : List (Task α)} {first last : Pipeline α}

theorem WorksAbove.eq_or_step (works : WorksAbove below first last) :
    last = first ∨ first.agenda ≠ below ∧ WorksAbove below first.step last := by
  induction works with
  | here => exact Or.inl rfl
  | step _ above ih =>
      rcases ih with rfl | ⟨before, works⟩
      · exact Or.inr ⟨above, .here⟩
      · exact Or.inr ⟨before, works.step above⟩

/-- What stands below is not touched. -/
theorem WorksAbove.exists_upper (works : WorksAbove below first last)
    (agenda_eq : first.agenda = upper ++ below) : ∃ left, last.agenda = left ++ below := by
  obtain ⟨left, left_eq, _⟩ := works.preserve agenda_eq (fun _ _ => True) trivial <| by
    intro moment task left _ stack_eq _
    obtain ⟨_, _, _, tasks, _, becomes⟩ := exists_step_effect stack_eq
    exact ⟨tasks ++ left, becomes.agenda_eq.trans (List.append_assoc _ _ _).symm, trivial⟩
  exact ⟨left, left_eq⟩

theorem Clears.eq_of_agenda (clears : Clears below first last) (agenda_eq : first.agenda = below) :
    last = first := by
  rcases clears.works.eq_or_step with same | ⟨above, _⟩
  · exact same
  · exact absurd agenda_eq above

theorem Clears.step {task : Task α} (clears : Clears below first last)
    (agenda_eq : first.agenda = task :: upper ++ below) : Clears below first.step last := by
  rcases clears.works.eq_or_step with rfl | ⟨_, works⟩
  · exact absurd clears.agenda_eq (ne_below_of_agenda agenda_eq)
  · exact ⟨works, clears.agenda_eq⟩

theorem Clears.next {task : Task α} (clears : Clears below first last)
    (agenda_eq : first.agenda = task :: below) : Clears below first.step last :=
  clears.step (show first.agenda = task :: [] ++ below from agenda_eq)

/-- Before the last of some tasks is done, the first of them are. -/
theorem Clears.split (clears : Clears below first last)
    (agenda_eq : first.agenda = upper ++ (middle ++ below)) :
    ∃ between, Clears (middle ++ below) first between ∧ Clears below between last := by
  have along : ∀ {moment}, WorksAbove below first moment →
      WorksAbove (middle ++ below) first moment ∨
        ∃ between, Clears (middle ++ below) first between ∧ WorksAbove below between moment := by
    intro moment works
    induction works with
    | here => exact Or.inl .here
    | @step moment _ above ih =>
        rcases ih with still | ⟨between, clears, works⟩
        · by_cases returned : moment.agenda = middle ++ below
          · exact Or.inr ⟨moment, ⟨still, returned⟩, .step .here above⟩
          · exact Or.inl (still.step returned)
        · exact Or.inr ⟨between, clears, works.step above⟩
  rcases along clears.works with still | ⟨between, cleared, works⟩
  · obtain ⟨left, left_eq⟩ := still.exists_upper agenda_eq
    have nothing := clears.agenda_eq.symm.trans left_eq
    rw [← List.append_assoc, List.self_eq_append_left, List.append_eq_nil_iff] at nothing
    obtain ⟨rfl, rfl⟩ := nothing
    exact ⟨last, ⟨still, left_eq⟩, .here, clears.agenda_eq⟩
  · exact ⟨between, cleared, works, clears.agenda_eq⟩

end Clears

/-! ## What happens meanwhile -/

/-- The calls that belong to the work on signals, in their order. -/
def spoken (events : List (Event α)) : List (Outbound α) :=
  (events.filterMap Event.outbound?).filter fun call => (Task.call call).isInner

/-- What the consumer is told by the work on signals. -/
def told (events : List (Event α)) : List (Received α) :=
  (spoken events).filterMap Outbound.heard?

/-- What the consumer asks for in some events, call by call. -/
def askedIn (events : List (Event α)) : List Amount :=
  (events.filterMap Event.movement?).filterMap Movement.asked?

theorem spoken_append (earlier later : List (Event α)) :
    spoken (earlier ++ later) = spoken earlier ++ spoken later := by
  rw [spoken, List.filterMap_append, List.filter_append]
  rfl

theorem askedIn_append (earlier later : List (Event α)) :
    askedIn (earlier ++ later) = askedIn earlier ++ askedIn later := by
  rw [askedIn, List.filterMap_append, List.filterMap_append]
  rfl

/-- Nothing is discarded but by the work on signals. -/
theorem discardedIn_eq (events : List (Event α)) :
    discardedIn events = (spoken events).flatMap Outbound.discards := by
  rw [discardedIn, spoken]
  induction events.filterMap Event.outbound? with
  | nil => rfl
  | cons call calls ih =>
      rw [List.flatMap_cons, ih]
      cases call <;> rfl

/-- The demand moves by what the consumer asks for, and no batch is charged. -/
def Uncharged (first last : Pipeline α) (events : List (Event α)) : Prop :=
  last.stage.ledger.requested =
    (askedIn events).foldl (· + ·) first.stage.ledger.requested

/-- Some calls are made by the work on signals. -/
structure Passage (first last : Pipeline α) (events : List (Event α))
    (calls : List (Outbound α)) : Prop where
  chronicle_eq : last.chronicle = first.chronicle ++ events
  spoken_eq : spoken events = calls
  uncharged : Uncharged first last events
  generation_eq : last.stage.generation = first.stage.generation

/-- The status stays as it is, unless the stage is active and a collaborator cancels. -/
def StatusKept (first last : Pipeline α) (events : List (Event α)) : Prop :=
  last.stage.status = first.stage.status ∨
    first.stage.status = .active ∧ last.stage.status = .cancelled ∧ .entered .cancel ∈ events

/-- Some calls are made by the work on signals, and what collaborators do in the middle of them
touches neither the open batch nor, unless one of them cancels, the status. -/
structure Interlude (first last : Pipeline α) (events : List (Event α))
    (calls : List (Outbound α)) : Prop extends Passage first last events calls where
  batch_eq : last.stage.batch = first.stage.batch
  status_kept : StatusKept first last events

section Compose

variable {first middle last : Pipeline α} {events earlier later : List (Event α)}
  {calls others : List (Outbound α)}

theorem Passage.trans (before : Passage first middle earlier calls)
    (after : Passage middle last later others) :
    Passage first last (earlier ++ later) (calls ++ others) where
  chronicle_eq := by rw [after.chronicle_eq, before.chronicle_eq, List.append_assoc]
  spoken_eq := by rw [spoken_append, before.spoken_eq, after.spoken_eq]
  uncharged := by
    have moved := after.uncharged
    rw [Uncharged, before.uncharged] at moved
    rw [Uncharged, moved, askedIn_append, List.foldl_append]
  generation_eq := after.generation_eq.trans before.generation_eq

theorem StatusKept.trans (before : StatusKept first middle earlier)
    (after : StatusKept middle last later) : StatusKept first last (earlier ++ later) := by
  rcases after with same | ⟨active, cancelled, called⟩
  · refine before.imp same.trans fun ⟨active, cancelled, called⟩ => ?_
    exact ⟨active, same.trans cancelled, List.mem_append_left _ called⟩
  · refine Or.inr ⟨?_, cancelled, List.mem_append_right _ called⟩
    rcases before with same | ⟨_, ended, _⟩
    · exact same.symm.trans active
    · cases ended.symm.trans active

theorem Interlude.refl (pipeline : Pipeline α) : Interlude pipeline pipeline [] [] where
  chronicle_eq := (List.append_nil _).symm
  spoken_eq := rfl
  uncharged := rfl
  generation_eq := rfl
  batch_eq := rfl
  status_kept := Or.inl rfl

theorem Interlude.trans (before : Interlude first middle earlier calls)
    (after : Interlude middle last later others) :
    Interlude first last (earlier ++ later) (calls ++ others) where
  toPassage := before.toPassage.trans after.toPassage
  batch_eq := after.batch_eq.trans before.batch_eq
  status_kept := before.status_kept.trans after.status_kept

/-- A stage that was active is active still, or was cancelled. -/
theorem StatusKept.of_active (kept : StatusKept first last events)
    (active : first.stage.status = .active) :
    last.stage.status = .active ∨
      last.stage.status = .cancelled ∧ .entered .cancel ∈ events :=
  kept.imp (·.trans active) And.right

/-- A stage that had ended has not changed. -/
theorem StatusKept.of_ended (kept : StatusKept first last events)
    (ended : first.stage.status ≠ .active) : last.stage.status = first.stage.status :=
  kept.resolve_right fun ⟨active, _⟩ => ended active

end Compose

/-! ## What collaborators do -/

section Outer

variable {pipeline : Pipeline α} {task : Task α} {stage : Stage α} {timer : Timer UInt64}
  {events : List (Event α)} {tasks : List (Task α)}

theorem isOuter_of_isFree {task : Task α} (free : task.isFree = true) : task.isOuter = true := by
  rw [Task.isOuter, (not_isInner_of_isFree free).1, (not_isInner_of_isFree free).2]
  rfl

theorem isOuter_acts (actions : List (Action α)) :
    ∀ task ∈ actions.map Task.act, task.isOuter = true :=
  fun task member => isOuter_of_isFree (isFree_acts actions task member)

theorem isOuter_cancelProducerTasks (pipeline : Pipeline α) :
    ∀ task ∈ pipeline.cancelProducerTasks, task.isOuter = true :=
  forall_cancelProducerTasks pipeline fun _ => rfl

/-- While somebody is at work on the queue, what collaborators do leads to nothing else. -/
theorem Effect.isOuter (effect : Effect pipeline task stage timer events tasks)
    (outer : task.isOuter = true) (busy : pipeline.stage.work ≠ 0) :
    ∀ task ∈ tasks, task.isOuter = true := by
  have asleep : wakeTasks pipeline.stage = [] := if_neg busy
  cases effect with
  | free aside inert allFree => exact fun task member => isOuter_of_isFree (allFree task member)
  | called actions => exact isOuter_acts actions
  | enteredSignal announces =>
      rw [asleep]
      exact List.forall_mem_nil _
  | announced =>
      rw [asleep]
      exact List.forall_mem_nil _
  | cancelled active =>
      exact List.forall_mem_append.mpr
        ⟨isOuter_cancelProducerTasks pipeline, List.forall_mem_singleton.mpr rfl⟩
  | handled first dispatch => cases outer
  | acceptedHandOff delivery => cases outer
  | refusedHandOff => cases outer
  | failed failure => cases outer
  | reportedStage => cases outer
  | alarmSet => cases outer
  | refused => cases outer
  | reportedProducer => cases outer
  | accountedMore empty more => cases outer
  | finished active => cases outer
  | _ => simp [Task.isOuter, Task.isInner, Task.isWorkOff]

/-- What collaborators do touches neither the generation nor the open batch, and of the states that
a stage may be in they bring about only that of being cancelled. -/
theorem Effect.spares (effect : Effect pipeline task stage timer events tasks)
    (outer : task.isOuter = true) (same : task.isAside = true → stage = pipeline.stage) :
    stage.generation = pipeline.stage.generation ∧ stage.batch = pipeline.stage.batch ∧
      (stage.status = pipeline.stage.status ∨
        pipeline.stage.status = .active ∧ stage.status = .cancelled ∧
          .entered .cancel ∈ events) := by
  cases effect with
  | swept aside gone =>
      rw [same aside]
      exact ⟨rfl, rfl, Or.inl rfl⟩
  | cancelled active => exact ⟨rfl, rfl, Or.inr ⟨active, rfl, List.mem_cons_self⟩⟩
  | handled first dispatch => cases outer
  | acceptedHandOff delivery => cases outer
  | failed failure => cases outer
  | finished active => cases outer
  | _ => exact ⟨rfl, rfl, Or.inl rfl⟩

theorem movement?_of_isOuter {task : Task α} (outer : task.isOuter = true) :
    task.movement? = none := by
  cases task with
  | call call => cases call <;> first | rfl | cases outer
  | _ => rfl

theorem requested_of_charge {before after : Amount} {movements : List Movement}
    (charge : Charge before after movements []) :
    after = (movements.filterMap Movement.asked?).foldl (· + ·) before := by
  cases charge with
  | none same => exact same
  | asked added => exact added

/-- What collaborators do belongs to no work on a signal. -/
theorem Effect.spoken_eq (effect : Effect pipeline task stage timer events tasks)
    (outer : task.isOuter = true) : spoken events = [] := by
  rw [spoken, effect.outbound_eq]
  cases task with
  | call call => cases call <;> first | rfl | cases outer
  | _ => rfl

end Outer

section Run

variable {config : Config} {setup : Setup α} {first last : Pipeline α} {task : Task α}
  {upper below rest : List (Task α)}

/-- As long as the queue is being worked off, the stage is held. -/
theorem Reachable.alive_of_working (reachable : Reachable config setup first)
    (working : ∃ missed, .workOff missed ∈ first.agenda) : first.alive = true := by
  obtain ⟨missed, working⟩ := working
  by_contra gone
  have outside := reachable.held.isOutside (Bool.eq_false_iff.mpr gone) _ working
  cases outside

theorem Reachable.busy_of_working (reachable : Reachable config setup first)
    (working : ∃ missed, .workOff missed ∈ first.agenda) : first.stage.work ≠ 0 := by
  obtain ⟨missed, working⟩ := working
  obtain ⟨positive, le⟩ := reachable.inOrder.missed_le missed working
  omega

theorem interlude_step (reachable : Reachable config setup first)
    (agenda_eq : first.agenda = task :: rest) (outer : task.isOuter = true)
    (working : ∃ missed, .workOff missed ∈ rest) :
    ∃ events tasks, Interlude first first.step events [] ∧ first.step.agenda = tasks ++ rest ∧
      ∀ task ∈ tasks, task.isOuter = true := by
  have held : first.step.alive = true := by
    obtain ⟨_, _, _, tasks, _, becomes⟩ := exists_step_effect agenda_eq
    apply reachable.step.alive_of_working
    rw [becomes.agenda_eq]
    exact working.imp fun _ => List.mem_append_right tasks
  obtain ⟨stage, timer, events, tasks, effect, becomes, same⟩ := exists_held_effect agenda_eq held
  have busy := reachable.busy_of_working
    (agenda_eq ▸ working.imp fun _ => List.mem_cons_of_mem task)
  have stillOuter := effect.isOuter outer busy
  obtain ⟨generation_eq, batch_eq, status_kept⟩ := effect.spares outer same
  have charge := effect.charge (movement?_of_isOuter outer)
  have undue : dueMovements tasks = [] := by
    cases tasks with
    | nil => rfl
    | cons task others =>
        rw [dueMovements, List.head?_cons, Option.bind_some,
          movement?_of_isOuter (stillOuter task List.mem_cons_self)]
        rfl
  rw [undue] at charge
  refine ⟨events, tasks, ?_, becomes.agenda_eq, stillOuter⟩
  rw [← becomes.stage_eq] at generation_eq batch_eq status_kept charge
  exact
    { chronicle_eq := becomes.chronicle_eq
      spoken_eq := effect.spoken_eq outer
      uncharged := requested_of_charge charge
      generation_eq := generation_eq
      batch_eq := batch_eq
      status_kept := status_kept }

/-- Until the collaborators return, nothing of the work on the signal happens. -/
theorem Clears.interlude (clears : Clears below first last)
    (reachable : Reachable config setup first) (agenda_eq : first.agenda = upper ++ below)
    (outer : ∀ task ∈ upper, task.isOuter = true) (working : ∃ missed, .workOff missed ∈ below) :
    ∃ events, Interlude first last events [] := by
  obtain ⟨_, _, interlude, _⟩ := clears.works.preserve agenda_eq
    (fun moment left => (∃ events, Interlude first moment events []) ∧
      ∀ task ∈ left, task.isOuter = true) ⟨⟨[], .refl first⟩, outer⟩ <| by
    rintro moment task left earlier stack_eq ⟨⟨events, interlude⟩, outer⟩
    have ⟨now, later⟩ := List.forall_mem_cons.mp outer
    obtain ⟨more, tasks, goesOn, next_eq, added⟩ :=
      interlude_step (earlier.reachable reachable) stack_eq now
        (working.imp fun _ => List.mem_append_right left)
    exact ⟨tasks ++ left, next_eq.trans (List.append_assoc _ _ _).symm,
      ⟨events ++ more, interlude.trans goesOn⟩, List.forall_mem_append.mpr ⟨added, later⟩⟩
  exact interlude

/-! ## Calls of collaborators -/

theorem interlude_step_of_call {call : Outbound α} (agenda_eq : first.agenda = .call call :: rest)
    (inner : (Task.call call).isInner = true) :
    ∃ tasks, Interlude first first.step [.called call] [call] ∧
      first.step.agenda = tasks ++ rest ∧ ∀ task ∈ tasks, task.isOuter = true := by
  obtain ⟨stage, timer, events, tasks, effect, becomes⟩ := exists_step_effect agenda_eq
  cases effect with
  | free aside inert allFree => cases aside
  | swept aside gone => cases aside
  | called actions =>
      refine ⟨_, ?_, becomes.agenda_eq, isOuter_acts actions⟩
      refine ⟨⟨becomes.chronicle_eq, ?_, ?_, ?_⟩, ?_, Or.inl ?_⟩
      · exact List.filter_cons_of_pos inner
      · rw [Uncharged, becomes.stage_eq]
        cases call <;> rfl
      all_goals rw [becomes.stage_eq]

/-- Calls of the work on a signal are made one after the other, and each returns before the next
one is made. -/
theorem Clears.calls {calls : List (Outbound α)} (clears : Clears below first last)
    (reachable : Reachable config setup first)
    (agenda_eq : first.agenda = calls.map Task.call ++ below)
    (inner : ∀ call ∈ calls, (Task.call call).isInner = true)
    (working : ∃ missed, .workOff missed ∈ below) :
    ∃ events, Interlude first last events calls := by
  induction calls generalizing first with
  | nil =>
      rw [clears.eq_of_agenda agenda_eq]
      exact ⟨[], .refl first⟩
  | cons call calls ih =>
      have ⟨now, later⟩ := List.forall_mem_cons.mp inner
      have stack_eq : first.agenda = [Task.call call] ++ (calls.map Task.call ++ below) := agenda_eq
      obtain ⟨between, returns, clears⟩ := clears.split stack_eq
      obtain ⟨tasks, made, stacked, outer⟩ := interlude_step_of_call agenda_eq now
      obtain ⟨events, answered⟩ := (returns.next agenda_eq).interlude reachable.step stacked outer
        (working.imp fun _ => List.mem_append_right _)
      obtain ⟨more, others⟩ := ih clears (returns.works.reachable reachable) returns.agenda_eq later
      exact ⟨_, (made.trans answered).trans others⟩

/-! ## Discarding and failing -/

/-- The calls that give items to a discard hook. -/
def hookCalls (hook : DiscardHook) (items : List α) : List (Outbound α) :=
  (hook.batchCalls items).map .discard

section Hook

variable (hook : DiscardHook) (items : List α)

theorem hookTasks_eq : hookTasks hook items = (hookCalls hook items).map .call :=
  List.map_map.symm

theorem isInner_hookCalls : ∀ call ∈ hookCalls hook items, (Task.call call).isInner = true := by
  intro call member
  obtain ⟨discard, _, rfl⟩ := List.mem_map.mp member
  rfl

theorem heard_hookCalls : (hookCalls hook items).filterMap Outbound.heard? = [] := by
  rw [List.filterMap_eq_nil_iff]
  intro call member
  obtain ⟨discard, _, rfl⟩ := List.mem_map.mp member
  rfl

/-- Every item is given to the hook once, in order. -/
theorem discards_hookCalls : (hookCalls hook items).flatMap Outbound.discards = items := by
  have single : ((items.map Discard.item).map Outbound.discard).flatMap Outbound.discards =
      items := by
    induction items with
    | nil => rfl
    | cons item items ih => exact congrArg (item :: ·) ih
  cases hook with
  | ignore => exact single
  | each => exact single
  | bulk => exact List.append_nil items

end Hook

/-- A part of the work that calls nobody and moves no demand. -/
theorem passage_of_becomes {stage : Stage α} {timer : Timer UInt64} {events : List (Event α)}
    {tasks : List (Task α)}
    (becomes : Becomes { first with agenda := rest } first.step stage timer events tasks)
    (aside : ∀ event ∈ events, event.isAside = true)
    (requested_eq : stage.ledger.requested = first.stage.ledger.requested)
    (generation_eq : stage.generation = first.stage.generation) :
    Passage first first.step events [] where
  chronicle_eq := becomes.chronicle_eq
  spoken_eq := by
    rw [spoken, filterMap_eq_nil_of_isAside Event.outbound?_of_isAside aside]
    rfl
  uncharged := by
    rw [Uncharged, askedIn, filterMap_eq_nil_of_isAside movement?_of_isAside aside,
      becomes.stage_eq]
    exact requested_eq
  generation_eq := becomes.stage_eq ▸ generation_eq

/-- What becomes of a failure that the stage found: the stage ends and the consumer is told, or the
stage had ended before, and nobody is told. -/
inductive Fails (hook : DiscardHook) (error : StreamError) (first last : Pipeline α) :
    List (Outbound α) → Prop where
  | told (active : first.stage.status = .active) (errored : last.stage.status = .errored) :
      Fails hook error first last (hookCalls hook [] ++ [.error error])
  | late (ended : first.stage.status ≠ .active)
      (status_eq : last.stage.status = first.stage.status) : Fails hook error first last []

/-- The consumer is told of a failure after the producer was cancelled. -/
theorem Clears.reportError {error : StreamError} (clears : Clears below first last)
    (reachable : Reachable config setup first)
    (agenda_eq : first.agenda = .reportError error .stage :: below)
    (ended : first.stage.status ≠ .active) (working : ∃ missed, .workOff missed ∈ below) :
    ∃ events, Passage first last events [.error error] ∧
      last.stage.status = first.stage.status := by
  have clears := clears.next agenda_eq
  obtain ⟨stage, timer, events, tasks, effect, becomes⟩ := exists_step_effect agenda_eq
  cases effect with
  | free aside inert allFree => cases aside
  | swept aside gone => cases aside
  | reportedStage =>
      have logged := passage_of_becomes becomes (List.forall_mem_singleton.mpr rfl) rfl rfl
      have status_eq : first.step.stage.status = first.stage.status :=
        congrArg Stage.status becomes.stage_eq
      have stack_eq : first.step.agenda =
          first.cancelProducerTasks ++ ([Task.call (.error error)] ++ below) :=
        becomes.agenda_eq.trans (List.append_assoc _ _ _)
      obtain ⟨between, returns, clears⟩ := clears.split stack_eq
      obtain ⟨_, cancels⟩ := returns.interlude reachable.step stack_eq
        (isOuter_cancelProducerTasks first) (working.imp fun _ => List.mem_append_right _)
      have call_eq : between.agenda = [Outbound.error error].map .call ++ below :=
        returns.agenda_eq
      obtain ⟨_, tells⟩ := clears.calls (returns.works.reachable reachable.step) call_eq
        (List.forall_mem_singleton.mpr rfl) working
      have still := (cancels.trans tells).status_kept.of_ended (status_eq ▸ ended)
      exact ⟨_, logged.trans (cancels.trans tells).toPassage, still.trans status_eq⟩

theorem Clears.endWith {error : StreamError} (clears : Clears below first last)
    (reachable : Reachable config setup first)
    (agenda_eq : first.agenda = .endWith error .stage :: below) (empty : first.stage.batch = [])
    (working : ∃ missed, .workOff missed ∈ below) :
    ∃ events calls, Passage first last events calls ∧
      Fails setup.hook error first last calls := by
  have hook_eq : first.hook = setup.hook := congrArg Nature.hook reachable.nature_eq
  have clears := clears.next agenda_eq
  obtain ⟨stage, timer, events, tasks, effect, becomes⟩ := exists_step_effect agenda_eq
  cases effect with
  | free aside inert allFree => cases aside
  | swept aside gone => cases aside
  | failed failure =>
      have ends := passage_of_becomes becomes failure.aside
      have status_eq := congrArg Stage.status becomes.stage_eq
      cases failure with
      | late ended =>
          rw [clears.eq_of_agenda becomes.agenda_eq]
          exact ⟨_, _, ends rfl rfl, .late ended status_eq⟩
      | ended active =>
          have ended : first.step.stage.status ≠ .active := by simp [status_eq]
          have stack_eq : first.step.agenda =
              (hookCalls setup.hook []).map .call ++
                ([Task.reportError error .stage] ++ below) := by
            rw [becomes.agenda_eq, List.append_assoc, ← hookTasks_eq, ← hook_eq, ← empty]
          obtain ⟨between, returns, clears⟩ := clears.split stack_eq
          obtain ⟨_, discards⟩ := returns.calls reachable.step stack_eq (isInner_hookCalls _ _)
            (working.imp fun _ => List.mem_append_right _)
          have still := discards.status_kept.of_ended ended
          obtain ⟨_, tells, same⟩ := clears.reportError (returns.works.reachable reachable.step)
            returns.agenda_eq (still ▸ ended) working
          exact ⟨_, _, ((ends rfl rfl).trans discards.toPassage).trans tells,
            .told active ((same.trans still).trans status_eq)⟩

/-- Items are discarded, and then the stage fails. -/
theorem Clears.failure {error : StreamError} {items : List α} (clears : Clears below first last)
    (reachable : Reachable config setup first)
    (agenda_eq : first.agenda = failureTasks setup.hook items error ++ below)
    (empty : first.stage.batch = []) (working : ∃ missed, .workOff missed ∈ below) :
    ∃ between events more calls, Interlude first between events (hookCalls setup.hook items) ∧
      Passage between last more calls ∧ Fails setup.hook error between last calls := by
  have stack_eq : first.agenda =
      (hookCalls setup.hook items).map .call ++ ([Task.endWith error .stage] ++ below) := by
    rw [agenda_eq, failureTasks, List.append_assoc, hookTasks_eq]
  obtain ⟨between, returns, clears⟩ := clears.split stack_eq
  obtain ⟨events, discards⟩ := returns.calls reachable stack_eq (isInner_hookCalls _ _)
    (working.imp fun _ => List.mem_append_right _)
  obtain ⟨more, calls, passes, fails⟩ := clears.endWith (returns.works.reachable reachable)
    returns.agenda_eq (discards.batch_eq.trans empty) working
  exact ⟨between, events, more, calls, discards, passes, fails⟩

end Run

end TimedBatch.Pipeline
