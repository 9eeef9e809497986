import TimedBatch.Proofs.Alarms
import TimedBatch.Proofs.Holding

/-!
# When things happen

Every entry of the journal stands under the reading of the clock, and only the clock itself moves
it. So what a task adds to the journal stands under the reading that the task leaves behind, and the
times of all arrivals and departures can be followed from task to task.
-/

namespace TimedBatch

variable {α : Type}

/-- The items that an event passes to the stage. -/
def Event.arriving : Event α → List α
  | .entered call => call.item?.toList
  | _ => []

/-- The items that an event gives to the consumer or to the discard hook. -/
def Event.leaving : Event α → List α
  | .called call => call.batch?.getD [] ++ call.discards
  | _ => []

namespace Pipeline

/-- The items that entries move, each under the reading of the clock. -/
def timed (moved : Event α → List α) (entries : List (Entry α)) : List (Duration × α) :=
  entries.flatMap fun entry => (moved entry.event).map fun item => (entry.time, item)

/-- The entries of the journal, in their order. -/
def timeline (pipeline : Pipeline α) : List (Entry α) :=
  pipeline.journal.reverse

/-- When which items were passed to the stage. -/
def arrivals (pipeline : Pipeline α) : List (Duration × α) :=
  timed Event.arriving pipeline.timeline

/-- When which items were given to the consumer or to the discard hook. -/
def departures (pipeline : Pipeline α) : List (Duration × α) :=
  timed Event.leaving pipeline.timeline

theorem timed_append (moved : Event α → List α) (earlier later : List (Entry α)) :
    timed moved (earlier ++ later) = timed moved earlier ++ timed moved later :=
  List.flatMap_append

/-- What happens at one instant moves its items at this instant. -/
theorem timed_map (moved : Event α → List α) (time : Duration) (events : List (Event α)) :
    timed moved (events.map (Entry.mk time)) =
      (events.flatMap moved).map fun item => (time, item) := by
  rw [timed, List.flatMap_map, List.map_flatMap]

theorem map_event_timeline (pipeline : Pipeline α) :
    pipeline.timeline.map Entry.event = pipeline.chronicle :=
  rfl

/-! ## Nobody but the clock moves the clock -/

theorem now_askTimer (pipeline : Pipeline α) : pipeline.askTimer.2.now = pipeline.timer.now := by
  have asked := pipeline.timer.now_schedule pipeline.stage.config.timeSpan
    pipeline.stage.generation
  rw [askTimer]
  split
  · rfl
  · split <;> rename_i scheduled <;> rw [scheduled] at asked
    · exact asked
    · split <;> exact asked

/-- A pipeline goes on while the clock stands still. -/
structure Stamped (pipeline next : Pipeline α) : Prop where
  now_eq : next.timer.now = pipeline.timer.now
  journal_eq : ∃ events : List (Event α),
    next.journal = events.map (Entry.mk pipeline.timer.now) ++ pipeline.journal

namespace Stamped

variable {pipeline next last : Pipeline α}

theorem of_eq (now_eq : next.timer.now = pipeline.timer.now)
    (journal_eq : next.journal = pipeline.journal) : Stamped pipeline next :=
  ⟨now_eq, [], journal_eq⟩

theorem trans (earlier : Stamped pipeline next) (later : Stamped next last) :
    Stamped pipeline last := by
  obtain ⟨first, first_eq⟩ := earlier.journal_eq
  obtain ⟨second, second_eq⟩ := later.journal_eq
  refine ⟨later.now_eq.trans earlier.now_eq, second ++ first, ?_⟩
  rw [second_eq, first_eq, earlier.now_eq, List.map_append, List.append_assoc]

theorem refl (pipeline : Pipeline α) : Stamped pipeline pipeline :=
  of_eq rfl rfl

theorem note (stamped : Stamped pipeline next) (event : Event α) :
    Stamped pipeline (next.note event) :=
  stamped.trans ⟨rfl, [event], rfl⟩

theorem todo (stamped : Stamped pipeline next) (tasks : List (Task α)) :
    Stamped pipeline (next.todo tasks) :=
  stamped.trans (of_eq rfl rfl)

theorem withStage (stamped : Stamped pipeline next) (stage : Stage α) :
    Stamped pipeline (next.withStage stage) :=
  stamped.trans (of_eq rfl rfl)

theorem cancelAlarm (stamped : Stamped pipeline next) : Stamped pipeline next.cancelAlarm := by
  refine stamped.trans (of_eq ?_ (journal_cancelAlarm next))
  rw [timer_cancelAlarm]
  cases next.stage.alarm <;> rfl

theorem discardBatch (stamped : Stamped pipeline next) (behind : List (Task α)) :
    Stamped pipeline (next.discardBatch behind) :=
  (stamped.withStage _).todo _

theorem closeBatch (stamped : Stamped pipeline next) (trigger : Trigger) :
    Stamped pipeline (next.closeBatch trigger) :=
  ((stamped.withStage _).cancelAlarm.withStage _).todo _

theorem endWith (stamped : Stamped pipeline next) (error : StreamError) (origin : Origin) :
    Stamped pipeline (next.endWith error origin) := by
  rw [Pipeline.endWith]
  split
  · exact (stamped.withStage _).cancelAlarm.discardBatch _
  · exact stamped.note _

theorem deliver (stamped : Stamped pipeline next) (handOff : HandOff α) :
    Stamped pipeline (next.deliver handOff) := by
  rw [Pipeline.deliver]
  split
  · split
    · exact stamped.cancelAlarm.todo _
    · exact ((stamped.withStage _).note _).todo _
  · exact stamped.todo _

theorem takeIn (stamped : Stamped pipeline next) (item : α) :
    Stamped pipeline (next.takeIn item) := by
  rw [Pipeline.takeIn]
  split
  · split
    · exact stamped.todo _
    · dsimp only
      split
      · exact ((stamped.withStage _).note _).closeBatch _
      · exact (stamped.withStage _).note _
  · exact stamped.todo _

theorem endSpan (stamped : Stamped pipeline next) (generation : UInt64) :
    Stamped pipeline (next.endSpan generation) := by
  rw [Pipeline.endSpan]
  split
  · split
    · exact stamped.note _
    · split
      · exact (stamped.note _).cancelAlarm.todo _
      · exact stamped.closeBatch _
  · exact stamped

theorem deliverRest (stamped : Stamped pipeline next) : Stamped pipeline next.deliverRest := by
  rw [Pipeline.deliverRest]
  split
  · dsimp only
    split
    · exact stamped.cancelAlarm.todo _
    · exact (stamped.cancelAlarm.withStage _).deliver _
  · exact stamped

theorem discardRest (stamped : Stamped pipeline next) : Stamped pipeline next.discardRest := by
  rw [Pipeline.discardRest]
  split
  · exact stamped.cancelAlarm.discardBatch _
  · exact (stamped.cancelAlarm.note _).discardBatch _

theorem handle (stamped : Stamped pipeline next) (signal : Signal α) :
    Stamped pipeline (next.handle signal) := by
  cases signal with
  | subscribed =>
      rw [Pipeline.handle, setFirstAlarm]
      split
      · exact stamped.todo _
      · exact stamped
  | item item => exact stamped.takeIn item
  | tick generation => exact stamped.endSpan generation
  | completed => exact stamped.deliverRest
  | failed error origin => exact stamped.endWith error origin
  | cancelled => exact stamped.discardRest

theorem announce (stamped : Stamped pipeline next) (signal : Signal α) :
    Stamped pipeline (next.announce signal) := by
  simp only [Pipeline.announce]
  split
  · exact ((stamped.withStage _).note _).todo _
  · exact (stamped.withStage _).note _

theorem enter (stamped : Stamped pipeline next) (call : Inbound α) :
    Stamped pipeline (next.enter call) := by
  have entered := stamped.note (.entered call)
  cases call with
  | subscribe producer =>
      simp only [Pipeline.enter, subscribe]
      split
      · exact entered.todo _
      · exact (entered.withStage _).todo _
  | request batches =>
      simp only [Pipeline.enter, request]
      split
      · exact entered
      · split
        · split
          · exact ((entered.withStage _).withStage _).todo _
          · exact entered.withStage _
        · exact entered.withStage _
  | cancel =>
      simp only [Pipeline.enter, Pipeline.cancel]
      split
      · exact (entered.withStage _).todo _
      · exact entered
  | next item => exact entered.announce _
  | error error => exact entered.announce _
  | complete => exact entered.announce _
  | tick generation => exact entered.announce _

theorem sweep (stamped : Stamped pipeline next) : Stamped pipeline next.sweep := by
  rw [Pipeline.sweep]
  split
  · exact stamped
  · exact stamped.cancelAlarm.withStage _

theorem answered (stamped : Stamped pipeline next) (outcome : Except TimerRejection CancelToken)
    (handOff : Option (HandOff α)) : Stamped pipeline (next.answered outcome handOff) := by
  cases outcome with
  | error rejection => exact stamped.todo _
  | ok token =>
      cases handOff with
      | none => exact stamped.withStage _
      | some waiting => exact (stamped.withStage _).deliver waiting

theorem act (stamped : Stamped pipeline next) (action : Action α) :
    Stamped pipeline (next.act action) := by
  have same : ∀ {last : Pipeline α}, last.timer.now = next.timer.now →
      last.journal = next.journal → Stamped pipeline last :=
    fun now_eq journal_eq => stamped.trans (of_eq now_eq journal_eq)
  cases action with
  | dropStage =>
      have given : Stamped pipeline { next with owned := false } := same rfl rfl
      exact given.sweep
  | diagnose =>
      rw [Pipeline.act]
      split
      · exact stamped.note _
      · exact stamped
  | inform =>
      rw [Pipeline.act]
      split
      · exact stamped.note _
      · exact stamped
  | mark content => exact stamped.note _
  | shutDownTimer => exact same rfl rfl
  | refuse rejection => exact same rfl rfl
  | accept => exact same rfl rfl
  | _ =>
      simp only [Pipeline.act, onStage, onSubscription, moveClock]
      split <;> exact same rfl rfl

end Stamped

section Step

variable {pipeline : Pipeline α} {task : Task α}

/-- A task that is not the clock leaves the clock as it is. -/
theorem stamped_perform (pipeline : Pipeline α) (other : ∀ instant, task ≠ .advance instant) :
    Stamped pipeline (pipeline.perform task) := by
  have stamped := Stamped.refl pipeline
  cases task with
  | act action => exact stamped.act action
  | enter call => exact stamped.enter call
  | release =>
      have freed : Stamped pipeline { pipeline with holders := pipeline.holders - 1 } :=
        .of_eq rfl rfl
      exact freed.sweep
  | announce signal => exact stamped.announce signal
  | workOff missed =>
      simp only [perform, workOff]
      split
      · exact (((stamped.withStage _).note _).todo _).handle _
      · split
        · exact stamped.withStage _
        · exact (stamped.withStage _).todo _
  | firstRequest producer =>
      simp only [perform, firstRequest]
      split
      · split
        · exact stamped
        · exact (stamped.withStage _).todo _
      · exact stamped
  | setAlarm handOff => exact .of_eq (now_askTimer pipeline) rfl
  | answered outcome handOff => exact stamped.answered outcome handOff
  | endWith error origin => exact stamped.endWith error origin
  | reportError error origin =>
      cases origin with
      | producer => exact stamped.todo _
      | stage => exact (stamped.note _).todo _
  | finish =>
      simp only [perform, finish]
      split
      · exact ((stamped.withStage _).note _).todo _
      · exact stamped
  | call call =>
      simp only [perform, Pipeline.call]
      split
      · exact (stamped.note (.called call)).trans (.of_eq rfl rfl)
      · exact stamped.note _
  | log line => exact stamped.note _
  | advance instant => exact absurd rfl (other instant)

/-- What the clock adds to the journal stands under the new reading. -/
theorem journal_advance (pipeline : Pipeline α) (instant : Duration) :
    ∃ events : List (Event α), (pipeline.advance instant).journal =
      events.map (Entry.mk (pipeline.advance instant).timer.now) ++ pipeline.journal := by
  rw [advance]
  split
  · exact ⟨[], rfl⟩
  · dsimp only
    split
    · exact ⟨[], rfl⟩
    · split
      · exact ⟨[.fired], rfl⟩
      · exact ⟨[.fired], rfl⟩

theorem journal_perform (pipeline : Pipeline α) (task : Task α) :
    ∃ events : List (Event α), (pipeline.perform task).journal =
      events.map (Entry.mk (pipeline.perform task).timer.now) ++ pipeline.journal := by
  by_cases clock : ∃ instant, task = .advance instant
  · obtain ⟨instant, rfl⟩ := clock
    exact journal_advance pipeline instant
  · have stamped := stamped_perform pipeline (not_exists.mp clock)
    rw [stamped.now_eq]
    exact stamped.journal_eq

/-- What a step adds stands under the reading of the clock that the step leaves behind. -/
theorem timeline_step {rest : List (Task α)} (agenda_eq : pipeline.agenda = task :: rest)
    {stage : Stage α} {timer : Timer UInt64} {events : List (Event α)} {tasks : List (Task α)}
    (becomes : Becomes { pipeline with agenda := rest } pipeline.step stage timer events tasks) :
    pipeline.step.timeline = pipeline.timeline ++ events.map (Entry.mk timer.now) := by
  obtain ⟨added, journal_eq⟩ := journal_perform { pipeline with agenda := rest } task
  rw [← step_of_agenda agenda_eq, becomes.timer_eq] at journal_eq
  have timeline_eq : pipeline.step.timeline =
      pipeline.timeline ++ added.reverse.map (Entry.mk timer.now) := by
    rw [timeline, journal_eq, List.reverse_append, List.map_reverse]
    rfl
  have same : pipeline.chronicle ++ added.reverse = pipeline.chronicle ++ events := by
    have chronicle_eq := becomes.chronicle_eq
    rw [← map_event_timeline, timeline_eq, List.map_append, List.map_map] at chronicle_eq
    exact (congrArg (pipeline.chronicle ++ ·) (List.map_id added.reverse)).symm.trans chronicle_eq
  rw [timeline_eq, List.append_cancel_left same]

end Step

/-! ## The clock moves beneath everything else -/

end Pipeline

/-- Whether an action moves the clock. -/
def Action.movesClock : Action α → Bool
  | .advance _ => true
  | .advanceTo _ => true
  | _ => false

def Task.movesClock : Task α → Bool
  | .act action => action.movesClock
  | .advance _ => true
  | _ => false

namespace Pipeline

theorem movesClock_of_isPart {task : Task α} (part : isPart task = true) :
    task.movesClock = false := by
  cases task <;> first | rfl | cases part

/-- The clock is moved by nothing that stands above another task, and never backwards. -/
structure Paced (pipeline : Pipeline α) : Prop where
  beneath : pipeline.agenda.Pairwise fun upper _ => upper.movesClock = false
  ahead : ∀ instant, .advance instant ∈ pipeline.agenda → pipeline.timer.now ≤ instant

/-- A reaction does not move the clock. -/
def Unhurried (reactions : CallKind → Nat → List (Action α)) : Prop :=
  ∀ kind earlier, ∀ action ∈ reactions kind earlier, action.movesClock = false

section Paced

variable {pipeline : Pipeline α} {task : Task α} {rest : List (Task α)}

theorem le_add (instant span : Duration) : instant ≤ instant + span := by
  have bound := instant.nanos_le
  rw [Duration.le_def, Duration.nanos_add]
  omega

/-- The calls of the stage that an action makes. -/
def callsOf (pipeline : Pipeline α) : Action α → List (Inbound α)
  | .subscribe => [.subscribe pipeline.producers]
  | .next items => items.map .next
  | .error error => [.error error]
  | .complete => [.complete]
  | .tick generation => [.tick generation]
  | .flushNow => [.tick pipeline.stage.published]
  | .request batches => [.request batches]
  | .cancel => [.cancel]
  | _ => []

/-- What an action may put on the agenda. -/
inductive FollowUp (pipeline : Pipeline α) (action : Action α) : Task α → Prop where
  | enter {call : Inbound α} (made : call ∈ pipeline.callsOf action) :
      FollowUp pipeline action (.enter call)
  | release : FollowUp pipeline action .release
  | log (line : LogLine) : FollowUp pipeline action (.log line)
  | bypass (producer : Nat) (items : Amount) :
      FollowUp pipeline action (.call (.bypass producer items))
  | advance {instant : Duration} (moves : action.movesClock = true)
      (forward : pipeline.timer.now ≤ instant) : FollowUp pipeline action (.advance instant)

/-- An action puts its follow-ups on the agenda, and no more than one where it moves the clock. -/
def PutsOn (pipeline : Pipeline α) (action : Action α) (agenda : List (Task α)) : Prop :=
  ∃ tasks, agenda = tasks ++ pipeline.agenda ∧ (∀ task ∈ tasks, FollowUp pipeline action task) ∧
    (action.movesClock = true → tasks.length ≤ 1)

theorem putsOn_act (pipeline : Pipeline α) (action : Action α) :
    PutsOn pipeline action (pipeline.act action).agenda := by
  have nothing : PutsOn pipeline action pipeline.agenda :=
    ⟨[], rfl, List.forall_mem_nil _, fun _ => Nat.zero_le 1⟩
  have hold : ∀ {tasks : List (Task α)}, action.movesClock = false →
      (∀ task ∈ tasks, FollowUp pipeline action task) →
      PutsOn pipeline action (tasks ++ [Task.release] ++ pipeline.agenda) := by
    intro tasks still each
    refine ⟨_, rfl, List.forall_mem_append.mpr ⟨each, List.forall_mem_singleton.mpr .release⟩, ?_⟩
    intro moves
    cases still.symm.trans moves
  have enter : ∀ {tasks : List (Task α)}, action.movesClock = false →
      tasks = (pipeline.callsOf action).map Task.enter →
      PutsOn pipeline action (tasks ++ [Task.release] ++ pipeline.agenda) := by
    rintro tasks still rfl
    refine hold still fun task member => ?_
    obtain ⟨call, made, rfl⟩ := List.mem_map.mp member
    exact .enter made
  have move : ∀ {instant : Duration}, action.movesClock = true → pipeline.timer.now ≤ instant →
      PutsOn pipeline action (pipeline.moveClock instant).agenda := by
    intro instant moves forward
    rw [moveClock]
    split
    · exact ⟨[.advance instant], rfl, List.forall_mem_singleton.mpr (.advance moves forward),
        fun _ => Nat.le_refl 1⟩
    · exact nothing
  cases action with
  | advance span => exact move rfl (le_add _ _)
  | advanceTo instant => exact move rfl (le_add _ _)
  | next items =>
      rw [act, onStage]
      split
      · exact enter rfl (by rw [callsOf, List.map_map]; rfl)
      · exact nothing
  | requestProducer items =>
      rw [act, onStage]
      split
      · refine hold rfl fun task member => ?_
        obtain ⟨producer, _, rfl⟩ := List.mem_map.mp member
        exact .bypass producer items
      · exact nothing
  | shutDownTimer =>
      refine ⟨_, rfl, fun task member => ?_, by simp [Action.movesClock]⟩
      obtain ⟨line, _, rfl⟩ := List.mem_map.mp member
      exact .log line
  | dropStage =>
      rw [act, dropStage, agenda_sweep]
      exact nothing
  | refuse rejection => exact nothing
  | accept => exact nothing
  | mark content => exact nothing
  | diagnose =>
      rw [act]
      split <;> exact nothing
  | inform =>
      rw [act]
      split <;> exact nothing
  | _ =>
      simp only [act, onStage, onSubscription]
      split
      · exact enter rfl rfl
      · exact nothing

theorem FollowUp.movesClock {action : Action α} (followUp : FollowUp pipeline action task)
    (still : action.movesClock = false) : task.movesClock = false := by
  cases followUp with
  | advance moves forward => cases still.symm.trans moves
  | _ => rfl

/-- Tasks that leave the clock alone are put on the agenda. -/
theorem Paced.push {next : Pipeline α} {tasks : List (Task α)} (paced : Paced pipeline)
    (popped : pipeline.agenda = task :: rest) (agenda_eq : next.agenda = tasks ++ rest)
    (now_eq : next.timer.now = pipeline.timer.now)
    (still : ∀ task ∈ tasks, task.movesClock = false) : Paced next := by
  have beneath := paced.beneath
  rw [popped] at beneath
  constructor
  · rw [agenda_eq, List.pairwise_append]
    refine ⟨?_, (List.pairwise_cons.mp beneath).2, fun upper member _ _ => still upper member⟩
    exact List.Pairwise.imp_of_mem (fun member _ _ => still _ member)
      (List.pairwise_of_forall fun _ _ => trivial)
  · intro instant member
    rw [agenda_eq] at member
    rcases List.mem_append.mp member with member | member
    · cases still _ member
    · rw [now_eq]
      exact paced.ahead instant (popped ▸ List.mem_cons_of_mem _ member)

theorem Paced.rest_eq_nil (paced : Paced pipeline) (popped : pipeline.agenda = task :: rest)
    (moves : task.movesClock = true) : rest = [] := by
  have beneath := paced.beneath
  rw [popped, List.pairwise_cons] at beneath
  refine List.eq_nil_iff_forall_not_mem.mpr fun lower member => ?_
  cases moves.symm.trans (beneath.1 lower member)

/-- The clock is set, or stops at the deadline of an alarm and goes on afterwards. -/
theorem Effect.of_advance {instant : Duration} {stage : Stage α} {timer : Timer UInt64}
    {events : List (Event α)} {tasks : List (Task α)}
    (effect : Effect pipeline (.advance instant) stage timer events tasks) :
    stage = pipeline.stage ∧
      ((pipeline.timer.takeDue instant = none ∧ timer = pipeline.timer.setClock instant ∧
          tasks = []) ∨
        ∃ alarm upper, pipeline.timer.takeDue instant = some (alarm, timer) ∧
          tasks = upper ++ [Task.advance instant] ∧
          ∀ task ∈ upper, task.isFree = true ∧ task.movesClock = false) := by
  cases effect with
  | free aside inert allFree => cases aside
  | swept aside gone => cases aside
  | clockSet idle => exact ⟨rfl, Or.inl ⟨idle, rfl, rfl⟩⟩
  | alarmPassedOver due cancelled =>
      exact ⟨rfl, Or.inr ⟨_, [], due, rfl, List.forall_mem_nil _⟩⟩
  | alarmFiredLate due live gone =>
      exact ⟨rfl, Or.inr ⟨_, [], due, rfl, List.forall_mem_nil _⟩⟩
  | @alarmFired _ alarm _ due live held =>
      refine ⟨rfl, Or.inr ⟨alarm, [.enter (.tick alarm.task), .release], due, rfl, ?_⟩⟩
      exact List.forall_mem_cons.mpr ⟨⟨rfl, rfl⟩, List.forall_mem_singleton.mpr ⟨rfl, rfl⟩⟩

theorem now_takeDue {timer next : Timer UInt64} {instant : Duration} {alarm : Alarm UInt64}
    (due : timer.takeDue instant = some (alarm, next)) :
    next.now = max timer.now alarm.deadline ∧ alarm.deadline ≤ instant := by
  obtain ⟨onTime, _, _, rfl⟩ := Timer.eq_of_takeDue due
  exact ⟨rfl, onTime⟩

/-- The clock goes on at the bottom of the agenda. -/
theorem Paced.advance {instant : Duration} (paced : Paced pipeline)
    (popped : pipeline.agenda = [.advance instant]) : Paced pipeline.step := by
  have forward := paced.ahead instant (popped ▸ List.mem_singleton_self _)
  obtain ⟨stage, timer, events, tasks, effect, becomes⟩ := exists_step_effect popped
  have agenda_eq := becomes.agenda_eq
  rw [List.append_nil] at agenda_eq
  rcases effect.of_advance.2 with ⟨_, _, rfl⟩ | ⟨alarm, upper, due, rfl, still⟩
  · constructor
    · rw [agenda_eq]
      exact List.Pairwise.nil
    · intro other member
      rw [agenda_eq] at member
      cases member
  · obtain ⟨now_eq, onTime⟩ := now_takeDue due
    constructor
    · rw [agenda_eq, List.pairwise_append]
      refine ⟨?_, List.pairwise_singleton _ _, fun task member _ _ => (still task member).2⟩
      exact List.Pairwise.imp_of_mem (fun member _ _ => (still _ member).2)
        (List.pairwise_of_forall fun _ _ => trivial)
    · intro other member
      rw [agenda_eq] at member
      rcases List.mem_append.mp member with member | member
      · cases (still _ member).2
      · cases List.mem_singleton.mp member
        rw [becomes.timer_eq, now_eq, Duration.le_def, Duration.nanos_max]
        exact Nat.max_le.mpr ⟨forward, onTime⟩

/-- A pipeline with no more than one task on its agenda is paced. -/
theorem paced_of_length_le_one {next : Pipeline α} {tasks : List (Task α)}
    (agenda_eq : next.agenda = tasks) (few : tasks.length ≤ 1)
    (ahead : ∀ instant, .advance instant ∈ tasks → next.timer.now ≤ instant) : Paced next := by
  subst agenda_eq
  refine ⟨?_, ahead⟩
  cases agenda_eq : next.agenda with
  | nil => exact List.Pairwise.nil
  | cons task rest =>
      rw [agenda_eq, List.length_cons] at few
      rw [List.length_eq_zero_iff.mp (Nat.le_zero.mp (Nat.le_of_succ_le_succ few))]
      exact List.pairwise_singleton _ _

/-- The parts of a call leave the clock alone, but for what others do in the calls that it makes. -/
theorem Paced.part (paced : Paced pipeline) (popped : pipeline.agenda = task :: rest)
    (inside : isOutside task = false) (uncalled : task.outbound? = none)
    (now_eq : ({ pipeline with agenda := rest }.perform task).timer.now = pipeline.timer.now) :
    Paced ({ pipeline with agenda := rest }.perform task) := by
  obtain ⟨stage, timer, events, tasks, effect, becomes⟩ :=
    exists_effect { pipeline with agenda := rest } task
  rcases effect.added inside with parts | ⟨call, actions, rfl, _⟩
  · exact paced.push popped becomes.agenda_eq now_eq
      fun task member => movesClock_of_isPart (parts task member)
  · cases uncalled

theorem Paced.step (paced : Paced pipeline) (unhurried : Unhurried pipeline.reactions) :
    Paced pipeline.step := by
  cases agenda_eq : pipeline.agenda with
  | nil =>
      rw [step_of_atRest (List.isEmpty_iff.mpr agenda_eq)]
      exact paced
  | cons task rest =>
      by_cases clock : ∃ instant, task = .advance instant
      · obtain ⟨instant, rfl⟩ := clock
        have alone := paced.rest_eq_nil agenda_eq rfl
        exact paced.advance (alone ▸ agenda_eq)
      · have now_eq := (stamped_perform { pipeline with agenda := rest }
          (not_exists.mp clock)).now_eq
        have popped : ∀ {next : Pipeline α}, next.agenda = rest →
            next.timer.now = pipeline.timer.now → Paced next := by
          intro next next_eq same
          rw [← List.nil_append rest] at next_eq
          exact paced.push agenda_eq next_eq same (List.forall_mem_nil _)
        rw [step_of_agenda agenda_eq]
        cases task with
        | act action =>
            obtain ⟨tasks, added, each, few⟩ :=
              putsOn_act { pipeline with agenda := rest } action
            cases moves : action.movesClock with
            | false =>
                exact paced.push agenda_eq added now_eq
                  fun task member => (each task member).movesClock moves
            | true =>
                have alone := paced.rest_eq_nil agenda_eq moves
                subst alone
                refine paced_of_length_le_one (added.trans (List.append_nil tasks)) (few moves) ?_
                intro instant member
                rw [now_eq]
                cases each _ member with
                | advance _ forward => exact forward
        | release => exact popped (agenda_sweep _) now_eq
        | log line => exact popped rfl now_eq
        | advance instant => exact absurd ⟨instant, rfl⟩ clock
        | call call =>
            rw [perform, Pipeline.call] at now_eq ⊢
            split
            · rename_i seen
              rw [if_pos seen] at now_eq
              refine paced.push agenda_eq rfl now_eq fun task member => ?_
              obtain ⟨action, reacts, rfl⟩ := List.mem_map.mp member
              exact unhurried _ _ action reacts
            · rename_i unseen
              rw [if_neg unseen] at now_eq
              exact popped rfl now_eq
        | _ => exact paced.part agenda_eq rfl rfl now_eq

theorem Reachable.paced {config : Config} {setup : Setup α}
    (reachable : Reachable config setup pipeline) (unhurried : Unhurried setup.reactions) :
    Paced pipeline := by
  obtain ⟨opening, made, later⟩ := reachable
  induction later with
  | here =>
      obtain ⟨_, _, agenda_eq, _⟩ := opening?_eq_ok made
      constructor
      · rw [agenda_eq]
        exact List.Pairwise.nil
      · intro instant member
        rw [agenda_eq] at member
        cases member
  | @step last earlier ih =>
      have before : Reachable config setup last := ⟨opening, made, earlier⟩
      have reactions_eq : last.reactions = setup.reactions :=
        congrArg Nature.reactions before.nature_eq
      exact ih.step (reactions_eq ▸ unhurried)
  | @begin last earlier rest action ih =>
      have agenda_eq := agenda_begin_of_atRest rest action
      constructor
      · rw [agenda_eq]
        exact List.pairwise_singleton _ _
      · intro instant member
        rw [agenda_eq] at member
        cases List.mem_singleton.mp member

end Paced

end Pipeline

end TimedBatch
