import TimedBatch.Proofs.AtHand
import TimedBatch.Proofs.Credit
import TimedBatch.Proofs.Timeline

/-!
# Whose failure it is

A failure that ends the stage stems from the signal at work: either the producer reported it, or the
stage found it. In the second case the stage cancels the producer before it tells the consumer, and
in the first it does not. A producer that subscribes when another one is attached has a number of
its own, so its cancellation is not that of the attached one.
-/

namespace TimedBatch

variable {α : Type}

/-! ## The numbers of the producers -/

/-- The number of the producer that a task lets subscribe. -/
def Task.producer? (task : Task α) : Option Nat :=
  task.inbound?.bind Inbound.producer?

namespace Pipeline

/-- Producers subscribe in the order of their numbers, each as soon as it has its number. -/
structure Numbered (pipeline : Pipeline α) : Prop where
  numbers_eq : pipeline.inboundCalls.filterMap Inbound.producer? ++
    pipeline.agenda.filterMap Task.producer? = List.range pipeline.producers
  tail : ∀ task ∈ pipeline.agenda.tail, task.producer? = none

section Numbers

variable {config : Config} {setup : Setup α} {pipeline : Pipeline α} {task : Task α}
  {stage : Stage α} {timer : Timer UInt64} {events : List (Event α)} {tasks : List (Task α)}

theorem producers_act {action : Action α} (other : action ≠ .subscribe) :
    (pipeline.act action).producers = pipeline.producers := by
  cases action with
  | subscribe => exact absurd rfl other
  | dropStage => exact congrArg Setting.producers (setting_sweep _)
  | _ =>
      first
        | rfl
        | (simp only [act, onStage, onSubscription, moveClock]; split <;> rfl)

/-- Only a subscription uses up the number of a producer. -/
theorem producers_perform (other : task ≠ .act .subscribe) :
    (pipeline.perform task).producers = pipeline.producers := by
  cases task with
  | act action => exact producers_act fun same => other (congrArg Task.act same)
  | enter call =>
      cases call <;> simp only [perform, enter, subscribe, announce, request, cancel] <;>
        (repeat' split) <;> rfl
  | release => exact congrArg Setting.producers (setting_sweep _)
  | announce signal =>
      simp only [perform, announce]
      split <;> rfl
  | workOff missed =>
      simp only [perform, workOff]
      split
      · exact congrArg Setting.producers (setting_handle _ _)
      · split <;> rfl
  | firstRequest producer =>
      simp only [perform, firstRequest]
      (repeat' split) <;> rfl
  | call call =>
      simp only [perform, Pipeline.call]
      split <;> rfl
  | log line => rfl
  | advance instant =>
      simp only [perform, advance]
      (repeat' split) <;> rfl
  | setAlarm handOff => rfl
  | answered outcome handOff => exact congrArg Setting.producers (setting_answered _ _ _)
  | endWith error origin => exact congrArg Setting.producers (setting_endWith _ _ _)
  | reportError error origin => cases origin <;> rfl
  | finish =>
      simp only [perform, finish]
      split <;> rfl

theorem producer?_of_isInner {task : Task α} (inner : task.isInner = true) :
    task.producer? = none := by
  cases task <;> first | rfl | cases inner

theorem producer?_of_mem_callsOf {action : Action α} {call : Inbound α}
    (made : call ∈ pipeline.callsOf action) (other : action ≠ .subscribe) :
    call.producer? = none := by
  cases action with
  | subscribe => exact absurd rfl other
  | next items =>
      obtain ⟨item, _, rfl⟩ := List.mem_map.mp made
      rfl
  | _ => first | (cases List.mem_singleton.mp made; rfl) | cases made

/-- Nobody but an action lets a producer subscribe. -/
theorem Effect.producer?_eq_none (effect : Effect pipeline task stage timer events tasks)
    (becomes : Becomes pipeline (pipeline.perform task) stage timer events tasks)
    (other : task ≠ .act .subscribe) : ∀ added ∈ tasks, added.producer? = none := by
  have agenda_eq := becomes.agenda_eq
  have nothing : (pipeline.perform task).agenda = pipeline.agenda →
      ∀ added ∈ tasks, added.producer? = none := by
    intro same
    rw [agenda_eq, List.append_left_eq_self] at same
    rw [same]
    exact List.forall_mem_nil _
  cases effect with
  | free aside inert allFree =>
      cases task with
      | act action =>
          obtain ⟨added, same, followUps, _⟩ := putsOn_act pipeline action
          rw [← List.append_cancel_right (same.symm.trans agenda_eq)]
          intro task member
          cases followUps task member with
          | enter made =>
              exact producer?_of_mem_callsOf made fun same => other (congrArg Task.act same)
          | _ => rfl
      | release => exact nothing (agenda_sweep _)
      | log line => exact nothing rfl
      | _ => cases aside
  | timerClosed =>
      intro task member
      obtain ⟨line, _, rfl⟩ := List.mem_map.mp member
      rfl
  | called actions =>
      intro task member
      obtain ⟨action, _, rfl⟩ := List.mem_map.mp member
      rfl
  | enteredSignal announces =>
      rw [wakeTasks]
      split
      · exact List.forall_mem_singleton.mpr rfl
      · exact List.forall_mem_nil _
  | announced =>
      rw [wakeTasks]
      split
      · exact List.forall_mem_singleton.mpr rfl
      · exact List.forall_mem_nil _
  | cancelled active =>
      exact List.forall_mem_append.mpr
        ⟨forall_cancelProducerTasks pipeline fun _ => rfl, List.forall_mem_singleton.mpr rfl⟩
  | handled first dispatch =>
      exact List.forall_mem_append.mpr
        ⟨fun task member => producer?_of_isInner (dispatch.isInner task member),
          List.forall_mem_singleton.mpr rfl⟩
  | acceptedHandOff delivery =>
      exact fun task member => producer?_of_isInner (delivery.isInner task member)
  | refusedHandOff =>
      exact fun task member => producer?_of_isInner (isInner_failureTasks _ _ task member)
  | failed failure =>
      exact fun task member => producer?_of_isInner (failure.isInner task member)
  | reportedStage =>
      exact List.forall_mem_append.mpr
        ⟨forall_cancelProducerTasks pipeline fun _ => rfl, List.forall_mem_singleton.mpr rfl⟩
  | _ => simp [Task.producer?, Task.inbound?, Inbound.producer?]

/-- A producer that subscribes gets the next number and calls the stage at once. -/
theorem Numbered.subscribe
    (calls_eq : pipeline.inboundCalls.filterMap Inbound.producer? = List.range pipeline.producers)
    (none : ∀ task ∈ pipeline.agenda, task.producer? = none) :
    Numbered (pipeline.act .subscribe) := by
  have below : pipeline.agenda.filterMap Task.producer? = [] := List.filterMap_eq_nil_iff.mpr none
  rw [act]
  split
  · constructor
    · calc
        pipeline.inboundCalls.filterMap Inbound.producer? ++
              ([Task.enter (.subscribe pipeline.producers), .release] ++
                pipeline.agenda).filterMap Task.producer? =
            List.range pipeline.producers ++ [pipeline.producers] := by
          rw [calls_eq, List.filterMap_append, below]
          rfl
        _ = List.range (pipeline.producers + 1) := List.range_succ.symm
    · exact List.forall_mem_cons.mpr ⟨rfl, none⟩
  · constructor
    · rw [calls_eq, below, List.append_nil]
    · exact fun other member => none other (List.mem_of_mem_tail member)

theorem Numbered.step (numbered : Numbered pipeline) : Numbered pipeline.step := by
  cases agenda_eq : pipeline.agenda with
  | nil =>
      rw [step_of_atRest (List.isEmpty_iff.mpr agenda_eq)]
      exact numbered
  | cons task rest =>
      obtain ⟨numbers_eq, tail⟩ := numbered
      rw [agenda_eq] at numbers_eq tail
      have below : rest.filterMap Task.producer? = [] := List.filterMap_eq_nil_iff.mpr tail
      obtain ⟨stage, timer, events, tasks, effect, becomes⟩ :=
        exists_effect { pipeline with agenda := rest } task
      have calls_eq : (pipeline.step.inboundCalls).filterMap Inbound.producer? =
          pipeline.inboundCalls.filterMap Inbound.producer? ++ task.producer?.toList := by
        rw [step_of_agenda agenda_eq, inboundCalls, becomes.chronicle_eq, List.filterMap_append,
          effect.inbound_eq, List.filterMap_append, Task.producer?]
        cases task.inbound? with
        | none => rfl
        | some call => cases call <;> rfl
      have agenda_step : pipeline.step.agenda = tasks ++ rest := by
        rw [step_of_agenda agenda_eq, becomes.agenda_eq]
      by_cases subscribes : task = .act .subscribe
      · subst subscribes
        rw [step_of_agenda agenda_eq]
        refine Numbered.subscribe ?_ tail
        rw [← numbers_eq, List.filterMap_cons_none rfl, below, List.append_nil]
        rfl
      · have added := effect.producer?_eq_none becomes subscribes
        constructor
        · rw [calls_eq, agenda_step, List.filterMap_append, below, List.append_nil,
            List.filterMap_eq_nil_iff.mpr added, List.append_nil, step_of_agenda agenda_eq,
            producers_perform subscribes, ← numbers_eq, List.filterMap_cons, below]
          cases task.producer? <;> rfl
        · intro other member
          rw [agenda_step] at member
          rcases List.mem_append.mp (List.mem_of_mem_tail member) with new | stays
          · exact added other new
          · exact tail other stays

theorem Reachable.numbered (reachable : Reachable config setup pipeline) : Numbered pipeline := by
  obtain ⟨opening, made, later⟩ := reachable
  induction later with
  | here =>
      obtain ⟨_, _, agenda_eq, lines, chronicle_eq⟩ := opening?_eq_ok made
      have producers_eq : opening.producers = 0 := by
        rw [opening?] at made
        split at made <;> cases made
        rfl
      constructor
      · rw [producers_eq, agenda_eq, inboundCalls, chronicle_eq,
          filterMap_eq_nil_of_isAside Event.inbound?_of_isAside isAside_of_mem_logs]
        rfl
      · rw [agenda_eq]
        exact List.forall_mem_nil _
  | step _ ih => exact ih.step
  | @begin last _ rest action ih =>
      have empty : last.agenda = [] := List.isEmpty_iff.mp rest
      have calls_eq : (last.begin action).inboundCalls = last.inboundCalls := rfl
      constructor
      · rw [agenda_begin_of_atRest rest, calls_eq]
        have before := ih.numbers_eq
        rw [empty] at before
        exact before
      · rw [agenda_begin_of_atRest rest]
        exact List.forall_mem_nil _

/-- The attached producer is the first one. -/
theorem Reachable.eq_zero_of_producer (reachable : Reachable config setup pipeline) {producer : Nat}
    (attached : pipeline.stage.producer = some producer) : producer = 0 := by
  have first : (List.range pipeline.producers).head? = some producer := by
    rw [← reachable.numbered.numbers_eq, List.head?_append, List.head?_filterMap,
      ← reachable.producer_eq, attached]
    rfl
  cases count : pipeline.producers with
  | zero => simp [count] at first
  | succ others => simpa [count, List.range_succ_eq_map] using first.symm

/-- Another producer than the attached one is not the first one. -/
theorem Reachable.ne_zero_of_subscribe (reachable : Reachable config setup pipeline)
    {producer : Nat} (subscribes : .enter (.subscribe producer) ∈ pipeline.agenda)
    (attached : pipeline.stage.producer ≠ none) : producer ≠ 0 := by
  rintro rfl
  obtain ⟨earlier, same⟩ := Option.ne_none_iff_exists'.mp attached
  obtain rfl := reachable.eq_zero_of_producer same
  -- The first producer has called the stage, and every number is used once.
  have called : 0 ∈ pipeline.inboundCalls.filterMap Inbound.producer? := by
    refine List.mem_of_head? ?_
    rw [List.head?_filterMap, ← reachable.producer_eq, same]
  have calls : 0 ∈ pipeline.agenda.filterMap Task.producer? :=
    List.mem_filterMap.mpr ⟨_, subscribes, rfl⟩
  have numbers : (List.range pipeline.producers).Nodup := List.nodup_range
  rw [← reachable.numbered.numbers_eq] at numbers
  exact (List.nodup_append.mp numbers).2.2 0 called 0 calls rfl

end Numbers

/-! ## Who found the failure -/

end Pipeline

/-- Whether a signal is the report of a failure by the producer. -/
def Signal.isReport : Signal α → Bool
  | .failed _ .producer => true
  | _ => false

theorem Task.isInner_of_tells {task : Task α} (tells : task.tells .errored = true) :
    task.isInner = true := by
  cases task with
  | call call => cases call <;> first | rfl | cases tells
  | _ => first | rfl | cases tells

theorem Task.isInner_of_isDeciding {task : Task α} (deciding : task.isDeciding = true) :
    task.isInner = true := by
  cases task <;> first | rfl | cases deciding

namespace Pipeline

/-- The signal that began to be worked off last in some events. -/
def lastHandled (events : List (Event α)) : Option (Signal α) :=
  (events.filterMap Event.handled?).getLast?

/-- A failure comes from the producer if its report is being worked off, and otherwise the stage
found it. -/
inductive Stems (events : List (Event α)) (error : StreamError) : Origin → Prop where
  | reported (last : lastHandled events = some (.failed error .producer)) :
      Stems events error .producer
  | found (other : ∀ signal ∈ lastHandled events, signal.isReport = false) :
      Stems events error .stage

section Stems

variable {hook : DiscardHook} {pipeline : Pipeline α} {task : Task α} {stage next : Stage α}
  {timer clock : Timer UInt64} {events : List (Event α)} {tasks : List (Task α)}

theorem Effect.handled_eq (effect : Effect pipeline task stage timer events tasks)
    (idle : task.isWorkOff = false) : events.filterMap Event.handled? = [] := by
  cases effect with
  | free aside inert allFree =>
      exact filterMap_eq_nil_of_isAside Event.handled?_of_isAside
        fun event member => Event.isAside_of_isInert (inert event member)
  | handled first dispatch => cases idle
  | acceptedHandOff delivery =>
      exact filterMap_eq_nil_of_isAside Event.handled?_of_isAside delivery.aside
  | failed failure =>
      exact filterMap_eq_nil_of_isAside Event.handled?_of_isAside failure.aside
  | _ => rfl

theorem lastHandled_append (earlier later : List (Event α)) :
    lastHandled (earlier ++ later) = (lastHandled later).or (lastHandled earlier) := by
  rw [lastHandled, List.filterMap_append, List.getLast?_append]
  rfl

theorem Effect.lastHandled_eq (effect : Effect pipeline task stage timer events tasks)
    (idle : task.isWorkOff = false) :
    lastHandled (pipeline.chronicle ++ events) = lastHandled pipeline.chronicle := by
  rw [lastHandled_append, lastHandled, effect.handled_eq idle]
  rfl

theorem lastHandled_handled {signal : Signal α} (aside : ∀ event ∈ events, event.isAside = true)
    (earlier : List (Event α)) :
    lastHandled (earlier ++ .handled signal :: events) = some signal := by
  have silent := filterMap_eq_nil_of_isAside Event.handled?_of_isAside aside
  simp [lastHandled, Event.handled?, silent]

/-- A task that tells of an error is none of those that tell of none. -/
theorem not_mem_of_tells {added : Task α} (tells : added.tells .errored = true)
    (silent : tasks.countP (Task.tells .errored) = 0) : added ∉ tasks :=
  fun member => List.countP_eq_zero.mp silent added member tells

theorem Delivery.not_mem_of_tells {handOff : HandOff α}
    (delivery : Delivery hook stage timer handOff next clock events tasks) {added : Task α}
    (tells : added.tells .errored = true) : added ∉ tasks := by
  have account : tasks.countP (Task.tells .errored) + due .errored stage.status =
      due .errored next.status := delivery.tells_eq
  rw [delivery.status_eq] at account
  exact Pipeline.not_mem_of_tells tells (by omega)

theorem Failure.tells_of_mem {error : StreamError} {origin : Origin}
    (failure : Failure hook stage timer error origin next clock events tasks) {added : Task α}
    (member : added ∈ tasks) (tells : added.tells .errored = true) :
    added = .reportError error origin ∧ stage.status = .active := by
  cases failure with
  | late ended => cases member
  | ended active =>
      rcases List.mem_append.mp member with member | member
      · exact absurd member (not_mem_of_tells tells (countP_hookTasks fun _ => rfl))
      · exact ⟨List.mem_singleton.mp member, active⟩

/-- An error is reported once it has ended the stage, and the report tells the consumer of it. -/
theorem Effect.tells_of_mem (effect : Effect pipeline task stage timer events tasks)
    {added : Task α} (member : added ∈ tasks) (tells : added.tells .errored = true) :
    (∃ error origin, task = .reportError error origin ∧ added = .call (.error error)) ∨
      ∃ error origin, added = .reportError error origin ∧ pipeline.stage.status = .active ∧
        (task = .endWith error origin ∨
          lastHandled (pipeline.chronicle ++ events) = some (.failed error origin)) := by
  have inner := Task.isInner_of_tells tells
  have opening : task.opens = true := by
    refine effect.chained.2.resolve_left fun none => ?_
    cases (none added member).symm.trans inner
  cases effect with
  | free aside inert allFree =>
      cases (not_isInner_of_isFree (allFree added member)).1.symm.trans inner
  | called actions =>
      cases (not_isInner_of_isFree (isFree_acts actions added member)).1.symm.trans inner
  | @handled missed signal rest stage timer events tasks first dispatch =>
      rcases List.mem_append.mp member with member | member
      · have last : lastHandled (pipeline.chronicle ++ .handled signal :: events) = some signal :=
          lastHandled_handled dispatch.aside pipeline.chronicle
        cases dispatch with
        | completed active filled delivery => exact absurd member (delivery.not_mem_of_tells tells)
        | @failed error origin _ _ _ _ failure =>
            obtain ⟨same, active⟩ := failure.tells_of_mem member tells
            exact Or.inr ⟨error, origin, same, active, Or.inr last⟩
        | cancelledEmpty empty =>
            exact absurd member (not_mem_of_tells tells (countP_hookTasks fun _ => rfl))
        | cancelled filled =>
            exact absurd member (not_mem_of_tells tells (countP_hookTasks fun _ => rfl))
        | _ => exact absurd member (not_mem_of_tells tells rfl)
      · exact absurd member (not_mem_of_tells tells rfl)
  | acceptedHandOff delivery => exact absurd member (delivery.not_mem_of_tells tells)
  | refusedHandOff =>
      refine absurd member (not_mem_of_tells tells ?_)
      rw [failureTasks, List.countP_append, countP_hookTasks fun _ => rfl]
      rfl
  | @failed error origin _ _ _ _ failure =>
      obtain ⟨same, active⟩ := failure.tells_of_mem member tells
      exact Or.inr ⟨error, origin, same, active, Or.inl rfl⟩
  | @reportedProducer error =>
      exact Or.inl ⟨error, .producer, rfl, List.mem_singleton.mp member⟩
  | @reportedStage error =>
      rcases List.mem_append.mp member with member | member
      · cases (isInner_cancelProducerTasks pipeline added member).symm.trans inner
      · exact Or.inl ⟨error, .stage, rfl, List.mem_singleton.mp member⟩
  | _ => first | exact absurd member (not_mem_of_tells tells rfl) | cases opening

/-- What decides how the stage goes on is put on the agenda by what decided before, or by a signal
that reports no failure. -/
theorem Effect.deciding_of_mem (effect : Effect pipeline task stage timer events tasks)
    {added : Task α} (member : added ∈ tasks) (deciding : added.isDeciding = true) :
    task.isDeciding = true ∨
      ∀ signal ∈ lastHandled (pipeline.chronicle ++ events), signal.isReport = false := by
  have inner := Task.isInner_of_isDeciding deciding
  have opening : task.opens = true := by
    refine effect.chained.2.resolve_left fun none => ?_
    cases (none added member).symm.trans inner
  cases effect with
  | free aside inert allFree =>
      cases (not_isInner_of_isFree (allFree added member)).1.symm.trans inner
  | called actions =>
      cases (not_isInner_of_isFree (isFree_acts actions added member)).1.symm.trans inner
  | @handled missed signal rest stage timer events tasks first dispatch =>
      refine Or.inr fun last same => ?_
      rw [lastHandled_handled dispatch.aside pipeline.chronicle] at same
      cases same
      rcases List.mem_append.mp member with member | member
      · cases dispatch with
        | failed failure =>
            cases failure with
            | late ended => cases member
            | ended active =>
                rcases List.mem_append.mp member with member | member
                · obtain ⟨call, _, rfl⟩ := List.mem_map.mp member
                  cases deciding
                · cases List.mem_singleton.mp member
                  cases deciding
        | _ => rfl
      · cases List.mem_singleton.mp member
        cases deciding
  | reportedProducer =>
      cases List.mem_singleton.mp member
      cases deciding
  | reportedStage =>
      rcases List.mem_append.mp member with member | member
      · cases (isInner_cancelProducerTasks pipeline added member).symm.trans inner
      · cases List.mem_singleton.mp member
        cases deciding
  | swept aside gone => cases member
  | accounted empty done => cases member
  | accountedMore empty more =>
      cases List.mem_singleton.mp member
      cases deciding
  | _ => first | exact Or.inl rfl | cases opening

theorem not_mem_hookTasks_of_isFailing {items : List α} {added : Task α}
    (failing : added.isFailing = true) : added ∉ hookTasks hook items := by
  intro member
  obtain ⟨call, _, rfl⟩ := List.mem_map.mp member
  cases failing

/-- The stage is about to end because of a failure that it found. -/
theorem origin_of_mem_failureTasks {items : List α} {error found : StreamError} {origin : Origin}
    (member : .endWith error origin ∈ failureTasks hook items found) : origin = .stage := by
  rcases List.mem_append.mp member with member | member
  · exact absurd member (not_mem_hookTasks_of_isFailing rfl)
  · cases List.mem_singleton.mp member
    rfl

theorem Delivery.origin_of_mem {handOff : HandOff α} {error : StreamError} {origin : Origin}
    (delivery : Delivery hook stage timer handOff next clock events tasks)
    (member : .endWith error origin ∈ tasks) : origin = .stage := by
  cases delivery with
  | late ended => exact absurd member (not_mem_hookTasks_of_isFailing rfl)
  | unpaid active unpaid => exact origin_of_mem_failureTasks member
  | paid active paid =>
      rw [closingTasks] at member
      split at member <;> simp at member

theorem Effect.origin_of_mem (effect : Effect pipeline task stage timer events tasks)
    {error : StreamError} {origin : Origin} (member : .endWith error origin ∈ tasks) :
    origin = .stage := by
  cases effect with
  | free aside inert allFree => cases allFree _ member
  | timerClosed => simp at member
  | called actions => cases isFree_acts actions _ member
  | enteredSignal announces => cases isInner_wakeTasks _ _ member
  | announced => cases isInner_wakeTasks _ _ member
  | cancelled active =>
      rcases List.mem_append.mp member with member | member
      · cases isInner_cancelProducerTasks pipeline _ member
      · simp at member
  | handled first dispatch =>
      rcases List.mem_append.mp member with member | member
      · cases dispatch with
        | itemUnrequested active unrequested =>
            simp only [List.mem_cons, List.not_mem_nil, or_false, reduceCtorEq, false_or,
              Task.endWith.injEq] at member
            exact member.2
        | completed active filled delivery => exact delivery.origin_of_mem member
        | failed failure =>
            cases failure with
            | late ended => cases member
            | ended active =>
                rcases List.mem_append.mp member with member | member
                · exact absurd member (not_mem_hookTasks_of_isFailing rfl)
                · simp at member
        | cancelledEmpty empty => exact absurd member (not_mem_hookTasks_of_isFailing rfl)
        | cancelled filled => exact absurd member (not_mem_hookTasks_of_isFailing rfl)
        | _ => simp at member
      · simp at member
  | acceptedHandOff delivery => exact delivery.origin_of_mem member
  | refused =>
      cases List.mem_singleton.mp member
      rfl
  | refusedHandOff => exact origin_of_mem_failureTasks member
  | failed failure =>
      cases failure with
      | late ended => cases member
      | ended active =>
          rcases List.mem_append.mp member with member | member
          · exact absurd member (not_mem_hookTasks_of_isFailing rfl)
          · simp at member
  | reportedStage =>
      rcases List.mem_append.mp member with member | member
      · cases isInner_cancelProducerTasks pipeline _ member
      · simp at member
  | _ => simp at member

end Stems

/-- Every failure on the agenda stems from the signal at work. -/
structure Traced (agenda : List (Task α)) (events : List (Event α)) : Prop where
  deciding : ∀ task ∈ agenda, task.isDeciding = true →
    ∀ signal ∈ lastHandled events, signal.isReport = false
  ending : ∀ error origin, .endWith error origin ∈ agenda → origin = .stage
  reporting : ∀ error origin, .reportError error origin ∈ agenda → Stems events error origin
  telling : ∀ error, .call (.error error) ∈ agenda → ∃ origin, Stems events error origin

theorem Stems.of_origin {events : List (Event α)} {error : StreamError} {origin : Origin}
    (last : lastHandled events = some (.failed error origin)) : Stems events error origin := by
  cases origin with
  | producer => exact .reported last
  | stage =>
      refine .found fun signal same => ?_
      cases last.symm.trans same
      rfl

theorem Stems.congr {earlier later : List (Event α)} {error : StreamError} {origin : Origin}
    (stems : Stems earlier error origin) (same : lastHandled later = lastHandled earlier) :
    Stems later error origin := by
  cases stems with
  | reported last => exact .reported (same.trans last)
  | found other => exact .found (same ▸ other)

/-- What waits beneath a task belongs to the signal that was at work before, and still is. -/
theorem lastHandled_of_below {pipeline : Pipeline α} {task other : Task α} {stage : Stage α}
    {timer : Timer UInt64} {events : List (Event α)} {tasks : List (Task α)}
    (order : InOrder pipeline.stage (task :: pipeline.agenda))
    (effect : Effect pipeline task stage timer events tasks) (waits : other ∈ pipeline.agenda)
    (inner : other.isInner = true) :
    lastHandled (pipeline.chronicle ++ events) = lastHandled pipeline.chronicle := by
  refine effect.lastHandled_eq (Bool.eq_false_iff.mpr fun works => ?_)
  have outer := (List.pairwise_cons.mp order.beneath).1 other waits works
  rw [Task.isOuter, inner] at outer
  cases outer

theorem Traced.step {config : Config} {pipeline : Pipeline α} {task : Task α} {stage : Stage α}
    {timer : Timer UInt64} {events : List (Event α)} {tasks : List (Task α)}
    (traced : Traced (task :: pipeline.agenda) pipeline.chronicle)
    (steady : Steady config pipeline.stage (task :: pipeline.agenda))
    (effect : Effect pipeline task stage timer events tasks) :
    Traced (tasks ++ pipeline.agenda) (pipeline.chronicle ++ events) := by
  have still : ∀ {other : Task α}, other ∈ pipeline.agenda → other.isInner = true →
      lastHandled (pipeline.chronicle ++ events) = lastHandled pipeline.chronicle :=
    lastHandled_of_below steady.order effect
  have opened : ∀ {added : Task α}, task.isDeciding = true → added ∈ tasks →
      ∀ signal ∈ lastHandled (pipeline.chronicle ++ events), signal.isReport = false := by
    intro added decides _
    have idle : task.isWorkOff = false := by
      cases task <;> first | rfl | cases decides
    rw [effect.lastHandled_eq idle]
    exact traced.deciding task List.mem_cons_self decides
  constructor
  · intro other member decides
    rcases List.mem_append.mp member with added | stays
    · rcases effect.deciding_of_mem added decides with before | now
      · exact opened before added
      · exact now
    · rw [still stays (Task.isInner_of_isDeciding decides)]
      exact traced.deciding other (List.mem_cons_of_mem _ stays) decides
  · intro error origin member
    rcases List.mem_append.mp member with added | stays
    · exact effect.origin_of_mem added
    · exact traced.ending error origin (List.mem_cons_of_mem _ stays)
  · intro error origin member
    rcases List.mem_append.mp member with added | stays
    · rcases effect.tells_of_mem added rfl with ⟨_, _, _, impossible⟩ |
        ⟨failure, cause, same, _, rfl | last⟩
      · cases impossible
      · cases same
        obtain rfl := traced.ending error origin List.mem_cons_self
        exact .found (opened rfl added)
      · cases same
        exact .of_origin last
    · exact (traced.reporting error origin (List.mem_cons_of_mem _ stays)).congr (still stays rfl)
  · intro error member
    rcases List.mem_append.mp member with added | stays
    · rcases effect.tells_of_mem added rfl with ⟨failure, origin, rfl, same⟩ |
        ⟨_, _, impossible, _⟩
      · cases same
        exact ⟨origin, (traced.reporting _ origin List.mem_cons_self).congr
          (effect.lastHandled_eq rfl)⟩
      · cases impossible
    · obtain ⟨origin, stems⟩ := traced.telling error (List.mem_cons_of_mem _ stays)
      exact ⟨origin, stems.congr (still stays rfl)⟩

theorem Reachable.traced {config : Config} {setup : Setup α} {pipeline : Pipeline α}
    (reachable : Reachable config setup pipeline) :
    Traced pipeline.agenda pipeline.chronicle := by
  refine reachable.preserve_of_steady (fun _ agenda events => Traced agenda events) ?_ ?_
    fun _ _ _ _ _ _ steady effect traced => traced.step steady effect
  · intro lines
    constructor <;> simp
  · intro stage events action traced
    constructor <;> simp [Task.isDeciding]

/-! ## How often the producer is cancelled -/

end Pipeline

/-- Whether a call cancels a producer. -/
def Outbound.cancels (producer : Nat) : Outbound α → Bool
  | .cancel other => other = producer
  | _ => false

def Task.cancels (producer : Nat) (task : Task α) : Bool :=
  task.outbound?.any (Outbound.cancels producer)

theorem Task.cancels_of_isInner {producer : Nat} {task : Task α} (inner : task.isInner = true) :
    task.cancels producer = false := by
  cases task with
  | call call => cases call <;> first | rfl | cases inner
  | _ => rfl

theorem Task.cancels_of_isFree {producer : Nat} {task : Task α} (free : task.isFree = true) :
    task.cancels producer = false := by
  cases task with
  | call call => cases call <;> first | rfl | cases free
  | _ => rfl

namespace Pipeline

/-- How often a producer was cancelled. -/
def cancellations (pipeline : Pipeline α) (producer : Nat) : Nat :=
  pipeline.outboundCalls.countP (Outbound.cancels producer)

/-- How often a producer was cancelled in some events or is about to be. -/
def cancellationsOf (producer : Nat) (agenda : List (Task α)) (events : List (Event α)) : Nat :=
  (events.filterMap Event.outbound?).countP (Outbound.cancels producer) +
    agenda.countP (Task.cancels producer)

section Cancellations

variable {config : Config} {setup : Setup α} {pipeline : Pipeline α} {task : Task α}
  {stage : Stage α} {timer : Timer UInt64} {events : List (Event α)} {tasks : List (Task α)}
  {producer : Nat}

/-- A cancellation that is made was due before, so the count grows by what is put on the agenda. -/
theorem Effect.cancellationsOf_eq (effect : Effect pipeline task stage timer events tasks) :
    cancellationsOf producer (tasks ++ pipeline.agenda) (pipeline.chronicle ++ events) =
      cancellationsOf producer (task :: pipeline.agenda) pipeline.chronicle +
        tasks.countP (Task.cancels producer) := by
  have made : (task.outbound?.toList).countP (Outbound.cancels producer) =
      [task].countP (Task.cancels producer) := by
    rw [List.countP_singleton, Task.cancels]
    cases task.outbound? <;> simp [List.countP_singleton]
  rw [cancellationsOf, cancellationsOf, List.filterMap_append, effect.outbound_eq,
    List.countP_append, List.countP_append, made]
  simp only [List.countP_cons, List.countP_nil]
  omega

theorem countP_cancels_cancelProducerTasks (first : ∀ other,
    pipeline.stage.producer = some other → other = producer) :
    pipeline.cancelProducerTasks.countP (Task.cancels producer) = attachments pipeline.stage := by
  rw [cancelProducerTasks, attachments]
  cases attached : pipeline.stage.producer with
  | none => rfl
  | some other =>
      rw [first other attached]
      simp [Task.cancels, Task.outbound?, Outbound.cancels]

/-- A producer is cancelled when the consumer cancels, and when a failure is reported that the stage
found. Another producer than the attached one is cancelled at its subscription. -/
theorem Effect.cancels (effect : Effect pipeline task stage timer events tasks)
    (second : ∀ other, task = .enter (.subscribe other) → pipeline.stage.producer ≠ none →
      other ≠ producer) :
    tasks.countP (Task.cancels producer) = 0 ∨
      ∃ last : Task α, tasks = pipeline.cancelProducerTasks ++ [last] ∧
        last.cancels producer = false ∧
        (pipeline.stage.status = .active ∧ stage.status = .cancelled ∨
          ∃ error, task = .reportError error .stage) := by
  have ofInner : (∀ task ∈ tasks, task.isInner = true) →
      tasks.countP (Task.cancels producer) = 0 := by
    intro inner
    refine List.countP_eq_zero.mpr fun task member => ?_
    simp [Task.cancels_of_isInner (inner task member)]
  cases effect with
  | free aside inert allFree => exact Or.inl (countP_of_isFree Task.cancels_of_isFree allFree)
  | timerClosed =>
      exact Or.inl (countP_of_isFree Task.cancels_of_isFree (by simp [Task.isFree]))
  | called actions =>
      exact Or.inl (countP_of_isFree Task.cancels_of_isFree (isFree_acts actions))
  | enteredSignal announces => exact Or.inl (countP_wakeTasks fun _ => rfl)
  | announced => exact Or.inl (countP_wakeTasks fun _ => rfl)
  | attachedTwice attached =>
      have other := second _ rfl attached
      exact Or.inl (by simp [Task.cancels, Task.outbound?, Outbound.cancels, other])
  | cancelled active => exact Or.inr ⟨_, rfl, rfl, Or.inl ⟨active, rfl⟩⟩
  | handled _ dispatch =>
      refine Or.inl (List.countP_eq_zero.mpr fun task member => ?_)
      rcases List.mem_append.mp member with member | member
      · simp [Task.cancels_of_isInner (dispatch.isInner task member)]
      · rw [List.mem_singleton.mp member]
        exact Bool.false_ne_true
  | acceptedHandOff delivery => exact Or.inl (ofInner delivery.isInner)
  | refusedHandOff => exact Or.inl (ofInner (isInner_failureTasks _ _))
  | failed failure => exact Or.inl (ofInner failure.isInner)
  | @reportedStage error => exact Or.inr ⟨_, rfl, rfl, Or.inr ⟨error, rfl⟩⟩
  | _ => exact Or.inl rfl

theorem length_cancelProducerTasks_le (pipeline : Pipeline α) :
    pipeline.cancelProducerTasks.length ≤ 1 := by
  rw [cancelProducerTasks]
  cases pipeline.stage.producer <;> simp

theorem cancels_tail_of_length {last : Task α} {others : List (Task α)}
    (few : others.length ≤ 1) (spares : last.cancels producer = false) :
    ∀ task ∈ (others ++ [last]).tail, task.cancels producer = false := by
  match others with
  | [] => exact List.forall_mem_nil _
  | [_] => exact List.forall_mem_singleton.mpr spares
  | _ :: _ :: _ => simp at few

/-- How often the attached producer, which is the first one, is cancelled. -/
structure Spared (stage : Stage α) (agenda : List (Task α)) (events : List (Event α)) : Prop where
  /-- A cancellation is made as soon as it is due. -/
  tail : ∀ task ∈ agenda.tail, task.cancels 0 = false
  working : stage.status = .active ∨ stage.status = .completed →
    cancellationsOf 0 agenda events = 0
  reporting : ∀ error origin, .reportError error origin ∈ agenda →
    cancellationsOf 0 agenda events = 0
  reported : ∀ error, .call (.error error) ∈ agenda → Stems events error .producer →
    cancellationsOf 0 agenda events = 0
  found : ∀ error, .call (.error error) ∈ agenda → Stems events error .stage →
    ∀ first, (entries events).head? = some (.subscribe first) →
      cancellationsOf 0 agenda events = 1

theorem Told.status_eq_of_mem {agenda : List (Task α)} (told : Told stage agenda events)
    (member : task ∈ agenda) (tells : task.tells .errored = true) : stage.status = .errored := by
  have account := told.endings .errored rfl
  have some : 0 < agenda.countP (Task.tells .errored) :=
    List.countP_pos_iff.mpr ⟨task, member, tells⟩
  by_contra other
  rw [due, if_neg other] at account
  omega

theorem Stems.ne {error other : StreamError} (reported : Stems events error .producer)
    (found : Stems events other .stage) : False := by
  cases reported with
  | reported last =>
      cases found with
      | found silent => cases silent _ last

theorem mem_tail_append {upper lower : List (Task α)} {other : Task α}
    (member : other ∈ (upper ++ lower).tail) : other ∈ upper.tail ∨ other ∈ lower := by
  cases upper with
  | nil => exact Or.inr (List.mem_of_mem_tail member)
  | cons first others => exact List.mem_append.mp member

theorem Effect.cancels_of_report {error : StreamError}
    (effect : Effect pipeline (.reportError error .stage) stage timer events tasks)
    (first : ∀ other, pipeline.stage.producer = some other → other = producer) :
    tasks.countP (Task.cancels producer) = attachments pipeline.stage := by
  cases effect with
  | free aside inert allFree => cases aside
  | swept aside gone => cases aside
  | reportedStage =>
      rw [List.countP_append, countP_cancels_cancelProducerTasks first]
      rfl

/-- While the consumer waits to be told of an error, nobody cancels the producer above. -/
theorem Spared.unmoved (told : Told pipeline.stage (task :: pipeline.agenda) pipeline.chronicle)
    (chained : Chained (task :: pipeline.agenda))
    (effect : Effect pipeline task stage timer events tasks)
    (second : ∀ other, task = .enter (.subscribe other) → pipeline.stage.producer ≠ none →
      other ≠ 0) {other : Task α} (waits : other ∈ pipeline.agenda)
    (tells : other.tells .errored = true) : tasks.countP (Task.cancels 0) = 0 := by
  have errored : pipeline.stage.status = .errored :=
    told.status_eq_of_mem (List.mem_cons_of_mem _ waits) tells
  rcases effect.cancels second with none | ⟨_, _, _, ⟨active, _⟩ | ⟨error, rfl⟩⟩
  · exact none
  · cases active.symm.trans errored
  · have below := chained.isInner_below rfl (fun _ => rfl) other waits
    cases below.symm.trans (Task.isInner_of_tells tells)

theorem head?_entries_append (some : entries events ≠ []) (later : List (Event α)) :
    (entries (events ++ later)).head? = (entries events).head? := by
  rw [entries_append, List.head?_append_of_ne_nil _ some]

theorem Spared.step (spared : Spared pipeline.stage (task :: pipeline.agenda) pipeline.chronicle)
    (told : Told pipeline.stage (task :: pipeline.agenda) pipeline.chronicle)
    (traced : Traced (task :: pipeline.agenda) pipeline.chronicle)
    (chained : Chained (task :: pipeline.agenda))
    (steady : Steady config pipeline.stage (task :: pipeline.agenda))
    (effect : Effect pipeline task stage timer events tasks)
    (first : ∀ other, pipeline.stage.producer = some other → other = 0)
    (second : ∀ other, task = .enter (.subscribe other) → pipeline.stage.producer ≠ none →
      other ≠ 0) :
    Spared stage (tasks ++ pipeline.agenda) (pipeline.chronicle ++ events) := by
  have count_eq : cancellationsOf 0 (tasks ++ pipeline.agenda) (pipeline.chronicle ++ events) =
      cancellationsOf 0 (task :: pipeline.agenda) pipeline.chronicle +
        tasks.countP (Task.cancels 0) := effect.cancellationsOf_eq
  have after : Told stage (tasks ++ pipeline.agenda) (pipeline.chronicle ++ events) :=
    told.step effect
  have unmoved : ∀ {other : Task α}, other ∈ pipeline.agenda → other.tells .errored = true →
      tasks.countP (Task.cancels 0) = 0 := Spared.unmoved told chained effect second
  have still : ∀ {other : Task α}, other ∈ pipeline.agenda → other.isInner = true →
      lastHandled (pipeline.chronicle ++ events) = lastHandled pipeline.chronicle :=
    lastHandled_of_below steady.order effect
  have spares : stage.status ≠ .cancelled → (∀ error, task ≠ .reportError error .stage) →
      tasks.countP (Task.cancels 0) = 0 := by
    intro uncancelled other
    rcases effect.cancels second with none | ⟨_, _, _, ⟨_, cancelled⟩ | ⟨error, reports⟩⟩
    · exact none
    · exact absurd cancelled uncancelled
    · exact absurd reports (other error)
  -- Whoever tells of an error was called by somebody, so the first call was made before.
  have called : ∀ {other : Task α}, other ∈ task :: pipeline.agenda → other.isFree = false →
      (entries (pipeline.chronicle ++ events)).head? = (entries pipeline.chronicle).head? := by
    intro other member bound
    refine head?_entries_append (fun untouched => ?_) events
    cases bound.symm.trans ((told.untouched untouched).1 other member)
  constructor
  case tail =>
    intro other member
    rcases mem_tail_append member with added | stays
    · rcases effect.cancels second with none | ⟨last, rfl, spared, _⟩
      · simpa using List.countP_eq_zero.mp none other (List.mem_of_mem_tail added)
      · exact cancels_tail_of_length (length_cancelProducerTasks_le pipeline) spared other added
    · exact spared.tail other stays
  case working =>
    intro goesOn
    have worked : pipeline.stage.status = .active ∨ pipeline.stage.status = .completed := by
      by_cases active : pipeline.stage.status = .active
      · exact Or.inl active
      · rwa [effect.status_eq active] at goesOn
    rw [count_eq, spared.working worked, spares]
    · rcases goesOn with same | same <;> simp [same]
    · rintro error rfl
      simp [told.status_eq_of_mem List.mem_cons_self rfl] at worked
  case reporting =>
    intro error origin member
    have errored := after.status_eq_of_mem member rfl
    rcases List.mem_append.mp member with added | stays
    · rcases effect.tells_of_mem added rfl with ⟨_, _, _, impossible⟩ | ⟨_, _, _, active, _⟩
      · cases impossible
      · rw [count_eq, spared.working (Or.inl active), spares (by simp [errored])]
        rintro other rfl
        simp [told.status_eq_of_mem List.mem_cons_self rfl] at active
    · rw [count_eq, unmoved stays rfl]
      exact spared.reporting error origin (List.mem_cons_of_mem _ stays)
  case reported =>
    intro error member stems
    have errored := after.status_eq_of_mem member rfl
    rcases List.mem_append.mp member with added | stays
    · rcases effect.tells_of_mem added rfl with ⟨_, origin, rfl, same⟩ | ⟨_, _, impossible, _⟩
      · cases same
        rw [count_eq, spared.reporting error origin List.mem_cons_self, spares (by simp [errored])]
        rintro other ⟨⟩
        have cause := traced.reporting error .stage List.mem_cons_self
        exact stems.ne (cause.congr (effect.lastHandled_eq rfl))
      · cases impossible
    · rw [count_eq, unmoved stays rfl]
      have earlier := stems.congr (still stays rfl).symm
      exact spared.reported error (List.mem_cons_of_mem _ stays) earlier
  case found =>
    intro error member stems subscriber subscribed
    rcases List.mem_append.mp member with added | stays
    · rcases effect.tells_of_mem added rfl with ⟨_, origin, rfl, same⟩ | ⟨_, _, impossible, _⟩
      · cases same
        rw [called List.mem_cons_self rfl] at subscribed
        have attached : attachments pipeline.stage = 1 :=
          if_pos (told.attached subscriber subscribed)
        have cause := (traced.reporting error origin List.mem_cons_self).congr
          (effect.lastHandled_eq rfl)
        cases origin with
        | producer => exact (cause.ne stems).elim
        | stage =>
            rw [count_eq, spared.reporting error .stage List.mem_cons_self,
              effect.cancels_of_report first, attached]
      · cases impossible
    · have waits := List.mem_cons_of_mem task stays
      rw [called waits rfl] at subscribed
      rw [count_eq, unmoved stays rfl]
      exact spared.found error waits (stems.congr (still stays rfl).symm) subscriber subscribed

theorem Reachable.spared (reachable : Reachable config setup pipeline) :
    Spared pipeline.stage pipeline.agenda pipeline.chronicle := by
  obtain ⟨opening, made, later⟩ := reachable
  induction later with
  | here =>
      obtain ⟨_, stage_eq, agenda_eq, lines, chronicle_eq⟩ := opening?_eq_ok made
      have silent : (lines.map .log : List (Event α)).filterMap Event.outbound? = [] :=
        filterMap_eq_nil_of_isAside Event.outbound?_of_isAside isAside_of_mem_logs
      rw [stage_eq, agenda_eq, chronicle_eq]
      constructor <;> simp [cancellationsOf, silent]
  | @step last earlier ih =>
      have before : Reachable config setup last := ⟨opening, made, earlier⟩
      cases agenda_eq : last.agenda with
      | nil => rwa [step_of_atRest (List.isEmpty_iff.mpr agenda_eq)]
      | cons task rest =>
          obtain ⟨stage, timer, events, tasks, effect, becomes⟩ := exists_step_effect agenda_eq
          rw [becomes.stage_eq, becomes.agenda_eq, becomes.chronicle_eq]
          have told := before.told
          have traced := before.traced
          have chained := before.chained
          have steady := before.steady
          rw [agenda_eq] at ih told traced chained steady
          refine ih.step told traced chained steady effect
            (fun other => before.eq_zero_of_producer) ?_
          rintro other rfl
          exact before.ne_zero_of_subscribe (agenda_eq ▸ List.mem_cons_self)
  | @begin last earlier rest action ih =>
      have empty : last.agenda = [] := List.isEmpty_iff.mp rest
      have same : cancellationsOf 0 [.act action] last.chronicle =
          cancellationsOf 0 last.agenda last.chronicle := by
        rw [empty]
        rfl
      rw [agenda_begin_of_atRest rest]
      refine ⟨List.forall_mem_nil _, fun goesOn => same.trans (ih.working goesOn), ?_, ?_, ?_⟩
      all_goals simp

end Cancellations

end Pipeline

end TimedBatch
