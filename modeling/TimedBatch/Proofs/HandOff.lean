import TimedBatch.Proofs.Generations
import TimedBatch.Proofs.Interlude
import TimedBatch.Proofs.Tokens

/-!
# Hand-offs

A batch leaves the stage when it is full, or when its time span is over. A new generation begins and
the alarm of the old one is cancelled; then the timer is asked for another alarm, and while it
answers the batch is in nobody's hands. What becomes of it is decided by the answer, by the demand,
and by whether a collaborator cancelled meanwhile: it is delivered as a whole, or every item of it
is discarded.
-/

namespace TimedBatch

variable {α : Type}

/-- A batch that cannot be paid finds no demand at all. -/
theorem Ledger.requested_eq_zero {ledger : Ledger} (unpaid : ledger.payBatch = none) :
    ledger.requested = 0 := by
  rw [Ledger.payBatch] at unpaid
  split at unpaid
  · cases unpaid
  · split at unpaid
    · assumption
    · cases unpaid

namespace Pipeline

/-! ## Batches that leave the stage -/

/-- The next signal closes the open batch: it is the last item that the batch has room for, or it
ends the time span of the current generation while there is an item in the batch. -/
inductive Closing (stage : Stage α) : Signal α → HandOff α → Prop where
  | size {item : α} {ledger : Ledger} (received : stage.ledger.receiveItem = some ledger)
      (full : stage.config.maxSize.count ≤ stage.batch.length + 1) :
      Closing stage (.item item) ⟨stage.batch ++ [item], .size⟩
  | time (filled : stage.batch ≠ []) :
      Closing stage (.tick stage.generation) ⟨stage.batch, .time⟩

theorem Closing.early {stage : Stage α} {signal : Signal α} {handOff : HandOff α}
    (closing : Closing stage signal handOff) : handOff.trigger ≠ .completion := by
  cases closing <;> exact nofun

/-- The open batch has left the stage, and an alarm is about to be set. -/
structure Closed (pipeline next : Pipeline α) (handOff : HandOff α) : Prop where
  status_eq : next.stage.status = .active
  config_eq : next.stage.config = pipeline.stage.config
  batch_eq : next.stage.batch = []
  generation_eq : next.stage.generation = pipeline.stage.generation + 1
  requested_eq : next.stage.ledger.requested = pipeline.stage.ledger.requested
  timer_eq : next.timer = idleTimer pipeline.stage pipeline.timer
  agenda_eq : next.agenda = .setAlarm (some handOff) :: pipeline.agenda
  chronicle_eq : ∃ events, next.chronicle = pipeline.chronicle ++ events ∧
    events.filterMap Event.outbound? = [] ∧ askedIn events = []

section Step

variable {pipeline : Pipeline α} {signal : Signal α} {rest : List (Signal α)}
  {handOff : HandOff α} {missed : Nat} {below : List (Task α)}

theorem closed_step (agenda_eq : pipeline.agenda = .workOff missed :: below)
    (active : pipeline.stage.status = .active)
    (signals_eq : pipeline.stage.signals = signal :: rest)
    (closing : Closing pipeline.stage signal handOff) :
    Closed pipeline pipeline.step handOff := by
  obtain ⟨stage, timer, events, tasks, effect, becomes⟩ := exists_step_effect agenda_eq
  cases effect with
  | free aside inert allFree => cases aside
  | swept aside gone => cases aside
  | accounted empty done => cases signals_eq.symm.trans empty
  | accountedMore empty more => cases signals_eq.symm.trans empty
  | @handled _ _ _ _ _ events tasks first dispatch =>
      cases signals_eq.symm.trans first
      have unheard := filterMap_eq_nil_of_isAside Event.outbound?_of_isAside dispatch.aside
      have unasked := filterMap_eq_nil_of_isAside movement?_of_isAside dispatch.aside
      have chronicle_eq : ∃ more, pipeline.step.chronicle = pipeline.chronicle ++ more ∧
          more.filterMap Event.outbound? = [] ∧ askedIn more = [] :=
        ⟨_, becomes.chronicle_eq, unheard, congrArg (List.filterMap Movement.asked?) unasked⟩
      have agenda_eq : pipeline.step.agenda = tasks ++ pipeline.agenda := by
        rw [becomes.agenda_eq, List.append_assoc, agenda_eq]
        rfl
      have stage_eq := becomes.stage_eq
      cases closing with
      | size received full =>
          cases dispatch with
          | itemLate ended => exact absurd active ended
          | itemUnrequested _ unrequested => cases unrequested.symm.trans received
          | itemTaken _ _ room => exact absurd room (Nat.not_lt_of_le full)
          | itemLast _ received _ =>
              constructor
              case timer_eq => exact becomes.timer_eq
              case agenda_eq => exact agenda_eq
              case chronicle_eq => exact chronicle_eq
              case status_eq => exact (congrArg Stage.status stage_eq).trans active
              case requested_eq =>
                rw [stage_eq]
                exact Ledger.requested_receiveItem received
              all_goals rw [stage_eq]; rfl
      | time filled =>
          cases dispatch with
          | tickLate ended => exact absurd active ended
          | tickStale _ stale => exact absurd rfl stale
          | tickEmpty _ empty => exact absurd empty filled
          | tickClosing _ _ =>
              constructor
              case timer_eq => exact becomes.timer_eq
              case agenda_eq => exact agenda_eq
              case chronicle_eq => exact chronicle_eq
              case status_eq => exact (congrArg Stage.status stage_eq).trans active
              all_goals rw [stage_eq]; rfl

theorem step_of_setAlarm {handOff : Option (HandOff α)}
    (agenda_eq : pipeline.agenda = .setAlarm handOff :: below) :
    pipeline.step =
      { pipeline with
        timer := pipeline.askTimer.2
        agenda := .call (.schedule pipeline.stage.config.timeSpan pipeline.askTimer.1.isOk) ::
          .answered pipeline.askTimer.1 handOff :: below } := by
  rw [step_of_agenda agenda_eq]
  rfl

end Step

/-! ## What becomes of a batch -/

/-- What may become of a batch that was handed off. -/
inductive Fate where
  | delivered
  /-- The timer refused the alarm. -/
  | refused
  /-- A collaborator cancelled while the timer was asked. -/
  | cancelled
  /-- The consumer had asked for no batch. -/
  | unpaid

/-- Every item of a batch is discarded once and in order. Then the stage ends with an error, of
which the consumer is told, unless a collaborator has cancelled. -/
structure Lost (batch : List α) (error : StreamError) (last : Pipeline α)
    (before after : List (Event α)) : Prop where
  discarded_eq : discardedIn after = batch
  ends : last.stage.status = .errored ∧ told after = [.error error] ∨
    last.stage.status = .cancelled ∧ told after = [] ∧ .entered .cancel ∈ before ++ after

/-- What becomes of a batch once the timer has answered, where the answer has returned to the stage
at one pipeline and the hand-off is over at another. -/
inductive Fares (handOff : HandOff α) (answer : Except TimerRejection CancelToken)
    (returned last : Pipeline α) (before after : List (Event α)) : Fate → Prop where
  /-- One unit of the demand is charged, and the whole batch is delivered. -/
  | delivered {token : CancelToken} {more : List (Event α)} (accepted : answer = .ok token)
      (active : returned.stage.status = .active)
      (wanted : returned.stage.ledger.requested ≠ 0)
      (charged : returned.step.stage.ledger.requested =
        Movement.delivered.apply returned.stage.ledger.requested)
      (delivers : after = [.log (flushedLine handOff returned.stage.generation),
        .called (.next handOff.batch)] ++ more)
      (nothing : spoken more = []) (uncharged : Uncharged returned.step last more) :
      Fares handOff answer returned last before after .delivered
  | refused {rejection : TimerRejection} (rejected : answer = .error rejection)
      (uncharged : Uncharged returned last after)
      (lost : Lost handOff.batch (.timerRejected rejection) last before after) :
      Fares handOff answer returned last before after .refused
  /-- Every item is discarded, and the consumer is told nothing. -/
  | cancelled {token : CancelToken} (accepted : answer = .ok token)
      (ended : returned.stage.status = .cancelled) (called : .entered .cancel ∈ before)
      (uncharged : Uncharged returned last after)
      (discarded_eq : discardedIn after = handOff.batch) (untold : told after = [])
      (status_eq : last.stage.status = .cancelled) :
      Fares handOff answer returned last before after .cancelled
  /-- The new alarm is cancelled, too. -/
  | unpaid {token : CancelToken} (accepted : answer = .ok token)
      (active : returned.stage.status = .active)
      (unpaid : returned.stage.ledger.requested = 0)
      (released : returned.step.timer.isCancelled token = true)
      (uncharged : Uncharged returned last after)
      (lost : Lost handOff.batch .insufficientDemand last before after) :
      Fares handOff answer returned last before after .unpaid

section Fates

variable {config : Config} {setup : Setup α} {first returned last : Pipeline α}
  {below : List (Task α)} {before after events : List (Event α)} {handOff : HandOff α}
  {answer : Except TimerRejection CancelToken} {calls : List (Outbound α)}

/-- A batch has one fate. -/
theorem Fares.unique {fate other : Fate}
    (fares : Fares handOff answer returned last before after fate)
    (faresToo : Fares handOff answer returned last before after other) : other = fate := by
  cases fares with
  | delivered accepted active wanted =>
      cases faresToo with
      | delivered => rfl
      | refused rejected => cases accepted.symm.trans rejected
      | cancelled _ ended => cases active.symm.trans ended
      | unpaid _ _ unpaid => exact absurd unpaid wanted
  | refused rejected =>
      cases faresToo with
      | refused => rfl
      | _ accepted => cases rejected.symm.trans accepted
  | cancelled accepted ended =>
      cases faresToo with
      | cancelled => rfl
      | refused rejected => cases accepted.symm.trans rejected
      | delivered _ active => cases active.symm.trans ended
      | unpaid _ active => cases active.symm.trans ended
  | unpaid accepted active unpaid =>
      cases faresToo with
      | unpaid => rfl
      | refused rejected => cases accepted.symm.trans rejected
      | cancelled _ ended => cases active.symm.trans ended
      | delivered _ _ wanted => exact absurd unpaid wanted

theorem Passage.discardedIn_eq (passage : Passage first last events calls) :
    discardedIn events = calls.flatMap Outbound.discards := by
  rw [Pipeline.discardedIn_eq, passage.spoken_eq]

theorem Passage.told_eq (passage : Passage first last events calls) :
    told events = calls.filterMap Outbound.heard? := by
  rw [told, passage.spoken_eq]

/-- A stage that is active, or was cancelled before, discards a batch and fails. -/
theorem Clears.lost {items : List α} {error : StreamError} (clears : Clears below first last)
    (reachable : Reachable config setup first)
    (agenda_eq : first.agenda = failureTasks setup.hook items error ++ below)
    (empty : first.stage.batch = []) (working : ∃ missed, .workOff missed ∈ below)
    (entering : first.stage.status = .active ∨
      first.stage.status = .cancelled ∧ .entered .cancel ∈ before) :
    ∃ after calls, Passage first last after calls ∧ Lost items error last before after := by
  obtain ⟨between, events, more, calls, discards, passes, fails⟩ :=
    clears.failure reachable agenda_eq empty working
  have whole := discards.toPassage.trans passes
  refine ⟨_, _, whole, ?_⟩
  cases fails with
  | told active errored =>
      constructor
      · rw [whole.discardedIn_eq, List.flatMap_append, List.flatMap_append, discards_hookCalls,
          discards_hookCalls]
        exact List.append_nil items
      · refine Or.inl ⟨errored, ?_⟩
        rw [whole.told_eq, List.filterMap_append, List.filterMap_append, heard_hookCalls,
          heard_hookCalls]
        rfl
  | late ended status_eq =>
      constructor
      · rw [whole.discardedIn_eq, List.append_nil, discards_hookCalls]
      · refine Or.inr ?_
        rw [whole.told_eq, List.append_nil, heard_hookCalls, status_eq]
        rcases entering with active | ⟨cancelled, called⟩
        · obtain ⟨cancelled, called⟩ := (discards.status_kept.of_active active).resolve_left ended
          exact ⟨cancelled, rfl, List.mem_append_right _ (List.mem_append_left _ called)⟩
        · have still := discards.status_kept.of_ended (by simp [cancelled])
          exact ⟨still.trans cancelled, rfl, List.mem_append_left _ called⟩

/-- A stage that has ended discards a batch and tells nobody. -/
theorem Clears.discards {items : List α} (clears : Clears below first last)
    (reachable : Reachable config setup first)
    (agenda_eq : first.agenda = hookTasks setup.hook items ++ below)
    (ended : first.stage.status ≠ .active) (working : ∃ missed, .workOff missed ∈ below) :
    ∃ after calls, Passage first last after calls ∧ discardedIn after = items ∧
      told after = [] ∧ last.stage.status = first.stage.status := by
  rw [hookTasks_eq] at agenda_eq
  obtain ⟨after, discards⟩ := clears.calls reachable agenda_eq (isInner_hookCalls _ _) working
  refine ⟨after, _, discards.toPassage, ?_, ?_, discards.status_kept.of_ended ended⟩
  · rw [discards.discardedIn_eq, discards_hookCalls]
  · rw [discards.told_eq, heard_hookCalls]

/-- A batch is delivered, and nothing else is done for the signal. -/
theorem Clears.delivers {batch : List α} (clears : Clears below first last)
    (reachable : Reachable config setup first)
    (agenda_eq : first.agenda = .call (.next batch) :: below)
    (working : ∃ missed, .workOff missed ∈ below) :
    ∃ more, last.chronicle = first.chronicle ++ .called (.next batch) :: more ∧
      spoken more = [] ∧ Uncharged first last more ∧
      last.stage.generation = first.stage.generation := by
  obtain ⟨tasks, made, rest_eq, outer⟩ := interlude_step_of_call agenda_eq rfl
  obtain ⟨more, reacts⟩ :=
    (clears.next agenda_eq).interlude reachable.step rest_eq outer working
  have whole := made.trans reacts
  exact ⟨more, whole.chronicle_eq, reacts.spoken_eq, whole.uncharged, whole.generation_eq⟩

/-- What becomes of a batch is decided when the answer of the timer has returned. -/
theorem Clears.fares (clears : Clears below returned last)
    (reachable : Reachable config setup returned)
    (agenda_eq : returned.agenda = .answered answer (some handOff) :: below)
    (empty : returned.stage.batch = []) (working : ∃ missed, .workOff missed ∈ below)
    (early : handOff.trigger ≠ .completion)
    (entering : returned.stage.status = .active ∨
      returned.stage.status = .cancelled ∧ .entered .cancel ∈ before) :
    ∃ after fate, last.chronicle = returned.chronicle ++ after ∧
      last.stage.generation = returned.stage.generation ∧
      Fares handOff answer returned last before after fate := by
  have hook_eq : returned.hook = setup.hook := congrArg Nature.hook reachable.nature_eq
  have clears := clears.next agenda_eq
  obtain ⟨stage, timer, events, tasks, effect, becomes⟩ := exists_step_effect agenda_eq
  have stage_eq := becomes.stage_eq
  cases effect with
  | free aside inert allFree => cases aside
  | swept aside gone => cases aside
  | @acceptedHandOff token _ _ _ _ _ delivery =>
      cases delivery with
      | late ended =>
          have passes := passage_of_becomes becomes (List.forall_mem_nil _) rfl rfl
          obtain ⟨cancelled, called⟩ := entering.resolve_left ended
          have stack_eq : returned.step.agenda = hookTasks setup.hook handOff.batch ++ below := by
            rw [becomes.agenda_eq, ← hook_eq]
          obtain ⟨after, _, loses, discarded_eq, untold, still⟩ :=
            clears.discards reachable.step stack_eq (by rw [stage_eq]; exact ended) working
          have whole := passes.trans loses
          refine ⟨_, _, whole.chronicle_eq, whole.generation_eq,
            .cancelled rfl cancelled called whole.uncharged discarded_eq untold ?_⟩
          rw [still, stage_eq]
          exact cancelled
      | unpaid active unpaid =>
          have passes := passage_of_becomes becomes (List.forall_mem_nil _) rfl rfl
          have stack_eq : returned.step.agenda =
              failureTasks setup.hook handOff.batch .insufficientDemand ++ below := by
            rw [becomes.agenda_eq, ← hook_eq]
          obtain ⟨after, _, loses, lost⟩ := clears.lost reachable.step stack_eq
            (by rw [stage_eq]; exact empty) working (Or.inl (by rw [stage_eq]; exact active))
          have made : token.index < returned.timer.register.bits.length := by
            refine reachable.made_of_mem_tokens (List.mem_append_right _ ?_)
            rw [agenda_eq]
            exact List.mem_cons_self
          have whole := passes.trans loses
          refine ⟨_, _, whole.chronicle_eq, whole.generation_eq,
            .unpaid rfl active (Ledger.requested_eq_zero unpaid) ?_ whole.uncharged lost⟩
          rw [becomes.timer_eq]
          exact isCancelled_idleTimer rfl made
      | paid active paid =>
          obtain ⟨wanted, charged⟩ := Ledger.requested_payBatch paid
          have closing : closingTasks handOff = ([] : List (Task α)) := if_neg early
          have stack_eq : returned.step.agenda = .call (.next handOff.batch) :: below := by
            rw [becomes.agenda_eq, closing]
            rfl
          obtain ⟨more, chronicle_eq, nothing, uncharged, generation_eq⟩ :=
            clears.delivers reachable.step stack_eq working
          refine ⟨_, _, ?_, ?_, .delivered rfl active wanted ?_ rfl nothing uncharged⟩
          · rw [chronicle_eq, becomes.chronicle_eq]
            exact List.append_assoc _ _ _
          · rw [generation_eq, stage_eq]
          · rw [stage_eq]
            exact charged
  | @refusedHandOff rejection =>
      have passes := passage_of_becomes becomes (List.forall_mem_nil _) rfl rfl
      have stack_eq : returned.step.agenda =
          failureTasks setup.hook handOff.batch (.timerRejected rejection) ++ below := by
        rw [becomes.agenda_eq, ← hook_eq]
      obtain ⟨after, _, loses, lost⟩ := clears.lost reachable.step stack_eq
        (by rw [stage_eq]; exact empty) working (by rw [stage_eq]; exact entering)
      have whole := passes.trans loses
      exact ⟨_, _, whole.chronicle_eq, whole.generation_eq, .refused rfl whole.uncharged lost⟩

end Fates

/-! ## Hand-offs that come to an end -/

section Ends

variable {config : Config} {setup : Setup α} {pipeline : Pipeline α} {task : Task α}
  {upper below rest : List (Task α)}

/-- Where no alarm is set, an alarm that starts is one less in the queue. -/
theorem firings_add_queue_step_le (agenda_eq : pipeline.agenda = task :: rest)
    (other : ∀ handOff, task ≠ .setAlarm handOff) :
    pipeline.step.firings + pipeline.step.timer.queue.length ≤
      pipeline.firings + pipeline.timer.queue.length := by
  obtain ⟨stage, timer, events, tasks, effect, becomes⟩ := exists_step_effect agenda_eq
  have shorter : pipeline.step.timer.queue.length ≤ pipeline.timer.queue.length :=
    becomes.timer_eq ▸ (effect.sublist_queue other).2.length_le
  by_cases clock : ∃ instant, task = .advance instant
  · obtain ⟨instant, rfl⟩ := clock
    have firings_eq : pipeline.step.firings = pipeline.firings + events.countP Event.isFired := by
      rw [firings, becomes.chronicle_eq, List.countP_append]
      rfl
    have fired : ∀ {alarm : Alarm UInt64}, pipeline.timer.takeDue instant = some (alarm, timer) →
        pipeline.firings + 1 + timer.queue.length ≤
          pipeline.firings + pipeline.timer.queue.length := by
      intro alarm due
      obtain ⟨_, others, queue_eq, rfl⟩ := Timer.eq_of_takeDue due
      rw [queue_eq, List.length_cons]
      show _ + 1 + others.length ≤ _
      omega
    rw [firings_eq]
    cases effect with
    | free aside inert allFree => cases aside
    | swept aside gone => cases aside
    | clockSet idle => exact Nat.add_le_add_left shorter _
    | alarmPassedOver due cancelled => exact Nat.add_le_add_left shorter _
    | alarmFiredLate due live gone => exact becomes.timer_eq ▸ fired due
    | alarmFired due live held => exact becomes.timer_eq ▸ fired due
  · rw [step_of_agenda agenda_eq] at shorter ⊢
    rw [firings_perform _ fun instant same => clock ⟨instant, same⟩]
    exact Nat.add_le_add_left shorter _

/-- Above the work on the queue no alarm is set unless one is about to be. -/
theorem Reachable.unasked_step (reachable : Reachable config setup pipeline)
    (agenda_eq : pipeline.agenda = task :: upper ++ below)
    (working : ∃ missed, .workOff missed ∈ below)
    (unasked : ∀ handOff, .setAlarm handOff ∉ task :: upper) :
    ∃ left, pipeline.step.agenda = left ++ below ∧ ∀ handOff, .setAlarm handOff ∉ left := by
  obtain ⟨missed, working⟩ := working
  have other : ∀ handOff, task ≠ .setAlarm handOff := by
    rintro handOff rfl
    exact unasked handOff List.mem_cons_self
  have idle : task.isWorkOff ≠ true := by
    intro works
    have beneath := reachable.inOrder.beneath
    rw [agenda_eq] at beneath
    have outer := (List.pairwise_cons.mp beneath).1 _ (List.mem_append_right upper working) works
    cases outer
  obtain ⟨tasks, after_eq, turn⟩ := exists_turn reachable.steady agenda_eq other
  refine ⟨tasks ++ upper, after_eq.trans (List.append_assoc _ _ _).symm, fun handOff member => ?_⟩
  rcases List.mem_append.mp member with added | before
  · cases turn with
    | ends _ none => exact none handOff added
    | goesOn _ none => exact none handOff added
    | renews works => exact idle (works ▸ rfl)
    | repeats works => exact idle (works ▸ rfl)
  · exact unasked handOff (List.mem_cons_of_mem _ before)

/-- Where no alarm is about to be set, whatever stands above the work on the queue is done, if only
so many calls are made in the middle of it. -/
theorem Reachable.exists_clears_of_unasked (reachable : Reachable config setup pipeline)
    (agenda_eq : pipeline.agenda = upper ++ below) (working : ∃ missed, .workOff missed ∈ below)
    (unasked : ∀ handOff, .setAlarm handOff ∉ upper) {limit : Nat}
    (calls : ∀ moment, WorksAbove below pipeline moment → moment.reentrantCalls ≤ limit) :
    ∃ last, Clears below pipeline last := by
  have few : ∀ moment, WorksAbove below pipeline moment →
      moment.firings ≤ pipeline.firings + pipeline.timer.queue.length := by
    intro moment works
    obtain ⟨_, _, bound, _⟩ := works.preserve agenda_eq
      (fun moment left => moment.firings + moment.timer.queue.length ≤
        pipeline.firings + pipeline.timer.queue.length ∧ ∀ handOff, .setAlarm handOff ∉ left)
      ⟨Nat.le_refl _, unasked⟩ <| by
      rintro moment task left earlier stack_eq ⟨bound, unasked⟩
      have other : ∀ handOff, task ≠ .setAlarm handOff := by
        rintro handOff rfl
        exact unasked handOff List.mem_cons_self
      obtain ⟨next, next_eq, still⟩ :=
        (earlier.reachable reachable).unasked_step stack_eq working unasked
      exact ⟨next, next_eq, (firings_add_queue_step_le stack_eq other).trans bound, still⟩
    exact (Nat.le_add_right _ _).trans bound
  exact reachable.exists_clears agenda_eq calls few

end Ends

/-! ## Hand-offs -/

/-- The course of a hand-off: up to the pipeline at which the answer of the timer has returned, and
from there to the one at which the next signal is due. -/
structure Course (pipeline returned last : Pipeline α) (before after : List (Event α)) :
    Prop where
  returned_eq : returned.chronicle = pipeline.chronicle ++ before
  last_eq : last.chronicle = returned.chronicle ++ after
  /-- The timer is called, and no other call is made by the work on the signal. -/
  spoken_eq : spoken before =
    [.schedule pipeline.stage.config.timeSpan pipeline.step.askTimer.1.isOk]
  uncharged : Uncharged pipeline returned before
  generation_eq : last.stage.generation = pipeline.stage.generation + 1

/-- What is known of a hand-off. The answer of the timer returns when its call has returned, and
the hand-off is over when whoever works the queue off goes on. -/
structure HandsOff (pipeline : Pipeline α) (handOff : HandOff α) : Prop where
  generation_eq : pipeline.step.stage.generation = pipeline.stage.generation + 1
  /-- The old alarm is cancelled, and nobody has been called. -/
  released : ∀ token, pipeline.stage.alarm = some token →
    pipeline.step.timer.isCancelled token = true
  uncalled : ∃ events, pipeline.step.step.chronicle = pipeline.chronicle ++ events ∧
    events.filterMap Event.outbound? = []
  /-- Only then the timer is called. -/
  asks : pipeline.step.step.agenda =
    .call (.schedule pipeline.stage.config.timeSpan pipeline.step.askTimer.1.isOk) ::
      .answered pipeline.step.askTimer.1 (some handOff) :: pipeline.agenda
  fares : ∀ returned last,
    Clears (.answered pipeline.step.askTimer.1 (some handOff) :: pipeline.agenda)
      pipeline.step.step returned →
    Clears pipeline.agenda returned last →
      ∃ before after, Course pipeline returned last before after ∧
        ∃! fate, Fares handOff pipeline.step.askTimer.1 returned last before after fate
  /-- If only so many calls are made in the middle of it, the hand-off is over at some time. -/
  ends : ∀ limit,
    (∀ moment, WorksAbove pipeline.agenda pipeline.step.step moment →
      moment.reentrantCalls ≤ limit) →
    ∃ returned last,
      Clears (.answered pipeline.step.askTimer.1 (some handOff) :: pipeline.agenda)
        pipeline.step.step returned ∧
      Clears pipeline.agenda returned last

section Reachable

variable {config : Config} {setup : Setup α} {pipeline : Pipeline α} {signal : Signal α}
  {rest : List (Signal α)} {handOff : HandOff α} {missed : Nat} {below : List (Task α)}

/-- Whatever collaborators do in the middle of a hand-off, the batch has one fate, which the answer
of the timer, the demand and the status decide. -/
theorem Reachable.handsOff (reachable : Reachable config setup pipeline)
    (agenda_eq : pipeline.agenda = .workOff missed :: below)
    (active : pipeline.stage.status = .active)
    (signals_eq : pipeline.stage.signals = signal :: rest)
    (closing : Closing pipeline.stage signal handOff) : HandsOff pipeline handOff := by
  have closed := closed_step agenda_eq active signals_eq closing
  have step_eq := step_of_setAlarm closed.agenda_eq
  have asks : pipeline.step.step.agenda =
      .call (.schedule pipeline.stage.config.timeSpan pipeline.step.askTimer.1.isOk) ::
        .answered pipeline.step.askTimer.1 (some handOff) :: pipeline.agenda := by
    rw [step_eq, closed.config_eq]
  have stage_eq : pipeline.step.step.stage = pipeline.step.stage := by rw [step_eq]
  have working : ∃ missed, .workOff missed ∈ pipeline.agenda :=
    ⟨missed, agenda_eq ▸ List.mem_cons_self⟩
  have asked := reachable.step.step
  obtain ⟨events, chronicle_eq, uncalled, unasked⟩ := closed.chronicle_eq
  constructor
  case generation_eq => exact closed.generation_eq
  case released =>
    intro token alarm_eq
    rw [closed.timer_eq]
    refine isCancelled_idleTimer alarm_eq (reachable.made_of_mem_tokens ?_)
    rw [tokens, alarm_eq]
    exact List.mem_append_left _ List.mem_cons_self
  case uncalled =>
    refine ⟨events, ?_, uncalled⟩
    rw [step_eq]
    exact chronicle_eq
  case asks => exact asks
  case fares =>
    intro returned last returns clears
    let answered := pipeline.step.askTimer.1
    have call_eq : pipeline.step.step.agenda =
        [Outbound.schedule pipeline.stage.config.timeSpan answered.isOk].map .call ++
          (.answered answered (some handOff) :: pipeline.agenda) := asks
    obtain ⟨asking, meanwhile⟩ := returns.calls asked call_eq (List.forall_mem_singleton.mpr rfl)
      (working.imp fun _ => List.mem_cons_of_mem _)
    have entering : returned.stage.status = .active ∨
        returned.stage.status = .cancelled ∧ .entered .cancel ∈ events ++ asking := by
      refine (meanwhile.status_kept.of_active ?_).imp_right
        (And.imp_right (List.mem_append_right events))
      rw [stage_eq]
      exact closed.status_eq
    obtain ⟨after, fate, last_eq, generation_eq, fares⟩ :=
      clears.fares (returns.works.reachable asked) returns.agenda_eq
        (by rw [meanwhile.batch_eq, stage_eq, closed.batch_eq]) working closing.early entering
    refine ⟨events ++ asking, after, ?_, fate, fares, fun _ => fares.unique⟩
    constructor
    case returned_eq =>
      rw [meanwhile.chronicle_eq, ← List.append_assoc, ← chronicle_eq, step_eq]
      rfl
    case last_eq => exact last_eq
    case spoken_eq =>
      rw [spoken_append, meanwhile.spoken_eq, spoken, uncalled]
      rfl
    case uncharged =>
      rw [Uncharged, meanwhile.uncharged, askedIn_append, unasked, stage_eq, closed.requested_eq]
      rfl
    case generation_eq =>
      rw [generation_eq, meanwhile.generation_eq, stage_eq, closed.generation_eq]
  case ends =>
    intro limit calls
    have stack_eq : pipeline.step.step.agenda =
        [.call (.schedule pipeline.stage.config.timeSpan pipeline.step.askTimer.1.isOk)] ++
          ([.answered pipeline.step.askTimer.1 (some handOff)] ++ pipeline.agenda) := asks
    obtain ⟨last, clears⟩ := asked.exists_clears_of_unasked
      (stack_eq.trans (List.append_assoc _ _ _).symm) working (by simp) calls
    obtain ⟨returned, returns, clears⟩ := clears.split stack_eq
    exact ⟨returned, last, returns, clears⟩

end Reachable

/-- The consumer cancels while the alarm after its first batch is set. The batch is on its way then
and is discarded. -/
theorem handsOff_of_cancel_in_schedule :
    ∃ pipeline returned last : Pipeline Nat,
      Reachable ⟨2, .ofMillis 10, .unbounded⟩
        { reactions := fun kind earlier =>
            if kind = .subscribe ∧ earlier = 0 then [.request 1]
            else if kind = .schedule ∧ earlier = 1 then [.cancel] else [] }
        pipeline ∧
      pipeline.stage.batch = [1] ∧ pipeline.stage.ledger.requested = 1 ∧
      HandsOff pipeline ⟨[1, 2], .size⟩ ∧
      Clears (.answered pipeline.step.askTimer.1 (some ⟨[1, 2], .size⟩) :: pipeline.agenda)
        pipeline.step.step returned ∧
      Clears pipeline.agenda returned last ∧
      (pipeline.run 20).delivered = [] ∧ (pipeline.run 20).discarded = [1, 2] := by
  have start : @Reachable Nat ⟨2, .ofMillis 10, .unbounded⟩
      { reactions := fun kind earlier =>
          if kind = .subscribe ∧ earlier = 0 then [.request 1]
          else if kind = .schedule ∧ earlier = 1 then [.cancel] else [] } _ :=
    Reachable.of_opening rfl
  have subscribed := start.act rfl .subscribe 40
  have filling := subscribed.act rfl (.next [1, 2]) 5
  have handsOff := Reachable.handsOff filling rfl rfl rfl (.size rfl (by decide))
  have silent : ∀ kind earlier, 2 ≤ earlier → callTotal
      (if kind = CallKind.subscribe ∧ earlier = 0 then [Action.request 1]
      else if kind = CallKind.schedule ∧ earlier = 1 then [Action.cancel]
      else ([] : List (Action Nat))) = 0 := by
    intro kind earlier late
    rw [if_neg (by omega), if_neg (by omega)]
    rfl
  obtain ⟨limit, few⟩ := filling.step.step.exists_reentrantCalls_le 2 silent
  obtain ⟨returned, last, returns, clears⟩ := handsOff.ends limit fun _ works => few _ works.later
  exact ⟨_, returned, last, filling, rfl, rfl, handsOff, returns, clears, rfl, rfl⟩

end Pipeline

end TimedBatch
