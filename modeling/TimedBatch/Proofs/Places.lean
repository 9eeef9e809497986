import TimedBatch.PlainBuffer
import TimedBatch.Proofs.Alarms
import TimedBatch.Proofs.Serial

/-!
# Places of a quiet pipeline

While the collaborators of a pipeline do nothing of their own, what happens next depends on its
stage, its timer and its agenda alone. Together with what was seen so far they are the place at
which the pipeline stands. `Leads` says that a run gets from one place to another; there is one
such lemma for each task, and the lemmas about whole calls are chains of them.
-/

namespace TimedBatch

variable {α : Type}

/-- The place of a pipeline whose collaborators do nothing of their own. -/
structure Place (α : Type) where
  stage : Stage α
  timer : Timer UInt64
  agenda : List (Task α)
  outputs : List (Nat × Output α)

namespace Pipeline

/-- A pipeline stands at a place, and its collaborators do nothing of their own. -/
structure StandsAt (hook : DiscardHook) (place : Place α) (pipeline : Pipeline α) : Prop where
  stage_eq : pipeline.stage = place.stage
  timer_eq : pipeline.timer = place.timer
  agenda_eq : pipeline.agenda = place.agenda
  outputs_eq : pipeline.outputs = place.outputs
  hook_eq : pipeline.hook = hook
  attached : pipeline.detached = false
  refusal_eq : pipeline.refusal = none
  subscribed : pipeline.subscribed = true
  owned : pipeline.owned = true
  quiet : ∀ kind count, pipeline.reactions kind count = []

/-- A run leads from one place to another. -/
def Leads (hook : DiscardHook) (first last : Place α) : Prop :=
  ∀ pipeline, StandsAt hook first pipeline → ∃ bound, StandsAt hook last (pipeline.run bound)

/-- A part of a task and a run after it lead from one place to another. -/
def LeadsBy (hook : DiscardHook) (part : Pipeline α → Pipeline α) (first last : Place α) : Prop :=
  ∀ pipeline, StandsAt hook first pipeline →
    ∃ bound, StandsAt hook last ((part pipeline).run bound)

theorem outputs_note (pipeline : Pipeline α) (event : Event α) :
    (pipeline.note event).outputs =
      pipeline.outputs ++ event.outputs.map (Prod.mk pipeline.timer.now.nanos) := by
  simp [outputs, note, Entry.outputs]

section Stands

variable {hook : DiscardHook} {stage : Stage α} {timer : Timer UInt64} {agenda : List (Task α)}
  {outputs : List (Nat × Output α)} {pipeline : Pipeline α}

theorem StandsAt.stage_is (stands : StandsAt hook ⟨stage, timer, agenda, outputs⟩ pipeline) :
    pipeline.stage = stage :=
  stands.stage_eq

theorem StandsAt.note (stands : StandsAt hook ⟨stage, timer, agenda, outputs⟩ pipeline)
    (event : Event α) :
    StandsAt hook ⟨stage, timer, agenda, outputs ++ event.outputs.map (Prod.mk timer.now.nanos)⟩
      (pipeline.note event) :=
  { stands with
    outputs_eq := by rw [outputs_note, stands.outputs_eq, stands.timer_eq] }

/-- An event that shows nothing leaves a pipeline where it stands. -/
theorem StandsAt.noteSilent (stands : StandsAt hook ⟨stage, timer, agenda, outputs⟩ pipeline)
    {event : Event α} (silent : event.outputs = []) :
    StandsAt hook ⟨stage, timer, agenda, outputs⟩ (pipeline.note event) := by
  have noted := stands.note event
  rw [silent, List.map_nil, List.append_nil] at noted
  exact noted

theorem StandsAt.todo (stands : StandsAt hook ⟨stage, timer, agenda, outputs⟩ pipeline)
    (tasks : List (Task α)) :
    StandsAt hook ⟨stage, timer, tasks ++ agenda, outputs⟩ (pipeline.todo tasks) :=
  { stands with agenda_eq := congrArg (tasks ++ ·) stands.agenda_eq }

theorem StandsAt.withStage (stands : StandsAt hook ⟨stage, timer, agenda, outputs⟩ pipeline)
    (next : Stage α) :
    StandsAt hook ⟨next, timer, agenda, outputs⟩ (pipeline.withStage next) :=
  { stands with stage_eq := rfl }

theorem StandsAt.withTimer (stands : StandsAt hook ⟨stage, timer, agenda, outputs⟩ pipeline)
    (next : Timer UInt64) :
    StandsAt hook ⟨stage, next, agenda, outputs⟩ { pipeline with timer := next } :=
  { stands with timer_eq := rfl }

theorem StandsAt.withAgenda (stands : StandsAt hook ⟨stage, timer, agenda, outputs⟩ pipeline)
    (next : List (Task α)) :
    StandsAt hook ⟨stage, timer, next, outputs⟩ { pipeline with agenda := next } :=
  { stands with agenda_eq := rfl }

theorem StandsAt.hold (stands : StandsAt hook ⟨stage, timer, agenda, outputs⟩ pipeline)
    (tasks : List (Task α)) :
    StandsAt hook ⟨stage, timer, tasks ++ .release :: agenda, outputs⟩ (pipeline.hold tasks) :=
  { stands with
    agenda_eq := by
      rw [Pipeline.hold, agenda_todo, stands.agenda_eq, List.append_assoc]
      rfl }

theorem StandsAt.cancelAlarm (stands : StandsAt hook ⟨stage, timer, agenda, outputs⟩ pipeline) :
    StandsAt hook ⟨{ stage with alarm := none }, idleTimer stage timer, agenda, outputs⟩
      pipeline.cancelAlarm := by
  have setting := setting_cancelAlarm pipeline
  simp only [Pipeline.setting, Setting.mk.injEq] at setting
  obtain ⟨_, attached, refusal_eq, _, subscribed, owned, _, _, quiet⟩ := setting
  constructor
  · rw [stage_cancelAlarm, stands.stage_eq]
  · rw [timer_cancelAlarm_eq, stands.stage_eq, stands.timer_eq]
  · rw [agenda_cancelAlarm, stands.agenda_eq]
  · rw [Pipeline.outputs, journal_cancelAlarm]
    exact stands.outputs_eq
  · rw [hook_cancelAlarm, stands.hook_eq]
  · rw [attached, stands.attached]
  · rw [refusal_eq, stands.refusal_eq]
  · rw [subscribed, stands.subscribed]
  · rw [owned, stands.owned]
  · rw [quiet]
    exact stands.quiet

theorem StandsAt.closeBatch (stands : StandsAt hook ⟨stage, timer, agenda, outputs⟩ pipeline)
    (trigger : Trigger) :
    StandsAt hook
      ⟨renewed stage, idleTimer stage timer, .setAlarm (some ⟨stage.batch, trigger⟩) :: agenda,
        outputs⟩
      (pipeline.closeBatch trigger) := by
  have idle := (stands.withStage stage.nextGeneration).cancelAlarm
  rw [Pipeline.closeBatch, stands.stage_is, idle.stage_is]
  exact (idle.withStage (renewed stage)).todo [.setAlarm (some ⟨stage.batch, trigger⟩)]

theorem StandsAt.cancelProducerTasks_eq
    (stands : StandsAt hook ⟨stage, timer, agenda, outputs⟩ pipeline) {producer : Nat}
    (attached : stage.producer = some producer) :
    pipeline.cancelProducerTasks = [.call (.cancel producer)] := by
  rw [cancelProducerTasks, stands.stage_is, attached]
  rfl

/-! ## Signals that are worked off -/

theorem StandsAt.takeInLate (stands : StandsAt hook ⟨stage, timer, agenda, outputs⟩ pipeline)
    (ended : stage.isActive = false) (item : α) :
    StandsAt hook ⟨stage, timer, .call (.discard (.item item)) :: agenda, outputs⟩
      (pipeline.takeIn item) := by
  have gone : ¬stage.isActive = true := by
    rw [ended]
    exact Bool.false_ne_true
  rw [Pipeline.takeIn, stands.stage_is, if_neg gone]
  exact stands.todo [.call (.discard (.item item))]

theorem StandsAt.takeIn (stands : StandsAt hook ⟨stage, timer, agenda, outputs⟩ pipeline)
    {item : α} {ledger : Ledger} (active : stage.isActive = true)
    (received : stage.ledger.receiveItem = some ledger)
    (room : ¬stage.config.maxSize.count ≤ (stage.batch ++ [item]).length) :
    StandsAt hook
      ⟨{ stage with
          ledger := ledger
          batch := stage.batch ++ [item]
          buffered := (stage.batch ++ [item]).length },
        timer, agenda, outputs⟩
      (pipeline.takeIn item) := by
  rw [Pipeline.takeIn, stands.stage_is, if_pos active, received]
  dsimp only
  rw [Stage.isFull, if_neg (by simpa using room)]
  have filled := stands.withStage
    { stage with
      ledger := ledger
      batch := stage.batch ++ [item]
      buffered := (stage.batch ++ [item]).length }
  exact filled.noteSilent rfl

theorem StandsAt.takeInLast (stands : StandsAt hook ⟨stage, timer, agenda, outputs⟩ pipeline)
    {item : α} {ledger : Ledger} (active : stage.isActive = true)
    (received : stage.ledger.receiveItem = some ledger)
    (full : stage.config.maxSize.count ≤ (stage.batch ++ [item]).length) :
    StandsAt hook
      ⟨renewed { stage with ledger := ledger }, idleTimer stage timer,
        .setAlarm (some ⟨stage.batch ++ [item], .size⟩) :: agenda, outputs⟩
      (pipeline.takeIn item) := by
  rw [Pipeline.takeIn, stands.stage_is, if_pos active, received]
  dsimp only
  rw [Stage.isFull, if_pos (by simpa using full)]
  have taken := (stands.withStage
    { stage with
      ledger := ledger
      batch := stage.batch ++ [item]
      buffered := (stage.batch ++ [item]).length }).noteSilent
    (show Event.outputs (.takenIn item) = [] from rfl)
  exact taken.closeBatch .size

theorem StandsAt.endSpanEmpty (stands : StandsAt hook ⟨stage, timer, agenda, outputs⟩ pipeline)
    (active : stage.isActive = true) (empty : stage.batch.isEmpty = true) :
    StandsAt hook
      ⟨{ stage with alarm := none }, idleTimer stage timer, .setAlarm none :: agenda, outputs⟩
      (pipeline.endSpan stage.generation) := by
  rw [Pipeline.endSpan, stands.stage_is, if_pos active, if_neg (not_not.mpr rfl), if_pos empty]
  exact (stands.noteSilent (show Event.outputs (.log (emptyTickLine stage.generation)) = [] from
    rfl)).cancelAlarm.todo [.setAlarm none]

theorem StandsAt.endSpan (stands : StandsAt hook ⟨stage, timer, agenda, outputs⟩ pipeline)
    (active : stage.isActive = true) (filled : ¬stage.batch.isEmpty = true) :
    StandsAt hook
      ⟨renewed stage, idleTimer stage timer, .setAlarm (some ⟨stage.batch, .time⟩) :: agenda,
        outputs⟩
      (pipeline.endSpan stage.generation) := by
  rw [Pipeline.endSpan, stands.stage_is, if_pos active, if_neg (not_not.mpr rfl), if_neg filled]
  exact stands.closeBatch .time

/-- After the end of a stage most signals leave a pipeline where it stands. -/
theorem StandsAt.handleLate (stands : StandsAt hook ⟨stage, timer, agenda, outputs⟩ pipeline)
    (ended : stage.isActive = false) {signal : Signal α} (noItem : ∀ item, signal ≠ .item item)
    (notCancelled : signal ≠ .cancelled) :
    StandsAt hook ⟨stage, timer, agenda, outputs⟩ (pipeline.handle signal) := by
  have gone : ¬pipeline.stage.isActive = true := by
    rw [stands.stage_is, ended]
    exact Bool.false_ne_true
  cases signal with
  | subscribed =>
      rw [handle, setFirstAlarm, if_neg (not_and_of_not_left _ gone)]
      exact stands
  | item item => exact absurd rfl (noItem item)
  | tick generation =>
      rw [handle, Pipeline.endSpan, if_neg gone]
      exact stands
  | completed =>
      rw [handle, deliverRest, if_neg gone]
      exact stands
  | failed error origin =>
      rw [handle, endWith, if_neg gone]
      exact stands.noteSilent rfl
  | cancelled => exact absurd rfl notCancelled

theorem StandsAt.discardRest (stands : StandsAt hook ⟨stage, timer, agenda, outputs⟩ pipeline) :
    StandsAt hook
      ⟨cleared stage, idleTimer stage timer, hookTasks hook stage.batch ++ agenda, outputs⟩
      pipeline.discardRest := by
  have idle := stands.cancelAlarm
  have discarded : ∀ {noted : Pipeline α},
      StandsAt hook ⟨{ stage with alarm := none }, idleTimer stage timer, agenda, outputs⟩ noted →
      StandsAt hook
        ⟨cleared stage, idleTimer stage timer, hookTasks hook stage.batch ++ agenda, outputs⟩
        (noted.discardBatch []) := by
    intro noted idle
    rw [discardBatch, idle.stage_is, discardTasks_eq, idle.hook_eq, List.append_nil]
    exact (idle.withStage (cleared stage)).todo (hookTasks hook stage.batch)
  rw [Pipeline.discardRest]
  split
  · exact discarded idle
  · exact discarded (idle.noteSilent rfl)

end Stands

/-! ## Chains -/

section Leads

variable {hook : DiscardHook} {first middle last : Place α}

theorem Leads.refl (hook : DiscardHook) (place : Place α) : Leads hook place place :=
  fun _ stands => ⟨0, stands⟩

theorem LeadsBy.trans {part : Pipeline α → Pipeline α} (earlier : LeadsBy hook part first middle)
    (later : Leads hook middle last) : LeadsBy hook part first last := by
  intro pipeline stands
  obtain ⟨bound, stands⟩ := earlier pipeline stands
  obtain ⟨others, stands⟩ := later _ stands
  refine ⟨bound + others, ?_⟩
  rw [run_add]
  exact stands

theorem Leads.trans (earlier : Leads hook first middle) (later : Leads hook middle last) :
    Leads hook first last := by
  have begun : LeadsBy hook id first middle := earlier
  exact begun.trans later

theorem LeadsBy.of_stands {part : Pipeline α → Pipeline α}
    (done : ∀ pipeline, StandsAt hook first pipeline → StandsAt hook middle (part pipeline))
    (leads : Leads hook middle last) : LeadsBy hook part first last :=
  fun pipeline stands => leads _ (done pipeline stands)

variable {stage : Stage α} {timer : Timer UInt64} {agenda : List (Task α)}
  {outputs : List (Nat × Output α)} {pipeline : Pipeline α}

/-- What a task does is a step from place to place. -/
theorem LeadsBy.leads {task : Task α}
    (performed : LeadsBy hook (perform · task) ⟨stage, timer, agenda, outputs⟩ last) :
    Leads hook ⟨stage, timer, task :: agenda, outputs⟩ last := by
  intro pipeline stands
  have agenda_eq : pipeline.agenda = task :: agenda := stands.agenda_eq
  obtain ⟨bound, stands⟩ := performed _ (stands.withAgenda agenda)
  refine ⟨bound + 1, ?_⟩
  rw [run_of_agenda agenda_eq]
  exact stands

theorem Leads.of_perform {task : Task α}
    (performed : ∀ pipeline, StandsAt hook ⟨stage, timer, agenda, outputs⟩ pipeline →
      StandsAt hook last (pipeline.perform task)) :
    Leads hook ⟨stage, timer, task :: agenda, outputs⟩ last :=
  LeadsBy.leads fun pipeline stands => ⟨0, performed pipeline stands⟩

/-! ## Calls of collaborators -/

theorem leads_call (call : Outbound α) :
    Leads hook ⟨stage, timer, .call call :: agenda, outputs⟩
      ⟨stage, timer, agenda, outputs ++ call.outputs.map (Prod.mk timer.now.nanos)⟩ := by
  apply Leads.of_perform
  intro pipeline stands
  have noted := stands.note (.called call)
  rw [perform, Pipeline.call]
  split
  · have silent : (pipeline.reactions call.kind (pipeline.calls call.kind)).map Task.act = [] := by
      rw [stands.quiet]
      rfl
    dsimp only
    rw [silent]
    exact { noted with
      subscribed := by
        change (pipeline.subscribed || _) = true
        rw [stands.subscribed]
        rfl }
  · exact noted

theorem leads_calls (calls : List (Outbound α)) :
    Leads hook ⟨stage, timer, calls.map Task.call ++ agenda, outputs⟩
      ⟨stage, timer, agenda,
        outputs ++ (calls.flatMap Outbound.outputs).map (Prod.mk timer.now.nanos)⟩ := by
  induction calls generalizing outputs with
  | nil =>
      simp only [List.flatMap_nil, List.map_nil, List.append_nil]
      exact .refl _ _
  | cons call calls ih =>
      rw [List.flatMap_cons, List.map_append, ← List.append_assoc]
      exact (leads_call call).trans ih

theorem flatMap_outputs_batchCalls (hook : DiscardHook) (items : List α) :
    ((hook.batchCalls items).map Outbound.discard).flatMap Outbound.outputs =
      items.map .discarded := by
  have oneByOne : ((items.map Discard.item).map Outbound.discard).flatMap Outbound.outputs =
      items.map Output.discarded := by
    induction items with
    | nil => rfl
    | cons item items ih =>
        rw [List.map_cons, List.map_cons, List.flatMap_cons, ih]
        rfl
  cases hook with
  | ignore => exact oneByOne
  | each => exact oneByOne
  | bulk => exact List.append_nil _

/-- The discard hook gets the items in their order. -/
theorem leads_hookTasks (items : List α) :
    Leads hook ⟨stage, timer, hookTasks hook items ++ agenda, outputs⟩
      ⟨stage, timer, agenda,
        outputs ++ (items.map .discarded).map (Prod.mk timer.now.nanos)⟩ := by
  have chain : Leads hook ⟨stage, timer, _ ++ agenda, outputs⟩ _ :=
    leads_calls ((hook.batchCalls items).map Outbound.discard)
  rw [flatMap_outputs_batchCalls, List.map_map] at chain
  exact chain

/-! ## The end of a stage -/

theorem leads_reportError {producer : Nat} (attached : stage.producer = some producer)
    (error : StreamError) (origin : Origin) :
    Leads hook ⟨stage, timer, .reportError error origin :: agenda, outputs⟩
      ⟨stage, timer, agenda,
        outputs ++ (origin.outputs error).map (Prod.mk timer.now.nanos)⟩ := by
  cases origin with
  | producer =>
      refine Leads.trans ?_ (leads_calls [.error error])
      apply Leads.of_perform
      intro pipeline stands
      exact stands.todo [.call (.error error)]
  | stage =>
      refine Leads.trans ?_ (leads_calls [.cancel producer, .error error])
      apply Leads.of_perform
      intro pipeline stands
      rw [perform, reportError, stands.cancelProducerTasks_eq attached]
      exact (stands.noteSilent rfl).todo [.call (.cancel producer), .call (.error error)]

/-- An error ends an active stage: its batch is discarded, and the error is reported. -/
theorem leadsBy_endWith {producer : Nat} (active : stage.isActive = true)
    (attached : stage.producer = some producer) (error : StreamError) (origin : Origin) :
    LeadsBy hook (endWith · error origin) ⟨stage, timer, agenda, outputs⟩
      ⟨{ cleared stage with status := .errored }, idleTimer stage timer, agenda,
        outputs ++ (stage.batch.map .discarded).map (Prod.mk timer.now.nanos) ++
          (origin.outputs error).map (Prod.mk timer.now.nanos)⟩ := by
  let errored : Stage α := { cleared stage with status := .errored }
  have still : errored.producer = some producer := attached
  rw [← now_idleTimer stage timer]
  refine .of_stands (fun pipeline stands => ?_)
    ((leads_hookTasks stage.batch).trans (leads_reportError still error origin))
  have ended := (stands.withStage { stage with status := .errored }).cancelAlarm
  rw [endWith, stands.stage_is, if_pos active, discardBatch, discardTasks_eq, ended.hook_eq,
    ended.stage_is]
  have tasked := (ended.withStage errored).todo
    (hookTasks hook stage.batch ++ [Task.reportError error origin])
  rw [List.append_assoc] at tasked
  exact tasked

/-- A batch is discarded for want of demand, and the stage fails. -/
theorem leads_failureTasks {producer : Nat} (active : stage.isActive = true)
    (attached : stage.producer = some producer) (empty : stage.batch = []) (items : List α)
    (error : StreamError) :
    Leads hook ⟨stage, timer, failureTasks hook items error ++ agenda, outputs⟩
      ⟨{ cleared stage with status := .errored }, idleTimer stage timer, agenda,
        outputs ++ (items.map .discarded).map (Prod.mk timer.now.nanos) ++
          (Origin.stage.outputs error).map (Prod.mk timer.now.nanos)⟩ := by
  have ended : Leads hook
      ⟨stage, timer, .endWith error .stage :: agenda,
        outputs ++ (items.map .discarded).map (Prod.mk timer.now.nanos)⟩ _ :=
    LeadsBy.leads (leadsBy_endWith active attached error .stage)
  rw [empty, List.map_nil, List.map_nil, List.append_nil] at ended
  rw [failureTasks, List.append_assoc]
  exact (leads_hookTasks items).trans ended

/-- A batch that is paid for is delivered. -/
theorem leadsBy_deliver (handOff : HandOff α) {ledger : Ledger} (active : stage.isActive = true)
    (paid : stage.ledger.payBatch = some ledger) :
    LeadsBy hook (deliver · handOff) ⟨stage, timer, agenda, outputs⟩
      ⟨{ stage with ledger := ledger }, timer, closingTasks handOff ++ agenda,
        outputs ++ [(timer.now.nanos, Output.heard (.next handOff.batch))]⟩ := by
  refine .of_stands (fun pipeline stands => ?_) (leads_call (.next handOff.batch))
  have stage_eq := stands.stage_is
  rw [← stage_eq] at active paid
  rw [deliver, if_pos active, paid, ← stage_eq]
  exact ((stands.withStage _).noteSilent rfl).todo
    (.call (.next handOff.batch) :: closingTasks handOff)

/-- A batch that is not paid for is discarded, and the stage fails. -/
theorem leadsBy_deliver_unpaid {producer : Nat} (handOff : HandOff α)
    (active : stage.isActive = true) (attached : stage.producer = some producer)
    (empty : stage.batch = []) (unpaid : stage.ledger.payBatch = none) :
    LeadsBy hook (deliver · handOff) ⟨stage, timer, agenda, outputs⟩
      ⟨{ cleared stage with status := .errored }, idleTimer stage timer, agenda,
        outputs ++ (handOff.batch.map .discarded).map (Prod.mk timer.now.nanos) ++
          (Origin.stage.outputs .insufficientDemand).map (Prod.mk timer.now.nanos)⟩ := by
  let idle : Stage α := { stage with alarm := none }
  have works : idle.isActive = true := active
  have still : idle.producer = some producer := attached
  have nothing : idle.batch = [] := empty
  have failed : Leads hook
      ⟨idle, idleTimer stage timer,
        failureTasks hook handOff.batch .insufficientDemand ++ agenda, outputs⟩ _ :=
    leads_failureTasks works still nothing handOff.batch .insufficientDemand
  rw [now_idleTimer] at failed
  refine .of_stands (fun pipeline stands => ?_) failed
  rw [← stands.stage_is] at active unpaid
  rw [deliver, if_pos active, unpaid, discardTasks_eq, stands.hook_eq]
  exact stands.cancelAlarm.todo (failureTasks hook handOff.batch .insufficientDemand)

theorem leadsBy_deliverRest (active : stage.isActive = true)
    (filled : ¬stage.batch.isEmpty = true)
    (delivers : LeadsBy hook (deliver · ⟨stage.batch, .completion⟩)
      ⟨cleared stage, idleTimer stage timer, agenda, outputs⟩ last) :
    LeadsBy hook deliverRest ⟨stage, timer, agenda, outputs⟩ last := by
  intro pipeline stands
  have idle := stands.cancelAlarm
  rw [deliverRest, stands.stage_is, if_pos active]
  dsimp only
  rw [idle.stage_is, if_neg filled]
  exact delivers _ (idle.withStage (cleared stage))

theorem StandsAt.deliverRestEmpty
    (stands : StandsAt hook ⟨stage, timer, agenda, outputs⟩ pipeline)
    (active : stage.isActive = true) (empty : stage.batch.isEmpty = true) :
    StandsAt hook
      ⟨{ stage with alarm := none }, idleTimer stage timer, .finish :: agenda, outputs⟩
      pipeline.deliverRest := by
  have idle := stands.cancelAlarm
  rw [deliverRest, stands.stage_is, if_pos active]
  dsimp only
  rw [idle.stage_is, if_pos empty]
  exact idle.todo [.finish]

theorem leads_finish (active : stage.isActive = true) :
    Leads hook ⟨stage, timer, .finish :: agenda, outputs⟩
      ⟨{ stage with status := .completed }, timer, agenda,
        outputs ++ [(timer.now.nanos, Output.heard .complete)]⟩ := by
  refine Leads.trans ?_ (leads_call .complete)
  apply Leads.of_perform
  intro pipeline stands
  have works : pipeline.stage.isActive = true := by rw [stands.stage_eq]; exact active
  rw [perform, Pipeline.finish, if_pos works, stands.stage_eq]
  exact ((stands.withStage _).noteSilent rfl).todo [.call .complete]

/-! ## The alarm -/

/-- A timer on which no alarm waits accepts the next one. -/
theorem exists_armed (stage : Stage α) (keeps : timer.Keeps []) :
    ∃ alarm next, next.Keeps [alarm] ∧ next.now = timer.now ∧
      alarm.deadline = timer.now + stage.config.timeSpan ∧ alarm.task = stage.generation ∧
      ∀ hook handOff agenda outputs,
        Leads hook ⟨stage, timer, .setAlarm handOff :: agenda, outputs⟩
          ⟨stage, next, .answered (.ok alarm.token) handOff :: agenda, outputs⟩ := by
  obtain ⟨alarm, next, scheduled, keeps, now_eq, deadline_eq, task_eq⟩ :=
    keeps.schedule stage.config.timeSpan stage.generation
  refine ⟨alarm, next, keeps, now_eq, deadline_eq, task_eq, ?_⟩
  intro hook handOff agenda outputs
  have called : Leads hook
      ⟨stage, next, .call (.schedule stage.config.timeSpan true) ::
        .answered (.ok alarm.token) handOff :: agenda, outputs⟩
      ⟨stage, next, .answered (.ok alarm.token) handOff :: agenda, outputs ++ []⟩ :=
    leads_call _
  rw [List.append_nil] at called
  refine Leads.trans ?_ called
  apply Leads.of_perform
  intro pipeline stands
  have asked : pipeline.askTimer = (.ok alarm.token, next) := by
    rw [askTimer, stands.refusal_eq, stands.stage_eq, stands.timer_eq, stands.attached]
    simp only [scheduled]
    rfl
  obtain rfl : pipeline.stage = stage := stands.stage_is
  rw [perform, Pipeline.setAlarm, asked]
  exact (stands.withTimer next).todo
    [.call (.schedule pipeline.stage.config.timeSpan true), .answered (.ok alarm.token) handOff]

/-- A batch that waited for the alarm is delivered with it. -/
theorem leads_answered_handOff {token : CancelToken} {handOff : HandOff α}
    (delivers : LeadsBy hook (deliver · handOff)
      ⟨{ stage with alarm := some token }, timer, agenda, outputs⟩ last) :
    Leads hook ⟨stage, timer, .answered (.ok token) (some handOff) :: agenda, outputs⟩ last := by
  apply LeadsBy.leads
  intro pipeline stands
  beta_reduce
  rw [perform, answered, stands.stage_is]
  exact delivers _ (stands.withStage { stage with alarm := some token })

theorem leads_answered (token : CancelToken) :
    Leads hook ⟨stage, timer, .answered (.ok token) none :: agenda, outputs⟩
      ⟨{ stage with alarm := some token }, timer, agenda, outputs⟩ := by
  apply Leads.of_perform
  intro pipeline stands
  rw [perform, answered, stands.stage_eq]
  exact stands.withStage _

/-! ## Signals -/

/-- A stage at rest while somebody works its queue off. -/
def busy (stage : Stage α) : Stage α :=
  { stage with work := 1 }

/-- A stage at rest, as it stands before the queue of the stage is accounted for. -/
theorem leads_account (nothing : stage.signals = []) (idle : stage.work = 0) :
    Leads hook ⟨busy stage, timer, .workOff 1 :: agenda, outputs⟩
      ⟨stage, timer, agenda, outputs⟩ := by
  apply Leads.of_perform
  intro pipeline stands
  have queue : (busy stage).signals = [] := nothing
  rw [perform, workOff, stands.stage_is, queue]
  cases stage
  cases idle
  exact stands.withStage _

/-- A signal that is announced at rest is worked off at once. -/
theorem leads_announced {signal : Signal α} {next : Stage α} {clock : Timer UInt64}
    {seen : List (Nat × Output α)} (nothing : stage.signals = []) (idle : stage.work = 0)
    (still : next.signals = []) (done : next.work = 0)
    (works : LeadsBy hook (handle · signal) ⟨busy stage, timer, .workOff 1 :: agenda, outputs⟩
      ⟨busy next, clock, .workOff 1 :: agenda, seen⟩) :
    Leads hook ⟨queued stage signal, timer, .workOff 1 :: agenda, outputs⟩
      ⟨next, clock, agenda, seen⟩ := by
  refine Leads.trans ?_ (leads_account still done)
  apply LeadsBy.leads
  intro pipeline stands
  have queue : (queued stage signal).signals = [signal] := by
    rw [queued, nothing, List.nil_append]
  have taken : { queued stage signal with signals := [] } = busy stage := by
    rw [busy, ← nothing, queued, idle]
  beta_reduce
  rw [perform, workOff, stands.stage_is, queue]
  dsimp only
  rw [taken]
  exact works _ (((stands.withStage (busy stage)).noteSilent
    (show Event.outputs (.handled signal) = [] from rfl)).todo [.workOff 1])

theorem StandsAt.announce (stands : StandsAt hook ⟨stage, timer, agenda, outputs⟩ pipeline)
    (idle : stage.work = 0) (signal : Signal α) :
    StandsAt hook ⟨queued stage signal, timer, .workOff 1 :: agenda, outputs⟩
      (pipeline.announce signal) := by
  have alone : pipeline.stage.work = 0 := by rw [stands.stage_is, idle]
  rw [Pipeline.announce, if_pos alone, stands.stage_is]
  exact ((stands.withStage (queued stage signal)).noteSilent rfl).todo [.workOff 1]

theorem leads_release :
    Leads hook ⟨stage, timer, .release :: agenda, outputs⟩ ⟨stage, timer, agenda, outputs⟩ := by
  apply Leads.of_perform
  intro pipeline stands
  have held : alive { pipeline with holders := pipeline.holders - 1 } = true := by
    rw [alive]
    change (pipeline.owned || _) = true
    rw [stands.owned]
    rfl
  rw [perform, release, sweep, if_pos held]
  exact { stands with }

/-- A call that only announces a signal is over when the signal is worked off. -/
theorem leads_push {push : Push α} {next : Stage α} {clock : Timer UInt64}
    {seen : List (Nat × Output α)} (nothing : stage.signals = []) (idle : stage.work = 0)
    (still : next.signals = []) (done : next.work = 0)
    (works : LeadsBy hook (handle · push.signal)
      ⟨busy stage, timer, .workOff 1 :: .release :: agenda, outputs⟩
      ⟨busy next, clock, .workOff 1 :: .release :: agenda, seen⟩) :
    Leads hook ⟨stage, timer, .enter push.call :: .release :: agenda, outputs⟩
      ⟨next, clock, agenda, seen⟩ := by
  refine Leads.trans ?_
    ((leads_announced nothing idle still done works).trans leads_release)
  apply Leads.of_perform
  intro pipeline stands
  rw [perform, enter_push]
  exact (stands.noteSilent rfl).announce idle push.signal

/-! ## The driver and the clock -/

theorem leads_act_push (push : Push α) :
    Leads hook ⟨stage, timer, .act push.action :: agenda, outputs⟩
      ⟨stage, timer, .enter push.call :: .release :: agenda, outputs⟩ := by
  apply Leads.of_perform
  intro pipeline stands
  rw [perform, act_push pipeline push stands.owned]
  exact stands.hold [.enter push.call]

theorem leads_act_flushNow :
    Leads hook ⟨stage, timer, .act .flushNow :: agenda, outputs⟩
      ⟨stage, timer, .enter (.tick stage.published) :: .release :: agenda, outputs⟩ := by
  apply Leads.of_perform
  intro pipeline stands
  rw [perform, act, onStage, if_pos stands.owned, stands.stage_is]
  exact stands.hold [.enter (.tick stage.published)]

theorem StandsAt.onSubscription (stands : StandsAt hook ⟨stage, timer, agenda, outputs⟩ pipeline)
    (call : Inbound α) :
    StandsAt hook ⟨stage, timer, .enter call :: .release :: agenda, outputs⟩
      (pipeline.onSubscription call) := by
  have alive : pipeline.alive = true := by
    rw [Pipeline.alive, stands.owned]
    rfl
  rw [Pipeline.onSubscription, if_pos ⟨stands.subscribed, alive⟩]
  exact stands.hold [.enter call]

theorem StandsAt.moveClock (stands : StandsAt hook ⟨stage, timer, agenda, outputs⟩ pipeline)
    (simulated : timer.style = .simulated) (instant : Duration) :
    StandsAt hook ⟨stage, timer, .advance instant :: agenda, outputs⟩
      (pipeline.moveClock instant) := by
  have style_eq : pipeline.timer.style = .simulated := by rw [stands.timer_eq, simulated]
  rw [Pipeline.moveClock, style_eq]
  exact stands.todo [.advance instant]

theorem leads_advance_none {instant : Duration} (idle : timer.takeDue instant = none) :
    Leads hook ⟨stage, timer, .advance instant :: agenda, outputs⟩
      ⟨stage, timer.setClock instant, agenda, outputs⟩ := by
  apply Leads.of_perform
  intro pipeline stands
  obtain rfl : pipeline.timer = timer := stands.timer_eq
  rw [perform, advance, idle]
  exact stands.withTimer _

theorem leads_advance_passed {instant : Duration} {alarm : Alarm UInt64} {next : Timer UInt64}
    (due : timer.takeDue instant = some (alarm, next))
    (cancelled : next.isCancelled alarm.token = true) :
    Leads hook ⟨stage, timer, .advance instant :: agenda, outputs⟩
      ⟨stage, next, .advance instant :: agenda, outputs⟩ := by
  apply Leads.of_perform
  intro pipeline stands
  obtain rfl : pipeline.timer = timer := stands.timer_eq
  rw [perform, advance, due]
  change StandsAt hook _ (if next.isCancelled alarm.token = true then _ else _)
  rw [if_pos cancelled]
  exact (stands.withTimer next).todo [.advance instant]

theorem leads_advance_fired {instant : Duration} {alarm : Alarm UInt64} {next : Timer UInt64}
    (due : timer.takeDue instant = some (alarm, next))
    (live : next.isCancelled alarm.token = false) :
    Leads hook ⟨stage, timer, .advance instant :: agenda, outputs⟩
      ⟨stage, next, .enter (.tick alarm.task) :: .release :: .advance instant :: agenda,
        outputs⟩ := by
  apply Leads.of_perform
  intro pipeline stands
  obtain rfl : pipeline.timer = timer := stands.timer_eq
  have fired := ((stands.withTimer next).todo [.advance instant]).noteSilent
    (show Event.outputs .fired = [] from rfl)
  have alive : Pipeline.alive (Pipeline.note
      (Pipeline.todo { pipeline with timer := next } [.advance instant]) .fired) = true := by
    rw [Pipeline.alive, fired.owned]
    rfl
  have waits : ¬next.isCancelled alarm.token = true := by
    rw [live]
    exact Bool.false_ne_true
  rw [perform, advance, due]
  change StandsAt hook _ (if next.isCancelled alarm.token = true then _ else _)
  rw [if_neg waits, if_pos alive]
  exact fired.hold [.enter (.tick alarm.task)]

variable (hook stage agenda outputs) in
/-- Moving the clock passes cancelled alarms over, until a waiting alarm is due or none is. -/
theorem exists_passed {waiting : List (Alarm UInt64)} (keeps : timer.Keeps waiting)
    (instant : Duration) :
    ∃ next : Timer UInt64,
      (next.Keeps waiting ∧ next.now = instant ∧ (∀ alarm ∈ waiting, instant < alarm.deadline) ∧
        Leads hook ⟨stage, timer, .advance instant :: agenda, outputs⟩
          ⟨stage, next, agenda, outputs⟩) ∨
      ∃ first rest, waiting = first :: rest ∧ next.Keeps rest ∧ first.deadline ≤ instant ∧
        next.now.nanos = max timer.now.nanos first.deadline.nanos ∧
        Leads hook ⟨stage, timer, .advance instant :: agenda, outputs⟩
          ⟨stage, next, .enter (.tick first.task) :: .release :: .advance instant :: agenda,
            outputs⟩ := by
  -- Each alarm that is taken shortens the queue, whether or not it was cancelled.
  induction length_eq : timer.queue.length using Nat.strongRecOn generalizing timer with
  | ind length ih =>
      cases due : timer.takeDue instant with
      | none =>
          exact ⟨timer.setClock instant, Or.inl ⟨keeps.setClock instant, rfl,
            keeps.lt_of_takeDue due, leads_advance_none due⟩⟩
      | some taken =>
          obtain ⟨first, middle⟩ := taken
          obtain ⟨now_eq, onTime, shorter, cancelled | waits⟩ := keeps.takeDue due
          · obtain ⟨cancelled, kept, least⟩ := cancelled
            have passed : Leads hook ⟨stage, timer, .advance instant :: agenda, outputs⟩ _ :=
              leads_advance_passed due cancelled
            obtain ⟨next, rests | ⟨alarm, rest, waiting_eq, kept', onTime, now_eq', leads⟩⟩ :=
              ih _ (length_eq ▸ shorter) kept rfl
            · obtain ⟨kept', now_eq', later, leads⟩ := rests
              exact ⟨next, Or.inl ⟨kept', now_eq', later, passed.trans leads⟩⟩
            · refine ⟨next, Or.inr ⟨alarm, rest, waiting_eq, kept', onTime, ?_, passed.trans leads⟩⟩
              have before : first.deadline.nanos ≤ alarm.deadline.nanos :=
                least alarm (by rw [waiting_eq]; exact List.mem_cons_self)
              rw [now_eq', now_eq, Duration.nanos_max]
              omega
          · obtain ⟨live, rest, waiting_eq, kept⟩ := waits
            refine ⟨middle, Or.inr ⟨first, rest, waiting_eq, kept, onTime, ?_,
              leads_advance_fired due live⟩⟩
            rw [now_eq, Duration.nanos_max]

end Leads

end Pipeline

end TimedBatch
