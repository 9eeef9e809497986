import TimedBatch.Proofs.Agenda

/-!
# What the work on a signal does not look at

While a signal is worked off, nobody looks at the queue, at the tasks beneath, at what happened
before or at how collaborators will react. A pipeline is set on a ground that supplies all this, and
the tasks of a signal do the same on every ground.
-/

namespace TimedBatch

variable {α : Type}

/-- What lies beneath the work on a signal. -/
structure Ground (α : Type) where
  signals : List (Signal α) := []
  work : Nat := 0
  holders : Nat := 0
  reactions : CallKind → Nat → List (Action α) := fun _ _ => []
  agenda : List (Task α) := []
  journal : List (Entry α) := []

/-- Give a stage the queue of a ground. -/
def Ground.onto (ground : Ground α) (stage : Stage α) : Stage α :=
  { stage with signals := ground.signals, work := ground.work }

namespace Pipeline

/-- Set a pipeline on a ground. -/
def onGround (pipeline : Pipeline α) (ground : Ground α) : Pipeline α :=
  { pipeline with
    stage := ground.onto pipeline.stage
    holders := ground.holders
    reactions := ground.reactions
    agenda := pipeline.agenda ++ ground.agenda
    journal := pipeline.journal ++ ground.journal }

/-- What lies beneath the work of a pipeline. -/
def ground (pipeline : Pipeline α) : Ground α where
  signals := pipeline.stage.signals
  work := pipeline.stage.work
  holders := pipeline.holders
  reactions := pipeline.reactions
  agenda := pipeline.agenda
  journal := pipeline.journal

def bare (pipeline : Pipeline α) : Pipeline α :=
  { pipeline with
    stage := { pipeline.stage with signals := [], work := 0 }
    holders := 0
    reactions := fun _ _ => []
    agenda := []
    journal := [] }

theorem bare_onGround (pipeline : Pipeline α) (ground : Ground α) :
    (pipeline.onGround ground).bare = pipeline.bare :=
  rfl

section Commute

variable (pipeline : Pipeline α) (ground : Ground α)

theorem note_onGround (event : Event α) :
    (pipeline.onGround ground).note event = (pipeline.note event).onGround ground :=
  rfl

theorem todo_onGround (tasks : List (Task α)) :
    (pipeline.onGround ground).todo tasks = (pipeline.todo tasks).onGround ground := by
  simp [todo, onGround]

theorem cancelAlarm_onGround :
    (pipeline.onGround ground).cancelAlarm = pipeline.cancelAlarm.onGround ground := by
  rw [cancelAlarm, cancelAlarm]
  cases alarm : pipeline.stage.alarm with
  | none =>
      have same : (pipeline.onGround ground).stage.alarm = none := alarm
      rw [same]
  | some token =>
      have same : (pipeline.onGround ground).stage.alarm = some token := alarm
      rw [same]
      rfl

theorem discardBatch_onGround (behind : List (Task α)) :
    (pipeline.onGround ground).discardBatch behind =
      (pipeline.discardBatch behind).onGround ground :=
  todo_onGround (pipeline.withStage pipeline.stage.emptied) ground
    (pipeline.discardTasks pipeline.stage.batch ++ behind)

theorem endWith_onGround (error : StreamError) (origin : Origin) :
    (pipeline.onGround ground).endWith error origin =
      (pipeline.endWith error origin).onGround ground := by
  by_cases active : pipeline.stage.isActive
  · have works : (pipeline.onGround ground).stage.isActive = true := active
    rw [endWith, endWith, if_pos works, if_pos active, ← discardBatch_onGround,
      ← cancelAlarm_onGround]
    rfl
  · have ended : ¬(pipeline.onGround ground).stage.isActive = true := active
    rw [endWith, endWith, if_neg ended, if_neg active]
    rfl

theorem reportError_onGround (error : StreamError) (origin : Origin) :
    (pipeline.onGround ground).reportError error origin =
      (pipeline.reportError error origin).onGround ground := by
  cases origin with
  | producer => exact todo_onGround pipeline ground _
  | stage => exact todo_onGround (pipeline.note (.log (failedLine error))) ground _

theorem finish_onGround :
    (pipeline.onGround ground).finish = pipeline.finish.onGround ground := by
  by_cases active : pipeline.stage.isActive
  · have works : (pipeline.onGround ground).stage.isActive = true := active
    rw [finish, finish, if_pos works, if_pos active]
    rfl
  · have ended : ¬(pipeline.onGround ground).stage.isActive = true := active
    rw [finish, finish, if_neg ended, if_neg active]

theorem deliver_onGround (handOff : HandOff α) :
    (pipeline.onGround ground).deliver handOff = (pipeline.deliver handOff).onGround ground := by
  by_cases active : pipeline.stage.isActive
  · have works : (pipeline.onGround ground).stage.isActive = true := active
    rw [deliver, deliver, if_pos works, if_pos active]
    cases paid : pipeline.stage.ledger.payBatch with
    | none =>
        have same : (pipeline.onGround ground).stage.ledger.payBatch = none := paid
        rw [same]
        change (pipeline.onGround ground).cancelAlarm.todo _ = _
        rw [cancelAlarm_onGround, todo_onGround]
        rfl
    | some ledger =>
        have same : (pipeline.onGround ground).stage.ledger.payBatch = some ledger := paid
        rw [same]
        exact todo_onGround ((pipeline.withStage { pipeline.stage with ledger := ledger }).note
          (.log (flushedLine handOff pipeline.stage.generation))) ground _
  · have ended : ¬(pipeline.onGround ground).stage.isActive = true := active
    rw [deliver, deliver, if_neg ended, if_neg active]
    exact todo_onGround pipeline ground _

theorem closeBatch_onGround (trigger : Trigger) :
    (pipeline.onGround ground).closeBatch trigger =
      (pipeline.closeBatch trigger).onGround ground := by
  let renewed :=
    pipeline.withStage pipeline.stage.nextGeneration
  have cancelled := cancelAlarm_onGround renewed ground
  have emptied : ∀ next : Pipeline α,
      (((next.onGround ground).withStage (next.onGround ground).stage.emptied).todo
        [.setAlarm (some ⟨pipeline.stage.batch, trigger⟩)]) =
      ((next.withStage next.stage.emptied).todo
        [.setAlarm (some ⟨pipeline.stage.batch, trigger⟩)]).onGround ground :=
    fun _ => rfl
  have result := emptied renewed.cancelAlarm
  rw [← cancelled] at result
  exact result

theorem setAlarm_onGround (handOff : Option (HandOff α)) :
    (pipeline.onGround ground).setAlarm handOff =
      (pipeline.setAlarm handOff).onGround ground :=
  rfl

theorem answered_onGround (outcome : Except TimerRejection CancelToken)
    (handOff : Option (HandOff α)) :
    (pipeline.onGround ground).answered outcome handOff =
      (pipeline.answered outcome handOff).onGround ground := by
  cases outcome with
  | ok token =>
      cases handOff with
      | none => rfl
      | some waiting =>
          exact deliver_onGround
            (pipeline.withStage { pipeline.stage with alarm := some token }) ground waiting
  | error rejection => exact todo_onGround pipeline ground _

/-! ## Signals -/

theorem setFirstAlarm_onGround :
    (pipeline.onGround ground).setFirstAlarm = pipeline.setFirstAlarm.onGround ground := by
  by_cases idle : pipeline.stage.isActive ∧ pipeline.stage.alarm = none
  · have same : (pipeline.onGround ground).stage.isActive ∧
        (pipeline.onGround ground).stage.alarm = none := idle
    rw [setFirstAlarm, setFirstAlarm, if_pos same, if_pos idle]
    rfl
  · have same : ¬((pipeline.onGround ground).stage.isActive ∧
        (pipeline.onGround ground).stage.alarm = none) := idle
    rw [setFirstAlarm, setFirstAlarm, if_neg same, if_neg idle]

theorem takeIn_onGround (item : α) :
    (pipeline.onGround ground).takeIn item = (pipeline.takeIn item).onGround ground := by
  by_cases active : pipeline.stage.isActive
  · have works : (pipeline.onGround ground).stage.isActive = true := active
    rw [takeIn, takeIn, if_pos works, if_pos active]
    cases received : pipeline.stage.ledger.receiveItem with
    | none =>
        have same : (pipeline.onGround ground).stage.ledger.receiveItem = none := received
        rw [same]
        rfl
    | some ledger =>
        have same : (pipeline.onGround ground).stage.ledger.receiveItem = some ledger := received
        rw [same]
        let stage :=
          { pipeline.stage with
            ledger := ledger
            batch := pipeline.stage.batch ++ [item]
            buffered := (pipeline.stage.batch ++ [item]).length }
        let taken := (pipeline.withStage stage).note (.takenIn item)
        change (if stage.isFull then (taken.onGround ground).closeBatch .size
            else taken.onGround ground) =
          (if stage.isFull then taken.closeBatch .size else taken).onGround ground
        split
        · exact closeBatch_onGround taken ground .size
        · rfl
  · have ended : ¬(pipeline.onGround ground).stage.isActive = true := active
    rw [takeIn, takeIn, if_neg ended, if_neg active]
    rfl

theorem endSpan_onGround (generation : UInt64) :
    (pipeline.onGround ground).endSpan generation =
      (pipeline.endSpan generation).onGround ground := by
  by_cases active : pipeline.stage.isActive
  · have works : (pipeline.onGround ground).stage.isActive = true := active
    rw [endSpan, endSpan, if_pos works, if_pos active]
    by_cases stale : generation ≠ pipeline.stage.generation
    · have same : generation ≠ (pipeline.onGround ground).stage.generation := stale
      rw [if_pos same, if_pos stale]
      rfl
    · have same : ¬generation ≠ (pipeline.onGround ground).stage.generation := stale
      rw [if_neg same, if_neg stale]
      by_cases empty : pipeline.stage.batch.isEmpty
      · have none : (pipeline.onGround ground).stage.batch.isEmpty = true := empty
        rw [if_pos none, if_pos empty, note_onGround, cancelAlarm_onGround, todo_onGround]
      · have some : ¬(pipeline.onGround ground).stage.batch.isEmpty = true := empty
        rw [if_neg some, if_neg empty]
        exact closeBatch_onGround pipeline ground .time
  · have ended : ¬(pipeline.onGround ground).stage.isActive = true := active
    rw [endSpan, endSpan, if_neg ended, if_neg active]

theorem deliverRest_onGround :
    (pipeline.onGround ground).deliverRest = pipeline.deliverRest.onGround ground := by
  by_cases active : pipeline.stage.isActive
  · have works : (pipeline.onGround ground).stage.isActive = true := active
    rw [deliverRest, deliverRest, if_pos works, if_pos active, cancelAlarm_onGround]
    by_cases empty : pipeline.cancelAlarm.stage.batch.isEmpty
    · have none : (pipeline.cancelAlarm.onGround ground).stage.batch.isEmpty = true := empty
      rw [if_pos none, if_pos empty, todo_onGround]
    · have some : ¬(pipeline.cancelAlarm.onGround ground).stage.batch.isEmpty = true := empty
      rw [if_neg some, if_neg empty]
      exact deliver_onGround (pipeline.cancelAlarm.withStage
        pipeline.cancelAlarm.stage.emptied) ground _
  · have ended : ¬(pipeline.onGround ground).stage.isActive = true := active
    rw [deliverRest, deliverRest, if_neg ended, if_neg active]

theorem discardRest_onGround :
    (pipeline.onGround ground).discardRest = pipeline.discardRest.onGround ground := by
  rw [discardRest, discardRest, cancelAlarm_onGround]
  by_cases empty : pipeline.cancelAlarm.stage.batch.isEmpty
  · have none : (pipeline.cancelAlarm.onGround ground).stage.batch.isEmpty = true := empty
    rw [if_pos none, if_pos empty, discardBatch_onGround]
  · have some : ¬(pipeline.cancelAlarm.onGround ground).stage.batch.isEmpty = true := empty
    rw [if_neg some, if_neg empty]
    exact discardBatch_onGround (pipeline.cancelAlarm.note _) ground []

theorem handle_onGround (signal : Signal α) :
    (pipeline.onGround ground).handle signal = (pipeline.handle signal).onGround ground := by
  cases signal with
  | subscribed => exact setFirstAlarm_onGround pipeline ground
  | item item => exact takeIn_onGround pipeline ground item
  | tick generation => exact endSpan_onGround pipeline ground generation
  | completed => exact deliverRest_onGround pipeline ground
  | failed error origin => exact endWith_onGround pipeline ground error origin
  | cancelled => exact discardRest_onGround pipeline ground

end Commute

/-! ## The setting -/

/-- What the work on a signal leaves alone, but for the calls that it makes. -/
structure Setting (α : Type) where
  hook : DiscardHook
  detached : Bool
  refusal : Option TimerRejection
  producers : Nat
  subscribed : Bool
  owned : Bool
  holders : Nat
  calls : CallKind → Nat
  reactions : CallKind → Nat → List (Action α)

def setting (pipeline : Pipeline α) : Setting α where
  hook := pipeline.hook
  detached := pipeline.detached
  refusal := pipeline.refusal
  producers := pipeline.producers
  subscribed := pipeline.subscribed
  owned := pipeline.owned
  holders := pipeline.holders
  calls := pipeline.calls
  reactions := pipeline.reactions

section Setting

variable (pipeline : Pipeline α)

@[simp]
theorem setting_note (event : Event α) : (pipeline.note event).setting = pipeline.setting :=
  rfl

@[simp]
theorem setting_todo (tasks : List (Task α)) : (pipeline.todo tasks).setting = pipeline.setting :=
  rfl

@[simp]
theorem setting_withStage (stage : Stage α) :
    (pipeline.withStage stage).setting = pipeline.setting :=
  rfl

@[simp]
theorem setting_cancelAlarm : pipeline.cancelAlarm.setting = pipeline.setting := by
  unfold cancelAlarm
  split <;> rfl

@[simp]
theorem setting_discardBatch (behind : List (Task α)) :
    (pipeline.discardBatch behind).setting = pipeline.setting :=
  rfl

@[simp]
theorem setting_closeBatch (trigger : Trigger) :
    (pipeline.closeBatch trigger).setting = pipeline.setting := by
  simp [closeBatch]

@[simp]
theorem setting_endWith (error : StreamError) (origin : Origin) :
    (pipeline.endWith error origin).setting = pipeline.setting := by
  unfold endWith
  split <;> simp

@[simp]
theorem setting_deliver (handOff : HandOff α) :
    (pipeline.deliver handOff).setting = pipeline.setting := by
  unfold deliver
  split
  · split <;> simp
  · simp

theorem setting_takeIn (item : α) : (pipeline.takeIn item).setting = pipeline.setting := by
  unfold takeIn
  split
  · split
    · simp
    · dsimp only
      split <;> simp
  · simp

theorem setting_endSpan (generation : UInt64) :
    (pipeline.endSpan generation).setting = pipeline.setting := by
  unfold endSpan
  split
  · split
    · simp
    · split <;> simp
  · rfl

theorem setting_deliverRest : pipeline.deliverRest.setting = pipeline.setting := by
  unfold deliverRest
  split
  · dsimp only
    split <;> simp
  · rfl

theorem setting_discardRest : pipeline.discardRest.setting = pipeline.setting := by
  unfold discardRest
  dsimp only
  split <;> simp

theorem setting_handle (signal : Signal α) :
    (pipeline.handle signal).setting = pipeline.setting := by
  cases signal with
  | subscribed =>
      rw [handle, setFirstAlarm]
      split <;> simp
  | item item => exact setting_takeIn pipeline item
  | tick generation => exact setting_endSpan pipeline generation
  | completed => exact setting_deliverRest pipeline
  | failed error origin => exact setting_endWith pipeline error origin
  | cancelled => exact setting_discardRest pipeline

theorem setting_answered (outcome : Except TimerRejection CancelToken)
    (handOff : Option (HandOff α)) :
    (pipeline.answered outcome handOff).setting = pipeline.setting := by
  cases outcome with
  | ok token =>
      cases handOff with
      | none => rfl
      | some waiting =>
          exact setting_deliver (pipeline.withStage { pipeline.stage with alarm := some token })
            waiting
  | error rejection => rfl

end Setting

/-! ## Tasks -/

/-- Whether a task is a part of the work on a signal, or a call. -/
def isWork : Task α → Bool
  | .setAlarm _ => true
  | .answered _ _ => true
  | .endWith _ _ => true
  | .reportError _ _ => true
  | .finish => true
  | .call _ => true
  | _ => false

theorem isWork_of_isInner {task : Task α} (inner : task.isInner = true) : isWork task = true := by
  cases task <;> first | rfl | cases inner

/-- The work on a signal does the same on every ground. -/
theorem perform_onGround (pipeline : Pipeline α) (ground : Ground α) {task : Task α}
    (work : isWork task = true) (silent : task.outbound? = none) :
    (pipeline.onGround ground).perform task = (pipeline.perform task).onGround ground := by
  cases task with
  | setAlarm handOff => exact setAlarm_onGround pipeline ground handOff
  | answered outcome handOff => exact answered_onGround pipeline ground outcome handOff
  | endWith error origin => exact endWith_onGround pipeline ground error origin
  | reportError error origin => exact reportError_onGround pipeline ground error origin
  | finish => exact finish_onGround pipeline ground
  | call call => cases silent
  | _ => cases work

theorem setting_perform (pipeline : Pipeline α) {task : Task α} (work : isWork task = true)
    (silent : task.outbound? = none) : (pipeline.perform task).setting = pipeline.setting := by
  cases task with
  | setAlarm handOff => rfl
  | answered outcome handOff => exact setting_answered pipeline outcome handOff
  | endWith error origin => exact setting_endWith pipeline error origin
  | reportError error origin => cases origin <;> rfl
  | finish =>
      rw [perform, finish]
      split <;> rfl
  | call call => cases silent
  | _ => cases work

theorem owned_call (pipeline : Pipeline α) (call : Outbound α) :
    (pipeline.call call).owned = pipeline.owned := by
  rw [Pipeline.call]
  split <;> rfl

/-- How the collaborators on a ground react to a call. -/
def reacts (pipeline : Pipeline α) (ground : Ground α) (call : Outbound α) : List (Action α) :=
  if pipeline.isSeen call then ground.reactions call.kind (pipeline.calls call.kind) else []

/-- A call is the same on every ground but for the reaction to it. -/
theorem call_onGround (pipeline : Pipeline α) (ground : Ground α) (call : Outbound α) :
    (pipeline.bare.onGround ground).call call =
      (pipeline.bare.call call).onGround
        { ground with
          agenda := (pipeline.reacts ground call).map Task.act ++ ground.agenda } := by
  by_cases seen : pipeline.isSeen call = true
  · have onGround : (pipeline.bare.onGround ground).isSeen call = true := seen
    have onNothing : pipeline.bare.isSeen call = true := seen
    rw [Pipeline.call, Pipeline.call, reacts, if_pos seen, if_pos onGround, if_pos onNothing]
    rfl
  · have onGround : ¬(pipeline.bare.onGround ground).isSeen call = true := seen
    have onNothing : ¬pipeline.bare.isSeen call = true := seen
    rw [Pipeline.call, Pipeline.call, reacts, if_neg seen, if_neg onGround, if_neg onNothing]
    rfl

theorem isWork_handle (pipeline : Pipeline α) (signal : Signal α)
    (empty : pipeline.agenda = []) :
    ∀ task ∈ (pipeline.handle signal).agenda, isWork task = true := by
  obtain ⟨stage, timer, events, tasks, dispatch, becomes⟩ := exists_dispatch pipeline signal
  rw [becomes.agenda_eq, empty, List.append_nil]
  exact fun task member => isWork_of_isInner (dispatch.isInner task member)

theorem agenda_call (pipeline : Pipeline α) (call : Outbound α) :
    (pipeline.bare.call call).agenda = [] := by
  rw [Pipeline.call]
  split <;> rfl

/-- The work on a signal makes room for nothing but more of it. -/
theorem isWork_perform (pipeline : Pipeline α) {task : Task α} (work : isWork task = true) :
    ∀ added ∈ (pipeline.bare.perform task).agenda, isWork added = true := by
  obtain ⟨stage, timer, events, tasks, effect, becomes⟩ := exists_effect pipeline.bare task
  have agenda_eq : (pipeline.bare.perform task).agenda = tasks :=
    becomes.agenda_eq.trans (List.append_nil _)
  cases effect with
  | free aside inert allFree => cases task <;> cases aside <;> cases work
  | swept aside gone => cases task <;> cases aside <;> cases work
  | @called call actions =>
      change ∀ added ∈ (pipeline.bare.call call).agenda, isWork added = true
      rw [agenda_call]
      exact List.forall_mem_nil _
  | acceptedHandOff delivery =>
      rw [agenda_eq]
      exact fun task member => isWork_of_isInner (delivery.isInner task member)
  | refusedHandOff =>
      rw [agenda_eq]
      exact fun task member => isWork_of_isInner (isInner_failureTasks _ _ task member)
  | failed failure =>
      rw [agenda_eq]
      exact fun task member => isWork_of_isInner (failure.isInner task member)
  | reportedStage =>
      rw [agenda_eq, List.forall_mem_append]
      exact ⟨forall_cancelProducerTasks _ fun _ => rfl, List.forall_mem_singleton.mpr rfl⟩
  | _ =>
      rw [agenda_eq]
      first | (simp [isWork]; done) | cases work

end Pipeline

end TimedBatch
