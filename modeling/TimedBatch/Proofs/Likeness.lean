import TimedBatch.Proofs.Effect

/-!
# Pipelines that are hardly told apart

Most tasks look at no more of a pipeline than its face, and what they do is made up of a few kinds
of touches. So where two pipelines show the same face and still do after any touch, those tasks do
the same to both. What remains is to be shown of the tasks that look deeper: those that work the
queue off, that deal with the credit of the producer, and that set or start an alarm.
-/

namespace TimedBatch

variable {α : Type}

/-- What most tasks look at. -/
structure Face (α : Type) where
  diagnostics : Diagnostics
  batch : List α
  full : Bool
  /-- Whether no batch is asked for. -/
  unasked : Bool
  producer : Option Nat
  generation : UInt64
  published : UInt64
  unarmed : Bool
  idle : Bool
  hook : DiscardHook
  owned : Bool
  alive : Bool
  producers : Nat
  subscribed : Bool
  /-- The reactions to the next call of each kind. -/
  answers : CallKind → List (Action α)
  style : TimerStyle
  now : Duration
  closingLine? : Option LogLine

/-- What most tasks change, one thing at a time. -/
inductive Touch (α : Type) where
  | note (event : Event α)
  | todo (tasks : List (Task α))
  | become (status : Status)
  | attach (producer : Nat)
  | ask (batches : Amount)
  | pay
  | gather (item : α)
  | empty
  | renew
  | disarm
  | queue (signal : Signal α)
  | hold
  | release
  | count (kind : CallKind)
  | arrive
  | disown
  | refuse (refusal : Option TimerRejection)
  | shutDown

/-- Whether a task looks at the face only, and does nothing but touch. -/
def Task.isSuperficial : Task α → Bool
  | .enter (.request _) => false
  | .workOff _ => false
  | .firstRequest _ => false
  | .setAlarm _ => false
  | .answered (.ok _) _ => false
  | .advance _ => false
  | _ => true

namespace Pipeline

def face (pipeline : Pipeline α) : Face α where
  diagnostics := pipeline.diagnostics
  batch := pipeline.stage.batch
  full := pipeline.stage.isFull
  unasked := pipeline.stage.ledger.payBatch.isNone
  producer := pipeline.stage.producer
  generation := pipeline.stage.generation
  published := pipeline.stage.published
  unarmed := pipeline.stage.alarm.isNone
  idle := pipeline.stage.work = 0
  hook := pipeline.hook
  owned := pipeline.owned
  alive := pipeline.alive
  producers := pipeline.producers
  subscribed := pipeline.subscribed
  answers kind := pipeline.reactions kind (pipeline.calls kind)
  style := pipeline.timer.style
  now := pipeline.timer.now
  closingLine? := pipeline.timer.closingLine?

def touch (pipeline : Pipeline α) : Touch α → Pipeline α
  | .note event => pipeline.note event
  | .todo tasks => pipeline.todo tasks
  | .become status => pipeline.withStage { pipeline.stage with status := status }
  | .attach producer => pipeline.withStage { pipeline.stage with producer := some producer }
  | .ask batches =>
      pipeline.withStage { pipeline.stage with ledger := pipeline.stage.ledger.ask batches }
  | .pay =>
      pipeline.withStage
        { pipeline.stage with
          ledger := pipeline.stage.ledger.payBatch.getD pipeline.stage.ledger }
  | .gather item =>
      pipeline.withStage
        { pipeline.stage with
          batch := pipeline.stage.batch ++ [item]
          buffered := (pipeline.stage.batch ++ [item]).length }
  | .empty => pipeline.withStage pipeline.stage.emptied
  | .renew => pipeline.withStage pipeline.stage.nextGeneration
  | .disarm => pipeline.cancelAlarm
  | .queue signal => pipeline.withStage (queued pipeline.stage signal)
  | .hold => { pipeline with holders := pipeline.holders + 1 }
  | .release => { pipeline with holders := pipeline.holders - 1 }
  | .count kind =>
      { pipeline with
        subscribed := pipeline.subscribed || kind = CallKind.subscribe
        calls := fun other =>
          if other = kind then pipeline.calls kind + 1 else pipeline.calls other }
  | .arrive => { pipeline with producers := pipeline.producers + 1 }
  | .disown => { pipeline with owned := false }
  | .refuse refusal => { pipeline with refusal := refusal }
  | .shutDown => { pipeline with timer := pipeline.timer.shutDown }

/-- Pipelines that are alike show the same face, and no touch makes a difference between them. -/
structure Likeness (alike : Pipeline α → Pipeline α → Prop) : Prop where
  face_eq : ∀ {pipeline other}, alike pipeline other → pipeline.face = other.face
  touch : ∀ {pipeline other}, alike pipeline other → ∀ touch,
    alike (pipeline.touch touch) (other.touch touch)
  inform : ∀ {pipeline other}, alike pipeline other →
    alike (pipeline.note (.informed pipeline.information))
      (other.note (.informed other.information))

namespace Likeness

variable {alike : Pipeline α → Pipeline α → Prop} {pipeline other : Pipeline α}

/-! ## What pipelines that are alike have in common -/

section Common

variable (likeness : Likeness alike) (same : alike pipeline other)

include likeness same

theorem isActive_eq : pipeline.stage.isActive = other.stage.isActive :=
  congrArg (fun face : Face α => decide (face.diagnostics.status = .active))
    (likeness.face_eq same)

theorem batch_eq : pipeline.stage.batch = other.stage.batch :=
  congrArg Face.batch (likeness.face_eq same)

theorem isFull_eq : pipeline.stage.isFull = other.stage.isFull :=
  congrArg Face.full (likeness.face_eq same)

theorem payBatch_eq_none_iff :
    pipeline.stage.ledger.payBatch = none ↔ other.stage.ledger.payBatch = none := by
  have unasked_eq : pipeline.stage.ledger.payBatch.isNone = other.stage.ledger.payBatch.isNone :=
    congrArg Face.unasked (likeness.face_eq same)
  rw [← Option.isNone_iff_eq_none, unasked_eq, Option.isNone_iff_eq_none]

theorem producer_eq : pipeline.stage.producer = other.stage.producer :=
  congrArg Face.producer (likeness.face_eq same)

theorem generation_eq : pipeline.stage.generation = other.stage.generation :=
  congrArg Face.generation (likeness.face_eq same)

theorem published_eq : pipeline.stage.published = other.stage.published :=
  congrArg Face.published (likeness.face_eq same)

theorem alarm_eq_none_iff : pipeline.stage.alarm = none ↔ other.stage.alarm = none := by
  have unarmed_eq : pipeline.stage.alarm.isNone = other.stage.alarm.isNone :=
    congrArg Face.unarmed (likeness.face_eq same)
  rw [← Option.isNone_iff_eq_none, unarmed_eq, Option.isNone_iff_eq_none]

theorem work_eq_zero_iff : pipeline.stage.work = 0 ↔ other.stage.work = 0 := by
  have idle_eq : decide (pipeline.stage.work = 0) = decide (other.stage.work = 0) :=
    congrArg Face.idle (likeness.face_eq same)
  exact decide_eq_decide.mp idle_eq

theorem hook_eq : pipeline.hook = other.hook :=
  congrArg Face.hook (likeness.face_eq same)

theorem owned_eq : pipeline.owned = other.owned :=
  congrArg Face.owned (likeness.face_eq same)

theorem alive_eq : pipeline.alive = other.alive :=
  congrArg Face.alive (likeness.face_eq same)

theorem diagnostics_eq : pipeline.diagnostics = other.diagnostics :=
  congrArg Face.diagnostics (likeness.face_eq same)

theorem now_eq : pipeline.timer.now = other.timer.now :=
  congrArg Face.now (likeness.face_eq same)

theorem discardTasks_eq (items : List α) :
    pipeline.discardTasks items = other.discardTasks items := by
  rw [discardTasks, discardTasks, likeness.hook_eq same]

theorem cancelProducerTasks_eq : pipeline.cancelProducerTasks = other.cancelProducerTasks := by
  rw [cancelProducerTasks, cancelProducerTasks, likeness.producer_eq same]

/-! ## What keeps them alike -/

theorem note (event : Event α) : alike (pipeline.note event) (other.note event) :=
  likeness.touch same (.note event)

theorem todo (tasks : List (Task α)) : alike (pipeline.todo tasks) (other.todo tasks) :=
  likeness.touch same (.todo tasks)

theorem cancelAlarm : alike pipeline.cancelAlarm other.cancelAlarm :=
  likeness.touch same .disarm

theorem emptied :
    alike (pipeline.withStage pipeline.stage.emptied) (other.withStage other.stage.emptied) :=
  likeness.touch same .empty

theorem hold (tasks : List (Task α)) : alike (pipeline.hold tasks) (other.hold tasks) :=
  likeness.todo (likeness.touch same .hold) (tasks ++ [Task.release])

theorem discardBatch (behind : List (Task α)) :
    alike (pipeline.discardBatch behind) (other.discardBatch behind) := by
  rw [Pipeline.discardBatch, Pipeline.discardBatch, likeness.batch_eq same,
    likeness.discardTasks_eq same]
  exact likeness.todo (likeness.emptied same) _

theorem closeBatch (trigger : Trigger) :
    alike (pipeline.closeBatch trigger) (other.closeBatch trigger) := by
  have renewed := likeness.cancelAlarm (likeness.touch same .renew)
  rw [Pipeline.closeBatch, Pipeline.closeBatch, likeness.batch_eq same]
  exact likeness.todo (likeness.emptied renewed) _

theorem endWith (error : StreamError) (origin : Origin) :
    alike (pipeline.endWith error origin) (other.endWith error origin) := by
  rw [Pipeline.endWith, Pipeline.endWith, likeness.isActive_eq same]
  split
  · exact likeness.discardBatch (likeness.cancelAlarm (likeness.touch same (.become .errored))) _
  · exact likeness.note same _

theorem reportError (error : StreamError) (origin : Origin) :
    alike (pipeline.reportError error origin) (other.reportError error origin) := by
  cases origin with
  | producer => exact likeness.todo same _
  | stage =>
      rw [Pipeline.reportError, Pipeline.reportError, likeness.cancelProducerTasks_eq same]
      exact likeness.todo (likeness.note same _) _

theorem finish : alike pipeline.finish other.finish := by
  rw [Pipeline.finish, Pipeline.finish, likeness.isActive_eq same]
  split
  · exact likeness.todo (likeness.note (likeness.touch same (.become .completed)) _) _
  · exact same

theorem deliver (handOff : HandOff α) :
    alike (pipeline.deliver handOff) (other.deliver handOff) := by
  have line_eq : flushedLine handOff pipeline.stage.generation =
      flushedLine handOff other.stage.generation :=
    congrArg (flushedLine handOff) (likeness.generation_eq same)
  have unasked_iff := likeness.payBatch_eq_none_iff same
  have paid := likeness.touch same .pay
  rw [Pipeline.deliver, Pipeline.deliver, likeness.isActive_eq same, line_eq,
    likeness.discardTasks_eq same]
  rw [Pipeline.touch, Pipeline.touch] at paid
  split
  · cases first : pipeline.stage.ledger.payBatch with
    | none =>
        rw [unasked_iff.mp first]
        exact likeness.todo (likeness.cancelAlarm same) _
    | some ledger =>
        cases second : other.stage.ledger.payBatch with
        | none => cases (unasked_iff.mpr second).symm.trans first
        | some next =>
            rw [first, second] at paid
            exact likeness.todo (likeness.note paid _) _
  · exact likeness.todo same _

/-! ## Signals -/

theorem setFirstAlarm : alike pipeline.setFirstAlarm other.setFirstAlarm := by
  simp only [Pipeline.setFirstAlarm, likeness.isActive_eq same, likeness.alarm_eq_none_iff same]
  split
  · exact likeness.todo same _
  · exact same

/-- An item is taken in alike where the ledgers give the same answer. -/
theorem takeIn (item : α)
    (answer : other.stage.isActive = true →
      (pipeline.stage.ledger.receiveItem = none ∧ other.stage.ledger.receiveItem = none) ∨
        ∃ ledger next, pipeline.stage.ledger.receiveItem = some ledger ∧
          other.stage.ledger.receiveItem = some next ∧
          alike (pipeline.withStage { pipeline.stage with ledger := ledger })
            (other.withStage { other.stage with ledger := next })) :
    alike (pipeline.takeIn item) (other.takeIn item) := by
  rw [Pipeline.takeIn, Pipeline.takeIn, likeness.isActive_eq same]
  split
  · rename_i active
    rcases answer active with ⟨first, second⟩ | ⟨ledger, next, first, second, booked⟩
    · rw [first, second]
      exact likeness.todo same _
    · have taken := likeness.note (likeness.touch booked (.gather item)) (.takenIn item)
      have full_eq := likeness.isFull_eq (likeness.touch booked (.gather item))
      simp only [Pipeline.touch, stage_withStage] at full_eq
      rw [first, second]
      dsimp only
      rw [full_eq]
      split
      · exact likeness.closeBatch taken .size
      · exact taken
  · exact likeness.todo same _

theorem endSpan (generation : UInt64) :
    alike (pipeline.endSpan generation) (other.endSpan generation) := by
  rw [Pipeline.endSpan, Pipeline.endSpan, likeness.isActive_eq same,
    likeness.generation_eq same, likeness.batch_eq same]
  split
  · split
    · exact likeness.note same _
    · split
      · exact likeness.todo (likeness.cancelAlarm (likeness.note same _)) _
      · exact likeness.closeBatch same .time
  · exact same

theorem deliverRest : alike pipeline.deliverRest other.deliverRest := by
  have idle := likeness.cancelAlarm same
  rw [Pipeline.deliverRest, Pipeline.deliverRest, likeness.isActive_eq same]
  dsimp only
  rw [likeness.batch_eq idle]
  split
  · split
    · exact likeness.todo idle _
    · exact likeness.deliver (likeness.emptied idle) _
  · exact same

theorem discardRest : alike pipeline.discardRest other.discardRest := by
  have idle := likeness.cancelAlarm same
  rw [Pipeline.discardRest, Pipeline.discardRest, likeness.batch_eq idle]
  split
  · exact likeness.discardBatch idle _
  · exact likeness.discardBatch (likeness.note idle _) _

theorem handle (signal : Signal α)
    (takes : ∀ item, signal = .item item → alike (pipeline.takeIn item) (other.takeIn item)) :
    alike (pipeline.handle signal) (other.handle signal) := by
  cases signal with
  | subscribed => exact likeness.setFirstAlarm same
  | item item => exact takes item rfl
  | tick generation => exact likeness.endSpan same generation
  | completed => exact likeness.deliverRest same
  | failed error origin => exact likeness.endWith same error origin
  | cancelled => exact likeness.discardRest same

/-! ## Calls of the stage and of its collaborators -/

theorem announce (signal : Signal α) :
    alike (pipeline.announce signal) (other.announce signal) := by
  have queued := likeness.note (likeness.touch same (.queue signal)) (.announced signal)
  simp only [Pipeline.announce, likeness.work_eq_zero_iff same]
  split
  · exact likeness.todo queued _
  · exact queued

theorem subscribe (producer : Nat) :
    alike (pipeline.subscribe producer) (other.subscribe producer) := by
  rw [Pipeline.subscribe, Pipeline.subscribe, likeness.producer_eq same]
  split
  · exact likeness.todo same _
  · exact likeness.todo (likeness.touch same (.attach producer)) _

theorem cancel : alike pipeline.cancel other.cancel := by
  rw [Pipeline.cancel, Pipeline.cancel, likeness.isActive_eq same,
    likeness.cancelProducerTasks_eq same]
  split
  · exact likeness.todo (likeness.touch same (.become .cancelled)) _
  · exact same

/-- A request is entered alike where the stage asks alike. -/
theorem enter (call : Inbound α)
    (requests : ∀ batches, call = .request batches →
      alike ((pipeline.note (.entered call)).request batches)
        ((other.note (.entered call)).request batches)) :
    alike (pipeline.enter call) (other.enter call) := by
  have entered := likeness.note same (.entered call)
  cases call with
  | subscribe producer => exact likeness.subscribe entered producer
  | next item => exact likeness.announce entered _
  | error error => exact likeness.announce entered _
  | complete => exact likeness.announce entered _
  | tick generation => exact likeness.announce entered _
  | request batches => exact requests batches rfl
  | cancel => exact likeness.cancel entered

theorem call (call : Outbound α) : alike (pipeline.call call) (other.call call) := by
  have seen_eq : pipeline.isSeen call = other.isSeen call := by
    cases call with
    | discard _ => exact congrArg DiscardHook.isObserved (likeness.hook_eq same)
    | _ => rfl
  have answers_eq : pipeline.reactions call.kind (pipeline.calls call.kind) =
      other.reactions call.kind (other.calls call.kind) :=
    congrFun (congrArg Face.answers (likeness.face_eq same)) call.kind
  have counted := likeness.touch (likeness.note same (.called call)) (.count call.kind)
  simp only [Pipeline.call, seen_eq, answers_eq]
  split
  · exact likeness.todo counted _
  · exact likeness.note same _

/-! ## What the driver does -/

theorem sweep : alike pipeline.sweep other.sweep := by
  rw [Pipeline.sweep, Pipeline.sweep, likeness.alive_eq same]
  split
  · exact same
  · exact likeness.emptied (likeness.cancelAlarm same)

theorem onStage (tasks : List (Task α)) :
    alike (pipeline.onStage tasks) (other.onStage tasks) := by
  rw [Pipeline.onStage, Pipeline.onStage, likeness.owned_eq same]
  split
  · exact likeness.hold same tasks
  · exact same

theorem onSubscription (call : Inbound α) :
    alike (pipeline.onSubscription call) (other.onSubscription call) := by
  have subscribed_eq : pipeline.subscribed = other.subscribed :=
    congrArg Face.subscribed (likeness.face_eq same)
  rw [Pipeline.onSubscription, Pipeline.onSubscription, subscribed_eq, likeness.alive_eq same]
  split
  · exact likeness.hold same _
  · exact same

theorem moveClock (instant : Duration) :
    alike (pipeline.moveClock instant) (other.moveClock instant) := by
  have style_eq : pipeline.timer.style = other.timer.style :=
    congrArg Face.style (likeness.face_eq same)
  rw [Pipeline.moveClock, Pipeline.moveClock, style_eq]
  split
  · exact likeness.todo same _
  · exact same

theorem act (action : Action α) : alike (pipeline.act action) (other.act action) := by
  cases action with
  | subscribe =>
      have producers_eq : pipeline.producers = other.producers :=
        congrArg Face.producers (likeness.face_eq same)
      rw [Pipeline.act, Pipeline.act, producers_eq, likeness.owned_eq same]
      split
      · have arrived := likeness.hold (likeness.touch same .arrive)
          [.enter (.subscribe other.producers)]
        rw [Pipeline.touch, Pipeline.touch, producers_eq, likeness.owned_eq same] at arrived
        exact arrived
      · exact same
  | next items => exact likeness.onStage same _
  | error error => exact likeness.onStage same _
  | complete => exact likeness.onStage same _
  | tick generation => exact likeness.onStage same _
  | flushNow =>
      rw [Pipeline.act, Pipeline.act, likeness.published_eq same]
      exact likeness.onStage same _
  | request batches => exact likeness.onSubscription same _
  | cancel => exact likeness.onSubscription same _
  | advance span =>
      rw [Pipeline.act, Pipeline.act, likeness.now_eq same]
      exact likeness.moveClock same _
  | advanceTo instant =>
      rw [Pipeline.act, Pipeline.act, likeness.now_eq same]
      exact likeness.moveClock same _
  | shutDownTimer =>
      have line_eq : pipeline.timer.closingLine? = other.timer.closingLine? :=
        congrArg Face.closingLine? (likeness.face_eq same)
      rw [Pipeline.act, Pipeline.act, line_eq]
      exact likeness.todo (likeness.touch same .shutDown) _
  | refuse rejection => exact likeness.touch same (.refuse (some rejection))
  | accept => exact likeness.touch same (.refuse none)
  | dropStage => exact likeness.sweep (likeness.touch same .disown)
  | diagnose =>
      rw [Pipeline.act, Pipeline.act, likeness.owned_eq same, likeness.diagnostics_eq same]
      split
      · exact likeness.note same _
      · exact same
  | inform =>
      rw [Pipeline.act, Pipeline.act, likeness.owned_eq same]
      split
      · exact likeness.inform same
      · exact same
  | requestProducer items =>
      rw [Pipeline.act, Pipeline.act, likeness.producer_eq same]
      exact likeness.onStage same _
  | mark content => exact likeness.note same _

/-! ## Tasks -/

omit same in
/-- A batch that waits for an alarm is delivered alike where the alarm is set alike. -/
theorem accepted {token answer : CancelToken} (handOff : Option (HandOff α))
    (armed : alike (pipeline.withStage { pipeline.stage with alarm := some token })
      (other.withStage { other.stage with alarm := some answer })) :
    alike (pipeline.answered (.ok token) handOff) (other.answered (.ok answer) handOff) := by
  cases handOff with
  | none => exact armed
  | some waiting => exact likeness.deliver armed waiting

theorem refused (rejection : TimerRejection) (handOff : Option (HandOff α)) :
    alike (pipeline.answered (.error rejection) handOff)
      (other.answered (.error rejection) handOff) := by
  have discards_eq : pipeline.discardTasks = other.discardTasks :=
    funext (likeness.discardTasks_eq same)
  rw [Pipeline.answered, Pipeline.answered, discards_eq]
  exact likeness.todo same _

theorem perform {task : Task α} (superficial : task.isSuperficial = true) :
    alike (pipeline.perform task) (other.perform task) := by
  cases task with
  | act action => exact likeness.act same action
  | enter call =>
      refine likeness.enter same call fun batches request => ?_
      rw [request] at superficial
      cases superficial
  | release => exact likeness.sweep (likeness.touch same .release)
  | announce signal => exact likeness.announce same signal
  | answered outcome handOff =>
      cases outcome with
      | ok token => cases superficial
      | error rejection => exact likeness.refused same rejection handOff
  | endWith error origin => exact likeness.endWith same error origin
  | reportError error origin => exact likeness.reportError same error origin
  | finish => exact likeness.finish same
  | call call => exact likeness.call same call
  | log line => exact likeness.note same _
  | workOff missed => cases superficial
  | firstRequest producer => cases superficial
  | setAlarm handOff => cases superficial
  | advance instant => cases superficial

end Common

end Likeness

end Pipeline

end TimedBatch
