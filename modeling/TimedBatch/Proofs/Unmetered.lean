import TimedBatch.Proofs.Credit
import TimedBatch.Proofs.Likeness
import TimedBatch.Proofs.Timeline

/-!
# How the producer is asked

The policy decides for how many items the producer is asked and when, and nothing else: as long as
every item finds credit, what a stage does with the items does not depend on it. A pipeline is
unmetered by dropping what the policy decides, namely the credit and the requests of the stage.
Two pipelines that are unmetered to the same one go on alike; one of them may have to make a request
first before both do the same task.
-/

namespace TimedBatch

variable {α : Type}

/-! ## What is dropped -/

/-- Whether the stage asks a producer for items. -/
def Outbound.isRequest : Outbound α → Bool
  | .request _ _ => true
  | _ => false

def Task.isRequest : Task α → Bool
  | .call outbound => outbound.isRequest
  | _ => false

/-- A ledger that owes nothing to the policy. -/
def Ledger.unmetered (ledger : Ledger) : Ledger :=
  { ledger with policy := .unbounded, outstanding := .unbounded }

def Stage.unmetered (stage : Stage α) : Stage α :=
  { stage with
    config := { stage.config with policy := .unbounded }
    ledger := stage.ledger.unmetered }

/-- If a working stage works an item off next, the item finds credit. -/
def Stage.Grants (stage : Stage α) : Prop :=
  ∀ item rest, stage.signals = .item item :: rest → stage.isActive = true →
    stage.ledger.outstanding ≠ 0

/-- What is left of an event: nothing of a request, and all but the policy of what the stage tells
about itself. -/
def Event.unmetered? : Event α → Option (Event α)
  | .called call => if call.isRequest then none else some (.called call)
  | .informed information => some (.informed { information with policy := .unbounded })
  | event => some event

def Entry.unmetered? (entry : Entry α) : Option (Entry α) :=
  entry.event.unmetered?.map (Entry.mk entry.time)

namespace Pipeline

/-- A pipeline without the requests of its stage. -/
def unmetered (pipeline : Pipeline α) : Pipeline α :=
  { pipeline with
    stage := pipeline.stage.unmetered
    calls := fun kind => if kind = .request then 0 else pipeline.calls kind
    agenda := pipeline.agenda.filter fun task => !task.isRequest
    journal := pipeline.journal.filterMap Entry.unmetered? }

/-- Two pipelines differ in requests of the stage at most, and nobody acts in the middle of a
request. -/
structure Akin (pipeline other : Pipeline α) : Prop where
  unmetered_eq : pipeline.unmetered = other.unmetered
  unanswered : ∀ earlier, pipeline.reactions .request earlier = []

end Pipeline

/-! ## Ledgers without a policy -/

namespace Ledger

variable {ledger next : Ledger}

theorem payBatch_unmetered (ledger : Ledger) :
    ledger.unmetered.payBatch = ledger.payBatch.map unmetered := by
  rw [payBatch, payBatch]
  change (if ledger.requested = .unbounded then _ else if ledger.requested = 0 then _ else _) = _
  split
  · rfl
  · split <;> rfl

theorem unmetered_of_receiveItem (received : ledger.receiveItem = some next) :
    next.unmetered = ledger.unmetered := by
  rw [receiveItem] at received
  split at received
  · cases received
    rfl
  · split at received
    · cases received
    · cases received
      rfl

theorem unmetered_of_topUp {credit : Amount} (short : ledger.topUp = some (credit, next)) :
    next.unmetered = ledger.unmetered := by
  obtain ⟨_, _, _, rfl, rfl⟩ := of_topUp short
  rfl

theorem unmetered_of_firstRequest {credit : Amount}
    (asked : ledger.firstRequest = some (credit, next)) : next.unmetered = ledger.unmetered := by
  rw [firstRequest] at asked
  split at asked
  · cases asked
    rfl
  · exact unmetered_of_topUp asked

end Ledger

namespace Pipeline

variable {pipeline other : Pipeline α}

/-! ## Touches -/

theorem agenda_unmetered (pipeline : Pipeline α) :
    pipeline.unmetered.agenda = pipeline.agenda.filter fun task => !task.isRequest :=
  rfl

theorem unmetered_note (pipeline : Pipeline α) (event : Event α) :
    (pipeline.note event).unmetered =
      { pipeline.unmetered with
        journal := (Entry.unmetered? ⟨pipeline.unmetered.timer.now, event⟩).toList ++
          pipeline.unmetered.journal } := by
  rw [unmetered, note, List.filterMap_cons]
  change _ = { pipeline.unmetered with
    journal := (Entry.unmetered? ⟨pipeline.timer.now, event⟩).toList ++
      pipeline.unmetered.journal }
  cases Entry.unmetered? ⟨pipeline.timer.now, event⟩ <;> rfl

theorem unmetered_todo (pipeline : Pipeline α) (tasks : List (Task α)) :
    (pipeline.todo tasks).unmetered =
      pipeline.unmetered.todo (tasks.filter fun task => !task.isRequest) := by
  rw [unmetered, agenda_todo, List.filter_append]
  rfl

theorem unmetered_count (pipeline : Pipeline α) (kind : CallKind) :
    (pipeline.touch (.count kind)).unmetered =
      if kind = .request then pipeline.unmetered else pipeline.unmetered.touch (.count kind) := by
  split
  · subst kind
    rw [unmetered, unmetered, touch]
    congr 1
    · exact Bool.or_false _
    · funext kind
      dsimp only
      split <;> rfl
  · rename_i other
    rw [unmetered, unmetered, touch, touch]
    congr 1
    funext each
    dsimp only
    by_cases request : each = .request
    · rw [if_pos request, if_neg (fun same => other (same.symm.trans request)), if_pos request]
    · rw [if_neg request, if_neg other, if_neg request]

theorem unmetered_touch_eq (same : pipeline.unmetered = other.unmetered) (touch : Touch α) :
    (pipeline.touch touch).unmetered = (other.touch touch).unmetered := by
  have natural : (∀ next : Pipeline α, (next.touch touch).unmetered = next.unmetered.touch touch) →
      (pipeline.touch touch).unmetered = (other.touch touch).unmetered := by
    intro natural
    rw [natural, natural, same]
  cases touch with
  | note event =>
      change (pipeline.note event).unmetered = (other.note event).unmetered
      rw [unmetered_note, unmetered_note, same]
  | todo tasks =>
      change (pipeline.todo tasks).unmetered = (other.todo tasks).unmetered
      rw [unmetered_todo, unmetered_todo, same]
  | pay =>
      refine natural fun next => ?_
      have paid_eq := next.stage.ledger.payBatch_unmetered
      change _ = next.unmetered.withStage
        { next.unmetered.stage with
          ledger := next.stage.ledger.unmetered.payBatch.getD next.stage.ledger.unmetered }
      rw [paid_eq, Option.getD_map]
      rfl
  | disarm =>
      refine natural fun next => ?_
      change next.cancelAlarm.unmetered = next.unmetered.cancelAlarm
      have alarm_eq : next.unmetered.stage.alarm = next.stage.alarm := rfl
      rw [cancelAlarm, cancelAlarm, alarm_eq]
      cases next.stage.alarm <;> rfl
  | count kind => rw [unmetered_count, unmetered_count, same]
  | _ => exact natural fun _ => rfl

theorem reactions_touch (pipeline : Pipeline α) (touch : Touch α) :
    (pipeline.touch touch).reactions = pipeline.reactions := by
  cases touch with
  | disarm =>
      change pipeline.cancelAlarm.reactions = pipeline.reactions
      rw [cancelAlarm]
      split <;> rfl
  | _ => rfl

theorem face_unmetered (unanswered : ∀ earlier, pipeline.reactions .request earlier = []) :
    pipeline.unmetered.face = pipeline.face := by
  have unasked_eq : pipeline.unmetered.stage.ledger.payBatch.isNone =
      pipeline.stage.ledger.payBatch.isNone := by
    change pipeline.stage.ledger.unmetered.payBatch.isNone = _
    rw [Ledger.payBatch_unmetered, Option.isNone_map]
  have answers_eq : ∀ kind, pipeline.unmetered.reactions kind (pipeline.unmetered.calls kind) =
      pipeline.reactions kind (pipeline.calls kind) := by
    intro kind
    by_cases request : kind = .request
    · rw [request, unanswered]
      exact unanswered _
    · exact congrArg (pipeline.reactions kind) (if_neg request)
  rw [face, face, unasked_eq, funext answers_eq]
  rfl

namespace Akin

variable (same : Akin pipeline other)

include same

theorem reactions_eq : pipeline.reactions = other.reactions := by
  change pipeline.unmetered.reactions = other.unmetered.reactions
  rw [same.unmetered_eq]

theorem symm : Akin other pipeline where
  unmetered_eq := same.unmetered_eq.symm
  unanswered earlier := by
    rw [← same.reactions_eq]
    exact same.unanswered earlier

/-- Whatever does not look at what is dropped sees no difference. -/
theorem view {β : Type} (view : Pipeline α → β)
    (blind : ∀ next, view next.unmetered = view next) : view pipeline = view other := by
  rw [← blind pipeline, ← blind other, same.unmetered_eq]

/-- What is done to all pipelines alike, without a look at what is dropped. -/
theorem map (change : Pipeline α → Pipeline α)
    (natural : ∀ next, (change next).unmetered = change next.unmetered)
    (keeps : ∀ next, (change next).reactions = next.reactions) :
    Akin (change pipeline) (change other) where
  unmetered_eq := by rw [natural, natural, same.unmetered_eq]
  unanswered earlier := by
    rw [keeps]
    exact same.unanswered earlier

end Akin

theorem akin_likeness : Likeness (@Akin α) where
  face_eq := by
    intro pipeline other same
    rw [← face_unmetered same.unanswered, ← face_unmetered same.symm.unanswered,
      same.unmetered_eq]
  touch := by
    intro pipeline other same touch
    refine ⟨unmetered_touch_eq same.unmetered_eq touch, fun earlier => ?_⟩
    rw [reactions_touch]
    exact same.unanswered earlier
  inform := by
    intro pipeline other same
    have told : ∀ next : Pipeline α, (next.note (.informed next.information)).unmetered =
        { next.unmetered with
          journal := ⟨next.unmetered.timer.now, .informed next.unmetered.information⟩ ::
            next.unmetered.journal } := fun _ => rfl
    refine ⟨?_, same.unanswered⟩
    rw [told, told, same.unmetered_eq]

/-! ## Tasks that look at the credit -/

/-- A stage that books a request or an item differs in what is dropped. -/
theorem unmetered_withLedger (pipeline : Pipeline α) {ledger : Ledger}
    (booked : ledger.unmetered = pipeline.stage.ledger.unmetered) :
    (pipeline.withStage { pipeline.stage with ledger := ledger }).unmetered =
      pipeline.unmetered := by
  rw [unmetered, unmetered, stage_withStage, Stage.unmetered, booked]
  rfl

theorem unmetered_firstRequest (pipeline : Pipeline α) (producer : Nat) :
    (pipeline.firstRequest producer).unmetered = pipeline.unmetered := by
  rw [firstRequest]
  split
  · split
    · rfl
    · rename_i credit ledger asked
      rw [unmetered_todo, unmetered_withLedger _ (Ledger.unmetered_of_firstRequest asked)]
      rfl
  · rfl

theorem reactions_firstRequest (pipeline : Pipeline α) (producer : Nat) :
    (pipeline.firstRequest producer).reactions = pipeline.reactions := by
  rw [firstRequest]
  split
  · split <;> rfl
  · rfl

/-- A request of the consumer adds to the demand; what the stage requests in turn is dropped. -/
theorem unmetered_request (pipeline : Pipeline α) (batches : Amount) :
    (pipeline.request batches).unmetered =
      if batches = 0 then pipeline.unmetered else (pipeline.touch (.ask batches)).unmetered := by
  rw [request]
  split
  · rfl
  · dsimp only
    split
    · split
      · rename_i producer credit ledger _ short
        rw [unmetered_todo]
        exact unmetered_withLedger (pipeline.touch (.ask batches))
          (Ledger.unmetered_of_topUp short)
      · rfl
    · rfl

theorem reactions_request (pipeline : Pipeline α) (batches : Amount) :
    (pipeline.request batches).reactions = pipeline.reactions := by
  rw [request]
  split
  · rfl
  · dsimp only
    split
    · split <;> rfl
    · rfl

namespace Akin

variable (same : Akin pipeline other)

include same

theorem firstRequest (producer : Nat) :
    Akin (pipeline.firstRequest producer) (other.firstRequest producer) where
  unmetered_eq := by rw [unmetered_firstRequest, unmetered_firstRequest, same.unmetered_eq]
  unanswered earlier := by
    rw [reactions_firstRequest]
    exact same.unanswered earlier

theorem request (batches : Amount) :
    Akin (pipeline.request batches) (other.request batches) where
  unmetered_eq := by
    rw [unmetered_request, unmetered_request, same.unmetered_eq,
      unmetered_touch_eq same.unmetered_eq]
  unanswered earlier := by
    rw [reactions_request]
    exact same.unanswered earlier

theorem enter (call : Inbound α) : Akin (pipeline.enter call) (other.enter call) :=
  akin_likeness.enter same call fun batches _ =>
    request (akin_likeness.note same (.entered call)) batches

theorem takeIn (item : α)
    (granted : pipeline.stage.isActive = true → pipeline.stage.ledger.outstanding ≠ 0)
    (grantedOther : other.stage.isActive = true → other.stage.ledger.outstanding ≠ 0) :
    Akin (pipeline.takeIn item) (other.takeIn item) := by
  refine akin_likeness.takeIn same item fun active => Or.inr ?_
  have works := (akin_likeness.isActive_eq same).trans active
  have received := mt Ledger.receiveItem_eq_none_iff.mp (granted works)
  have receivedOther := mt Ledger.receiveItem_eq_none_iff.mp (grantedOther active)
  obtain ⟨ledger, received⟩ := Option.ne_none_iff_exists'.mp received
  obtain ⟨next, receivedOther⟩ := Option.ne_none_iff_exists'.mp receivedOther
  refine ⟨ledger, next, received, receivedOther, ?_, same.unanswered⟩
  rw [unmetered_withLedger _ (Ledger.unmetered_of_receiveItem received),
    unmetered_withLedger _ (Ledger.unmetered_of_receiveItem receivedOther), same.unmetered_eq]

theorem setAlarm (handOff : Option (HandOff α)) :
    Akin (pipeline.setAlarm handOff) (other.setAlarm handOff) := by
  have answer_eq : pipeline.askTimer = other.askTimer := same.view askTimer fun _ => rfl
  have span_eq : pipeline.stage.config.timeSpan = other.stage.config.timeSpan :=
    same.view (fun next => next.stage.config.timeSpan) fun _ => rfl
  rw [Pipeline.setAlarm, Pipeline.setAlarm, answer_eq, span_eq]
  exact akin_likeness.todo (same.map (fun next => { next with timer := other.askTimer.2 })
    (fun _ => rfl) fun _ => rfl) _

theorem answered (outcome : Except TimerRejection CancelToken) (handOff : Option (HandOff α)) :
    Akin (pipeline.answered outcome handOff) (other.answered outcome handOff) := by
  cases outcome with
  | ok token =>
      refine akin_likeness.accepted handOff (same.map
        (fun next => next.withStage { next.stage with alarm := some token })
        (fun _ => rfl) fun _ => rfl)
  | error rejection => exact akin_likeness.refused same rejection handOff

theorem advance (instant : Duration) :
    Akin (pipeline.advance instant) (other.advance instant) := by
  have timer_eq : pipeline.timer = other.timer := same.view Pipeline.timer fun _ => rfl
  have retimed : ∀ timer,
      Akin { pipeline with timer := timer } { other with timer := timer } :=
    fun timer => same.map (fun next => { next with timer := timer }) (fun _ => rfl) fun _ => rfl
  rw [Pipeline.advance, Pipeline.advance, timer_eq]
  split
  · exact retimed _
  · rename_i alarm timer _
    have taken := akin_likeness.todo (retimed timer) [.advance instant]
    have fired := akin_likeness.note taken .fired
    have alive_eq := akin_likeness.alive_eq fired
    dsimp only
    rw [alive_eq]
    split
    · exact taken
    · split
      · exact akin_likeness.hold fired _
      · exact fired

theorem workOff (missed : Nat) (grants : pipeline.stage.Grants)
    (grantsOther : other.stage.Grants) :
    Akin (pipeline.workOff missed) (other.workOff missed) := by
  have signals_eq : pipeline.stage.signals = other.stage.signals :=
    same.view (fun next => next.stage.signals) fun _ => rfl
  have work_eq : pipeline.stage.work = other.stage.work :=
    same.view (fun next => next.stage.work) fun _ => rfl
  rw [Pipeline.workOff, Pipeline.workOff, signals_eq]
  cases first : other.stage.signals with
  | nil =>
      have accounted := same.map (fun next =>
        next.withStage { next.stage with work := other.stage.work - missed })
        (fun _ => rfl) fun _ => rfl
      rw [work_eq]
      dsimp only
      split
      · exact accounted
      · exact akin_likeness.todo accounted _
  | cons signal rest =>
      have popped := same.map (fun next =>
        next.withStage { next.stage with signals := rest }) (fun _ => rfl) fun _ => rfl
      have handled := akin_likeness.todo (akin_likeness.note popped (.handled signal))
        [.workOff missed]
      refine akin_likeness.handle handled signal fun item isItem => ?_
      rw [isItem] at first
      exact handled.takeIn item (grants item rest (signals_eq.trans first))
        (grantsOther item rest first)

/-- Every task does the same to pipelines that are akin, as long as items find credit. -/
theorem perform (task : Task α)
    (grants : ∀ missed, task = .workOff missed → pipeline.stage.Grants)
    (grantsOther : ∀ missed, task = .workOff missed → other.stage.Grants) :
    Akin (pipeline.perform task) (other.perform task) := by
  cases task with
  | enter call => exact same.enter call
  | workOff missed => exact same.workOff missed (grants missed rfl) (grantsOther missed rfl)
  | firstRequest producer => exact same.firstRequest producer
  | setAlarm handOff => exact same.setAlarm handOff
  | answered outcome handOff => exact same.answered outcome handOff
  | advance instant => exact same.advance instant
  | _ => exact akin_likeness.perform same rfl

end Akin

/-! ## Steps -/

/-- Every item that a stage is about to work off while it works finds credit. -/
def Funded (pipeline : Pipeline α) : Prop :=
  ∀ item, IsTaking pipeline item → pipeline.stage.ledger.outstanding ≠ 0

/-- Whether an item is worked off next that finds no credit. -/
def lacksCredit (pipeline : Pipeline α) : Bool :=
  match pipeline.agenda, pipeline.stage.signals with
  | .workOff _ :: _, .item _ :: _ =>
      pipeline.stage.isActive && pipeline.stage.ledger.outstanding = 0
  | _, _ => false

theorem lacksCredit_eq_false_iff : pipeline.lacksCredit = false ↔ Funded pipeline := by
  rw [lacksCredit]
  split
  · rename_i missed others item behind agenda_eq signals_eq
    rw [Bool.and_eq_false_iff, Stage.isActive_eq_false_iff, decide_eq_false_iff_not]
    constructor
    · rintro (ended | funded) next taking
      · exact absurd taking.active ended
      · exact funded
    · intro funded
      by_cases active : pipeline.stage.status = .active
      · exact .inr (funded item ⟨active, ⟨missed, by rw [agenda_eq]; rfl⟩, behind, signals_eq⟩)
      · exact .inl active
  · rename_i neither
    refine iff_of_true rfl fun item taking => ?_
    obtain ⟨_, ⟨missed, working⟩, behind, first⟩ := taking
    obtain ⟨others, agenda_eq⟩ := List.head?_eq_some_iff.mp working
    exact absurd first (neither missed others item behind agenda_eq)

instance (pipeline : Pipeline α) : Decidable (Funded pipeline) :=
  decidable_of_iff _ lacksCredit_eq_false_iff

/-- Whether a request of the stage is made next. -/
def isAsking (pipeline : Pipeline α) : Bool :=
  pipeline.agenda.head?.any Task.isRequest

theorem Funded.grants {missed : Nat} {rest : List (Task α)} (funded : Funded pipeline)
    (agenda_eq : pipeline.agenda = .workOff missed :: rest) : pipeline.stage.Grants := by
  intro item behind first active
  refine funded item ⟨Stage.isActive_iff.mp active, ⟨missed, ?_⟩, behind, first⟩
  rw [agenda_eq]
  rfl

/-- Where nobody acts in the middle of a request, it is only noted and counted. -/
theorem call_request (producer : Nat) (items : Amount)
    (unanswered : ∀ earlier, pipeline.reactions .request earlier = []) :
    pipeline.call (.request producer items) =
      (pipeline.note (.called (.request producer items))).touch (.count .request) := by
  have called : pipeline.call (.request producer items) =
      ((pipeline.note (.called (.request producer items))).touch (.count .request)).todo
        ((pipeline.reactions .request (pipeline.calls .request)).map Task.act) := rfl
  rw [called, unanswered]
  rfl

theorem unmetered_pop {task : Task α} {rest : List (Task α)}
    (agenda_eq : pipeline.agenda = task :: rest) (request : task.isRequest = true) :
    { pipeline with agenda := rest }.unmetered = pipeline.unmetered := by
  rw [unmetered, unmetered, agenda_eq, List.filter_cons_of_neg (by rw [request]; decide)]

namespace Akin

variable (same : Akin pipeline other) {task taskOther : Task α} {rest restOther : List (Task α)}

include same

/-- A request of the stage leaves no trace. -/
theorem of_request (agenda_eq : other.agenda = task :: rest) (request : task.isRequest = true) :
    Akin pipeline other.step ∧ other.step.agenda = rest := by
  have popped := unmetered_pop agenda_eq request
  cases task with
  | call outbound =>
      cases outbound with
      | request producer items =>
          have step_eq : other.step = ({ other with agenda := rest }.note
              (.called (.request producer items))).touch (.count .request) := by
            rw [Pipeline.step_of_agenda agenda_eq]
            exact call_request producer items same.symm.unanswered
          rw [step_eq]
          refine ⟨⟨?_, same.unanswered⟩, rfl⟩
          rw [unmetered_count, if_pos rfl, unmetered_note, same.unmetered_eq, ← popped]
          rfl
      | _ => cases request
  | _ => cases request

/-- Where neither makes a request next, both do the same task. -/
theorem step_of_agenda (agenda_eq : pipeline.agenda = task :: rest)
    (agendaOther : other.agenda = taskOther :: restOther) (served : task.isRequest = false)
    (servedOther : taskOther.isRequest = false) (funded : Funded pipeline)
    (fundedOther : Funded other) : Akin pipeline.step other.step := by
  have agendas_eq : pipeline.unmetered.agenda = other.unmetered.agenda := by
    rw [same.unmetered_eq]
  rw [agenda_unmetered, agenda_unmetered, agenda_eq, agendaOther,
    List.filter_cons_of_pos (by rw [served]; rfl),
    List.filter_cons_of_pos (by rw [servedOther]; rfl)] at agendas_eq
  obtain ⟨rfl, rests_eq⟩ := List.cons.inj agendas_eq
  have begun : Akin { pipeline with agenda := rest } { other with agenda := restOther } := by
    have popped : { pipeline.unmetered with agenda := rest.filter fun task => !task.isRequest } =
        { other.unmetered with agenda := restOther.filter fun task => !task.isRequest } := by
      rw [same.unmetered_eq, rests_eq]
    exact ⟨popped, same.unanswered⟩
  rw [Pipeline.step_of_agenda agenda_eq, Pipeline.step_of_agenda agendaOther]
  refine begun.perform task ?_ ?_
  · rintro missed rfl
    exact funded.grants agenda_eq
  · rintro missed rfl
    exact fundedOther.grants agendaOther

/-- The requests that a stage makes next are made after some steps. -/
theorem exists_served : ∃ more, Akin pipeline (other.run more) ∧
    (other.run more).isAsking = false := by
  generalize agenda_eq : other.agenda = agenda
  induction agenda generalizing other with
  | nil => exact ⟨0, same, by rw [run_zero, isAsking, agenda_eq]; rfl⟩
  | cons task rest ih =>
      cases request : task.isRequest with
      | false => exact ⟨0, same, by rw [run_zero, isAsking, agenda_eq]; exact request⟩
      | true =>
          obtain ⟨after, rest_eq⟩ := same.of_request agenda_eq request
          obtain ⟨more, reached, served⟩ := ih after rest_eq
          refine ⟨more + 1, ?_⟩
          rw [run_succ_of_busy (busy_of_agenda agenda_eq)]
          exact ⟨reached, served⟩

/-- A task of one pipeline is matched by some tasks of the other. -/
theorem exists_step (funded : Funded pipeline)
    (fundedOther : ∀ more, Funded (other.run more)) :
    ∃ more, Akin pipeline.step (other.run more) := by
  cases agenda_eq : pipeline.agenda with
  | nil =>
      refine ⟨0, ?_⟩
      rw [step_of_atRest (List.isEmpty_iff.mpr agenda_eq)]
      exact same
  | cons task rest =>
      cases request : task.isRequest with
      | true => exact ⟨0, (same.symm.of_request agenda_eq request).1.symm⟩
      | false =>
          obtain ⟨more, reached, served⟩ := same.exists_served
          have agendas_eq : pipeline.unmetered.agenda = (other.run more).unmetered.agenda := by
            rw [reached.unmetered_eq]
          cases agendaOther : (other.run more).agenda with
          | nil =>
              rw [agenda_unmetered, agenda_unmetered, agenda_eq, agendaOther,
                List.filter_cons_of_pos (by rw [request]; rfl)] at agendas_eq
              cases agendas_eq
          | cons taskOther restOther =>
              rw [isAsking, agendaOther] at served
              refine ⟨more + 1, ?_⟩
              rw [run_add, run_succ_of_busy (busy_of_agenda agendaOther)]
              exact reached.step_of_agenda agenda_eq agendaOther request served funded
                (fundedOther more)

theorem exists_run (funded : ∀ bound, Funded (pipeline.run bound))
    (fundedOther : ∀ more, Funded (other.run more)) (bound : Nat) :
    ∃ more, Akin (pipeline.run bound) (other.run more) := by
  induction bound with
  | zero => exact ⟨0, same⟩
  | succ bound ih =>
      obtain ⟨first, reached⟩ := ih
      obtain ⟨more, follows⟩ := reached.exists_step (funded bound) fun more => by
        rw [← run_add]
        exact fundedOther (first + more)
      refine ⟨first + more, ?_⟩
      rw [run_add, run_add]
      cases rest : (pipeline.run bound).atRest with
      | true =>
          rw [run_of_atRest rest]
          rwa [step_of_atRest rest] at follows
      | false =>
          rw [run_succ_of_busy rest]
          exact follows

/-- A pipeline comes to rest if another one does that is akin to it. -/
theorem exists_rest (rest : pipeline.atRest = true) :
    ∃ more, Akin pipeline (other.run more) ∧ (other.run more).atRest = true := by
  obtain ⟨more, reached, served⟩ := same.exists_served
  refine ⟨more, reached, ?_⟩
  have nothing : (other.run more).unmetered.agenda = [] := by
    rw [← reached.unmetered_eq, agenda_unmetered, List.isEmpty_iff.mp rest, List.filter_nil]
  cases agenda_eq : (other.run more).agenda with
  | nil => exact List.isEmpty_iff.mpr agenda_eq
  | cons task others =>
      rw [isAsking, agenda_eq] at served
      have stays : task.isRequest = false := served
      rw [agenda_unmetered, agenda_eq, List.filter_cons_of_pos (by rw [stays]; rfl)] at nothing
      cases nothing

end Akin

/-! ## Runs of a script -/

/-- A moment while the driver acts again and again, each time when the pipeline has come to
rest. -/
inductive During : Pipeline α → List (Action α) → Pipeline α → Prop where
  | now {pipeline : Pipeline α} {action : Action α} {actions : List (Action α)} (bound : Nat) :
      During pipeline (action :: actions) ((pipeline.begin action).run bound)
  | later {pipeline moment : Pipeline α} {action : Action α} {actions : List (Action α)}
      (bound : Nat) (rest : ((pipeline.begin action).run bound).atRest = true)
      (during : During ((pipeline.begin action).run bound) actions moment) :
      During pipeline (action :: actions) moment

theorem During.reachable {config : Config} {setup : Setup α} {moment : Pipeline α}
    {actions : List (Action α)} (during : During pipeline actions moment)
    (reachable : Reachable config setup pipeline) (rest : pipeline.atRest = true) :
    Reachable config setup moment := by
  induction during with
  | now bound => exact reachable.act rest _ bound
  | later bound rests _ ih => exact ih (reachable.act rest _ bound) rests

/-- Throughout a run of a script, every item finds credit. -/
def FundedDuring (pipeline : Pipeline α) (actions : List (Action α)) : Prop :=
  ∀ moment, During pipeline actions moment → Funded moment

theorem FundedDuring.nil (pipeline : Pipeline α) : FundedDuring pipeline [] := by
  intro moment during
  cases during

/-- It is enough to look at the moments until the pipeline comes to rest. -/
theorem FundedDuring.cons {action : Action α} {actions : List (Action α)} (bound : Nat)
    (rest : ((pipeline.begin action).run bound).atRest = true)
    (now : ∀ steps < bound + 1, Funded ((pipeline.begin action).run steps))
    (later : FundedDuring ((pipeline.begin action).run bound) actions) :
    FundedDuring pipeline (action :: actions) := by
  intro moment during
  cases during with
  | now steps =>
      rcases Nat.lt_or_ge steps (bound + 1) with early | late
      · exact now steps early
      · obtain ⟨more, rfl⟩ := Nat.exists_eq_add_of_le late
        rw [Nat.add_assoc, run_add, run_of_atRest rest]
        exact now bound (Nat.lt_succ_self bound)
  | later steps rests during =>
      rw [run_eq_of_atRest rests rest] at during
      exact later moment during

theorem FundedDuring.later {action : Action α} {actions : List (Action α)}
    (funded : FundedDuring pipeline (action :: actions)) {bound : Nat}
    (rest : ((pipeline.begin action).run bound).atRest = true) :
    FundedDuring ((pipeline.begin action).run bound) actions :=
  fun moment during => funded moment (.later bound rest during)

namespace Akin

variable {moment last : Pipeline α} {action : Action α} {actions : List (Action α)}

theorem exists_act (same : Akin pipeline other)
    (funded : FundedDuring pipeline (action :: actions))
    (fundedOther : FundedDuring other (action :: actions)) (bound : Nat) :
    ∃ more, Akin ((pipeline.begin action).run bound) ((other.begin action).run more) :=
  exists_run (akin_likeness.todo same [.act action]) (fun bound => funded _ (.now bound))
    (fun more => fundedOther _ (.now more)) bound

theorem exists_turn (same : Akin pipeline other)
    (funded : FundedDuring pipeline (action :: actions))
    (fundedOther : FundedDuring other (action :: actions)) {bound : Nat}
    (rest : ((pipeline.begin action).run bound).atRest = true) :
    ∃ more, Akin ((pipeline.begin action).run bound) ((other.begin action).run more) ∧
      ((other.begin action).run more).atRest = true := by
  obtain ⟨first, reached⟩ := same.exists_act funded fundedOther bound
  obtain ⟨more, akin, rests⟩ := reached.exists_rest rest
  rw [← run_add] at akin rests
  exact ⟨first + more, akin, rests⟩

theorem exists_during (same : Akin pipeline other) (funded : FundedDuring pipeline actions)
    (fundedOther : FundedDuring other actions) (during : During pipeline actions moment) :
    ∃ image, During other actions image ∧ Akin moment image := by
  induction during generalizing other with
  | now bound =>
      obtain ⟨more, reached⟩ := same.exists_act funded fundedOther bound
      exact ⟨_, .now more, reached⟩
  | later bound rest _ ih =>
      obtain ⟨more, reached, rests⟩ := same.exists_turn funded fundedOther rest
      obtain ⟨image, during, akin⟩ := ih reached (funded.later rest) (fundedOther.later rests)
      exact ⟨image, .later more rests during, akin⟩

theorem exists_inTurn (same : Akin pipeline other) (funded : FundedDuring pipeline actions)
    (fundedOther : FundedDuring other actions) (turns : InTurn pipeline actions last) :
    ∃ image, InTurn other actions image ∧ Akin last image := by
  induction turns generalizing other with
  | nil pipeline => exact ⟨other, .nil other, same⟩
  | cons bound rest _ ih =>
      obtain ⟨more, reached, rests⟩ := same.exists_turn funded fundedOther rest
      obtain ⟨image, turns, akin⟩ := ih reached (funded.later rest) (fundedOther.later rests)
      exact ⟨image, .cons more rests turns, akin⟩

end Akin

/-! ## What is seen -/

end Pipeline

namespace Outbound

def discard? : Outbound α → Option (Discard α)
  | .discard call => some call
  | _ => none

/-- The delay of an alarm that the timer was asked for, and whether the timer accepted it. -/
def schedule? : Outbound α → Option (Duration × Bool)
  | .schedule delay accepted => some (delay, accepted)
  | _ => none

/-- The producer that is cancelled. -/
def cancelled? : Outbound α → Option Nat
  | .cancel producer => some producer
  | _ => none

end Outbound

def Event.diagnosed? : Event α → Option Diagnostics
  | .diagnosed diagnostics => some diagnostics
  | _ => none

namespace Pipeline

variable {pipeline other : Pipeline α}

/-- Two pipelines have seen the same and tell the same about themselves. Only the requests of the
stage, made and due, may differ, and the policies by name. -/
structure SameButRequests (pipeline other : Pipeline α) : Prop where
  received_eq : pipeline.received = other.received
  discards_eq : pipeline.outboundCalls.filterMap Outbound.discard? =
    other.outboundCalls.filterMap Outbound.discard?
  schedules_eq : pipeline.outboundCalls.filterMap Outbound.schedule? =
    other.outboundCalls.filterMap Outbound.schedule?
  cancellations_eq : pipeline.outboundCalls.filterMap Outbound.cancelled? =
    other.outboundCalls.filterMap Outbound.cancelled?
  diagnosed_eq : pipeline.chronicle.filterMap Event.diagnosed? =
    other.chronicle.filterMap Event.diagnosed?
  diagnostics_eq : pipeline.diagnostics = other.diagnostics
  /-- All that happened, and when. -/
  timeline_eq : pipeline.timeline.filterMap Entry.unmetered? =
    other.timeline.filterMap Entry.unmetered?
  timer_eq : pipeline.timer = other.timer

/-- What does not look at requests and policies is found alike. -/
theorem Akin.filterMap_eq (same : Akin pipeline other) {β : Type} (pick : Event α → Option β)
    (blind : ∀ event, event.unmetered?.bind pick = pick event) :
    pipeline.chronicle.filterMap pick = other.chronicle.filterMap pick := by
  refine same.view (fun next => next.chronicle.filterMap pick) fun next => ?_
  have journal_eq : next.unmetered.journal = next.journal.filterMap Entry.unmetered? := rfl
  rw [chronicle, chronicle, journal_eq, ← List.filterMap_reverse, List.filterMap_map,
    List.filterMap_filterMap, List.filterMap_map]
  refine List.filterMap_congr fun entry _ => ?_
  rw [Function.comp_apply, ← blind, Entry.unmetered?, Option.bind_map]
  rfl

theorem Akin.filterMap_outboundCalls_eq (same : Akin pipeline other) {β : Type}
    (pick : Outbound α → Option β)
    (blind : ∀ producer items, pick (.request producer items) = none) :
    pipeline.outboundCalls.filterMap pick = other.outboundCalls.filterMap pick := by
  rw [outboundCalls_eq, outboundCalls_eq, List.filterMap_filterMap, List.filterMap_filterMap]
  refine same.filterMap_eq _ fun event => ?_
  cases event with
  | called call =>
      cases call with
      | request producer items => exact (blind producer items).symm
      | _ => rfl
  | _ => rfl

theorem SameButRequests.of_akin (same : Akin pipeline other) :
    SameButRequests pipeline other where
  received_eq := same.filterMap_outboundCalls_eq Outbound.heard? fun _ _ => rfl
  discards_eq := same.filterMap_outboundCalls_eq Outbound.discard? fun _ _ => rfl
  schedules_eq := same.filterMap_outboundCalls_eq Outbound.schedule? fun _ _ => rfl
  cancellations_eq := same.filterMap_outboundCalls_eq Outbound.cancelled? fun _ _ => rfl
  diagnosed_eq := by
    refine same.filterMap_eq Event.diagnosed? fun event => ?_
    cases event with
    | called call => cases call <;> rfl
    | _ => rfl
  diagnostics_eq := akin_likeness.diagnostics_eq same
  timeline_eq := by
    rw [timeline, timeline, List.filterMap_reverse, List.filterMap_reverse]
    exact congrArg List.reverse (congrArg Pipeline.journal same.unmetered_eq :)
  timer_eq := same.view Pipeline.timer fun _ => rfl

/-- Whatever a run of a script passes through and comes to, another run of the script passes through
and comes to as well. -/
structure Retraced (first other : Pipeline α) (script : List (Action α)) : Prop where
  moments : ∀ moment, During first script moment →
    ∃ image, During other script image ∧ SameButRequests moment image
  ends : ∀ last, InTurn first script last →
    ∃ image, InTurn other script image ∧ SameButRequests last image

theorem Akin.retraced (same : Akin pipeline other) {script : List (Action α)}
    (funded : FundedDuring pipeline script) (fundedOther : FundedDuring other script) :
    Retraced pipeline other script where
  moments _ during :=
    have ⟨image, reached, akin⟩ := same.exists_during funded fundedOther during
    ⟨image, reached, .of_akin akin⟩
  ends _ turns :=
    have ⟨image, reached, akin⟩ := same.exists_inTurn funded fundedOther turns
    ⟨image, reached, .of_akin akin⟩

section Policies

variable {maxSize : Amount} {timeSpan : Duration} {setup : Setup α}

/-- Where the producer is asked for everything at once, every item finds credit. -/
theorem Reachable.funded {config : Config} (reachable : Reachable config setup pipeline)
    (unbounded : config.policy = .unbounded) : Funded pipeline := by
  intro item _ spent
  rw [(reachable.credited.unbounded (reachable.policy_eq.trans unbounded)).1] at spent
  cases spent

theorem akin_of_opening {prefetching boundless : Pipeline α}
    (made : opening? ⟨maxSize, timeSpan, .prefetch⟩ setup = .ok prefetching)
    (madeBoundless : opening? ⟨maxSize, timeSpan, .unbounded⟩ setup = .ok boundless)
    (unanswered : ∀ earlier, setup.reactions .request earlier = []) :
    Akin prefetching boundless := by
  have fault_eq : (Config.mk maxSize timeSpan .unbounded).fault? =
      (Config.mk maxSize timeSpan .prefetch).fault? := rfl
  rw [opening?] at made madeBoundless
  rw [fault_eq] at madeBoundless
  split at made <;> cases made
  rename_i sound
  rw [sound] at madeBoundless
  cases madeBoundless
  exact ⟨rfl, unanswered⟩

/-- Where nobody acts in the middle of a request, and every item finds credit although the producer
is asked only for what the demand of the consumer needs, the same is seen as if the producer were
asked for everything at once. -/
theorem retraced_of_fundedDuring {prefetching boundless : Pipeline α} {script : List (Action α)}
    (made : opening? ⟨maxSize, timeSpan, .prefetch⟩ setup = .ok prefetching)
    (madeBoundless : opening? ⟨maxSize, timeSpan, .unbounded⟩ setup = .ok boundless)
    (unanswered : ∀ earlier, setup.reactions .request earlier = [])
    (funded : FundedDuring prefetching script) :
    Retraced prefetching boundless script ∧ Retraced boundless prefetching script := by
  have same := akin_of_opening made madeBoundless unanswered
  have rest : boundless.atRest = true :=
    List.isEmpty_iff.mpr (opening?_eq_ok madeBoundless).2.2.1
  have fundedBoundless : FundedDuring boundless script := fun _ during =>
    (during.reachable (.of_opening madeBoundless) rest).funded rfl
  exact ⟨same.retraced funded fundedBoundless, same.symm.retraced fundedBoundless funded⟩

/-- The consumer asks for more in the middle of the first delivery, and the producer sends an item
there and another one when it is cancelled. -/
def nestedSends : Setup Nat where
  reactions kind earlier :=
    if kind = .subscribe then [.request 2]
    else if kind = .next ∧ earlier = 0 then [.next [3], .request 1]
    else if kind = .cancel then [.next [5]]
    else if kind = .discard then [.diagnose]
    else []

theorem retraced_of_nestedSends :
    ∃ prefetching boundless last image : Pipeline Nat,
      opening? ⟨2, .ofMillis 10, .prefetch⟩ nestedSends = .ok prefetching ∧
      opening? ⟨2, .ofMillis 10, .unbounded⟩ nestedSends = .ok boundless ∧
      InTurn prefetching
        [.subscribe, .next [1, 2], .advance (.ofMillis 10), .next [4], .cancel] last ∧
      InTurn boundless
        [.subscribe, .next [1, 2], .advance (.ofMillis 10), .next [4], .cancel] image ∧
      last.requestsOf 0 = [4, 2] ∧ image.requestsOf 0 = [.unbounded] ∧
      last.delivered = [[1, 2], [3]] ∧ last.discarded = [5, 4] ∧ SameButRequests last image := by
  have made : opening? ⟨2, .ofMillis 10, .prefetch⟩ nestedSends = .ok _ := rfl
  have madeBoundless : opening? ⟨2, .ofMillis 10, .unbounded⟩ nestedSends = .ok _ := rfl
  have funded : FundedDuring
      { stage := .opening ⟨2, .ofMillis 10, .prefetch⟩
        timer := {}
        reactions := nestedSends.reactions }
      [.subscribe, .next [1, 2], .advance (.ofMillis 10), .next [4], .cancel] :=
    .cons 15 rfl (by decide +kernel) <| .cons 21 rfl (by decide +kernel) <|
      .cons 12 rfl (by decide +kernel) <| .cons 5 rfl (by decide +kernel) <|
      .cons 16 rfl (by decide +kernel) <| .nil _
  have turns : InTurn
      { stage := .opening ⟨2, .ofMillis 10, .prefetch⟩
        timer := {}
        reactions := nestedSends.reactions }
      [.subscribe, .next [1, 2], .advance (.ofMillis 10), .next [4], .cancel] _ :=
    .cons 15 rfl <| .cons 21 rfl <| .cons 12 rfl <| .cons 5 rfl <| .cons 16 rfl <| .nil _
  have turnsBoundless : InTurn
      { stage := .opening ⟨2, .ofMillis 10, .unbounded⟩
        timer := {}
        reactions := nestedSends.reactions }
      [.subscribe, .next [1, 2], .advance (.ofMillis 10), .next [4], .cancel] _ :=
    .cons 15 rfl <| .cons 20 rfl <| .cons 12 rfl <| .cons 5 rfl <| .cons 16 rfl <| .nil _
  obtain ⟨image, reached, same⟩ :=
    (retraced_of_fundedDuring made madeBoundless (fun _ => rfl) funded).1.ends _ turns
  rw [reached.unique turnsBoundless] at same
  exact ⟨_, _, _, _, made, madeBoundless, turns, turnsBoundless, rfl, rfl, rfl, rfl, same⟩

end Policies

end Pipeline

end TimedBatch
