import TimedBatch.Proofs.Blame
import TimedBatch.Proofs.Interlude

/-!
# Producers that come too late

A stage can end before any producer has subscribed: a batch without demand and a refused alarm end
it, and so does a completion. A producer that subscribes to a stage that has ended is never asked
for an item. If another one is attached it is cancelled at once. The first one, however, is attached
as if the stage worked, and its subscription returns without a cancellation. It is cancelled later
if a failure that the stage found still waits to be reported, and otherwise it never is.
-/

namespace TimedBatch.Pipeline

variable {α : Type} {config : Config} {setup : Setup α} {pipeline first last : Pipeline α}
  {task : Task α} {below left : List (Task α)} {producer : Nat}

theorem cancellations_le (pipeline : Pipeline α) (producer : Nat) :
    pipeline.cancellations producer ≤
      cancellationsOf producer pipeline.agenda pipeline.chronicle := by
  rw [cancellations, outboundCalls_eq]
  exact Nat.le_add_right _ _

/-! ## Up to the first subscription -/

/-- No producer is cancelled as long as none is attached. -/
theorem Reachable.cancellationsOf_eq_zero (reachable : Reachable config setup pipeline)
    (unattached : pipeline.stage.producer = none) :
    cancellationsOf producer pipeline.agenda pipeline.chronicle = 0 := by
  refine reachable.preserve (fun stage agenda events => stage.producer = none →
    cancellationsOf producer agenda events = 0) ?_ ?_ ?_ unattached
  · intro lines _
    have silent : (lines.map .log : List (Event α)).filterMap Event.outbound? = [] :=
      filterMap_eq_nil_of_isAside Event.outbound?_of_isAside isAside_of_mem_logs
    simp [cancellationsOf, silent]
  · exact fun stage events action before => before
  · intro pipeline task stage timer events tasks effect before unattached
    rw [effect.producer_eq, Option.or_eq_none_iff] at unattached
    have nobody := unattached.1
    rw [effect.cancellationsOf_eq, before nobody, Nat.zero_add]
    rcases effect.cancels fun _ _ attached => absurd nobody attached with
      none | ⟨last, rfl, spared, _⟩
    · exact none
    · simp [cancelProducerTasks, nobody, spared]

/-- The first producer that subscribes has the first number. -/
theorem Reachable.eq_zero_of_subscribe (reachable : Reachable config setup pipeline)
    (agenda_eq : pipeline.agenda = .enter (.subscribe producer) :: below)
    (unattached : pipeline.stage.producer = none) : producer = 0 := by
  have nobody : pipeline.inboundCalls.filterMap Inbound.producer? = [] := by
    rw [reachable.producer_eq, List.findSome?_eq_none_iff] at unattached
    exact List.filterMap_eq_nil_iff.mpr unattached
  have numbers := reachable.numbered.numbers_eq
  have own : (Task.enter (.subscribe producer) : Task α).producer? = some producer := rfl
  rw [nobody, agenda_eq, List.nil_append, List.filterMap_cons_some own] at numbers
  cases count : pipeline.producers with
  | zero => simp [count] at numbers
  | succ others =>
      rw [count, List.range_succ_eq_map] at numbers
      exact (List.cons.inj numbers).1

theorem Reachable.unasked_of_subscribe (reachable : Reachable config setup pipeline)
    (subscribes : .enter (.subscribe producer) ∈ pipeline.agenda) (items : Amount) :
    .request producer items ∉ pipeline.outboundCalls := by
  intro member
  have granted : (⟨producer, items⟩ : Grant) ∈ grantsIn pipeline.chronicle :=
    List.mem_filterMap.mpr ⟨_, member, rfl⟩
  have attached := reachable.addressed.granted _ (List.mem_append_left _ granted)
  exact reachable.ne_zero_of_subscribe subscribes (by simp [attached])
    (reachable.eq_zero_of_producer attached)

/-! ## After the end -/

/-- Nobody is asked for items after the end. -/
theorem Later.unasked (later : Later first last)
    (told : Told first.stage first.agenda first.chronicle) (ended : first.stage.status ≠ .active)
    {items : Amount} (unasked : .request producer items ∉ first.outboundCalls) :
    .request producer items ∉ last.outboundCalls := by
  obtain ⟨more, calls_eq, each⟩ := later.exists_calls told
  rw [calls_eq, List.mem_append, not_or]
  refine ⟨unasked, fun member => ?_⟩
  obtain ⟨stage, agenda, events, asking, status_eq⟩ := each _ member
  have active : stage.status = .active := asking.prompt.head _ rfl rfl
  exact ended ((status_eq ended).symm.trans active)

theorem Later.cancellations_le (later : Later first last) :
    first.cancellations producer ≤ last.cancellations producer := by
  obtain ⟨events, chronicle_eq⟩ := later.exists_chronicle
  rw [cancellations, cancellations, outboundCalls_eq, outboundCalls_eq, chronicle_eq,
    List.filterMap_append, List.countP_append]
  exact Nat.le_add_right _ _

/-- A run that leads on from a moment leads on from the next one. -/
theorem Later.eq_or_step (later : Later first last) : last = first ∨ Later first.step last := by
  induction later with
  | here => exact Or.inl rfl
  | step _ ih =>
      rcases ih with rfl | later
      · exact Or.inr .here
      · exact Or.inr later.step
  | begin _ rest action ih =>
      rcases ih with rfl | later
      · rw [step_of_atRest rest]
        exact Or.inr (.begin .here rest action)
      · exact Or.inr (later.begin rest action)

/-- The stage has ended, its first producer is not cancelled, and none of some tasks reports a
failure that the stage found. -/
structure Untroubled (pipeline : Pipeline α) (tasks : List (Task α)) : Prop where
  ended : pipeline.stage.status ≠ .active
  spared : cancellationsOf 0 pipeline.agenda pipeline.chronicle = 0
  unreported : ∀ error, .reportError error .stage ∉ tasks

theorem Untroubled.cancellations_eq {tasks : List (Task α)}
    (untroubled : Untroubled pipeline tasks) : pipeline.cancellations 0 = 0 := by
  have bound := pipeline.cancellations_le 0
  rw [untroubled.spared] at bound
  exact Nat.eq_zero_of_le_zero bound

/-- After the end no failure is found any more, so no report joins the tasks. -/
theorem Untroubled.step (untroubled : Untroubled pipeline (task :: left))
    (reachable : Reachable config setup pipeline)
    (agenda_eq : pipeline.agenda = task :: left ++ below) :
    ∃ next, pipeline.step.agenda = next ++ below ∧ Untroubled pipeline.step next := by
  obtain ⟨ended, spared, unreported⟩ := untroubled
  obtain ⟨stage, timer, events, tasks, effect, becomes⟩ := exists_step_effect agenda_eq
  refine ⟨tasks ++ left, becomes.agenda_eq.trans (List.append_assoc _ _ _).symm, ?_⟩
  constructor
  case ended =>
    rw [becomes.stage_eq, effect.status_eq ended]
    exact ended
  case spared =>
    rw [agenda_eq] at spared
    have counted : cancellationsOf 0 pipeline.step.agenda pipeline.step.chronicle =
        tasks.countP (Task.cancels 0) := by
      rw [becomes.agenda_eq, becomes.chronicle_eq, effect.cancellationsOf_eq]
      exact (congrArg (· + _) spared).trans (Nat.zero_add _)
    have second : ∀ other, task = .enter (.subscribe other) → pipeline.stage.producer ≠ none →
        other ≠ 0 := by
      rintro other rfl
      exact reachable.ne_zero_of_subscribe (agenda_eq ▸ List.mem_cons_self)
    rw [counted]
    rcases effect.cancels second with none | ⟨_, _, _, ⟨active, _⟩ | ⟨error, rfl⟩⟩
    · exact none
    · exact absurd active ended
    · exact absurd List.mem_cons_self (unreported error)
  case unreported =>
    intro error member
    rcases List.mem_append.mp member with added | stays
    · rcases effect.tells_of_mem added rfl with ⟨_, _, _, impossible⟩ | ⟨_, _, _, active, _⟩
      · cases impossible
      · exact absurd active ended
    · exact unreported error (List.mem_cons_of_mem _ stays)

/-- As long as a run works above some tasks, only the tasks above matter. -/
theorem WorksAbove.untroubled {upper : List (Task α)} (works : WorksAbove below first last)
    (reachable : Reachable config setup first) (agenda_eq : first.agenda = upper ++ below)
    (untroubled : Untroubled first upper) :
    ∃ left, last.agenda = left ++ below ∧ Untroubled last left :=
  works.preserve agenda_eq Untroubled untroubled fun _ _ _ works agenda_eq untroubled =>
    untroubled.step (works.reachable reachable) agenda_eq

theorem Later.untroubled (later : Later first last) (reachable : Reachable config setup first)
    (untroubled : Untroubled first first.agenda) : Untroubled last last.agenda := by
  obtain ⟨opening, made, earlier⟩ := reachable
  induction later with
  | here => exact untroubled
  | @step last later ih =>
      cases agenda_eq : last.agenda with
      | nil => rwa [step_of_atRest (List.isEmpty_iff.mpr agenda_eq)]
      | cons task rest =>
          rw [agenda_eq] at ih
          obtain ⟨next, next_eq, after⟩ := ih.step ⟨opening, made, earlier.trans later⟩
            (agenda_eq.trans (List.append_nil _).symm)
          rw [List.append_nil] at next_eq
          rwa [next_eq]
  | @begin last later rest action ih =>
      obtain ⟨ended, spared, _⟩ := ih
      rw [List.isEmpty_iff.mp rest] at spared
      rw [agenda_begin_of_atRest rest]
      refine ⟨ended, ?_, by simp⟩
      rw [agenda_begin_of_atRest rest]
      exact spared

/-- The first producer is attached, and it is cancelled or a failure that the stage found waits to
be reported. -/
structure Condemned (stage : Stage α) (agenda : List (Task α)) (events : List (Event α)) :
    Prop where
  attached : stage.producer = some 0
  cancelled : (∃ error, .reportError error .stage ∈ agenda) ∨ 0 < cancellationsOf 0 agenda events

theorem Later.condemned (later : Later first last)
    (condemned : Condemned first.stage first.agenda first.chronicle) :
    Condemned last.stage last.agenda last.chronicle := by
  refine later.preserve Condemned condemned ?_ ?_
  · rintro stage events action ⟨attached, ⟨_, impossible⟩ | cancelled⟩
    · cases impossible
    · exact ⟨attached, Or.inr cancelled⟩
  · rintro pipeline task stage timer events tasks effect ⟨attached, cancelled⟩
    constructor
    case attached =>
      rw [effect.producer_eq, attached]
      rfl
    case cancelled =>
      rw [effect.cancellationsOf_eq]
      rcases cancelled with ⟨error, member⟩ | before
      · rcases List.mem_cons.mp member with rfl | waits
        · have due : tasks.countP (Task.cancels 0) = attachments pipeline.stage :=
            effect.cancels_of_report fun other same =>
              (Option.some.inj (attached.symm.trans same)).symm
          have one : attachments pipeline.stage = 1 := if_pos (attached ▸ rfl)
          exact Or.inr (by omega)
        · exact Or.inl ⟨error, List.mem_append_right _ waits⟩
      · exact Or.inr (by omega)

/-! ## The late subscription -/

/-- What becomes of a producer that subscribes to a stage that has ended, while some tasks wait for
the subscription to return. -/
structure ComesLate (pipeline : Pipeline α) (producer : Nat) (below : List (Task α)) : Prop where
  unasked : ∀ last, Later pipeline last → ∀ items, .request producer items ∉ last.outboundCalls
  /-- Where another producer is attached, this one is cancelled before anything else happens. -/
  turnedAway : pipeline.stage.producer ≠ none →
    pipeline.step.step.outboundCalls = pipeline.outboundCalls ++ [.cancel producer] ∧
      ∀ last, Clears below pipeline last → 0 < last.cancellations producer
  /-- The first producer is attached, and it is not cancelled before its subscription returns. -/
  attached : pipeline.stage.producer = none →
    pipeline.step.stage.producer = some producer ∧
      ∀ last, WorksAbove below pipeline last → last.cancellations producer = 0
  /-- Nor is it cancelled later, unless a failure that the stage found waits to be reported. -/
  left : pipeline.stage.producer = none → (∀ error, .reportError error .stage ∉ below) →
    ∀ last, Later pipeline last → last.cancellations producer = 0
  /-- Where one waits, it is cancelled by the time that everything is done. -/
  reported : pipeline.stage.producer = none → ∀ error, .reportError error .stage ∈ below →
    ∀ last, Later pipeline last → last.agenda = [] → 0 < last.cancellations producer

/-- Another producer than the attached one is cancelled before anything else happens. -/
theorem cancels_second (agenda_eq : pipeline.agenda = .enter (.subscribe producer) :: below)
    (second : pipeline.stage.producer ≠ none) :
    (∃ upper, pipeline.step.agenda = .call (.cancel producer) :: upper ++ below) ∧
      pipeline.step.step.outboundCalls = pipeline.outboundCalls ++ [Outbound.cancel producer] := by
  have attached : pipeline.stage.producer.isSome = true := Option.isSome_iff_ne_none.mpr second
  have step_eq : pipeline.step =
      ({ pipeline with agenda := below }.note (.entered (.subscribe producer))).todo
        [.call (.cancel producer), .log secondProducerLine,
          .announce (.failed .duplicateSubscription .stage)] := by
    rw [step_of_agenda agenda_eq, perform, enter, subscribe]
    exact if_pos attached
  have calls_eq : pipeline.step.outboundCalls = pipeline.outboundCalls := by
    rw [step_eq, outboundCalls_eq, outboundCalls_eq, chronicle_todo, chronicle_note]
    simp [Event.outbound?, chronicle]
  have agenda_step : pipeline.step.agenda =
      Task.call (.cancel producer) :: [Task.log secondProducerLine,
        .announce (.failed .duplicateSubscription .stage)] ++ below := by
    rw [step_eq]
    rfl
  obtain ⟨stage, timer, events, tasks, effect, becomes⟩ := exists_step_effect agenda_step
  refine ⟨⟨_, agenda_step⟩, ?_⟩
  rw [← calls_eq, outboundCalls_eq, outboundCalls_eq, becomes.chronicle_eq, List.filterMap_append,
    effect.outbound_eq]
  rfl

/-- The first producer is attached. -/
theorem attaches_first (agenda_eq : pipeline.agenda = .enter (.subscribe producer) :: below)
    (unattached : pipeline.stage.producer = none) :
    pipeline.step.stage.producer = some producer ∧
      ∃ upper, pipeline.step.agenda = upper ++ below := by
  have step_eq : pipeline.step =
      (({ pipeline with agenda := below }.note (.entered (.subscribe producer))).withStage
        { pipeline.stage with producer := some producer }).todo
          [.call .subscribe, .announce .subscribed, .firstRequest producer] := by
    rw [step_of_agenda agenda_eq, perform, enter, subscribe]
    exact if_neg (by simp [note, unattached])
  rw [step_eq]
  exact ⟨rfl, _, rfl⟩

theorem Reachable.comesLate (reachable : Reachable config setup pipeline)
    (agenda_eq : pipeline.agenda = .enter (.subscribe producer) :: below)
    (ended : pipeline.stage.status ≠ .active) : ComesLate pipeline producer below := by
  have subscribes : .enter (.subscribe producer) ∈ pipeline.agenda :=
    agenda_eq ▸ List.mem_cons_self
  constructor
  case unasked =>
    exact fun last later items =>
      later.unasked reachable.told ended (reachable.unasked_of_subscribe subscribes items)
  case turnedAway =>
    intro second
    obtain ⟨⟨upper, agenda_step⟩, calls_eq⟩ := cancels_second agenda_eq second
    refine ⟨calls_eq, fun last clears => ?_⟩
    have later : Later pipeline.step.step last :=
      ((clears.next agenda_eq).step agenda_step).works.later
    have made : 0 < pipeline.step.step.cancellations producer := by
      rw [cancellations, calls_eq, List.countP_append]
      exact Nat.lt_add_left _ (by simp [Outbound.cancels])
    exact Nat.lt_of_lt_of_le made later.cancellations_le
  case attached =>
    intro unattached
    obtain rfl := reachable.eq_zero_of_subscribe agenda_eq unattached
    refine ⟨(attaches_first agenda_eq unattached).1, fun last works => ?_⟩
    have untroubled : Untroubled pipeline [.enter (.subscribe 0)] :=
      ⟨ended, reachable.cancellationsOf_eq_zero unattached, by simp⟩
    obtain ⟨_, _, after⟩ := works.untroubled reachable agenda_eq untroubled
    exact after.cancellations_eq
  case left =>
    intro unattached unreported last later
    obtain rfl := reachable.eq_zero_of_subscribe agenda_eq unattached
    have untroubled : Untroubled pipeline pipeline.agenda := by
      refine ⟨ended, reachable.cancellationsOf_eq_zero unattached, fun error member => ?_⟩
      rw [agenda_eq] at member
      rcases List.mem_cons.mp member with impossible | waits
      · cases impossible
      · exact unreported error waits
    exact (later.untroubled reachable untroubled).cancellations_eq
  case reported =>
    intro unattached error waits last later rest
    obtain rfl := reachable.eq_zero_of_subscribe agenda_eq unattached
    obtain ⟨attached, upper, agenda_step⟩ := attaches_first agenda_eq unattached
    have condemned : Condemned pipeline.step.stage pipeline.step.agenda pipeline.step.chronicle :=
      ⟨attached, Or.inl ⟨error, agenda_step ▸ List.mem_append_right _ waits⟩⟩
    rcases later.eq_or_step with rfl | later
    · cases agenda_eq.symm.trans rest
    · have settled := (later.condemned condemned).cancelled
      rw [rest] at settled
      rcases settled with ⟨_, impossible⟩ | cancelled
      · cases impossible
      · rwa [cancellations, outboundCalls_eq]

/-- A discard hook that takes batches is called once more, for no items, while the failure of a
batch without demand waits to be reported. The first producer subscribes in that call. -/
theorem comesLate_of_subscribe_in_discard :
    ∃ (pipeline : Pipeline Nat) (below : List (Task Nat)),
      Reachable ⟨1, .ofMillis 10, .unbounded⟩
        { hook := .bulk
          reactions := fun kind earlier =>
            if kind = .discard ∧ earlier = 1 then [.subscribe] else [] }
        pipeline ∧
      pipeline.agenda = .enter (.subscribe 0) :: below ∧ pipeline.stage.status = .errored ∧
      .reportError .insufficientDemand .stage ∈ below ∧ ComesLate pipeline 0 below := by
  have start : @Reachable Nat ⟨1, .ofMillis 10, .unbounded⟩
      { hook := .bulk
        reactions := fun kind earlier =>
          if kind = .discard ∧ earlier = 1 then [.subscribe] else [] } _ :=
    Reachable.of_opening rfl
  have failing := start.act rfl (.next [7]) 10
  exact ⟨_, _, failing, rfl, rfl, .tail _ (.head _), Reachable.comesLate failing rfl nofun⟩

/-- A batch without demand ends the stage. Then the first producer subscribes: it is attached, and
when everything is done it is not cancelled. -/
theorem attached_uncancelled_after_end :
    ∃ pipeline last : Pipeline Nat,
      Reachable ⟨1, .ofMillis 10, .unbounded⟩ {} pipeline ∧ pipeline.atRest = true ∧
      pipeline.stage.status = .errored ∧ last = (pipeline.begin .subscribe).run 10 ∧
      last.agenda = [] ∧ last.inboundCalls = [.next 7, .subscribe 0] ∧
      last.stage.producer = some 0 ∧ last.cancellations 0 = 0 := by
  have start : @Reachable Nat ⟨1, .ofMillis 10, .unbounded⟩ {} _ :=
    Reachable.of_opening rfl
  have failed := start.act rfl (.next [7]) 20
  exact ⟨_, _, failed, rfl, rfl, rfl, rfl, rfl, rfl, rfl⟩

end TimedBatch.Pipeline
