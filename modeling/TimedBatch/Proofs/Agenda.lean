import Mathlib.Data.List.Basic
import TimedBatch.Proofs.Effect

/-!
# The order of the agenda

Whoever works the queue off stands on the agenda once, beneath the tasks of the signal that is being
worked off and above nothing but calls that wait for an end of their own. So signals are worked off
one after the other, in the order in which they were announced.
-/

namespace TimedBatch

variable {α : Type}

/-- Whether a task belongs to a signal that is being worked off. -/
def Task.isInner : Task α → Bool
  | .setAlarm _ => true
  | .answered _ _ => true
  | .endWith _ _ => true
  | .reportError _ _ => true
  | .finish => true
  | .call (.next _) => true
  | .call (.error _) => true
  | .call .complete => true
  | .call (.discard _) => true
  | .call (.schedule _ _) => true
  | _ => false

/-- Whether a task may stand beneath the work on the queue. -/
def Task.isOuter (task : Task α) : Bool :=
  !task.isInner && !task.isWorkOff

namespace Pipeline

theorem not_isInner_of_isFree {task : Task α} (free : task.isFree = true) :
    task.isInner = false ∧ task.isWorkOff = false := by
  cases task with
  | call call => cases call <;> first | exact ⟨rfl, rfl⟩ | cases free
  | _ => first | exact ⟨rfl, rfl⟩ | cases free

theorem not_isWorkOff_of_isInner {task : Task α} (inner : task.isInner = true) :
    task.isWorkOff = false := by
  cases task <;> first | rfl | cases inner

theorem forall_cancelProducerTasks (pipeline : Pipeline α) {holds : Task α → Prop}
    (each : ∀ producer, holds (.call (.cancel producer))) :
    ∀ task ∈ pipeline.cancelProducerTasks, holds task := by
  intro task member
  obtain ⟨producer, _, rfl⟩ := List.mem_map.mp member
  exact each producer

/-- A task that differs from all tasks above in its kind is one of those below. -/
theorem mem_below {kind : Task α → Bool} {value : Bool} {tasks agenda : List (Task α)}
    (all : ∀ task ∈ tasks, kind task = value) {sought : Task α} (differs : kind sought = !value)
    (member : sought ∈ tasks ++ agenda) : sought ∈ agenda := by
  rcases List.mem_append.mp member with member | member
  · exact absurd ((all sought member).symm.trans differs) (by simp)
  · exact member

/-! ## The tasks of a signal -/

section Work

variable {hook : DiscardHook} {stage next : Stage α} {timer clock : Timer UInt64}
  {events : List (Event α)} {tasks : List (Task α)}

attribute [local simp] Task.isInner

theorem isInner_hookTasks (items : List α) :
    ∀ task ∈ hookTasks hook items, task.isInner = true := by
  simp [hookTasks]

theorem isInner_failureTasks (items : List α) (error : StreamError) :
    ∀ task ∈ failureTasks hook items error, task.isInner = true := by
  rw [failureTasks, List.forall_mem_append]
  exact ⟨isInner_hookTasks items, by simp⟩

theorem Delivery.isInner {handOff : HandOff α}
    (delivery : Delivery hook stage timer handOff next clock events tasks) :
    ∀ task ∈ tasks, task.isInner = true := by
  cases delivery with
  | late ended => exact isInner_hookTasks handOff.batch
  | unpaid active unpaid => exact isInner_failureTasks handOff.batch _
  | paid active paid =>
      rw [closingTasks]
      split <;> simp

theorem Failure.isInner {error : StreamError} {origin : Origin}
    (failure : Failure hook stage timer error origin next clock events tasks) :
    ∀ task ∈ tasks, task.isInner = true := by
  cases failure with
  | late ended => simp
  | ended active =>
      rw [List.forall_mem_append]
      exact ⟨isInner_hookTasks stage.batch, by simp⟩

theorem Dispatch.isInner {signal : Signal α}
    (dispatch : Dispatch hook stage timer signal next clock events tasks) :
    ∀ task ∈ tasks, task.isInner = true := by
  cases dispatch with
  | completed active filled delivery => exact delivery.isInner
  | failed failure => exact failure.isInner
  | cancelledEmpty empty => exact isInner_hookTasks []
  | cancelled filled => exact isInner_hookTasks stage.batch
  | _ => simp

theorem Delivery.queue_eq {handOff : HandOff α}
    (delivery : Delivery hook stage timer handOff next clock events tasks) :
    next.signals = stage.signals ∧ next.work = stage.work := by
  cases delivery <;> exact ⟨rfl, rfl⟩

theorem Failure.queue_eq {error : StreamError} {origin : Origin}
    (failure : Failure hook stage timer error origin next clock events tasks) :
    next.signals = stage.signals ∧ next.work = stage.work := by
  cases failure <;> exact ⟨rfl, rfl⟩

theorem Dispatch.queue_eq {signal : Signal α}
    (dispatch : Dispatch hook stage timer signal next clock events tasks) :
    next.signals = stage.signals ∧ next.work = stage.work := by
  cases dispatch with
  | completed active filled delivery => exact delivery.queue_eq
  | failed failure => exact failure.queue_eq
  | _ => exact ⟨rfl, rfl⟩

end Work

/-! ## The order -/

/-- The agenda is in order: beneath the work on the queue stand no tasks of a signal and no other
work on the queue, and somebody is at work exactly while the work counter is not zero. -/
structure InOrder (stage : Stage α) (agenda : List (Task α)) : Prop where
  beneath : agenda.Pairwise fun upper lower => upper.isWorkOff = true → lower.isOuter = true
  inner_working : ∀ task ∈ agenda, task.isInner = true → stage.work ≠ 0
  working : stage.work ≠ 0 → ∃ missed, .workOff missed ∈ agenda
  missed_le : ∀ missed, .workOff missed ∈ agenda → 1 ≤ missed ∧ missed ≤ stage.work
  resting : stage.work = 0 → stage.signals = []

namespace InOrder

variable {stage next : Stage α} {task : Task α} {agenda added : List (Task α)}

theorem opening (config : Config) : InOrder (.opening config : Stage α) [] := by
  constructor <;> simp [Stage.opening]

/-- A task that is done in the order of the agenda makes room for tasks that do not work the queue
off themselves, and that belong to a signal only while one is worked off. -/
theorem push (order : InOrder stage (task :: agenda)) (signals_eq : next.signals = stage.signals)
    (work_eq : next.work = stage.work) (other : task.isWorkOff = false)
    (noWork : ∀ task ∈ added, task.isWorkOff = false)
    (inner : ∀ task ∈ added, task.isInner = true → stage.work ≠ 0) :
    InOrder next (added ++ agenda) := by
  have below := List.pairwise_cons.mp order.beneath
  constructor
  · rw [List.pairwise_append]
    refine ⟨List.Pairwise.imp_of_mem ?_ (List.pairwise_of_forall (fun _ _ => trivial)),
      below.2, ?_⟩
    · intro upper lower member _ _ works
      rw [noWork upper member] at works
      cases works
    · intro upper member lower _ works
      rw [noWork upper member] at works
      cases works
  · intro task member belongs
    rw [work_eq]
    rcases List.mem_append.mp member with member | member
    · exact inner task member belongs
    · exact order.inner_working task (List.mem_cons_of_mem _ member) belongs
  · intro busy
    rw [work_eq] at busy
    obtain ⟨missed, member⟩ := order.working busy
    rcases List.mem_cons.mp member with same | member
    · rw [← same] at other
      cases other
    · exact ⟨missed, List.mem_append_right _ member⟩
  · intro missed member
    rw [work_eq]
    rcases List.mem_append.mp member with member | member
    · cases noWork _ member
    · exact order.missed_le missed (List.mem_cons_of_mem _ member)
  · intro idle
    rw [signals_eq]
    exact order.resting (work_eq ▸ idle)

theorem outer_of_idle (order : InOrder stage agenda) (idle : stage.work = 0) :
    ∀ task ∈ agenda, task.isOuter = true := by
  intro task member
  have noInner : task.isInner = false := by
    by_contra inner
    exact order.inner_working task member (by simpa using inner) idle
  have noWork : task.isWorkOff = false := by
    cases task with
    | workOff missed =>
        have bounds := order.missed_le missed member
        omega
    | _ => rfl
  simp [Task.isOuter, noInner, noWork]

theorem outer_of_workOff {missed : Nat} (order : InOrder stage (.workOff missed :: agenda)) :
    ∀ task ∈ agenda, task.isOuter = true :=
  fun task member => (List.pairwise_cons.mp order.beneath).1 task member rfl

theorem announce (order : InOrder stage (task :: agenda)) (other : task.isWorkOff = false)
    (signal : Signal α) : InOrder (queued stage signal) (wakeTasks stage ++ agenda) := by
  have below := List.pairwise_cons.mp order.beneath
  by_cases idle : stage.work = 0
  · have outer := order.outer_of_idle idle
    rw [wakeTasks, if_pos idle]
    constructor
    · refine List.pairwise_cons.mpr ⟨?_, below.2⟩
      intro lower member _
      exact outer lower (List.mem_cons_of_mem _ member)
    · intro added member inner
      simp [queued]
    · intro _
      exact ⟨1, List.mem_cons_self⟩
    · intro missed member
      rcases List.mem_cons.mp member with same | member
      · cases same
        simp [queued]
      · have isOuter := outer _ (List.mem_cons_of_mem _ member)
        simp [Task.isOuter, Task.isWorkOff] at isOuter
    · intro nothing
      simp [queued] at nothing
  · rw [wakeTasks, if_neg idle]
    constructor
    · exact below.2
    · intro added member inner
      simp [queued]
    · intro _
      obtain ⟨missed, member⟩ := order.working idle
      rcases List.mem_cons.mp member with same | member
      · rw [← same] at other
        cases other
      · exact ⟨missed, member⟩
    · intro missed member
      have bounds := order.missed_le missed (List.mem_cons_of_mem _ member)
      refine ⟨bounds.1, ?_⟩
      simp only [queued]
      omega
    · intro nothing
      simp [queued] at nothing

theorem account {missed : Nat} (order : InOrder stage (.workOff missed :: agenda))
    (empty : stage.signals = []) : InOrder { stage with work := 0 } agenda := by
  have outer := order.outer_of_workOff
  constructor
  · exact (List.pairwise_cons.mp order.beneath).2
  · intro task member inner
    have isOuter := outer task member
    simp [Task.isOuter, inner] at isOuter
  · intro busy
    exact absurd rfl busy
  · intro missed member
    have isOuter := outer _ member
    simp [Task.isOuter, Task.isWorkOff] at isOuter
  · intro _
    exact empty

/-- Work on the queue goes on above the same calls, with tasks of a signal in front of it. -/
theorem goOn {missed left : Nat} (order : InOrder stage (.workOff missed :: agenda))
    (inner : ∀ task ∈ added, task.isInner = true) (positive : 1 ≤ left) (bound : left ≤ next.work) :
    InOrder next (added ++ .workOff left :: agenda) := by
  have outer := order.outer_of_workOff
  constructor
  · rw [List.pairwise_append]
    refine ⟨List.Pairwise.imp_of_mem ?_ (List.pairwise_of_forall (fun _ _ => trivial)),
      List.pairwise_cons.mpr ⟨fun lower member _ => outer lower member,
        (List.pairwise_cons.mp order.beneath).2⟩, ?_⟩
    · intro upper lower member _ _ works
      rw [not_isWorkOff_of_isInner (inner upper member)] at works
      cases works
    · intro upper member lower _ works
      rw [not_isWorkOff_of_isInner (inner upper member)] at works
      cases works
  · intro task _ _
    omega
  · intro _
    exact ⟨left, by simp⟩
  · intro other member
    rcases List.mem_append.mp member with member | member
    · have noWork := not_isWorkOff_of_isInner (inner _ member)
      cases noWork
    · rcases List.mem_cons.mp member with same | member
      · cases same
        exact ⟨positive, bound⟩
      · have isOuter := outer _ member
        simp [Task.isOuter, Task.isWorkOff] at isOuter
  · intro nothing
    omega

/-- A task of a signal makes room for further ones. -/
theorem pushInner (order : InOrder stage (task :: agenda)) (inner : task.isInner = true)
    (signals_eq : next.signals = stage.signals) (work_eq : next.work = stage.work)
    (noWork : ∀ task ∈ added, task.isWorkOff = false) : InOrder next (added ++ agenda) := by
  have busy := order.inner_working task List.mem_cons_self inner
  exact order.push signals_eq work_eq (not_isWorkOff_of_isInner inner) noWork (fun _ _ _ => busy)

theorem step {pipeline : Pipeline α} {timer : Timer UInt64} {events : List (Event α)}
    (order : InOrder pipeline.stage (task :: pipeline.agenda))
    (effect : Effect pipeline task stage timer events added) :
    InOrder stage (added ++ pipeline.agenda) := by
  cases effect with
  | free aside inert allFree =>
      apply order.push rfl rfl (not_isInner_of_isFree (Task.isFree_of_isAside aside)).2
      · exact fun task member => (not_isInner_of_isFree (allFree task member)).2
      · intro task member inner
        rw [(not_isInner_of_isFree (allFree task member)).1] at inner
        cases inner
  | swept aside gone =>
      have noWork := (not_isInner_of_isFree (Task.isFree_of_isAside aside)).2
      exact order.push rfl rfl noWork (by simp) (by simp)
  | enteredSignal announces => exact order.announce rfl _
  | announced => exact order.announce rfl _
  | accounted empty done => exact order.account empty
  | accountedMore empty more =>
      have some : 1 ≤ pipeline.stage.work - _ := Nat.sub_pos_of_lt more
      exact order.goOn (List.forall_mem_nil _) some (Nat.le_refl _)
  | handled first dispatch =>
      have bounds := order.missed_le _ List.mem_cons_self
      rw [List.append_assoc]
      apply order.goOn dispatch.isInner bounds.1
      rw [dispatch.queue_eq.2]
      exact bounds.2
  | alarmSet => exact order.pushInner rfl rfl rfl (by simp [Task.isWorkOff])
  | accepted => exact order.pushInner rfl rfl rfl (by simp)
  | acceptedHandOff delivery =>
      exact order.pushInner rfl delivery.queue_eq.1 delivery.queue_eq.2
        (fun task member => not_isWorkOff_of_isInner (delivery.isInner task member))
  | refused => exact order.pushInner rfl rfl rfl (by simp [Task.isWorkOff])
  | refusedHandOff =>
      exact order.pushInner rfl rfl rfl
        (fun task member => not_isWorkOff_of_isInner (isInner_failureTasks _ _ task member))
  | failed failure =>
      exact order.pushInner rfl failure.queue_eq.1 failure.queue_eq.2
        (fun task member => not_isWorkOff_of_isInner (failure.isInner task member))
  | reportedProducer => exact order.pushInner rfl rfl rfl (by simp [Task.isWorkOff])
  | reportedStage =>
      refine order.pushInner rfl rfl rfl (List.forall_mem_append.mpr ⟨?_, ?_⟩)
      · exact forall_cancelProducerTasks pipeline fun _ => rfl
      · simp [Task.isWorkOff]
  | finished active => exact order.pushInner rfl rfl rfl (by simp [Task.isWorkOff])
  | finishedLate ended => exact order.pushInner rfl rfl rfl (by simp)
  | cancelled active =>
      refine order.push rfl rfl rfl (List.forall_mem_append.mpr ⟨?_, ?_⟩)
        (List.forall_mem_append.mpr ⟨?_, ?_⟩)
      · exact forall_cancelProducerTasks pipeline fun _ => rfl
      · simp [Task.isWorkOff]
      · refine forall_cancelProducerTasks pipeline fun producer inner => ?_
        cases inner
      · simp [Task.isInner]
  | _ => refine order.push rfl rfl rfl ?_ ?_ <;> simp [Task.isWorkOff, Task.isInner]

theorem begin (order : InOrder stage []) (action : Action α) : InOrder stage [.act action] := by
  constructor
  · exact List.pairwise_singleton _ _
  · intro task member inner
    rw [List.mem_singleton.mp member] at inner
    cases inner
  · intro busy
    obtain ⟨missed, member⟩ := order.working busy
    cases member
  · intro missed member
    cases List.mem_singleton.mp member
  · exact order.resting

end InOrder

theorem Reachable.inOrder {config : Config} {setup : Setup α} {pipeline : Pipeline α}
    (reachable : Reachable config setup pipeline) : InOrder pipeline.stage pipeline.agenda :=
  reachable.preserve (fun stage agenda _ => InOrder stage agenda) (fun _ => .opening config)
    (fun _ _ action order => order.begin action)
    (fun _ _ _ _ _ _ effect order => order.step effect)

/-- Between the calls of the stage nobody is at work on the queue, and it is empty. -/
theorem InOrder.resting_of_isIdle {pipeline : Pipeline α}
    (order : InOrder pipeline.stage pipeline.agenda) (idle : pipeline.isIdle = true) :
    pipeline.stage.work = 0 ∧ pipeline.stage.signals = [] := by
  have free := List.all_eq_true.mp idle
  have nobody : pipeline.stage.work = 0 := by
    by_contra busy
    obtain ⟨missed, member⟩ := order.working busy
    cases free _ member
  exact ⟨nobody, order.resting nobody⟩

/-! ## The queue -/

/-- Signals leave the queue at its front when they are worked off, and join it at its end when they
are announced. -/
theorem Effect.queue_eq {pipeline : Pipeline α} {task : Task α} {stage : Stage α}
    {timer : Timer UInt64} {events : List (Event α)} {tasks : List (Task α)}
    (effect : Effect pipeline task stage timer events tasks) :
    pipeline.stage.signals ++ events.filterMap Event.announced? =
      events.filterMap Event.handled? ++ stage.signals := by
  cases effect with
  | free aside inert allFree =>
      have unseen := fun event member => Event.isAside_of_isInert (inert event member)
      rw [filterMap_eq_nil_of_isAside Event.announced?_of_isAside unseen,
        filterMap_eq_nil_of_isAside Event.handled?_of_isAside unseen]
      exact List.append_nil _
  | handled first dispatch =>
      have announcesNothing :=
        filterMap_eq_nil_of_isAside Event.announced?_of_isAside dispatch.aside
      have handlesNothing := filterMap_eq_nil_of_isAside Event.handled?_of_isAside dispatch.aside
      rw [dispatch.queue_eq.1, first]
      simp [List.filterMap_cons, Event.announced?, Event.handled?, announcesNothing, handlesNothing]
  | acceptedHandOff delivery =>
      rw [filterMap_eq_nil_of_isAside Event.announced?_of_isAside delivery.aside,
        filterMap_eq_nil_of_isAside Event.handled?_of_isAside delivery.aside, delivery.queue_eq.1]
      exact List.append_nil _
  | failed failure =>
      rw [filterMap_eq_nil_of_isAside Event.announced?_of_isAside failure.aside,
        filterMap_eq_nil_of_isAside Event.handled?_of_isAside failure.aside, failure.queue_eq.1]
      exact List.append_nil _
  | _ => simp [List.filterMap_cons, Event.announced?, Event.handled?, queued, cleared]

theorem Reachable.announcedSignals_eq {config : Config} {setup : Setup α} {pipeline : Pipeline α}
    (reachable : Reachable config setup pipeline) :
    pipeline.announcedSignals = pipeline.handledSignals ++ pipeline.stage.signals := by
  refine reachable.preserve (fun stage _ events =>
    events.filterMap Event.announced? = events.filterMap Event.handled? ++ stage.signals)
    ?_ (fun _ _ _ same => same) ?_
  · intro lines
    rw [filterMap_eq_nil_of_isAside Event.announced?_of_isAside isAside_of_mem_logs,
      filterMap_eq_nil_of_isAside Event.handled?_of_isAside isAside_of_mem_logs]
    rfl
  · intro pipeline task stage timer events tasks effect same
    rw [List.filterMap_append, List.filterMap_append, same, List.append_assoc, effect.queue_eq,
      List.append_assoc]

end Pipeline

end TimedBatch
