import TimedBatch.Proofs.Conservation
import TimedBatch.Proofs.Frame

/-!
# Who holds the stage

A stage is held by the driver until it is given up, and by every call that is under way. Once nobody
holds it, it is gone for good. As long as it is held, what is done outside its calls leaves it as
it is.
-/

namespace TimedBatch.Pipeline

variable {α : Type}

/-! ## What never changes -/

/-- What a pipeline keeps for good. -/
structure Nature (α : Type) where
  hook : DiscardHook
  detached : Bool
  reactions : CallKind → Nat → List (Action α)

def Setting.nature (setting : Setting α) : Nature α :=
  ⟨setting.hook, setting.detached, setting.reactions⟩

def nature (pipeline : Pipeline α) : Nature α :=
  pipeline.setting.nature

theorem setting_sweep (pipeline : Pipeline α) :
    pipeline.sweep.setting = pipeline.setting := by
  unfold sweep
  split
  · rfl
  · exact setting_cancelAlarm pipeline

theorem nature_sweep (pipeline : Pipeline α) : pipeline.sweep.nature = pipeline.nature :=
  congrArg Setting.nature (setting_sweep pipeline)

theorem nature_act (pipeline : Pipeline α) (action : Action α) :
    (pipeline.act action).nature = pipeline.nature := by
  cases action with
  | dropStage => exact nature_sweep _
  | _ =>
      simp only [act, onStage, onSubscription, moveClock]
      first
        | rfl
        | (split <;> rfl)

theorem nature_enter (pipeline : Pipeline α) (call : Inbound α) :
    (pipeline.enter call).nature = pipeline.nature := by
  cases call <;> simp only [enter, subscribe, announce, request, cancel] <;> (repeat' split) <;> rfl

theorem nature_perform (pipeline : Pipeline α) (task : Task α) :
    (pipeline.perform task).nature = pipeline.nature := by
  cases task with
  | act action => exact nature_act pipeline action
  | enter call => exact nature_enter pipeline call
  | release => exact nature_sweep _
  | announce signal =>
      simp only [perform, announce]
      split <;> rfl
  | workOff missed =>
      simp only [perform, workOff]
      split
      · exact congrArg Setting.nature (setting_handle _ _)
      · split <;> rfl
  | firstRequest producer =>
      simp only [perform, firstRequest]
      (repeat' split) <;> rfl
  | call call =>
      simp only [perform, Pipeline.call]
      split <;> rfl
  | log line => rfl
  | advance instant =>
      simp only [perform, advance]
      (repeat' split) <;> rfl
  | _ => refine congrArg Setting.nature (setting_perform pipeline ?_ ?_) <;> rfl

theorem nature_step (pipeline : Pipeline α) : pipeline.step.nature = pipeline.nature := by
  cases agenda_eq : pipeline.agenda with
  | nil => rw [step_of_atRest (List.isEmpty_iff.mpr agenda_eq)]
  | cons task rest =>
      rw [step_of_agenda agenda_eq, nature_perform]
      rfl

theorem Later.nature_eq {first last : Pipeline α} (later : Later first last) :
    last.nature = first.nature := by
  induction later with
  | here => rfl
  | step _ ih => rw [nature_step, ih]
  | begin _ _ _ ih => exact ih

theorem Reachable.nature_eq {config : Config} {setup : Setup α} {pipeline : Pipeline α}
    (reachable : Reachable config setup pipeline) :
    pipeline.nature = ⟨setup.hook, setup.detached, setup.reactions⟩ := by
  obtain ⟨opening, made, later⟩ := reachable
  rw [later.nature_eq]
  unfold opening? at made
  split at made
  · cases made
  · cases made
    rfl

/-! ## Gone for good -/

theorem alive_eq_false_iff (pipeline : Pipeline α) :
    pipeline.alive = false ↔ pipeline.owned = false ∧ pipeline.holders = 0 := by
  simp [alive]

/-- Whether the driver holds the stage, and how many calls do. -/
def Setting.ownership (setting : Setting α) : Bool × Nat :=
  (setting.owned, setting.holders)

def ownership (pipeline : Pipeline α) : Bool × Nat :=
  pipeline.setting.ownership

theorem alive_eq_of_ownership {pipeline other : Pipeline α}
    (same : pipeline.ownership = other.ownership) : pipeline.alive = other.alive :=
  congrArg (fun ownership : Bool × Nat => ownership.1 || decide (ownership.2 ≠ 0)) same

theorem alive_eq_of_setting {pipeline other : Pipeline α}
    (same : pipeline.setting = other.setting) : pipeline.alive = other.alive :=
  alive_eq_of_ownership (congrArg Setting.ownership same)

theorem alive_sweep (pipeline : Pipeline α) : pipeline.sweep.alive = pipeline.alive :=
  alive_eq_of_setting (setting_sweep pipeline)

theorem gone_act {pipeline : Pipeline α} (gone : pipeline.alive = false) (action : Action α) :
    (pipeline.act action).alive = false := by
  have ⟨given, free⟩ := (alive_eq_false_iff pipeline).mp gone
  cases action with
  | dropStage =>
      rw [act, dropStage, alive_sweep, alive_eq_false_iff]
      exact ⟨rfl, free⟩
  | advance span =>
      simp only [act, moveClock]
      split <;> exact gone
  | advanceTo instant =>
      simp only [act, moveClock]
      split <;> exact gone
  | shutDownTimer => exact gone
  | refuse rejection => exact gone
  | accept => exact gone
  | mark content => exact gone
  | _ =>
      simp only [act, onStage, onSubscription, given, gone, Bool.false_eq_true, and_false, if_false]

theorem gone_perform {pipeline : Pipeline α} (gone : pipeline.alive = false) (task : Task α) :
    (pipeline.perform task).alive = false := by
  cases task with
  | act action => exact gone_act gone action
  | enter call =>
      cases call <;> simp only [perform, enter, subscribe, announce, request, cancel] <;>
        (repeat' split) <;> exact gone
  | release =>
      obtain ⟨given, free⟩ := (alive_eq_false_iff pipeline).mp gone
      rw [perform, release, alive_sweep, alive_eq_false_iff]
      exact ⟨given, by rw [free]⟩
  | announce signal =>
      simp only [perform, announce]
      split <;> exact gone
  | workOff missed =>
      simp only [perform, workOff]
      split
      · rw [alive_eq_of_setting (setting_handle _ _)]
        exact gone
      · split <;> exact gone
  | firstRequest producer =>
      simp only [perform, firstRequest]
      (repeat' split) <;> exact gone
  | call call =>
      simp only [perform, Pipeline.call]
      split <;> exact gone
  | log line => exact gone
  | advance instant =>
      simp only [perform, advance]
      split
      · exact gone
      · split
        · exact gone
        · split
          · rename_i held
            exact absurd (gone.symm.trans held) Bool.false_ne_true
          · exact gone
  | _ =>
      rw [alive_eq_of_setting (setting_perform pipeline rfl rfl)]
      exact gone

/-- A stage that is held was held before. -/
theorem alive_of_step {pipeline : Pipeline α} (held : pipeline.step.alive = true) :
    pipeline.alive = true := by
  cases agenda_eq : pipeline.agenda with
  | nil =>
      rw [step_of_atRest (List.isEmpty_iff.mpr agenda_eq)] at held
      exact held
  | cons task rest =>
      rw [step_of_agenda agenda_eq] at held
      by_contra gone
      have lost : { pipeline with agenda := rest }.alive = false := Bool.eq_false_iff.mpr gone
      exact absurd (held.symm.trans (gone_perform lost task)) Bool.noConfusion

/-! ## As long as it is held -/

theorem sweep_of_alive {pipeline : Pipeline α} (held : pipeline.alive = true) :
    pipeline.sweep = pipeline := by
  rw [sweep, if_pos held]

theorem stage_act_of_alive {pipeline : Pipeline α} {action : Action α}
    (held : (pipeline.act action).alive = true) :
    (pipeline.act action).stage = pipeline.stage := by
  cases action with
  | dropStage =>
      rw [act, dropStage, alive_sweep] at held
      rw [act, dropStage, sweep_of_alive held]
  | shutDownTimer => rfl
  | refuse rejection => rfl
  | accept => rfl
  | mark content => rfl
  | _ =>
      simp only [act, onStage, onSubscription, moveClock]
      split <;> rfl

theorem stage_perform_of_alive {pipeline : Pipeline α} {task : Task α}
    (aside : task.isAside = true) (held : (pipeline.perform task).alive = true) :
    (pipeline.perform task).stage = pipeline.stage := by
  cases task with
  | act action => exact stage_act_of_alive held
  | release =>
      rw [perform, release, alive_sweep] at held
      rw [perform, release, sweep_of_alive held]
  | log line => rfl
  | _ => cases aside

/-- As long as the stage is held, what is done outside its calls leaves it as it is. -/
theorem exists_held_effect {pipeline : Pipeline α} {task : Task α} {rest : List (Task α)}
    (agenda_eq : pipeline.agenda = task :: rest) (held : pipeline.step.alive = true) :
    ∃ stage timer events tasks,
      Effect { pipeline with agenda := rest } task stage timer events tasks ∧
      Becomes { pipeline with agenda := rest } pipeline.step stage timer events tasks ∧
      (task.isAside = true → stage = pipeline.stage) := by
  obtain ⟨stage, timer, events, tasks, effect, becomes⟩ := exists_step_effect agenda_eq
  refine ⟨stage, timer, events, tasks, effect, becomes, fun aside => ?_⟩
  rw [step_of_agenda agenda_eq] at held becomes
  rw [← becomes.stage_eq, stage_perform_of_alive aside held]

theorem idleTimer_of_cleared {stage : Stage α} (same : cleared stage = stage)
    (timer : Timer UInt64) : idleTimer stage timer = timer := by
  have unset : none = stage.alarm := congrArg Stage.alarm same
  rw [idleTimer, ← unset]
  rfl

/-! ## Calls hold the stage -/

/-- Whether a task is done outside the calls of the stage, or ends one. -/
def isOutside : Task α → Bool
  | .act _ => true
  | .release => true
  | .log _ => true
  | .advance _ => true
  | _ => false

theorem isOutside_of_isAside {task : Task α} (aside : task.isAside = true) :
    isOutside task = true := by
  cases task <;> first | rfl | cases aside

def isLettingGo : Task α → Bool
  | .release => true
  | _ => false

/-- Beneath every part of a call stands the end of the hold on the stage. -/
def Sheltered : List (Task α) → Prop
  | [] => True
  | task :: rest =>
      (isOutside task = false → rest.any isLettingGo = true) ∧ Sheltered rest

theorem Sheltered.append_of_any {agenda : List (Task α)} (sheltered : Sheltered agenda)
    (held : agenda.any isLettingGo = true) (tasks : List (Task α)) :
    Sheltered (tasks ++ agenda) := by
  induction tasks with
  | nil => exact sheltered
  | cons task tasks ih =>
      refine ⟨fun _ => ?_, ih⟩
      change (tasks ++ agenda).any isLettingGo = true
      rw [List.any_append, held, Bool.or_true]

theorem Sheltered.append_of_outside {agenda tasks : List (Task α)} (sheltered : Sheltered agenda)
    (outside : ∀ task ∈ tasks, isOutside task = true) : Sheltered (tasks ++ agenda) := by
  induction tasks with
  | nil => exact sheltered
  | cons task tasks ih =>
      have ⟨first, others⟩ := List.forall_mem_cons.mp outside
      refine ⟨fun inside => ?_, ih others⟩
      rw [first] at inside
      cases inside

theorem Sheltered.hold {agenda : List (Task α)} (sheltered : Sheltered agenda)
    (tasks : List (Task α)) : Sheltered (tasks ++ [Task.release] ++ agenda) := by
  rw [List.append_assoc]
  refine append_of_any ?_ rfl tasks
  exact ⟨nofun, sheltered⟩

/-- Where nobody lets go of the stage any more, no part of a call is left. -/
theorem Sheltered.isOutside {agenda : List (Task α)} (sheltered : Sheltered agenda)
    (nobody : agenda.countP isLettingGo = 0) : ∀ task ∈ agenda, Pipeline.isOutside task = true := by
  induction agenda with
  | nil => exact List.forall_mem_nil _
  | cons task rest ih =>
      have ⟨first, others⟩ := sheltered
      rw [List.countP_eq_zero, List.forall_mem_cons] at nobody
      refine List.forall_mem_cons.mpr ⟨?_, ih others (List.countP_eq_zero.mpr nobody.2)⟩
      by_contra inside
      obtain ⟨lower, member, ends⟩ :=
        List.any_eq_true.mp (first (Bool.eq_false_iff.mpr inside))
      exact nobody.2 lower member ends

/-- Every hold on the stage ends, and every part of a call is done while the stage is held. -/
structure Held (pipeline : Pipeline α) : Prop where
  holders_eq : pipeline.holders = pipeline.agenda.countP isLettingGo
  sheltered : Sheltered pipeline.agenda

section Held

variable {pipeline : Pipeline α}

theorem Held.hold (held : Held pipeline) {tasks : List (Task α)}
    (parts : tasks.countP isLettingGo = 0) : Held (pipeline.hold tasks) where
  holders_eq := by
    have counted : (tasks ++ [Task.release] ++ pipeline.agenda).countP isLettingGo =
        pipeline.agenda.countP isLettingGo + 1 := by
      rw [List.countP_append, List.countP_append, parts]
      exact Nat.add_comm _ _
    exact (congrArg Nat.succ held.holders_eq).trans counted.symm
  sheltered := held.sheltered.hold tasks

theorem Held.of_eq {next : Pipeline α} (held : Held pipeline)
    (holders_eq : next.holders = pipeline.holders) (agenda_eq : next.agenda = pipeline.agenda) :
    Held next := by
  refine ⟨?_, ?_⟩
  · rw [holders_eq, agenda_eq]
    exact held.holders_eq
  · rw [agenda_eq]
    exact held.sheltered

theorem Held.todo (held : Held pipeline) {tasks : List (Task α)}
    (outside : ∀ task ∈ tasks, isOutside task = true ∧ isLettingGo task = false) :
    Held (pipeline.todo tasks) where
  holders_eq := by
    have none : tasks.countP isLettingGo = 0 := by
      rw [List.countP_eq_zero]
      intro task member
      rw [(outside task member).2]
      decide
    rw [agenda_todo, List.countP_append, none, Nat.zero_add]
    exact held.holders_eq
  sheltered := held.sheltered.append_of_outside fun task member => (outside task member).1

theorem holders_sweep (pipeline : Pipeline α) : pipeline.sweep.holders = pipeline.holders :=
  congrArg Setting.holders (setting_sweep pipeline)

theorem agenda_sweep (pipeline : Pipeline α) : pipeline.sweep.agenda = pipeline.agenda := by
  rw [sweep]
  split
  · rfl
  · exact agenda_cancelAlarm pipeline

theorem Held.act (held : Held pipeline) (action : Action α) : Held (pipeline.act action) := by
  have onStage : ∀ {tasks : List (Task α)}, tasks.countP isLettingGo = 0 →
      Held (pipeline.onStage tasks) := by
    intro tasks parts
    rw [Pipeline.onStage]
    split
    · exact held.hold parts
    · exact held
  have onSubscription : ∀ call, Held (pipeline.onSubscription call) := by
    intro call
    rw [Pipeline.onSubscription]
    split
    · exact held.hold rfl
    · exact held
  have moveClock : ∀ instant, Held (pipeline.moveClock instant) := by
    intro instant
    rw [Pipeline.moveClock]
    split
    · exact held.todo (List.forall_mem_singleton.mpr ⟨rfl, rfl⟩)
    · exact held
  cases action with
  | subscribe =>
      rw [Pipeline.act]
      split
      · have counted : Held { pipeline with producers := pipeline.producers + 1 } :=
          held.of_eq rfl rfl
        exact counted.hold rfl
      · exact held
  | next items =>
      refine onStage (List.countP_eq_zero.mpr fun task member => ?_)
      obtain ⟨item, _, rfl⟩ := List.mem_map.mp member
      exact Bool.false_ne_true
  | error error => exact onStage rfl
  | complete => exact onStage rfl
  | tick generation => exact onStage rfl
  | flushNow => exact onStage rfl
  | request batches => exact onSubscription _
  | cancel => exact onSubscription _
  | advance span => exact moveClock _
  | advanceTo instant => exact moveClock _
  | shutDownTimer =>
      have closed : Held { pipeline with timer := pipeline.timer.shutDown } := held.of_eq rfl rfl
      refine closed.todo fun task member => ?_
      obtain ⟨line, _, rfl⟩ := List.mem_map.mp member
      exact ⟨rfl, rfl⟩
  | refuse rejection => exact held.of_eq rfl rfl
  | accept => exact held.of_eq rfl rfl
  | dropStage => exact held.of_eq (holders_sweep _) (agenda_sweep _)
  | diagnose =>
      rw [Pipeline.act]
      split
      · exact held.of_eq rfl rfl
      · exact held
  | inform =>
      rw [Pipeline.act]
      split
      · exact held.of_eq rfl rfl
      · exact held
  | requestProducer items =>
      refine onStage (List.countP_eq_zero.mpr fun task member => ?_)
      obtain ⟨producer, _, rfl⟩ := List.mem_map.mp member
      exact Bool.false_ne_true
  | mark content => exact held.of_eq rfl rfl

theorem Held.advance (held : Held pipeline) (instant : Duration) :
    Held (pipeline.advance instant) := by
  simp only [Pipeline.advance]
  split
  · exact held.of_eq rfl rfl
  · rename_i alarm timer due
    have next : Held { pipeline with timer := timer } := held.of_eq rfl rfl
    have taken := next.todo (List.forall_mem_singleton.mpr
      (⟨rfl, rfl⟩ : isOutside (.advance instant : Task α) = true ∧ _))
    split
    · exact taken
    · have fired : Held ((({ pipeline with timer := timer } : Pipeline α).todo
          [.advance instant]).note .fired) := taken.of_eq rfl rfl
      split
      · exact fired.hold rfl
      · exact fired

/-- The parts of a call neither take hold of the stage nor let go of it. -/
theorem ownership_perform {task : Task α} (inside : isOutside task = false) :
    (pipeline.perform task).ownership = pipeline.ownership := by
  cases task with
  | enter call =>
      cases call <;> simp only [perform, enter, subscribe, announce, request, cancel] <;>
        (repeat' split) <;> rfl
  | announce signal =>
      simp only [perform, announce]
      split <;> rfl
  | workOff missed =>
      simp only [perform, workOff]
      split
      · exact congrArg Setting.ownership (setting_handle _ _)
      · split <;> rfl
  | firstRequest producer =>
      simp only [perform, firstRequest]
      (repeat' split) <;> rfl
  | call call =>
      simp only [perform, Pipeline.call]
      split <;> rfl
  | setAlarm handOff => rfl
  | answered outcome handOff =>
      exact congrArg Setting.ownership (setting_perform pipeline rfl rfl)
  | endWith error origin => exact congrArg Setting.ownership (setting_perform pipeline rfl rfl)
  | reportError error origin =>
      exact congrArg Setting.ownership (setting_perform pipeline rfl rfl)
  | finish => exact congrArg Setting.ownership (setting_perform pipeline rfl rfl)
  | _ => cases inside

/-- Whether a task is a part of a call, or a line of its log. -/
def isPart : Task α → Bool
  | .log _ => true
  | task => !isOutside task

theorem isPart_of_isInner {task : Task α} (inner : task.isInner = true) : isPart task = true := by
  cases task <;> first | rfl | cases inner

/-- The parts of a call make room for further parts, and its calls for what others do. -/
theorem Effect.added {task : Task α} {stage : Stage α} {timer : Timer UInt64}
    {events : List (Event α)} {tasks : List (Task α)} (inside : isOutside task = false)
    (effect : Effect pipeline task stage timer events tasks) :
    (∀ task ∈ tasks, isPart task = true) ∨
      ∃ call actions, task = .call call ∧ tasks = List.map Task.act actions := by
  have ofInner : ∀ {tasks : List (Task α)}, (∀ task ∈ tasks, task.isInner = true) →
      ∀ task ∈ tasks, isPart task = true :=
    fun inner task member => isPart_of_isInner (inner task member)
  have wake : ∀ task ∈ wakeTasks pipeline.stage, isPart task = true := by
    rw [wakeTasks]
    split
    · exact List.forall_mem_singleton.mpr rfl
    · exact List.forall_mem_nil _
  cases effect with
  | free aside inert allFree =>
      rw [isOutside_of_isAside aside] at inside
      cases inside
  | swept aside gone => exact Or.inl (List.forall_mem_nil _)
  | called actions => exact Or.inr ⟨_, actions, rfl, rfl⟩
  | enteredSignal announces => exact Or.inl wake
  | announced => exact Or.inl wake
  | cancelled active =>
      exact Or.inl (List.forall_mem_append.mpr
        ⟨forall_cancelProducerTasks pipeline fun _ => rfl, List.forall_mem_singleton.mpr rfl⟩)
  | handled first dispatch =>
      exact Or.inl (List.forall_mem_append.mpr
        ⟨ofInner dispatch.isInner, List.forall_mem_singleton.mpr rfl⟩)
  | acceptedHandOff delivery => exact Or.inl (ofInner delivery.isInner)
  | refusedHandOff => exact Or.inl (ofInner (isInner_failureTasks _ _))
  | failed failure => exact Or.inl (ofInner failure.isInner)
  | reportedStage =>
      exact Or.inl (List.forall_mem_append.mpr
        ⟨forall_cancelProducerTasks pipeline fun _ => rfl, List.forall_mem_singleton.mpr rfl⟩)
  | timerClosed => cases inside
  | clockSet idle => cases inside
  | alarmPassedOver due cancelled => cases inside
  | alarmFiredLate due live gone => cases inside
  | alarmFired due live held => cases inside
  | _ => exact Or.inl (by simp [isPart, isOutside])

theorem isLettingGo_of_isPart {task : Task α} (part : isPart task = true) :
    isLettingGo task = false := by
  cases task <;> first | rfl | cases part

/-- The parts of a call make room for no further end of a hold. -/
theorem Effect.isLettingGo {task : Task α} {stage : Stage α} {timer : Timer UInt64}
    {events : List (Event α)} {tasks : List (Task α)} (inside : isOutside task = false)
    (effect : Effect pipeline task stage timer events tasks) :
    ∀ task ∈ tasks, Pipeline.isLettingGo task = false := by
  rcases effect.added inside with parts | ⟨call, actions, rfl, rfl⟩
  · exact fun task member => isLettingGo_of_isPart (parts task member)
  · intro task member
    obtain ⟨action, _, rfl⟩ := List.mem_map.mp member
    rfl

theorem Held.step (held : Held pipeline) : Held pipeline.step := by
  cases agenda_eq : pipeline.agenda with
  | nil =>
      rw [step_of_atRest (List.isEmpty_iff.mpr agenda_eq)]
      exact held
  | cons task rest =>
      have holders_eq := held.holders_eq
      have sheltered := held.sheltered
      rw [agenda_eq] at holders_eq sheltered
      rw [step_of_agenda agenda_eq]
      by_cases inside : isOutside task = false
      · -- A part of a call stands above the end of its hold, and so do the tasks that follow it.
        obtain ⟨stage, timer, events, tasks, effect, becomes⟩ :=
          exists_effect { pipeline with agenda := rest } task
        have added := List.countP_eq_zero.mpr fun task member =>
          Bool.eq_false_iff.mp (effect.isLettingGo inside task member)
        have here : isLettingGo task = false := by
          cases task <;> first | rfl | cases inside
        rw [List.countP_cons_of_neg (Bool.eq_false_iff.mp here)] at holders_eq
        refine ⟨?_, ?_⟩
        · rw [becomes.agenda_eq, List.countP_append, added, Nat.zero_add]
          exact (congrArg Prod.snd (ownership_perform inside)).trans holders_eq
        · rw [becomes.agenda_eq]
          exact sheltered.2.append_of_any (sheltered.1 inside) tasks
      · have rested : isLettingGo task = false → Held { pipeline with agenda := rest } := by
          intro here
          rw [List.countP_cons_of_neg (Bool.eq_false_iff.mp here)] at holders_eq
          exact ⟨holders_eq, sheltered.2⟩
        cases task with
        | act action => exact (rested rfl).act action
        | log line => exact (rested rfl).of_eq rfl rfl
        | advance instant => exact (rested rfl).advance instant
        | release =>
            rw [List.countP_cons_of_pos rfl] at holders_eq
            have freed : Held { pipeline with agenda := rest, holders := pipeline.holders - 1 } :=
              ⟨Nat.sub_eq_of_eq_add holders_eq, sheltered.2⟩
            exact freed.of_eq (holders_sweep _) (agenda_sweep _)
        | _ => exact absurd rfl inside

theorem Reachable.held {config : Config} {setup : Setup α}
    (reachable : Reachable config setup pipeline) : Held pipeline := by
  obtain ⟨opening, made, later⟩ := reachable
  induction later with
  | here =>
      unfold opening? at made
      split at made
      · cases made
      · cases made
        exact ⟨rfl, trivial⟩
  | step _ ih => exact ih.step
  | begin _ _ action ih => exact ih.todo (List.forall_mem_singleton.mpr ⟨rfl, rfl⟩)

/-- Of a stage that is gone no part of a call is left to be done. -/
theorem Held.isOutside (held : Held pipeline) (gone : pipeline.alive = false) :
    ∀ task ∈ pipeline.agenda, Pipeline.isOutside task = true := by
  refine held.sheltered.isOutside ?_
  rw [← held.holders_eq]
  exact ((alive_eq_false_iff pipeline).mp gone).2

end Held

/-! ## How a stage is lost -/

section Lost

variable {pipeline : Pipeline α}

theorem alive_hold (pipeline : Pipeline α) (tasks : List (Task α)) :
    (pipeline.hold tasks).alive = true := by
  have some : (pipeline.hold tasks).holders ≠ 0 := Nat.succ_ne_zero pipeline.holders
  rw [alive, decide_eq_true some, Bool.or_true]

theorem swept_sweep (gone : pipeline.sweep.alive = false) :
    pipeline.sweep.stage = cleared pipeline.stage ∧
      pipeline.sweep.timer = idleTimer pipeline.stage pipeline.timer := by
  rcases becomes_sweep pipeline with ⟨held, same⟩ | ⟨_, becomes⟩
  · rw [same] at gone
    cases held.symm.trans gone
  · exact ⟨becomes.stage_eq, becomes.timer_eq⟩

/-- A stage that is lost is swept: its alarm is cancelled and its items are gone. -/
theorem swept_of_gone {task : Task α} (held : pipeline.alive = true)
    (gone : (pipeline.perform task).alive = false) :
    (pipeline.perform task).stage = cleared pipeline.stage ∧
      (pipeline.perform task).timer = idleTimer pipeline.stage pipeline.timer := by
  have kept : ∀ {next : Pipeline α}, next.ownership = pipeline.ownership → next.alive ≠ false := by
    intro next same lost
    rw [alive_eq_of_ownership same, held] at lost
    cases lost
  have hold : ∀ {next : Pipeline α} {tasks : List (Task α)}, (next.hold tasks).alive ≠ false := by
    intro next tasks lost
    rw [alive_hold] at lost
    cases lost
  by_cases inside : isOutside task = false
  · exact absurd gone (kept (ownership_perform inside))
  cases task with
  | act action =>
      cases action with
      | dropStage => exact swept_sweep gone
      | shutDownTimer => exact absurd gone (kept rfl)
      | refuse rejection => exact absurd gone (kept rfl)
      | accept => exact absurd gone (kept rfl)
      | mark content => exact absurd gone (kept rfl)
      | _ =>
          simp only [perform, act, onStage, onSubscription, moveClock] at gone
          split at gone
          · first
              | exact absurd gone hold
              | exact absurd gone (kept rfl)
          · exact absurd gone (kept rfl)
  | release => exact swept_sweep gone
  | log line => exact absurd gone (kept rfl)
  | advance instant =>
      simp only [perform, advance] at gone
      split at gone
      · exact absurd gone (kept rfl)
      · split at gone
        · exact absurd gone (kept rfl)
        · split at gone
          · exact absurd gone hold
          · exact absurd gone (kept rfl)
  | _ => exact absurd rfl inside

/-- What is done after a stage was swept finds nothing to sweep. -/
theorem Effect.cleared_of_gone {task : Task α} {stage : Stage α} {timer : Timer UInt64}
    {events : List (Event α)} {tasks : List (Task α)}
    (effect : Effect pipeline task stage timer events tasks) (outside : isOutside task = true)
    (empty : cleared pipeline.stage = pipeline.stage) : cleared stage = stage := by
  cases effect with
  | free aside inert allFree => exact empty
  | swept aside gone => rfl
  | timerClosed => exact empty
  | clockSet idle => exact empty
  | alarmPassedOver due cancelled => exact empty
  | alarmFiredLate due live gone => exact empty
  | alarmFired due live held => exact empty
  | _ => cases outside

/-- A stage that is gone has no alarm and no item. -/
theorem Reachable.cleared_of_gone {config : Config} {setup : Setup α}
    (reachable : Reachable config setup pipeline) (gone : pipeline.alive = false) :
    cleared pipeline.stage = pipeline.stage := by
  obtain ⟨opening, made, later⟩ := reachable
  induction later with
  | here =>
      obtain ⟨_, stage_eq, _⟩ := opening?_eq_ok made
      rw [stage_eq]
      rfl
  | @step last earlier ih =>
      have before : Reachable config setup last := ⟨opening, made, earlier⟩
      cases agenda_eq : last.agenda with
      | nil =>
          rw [step_of_atRest (List.isEmpty_iff.mpr agenda_eq)] at gone ⊢
          exact ih gone
      | cons task rest =>
          cases held : last.alive with
          | false =>
              obtain ⟨stage, timer, events, tasks, effect, becomes⟩ := exists_step_effect agenda_eq
              have outside := before.held.isOutside held
              rw [agenda_eq] at outside
              rw [becomes.stage_eq]
              exact effect.cleared_of_gone (outside task List.mem_cons_self) (ih held)
          | true =>
              rw [step_of_agenda agenda_eq] at gone ⊢
              have still : { last with agenda := rest }.alive = true := held
              rw [(swept_of_gone still gone).1]
              rfl
  | begin _ _ action ih => exact ih gone

end Lost

end TimedBatch.Pipeline
