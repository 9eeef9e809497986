import TimedBatch.Proofs.Alarms
import TimedBatch.Proofs.Holding

/-!
# The alarm of the open batch

A stage that works waits for one alarm, that of its current generation. While the timer is being
asked, the token of the new alarm is on its way to the stage, and callbacks that move the clock may
start the alarm before the token arrives. An alarm that started leaves a tick of the current
generation in the queue, so the alarm is set anew when the tick is worked off. The other ways to
lose the alarm end the stage.
-/

namespace TimedBatch

variable {α : Type}

/-- Whether a signal is neither of a subscription nor of a tick nor a notice. -/
def Signal.isMute : Signal α → Bool
  | .subscribed => false
  | .tick _ => false
  | .cancelled => false
  | _ => true

namespace Task

/-- Whether a task is about to set an alarm. -/
def isArming : Task α → Bool
  | .setAlarm _ => true
  | .answered _ _ => true
  | _ => false

/-- Whether a task decides how the stage goes on. -/
def isDeciding : Task α → Bool
  | .setAlarm _ => true
  | .answered _ _ => true
  | .endWith _ _ => true
  | .finish => true
  | _ => false

/-- Whether a task announces nothing and takes no token. -/
def isMute : Task α → Bool
  | .announce _ => false
  | .enter (.tick _) => false
  | .answered (.ok _) _ => false
  | _ => true

/-- Whether a task announces nothing, takes no token and decides nothing. -/
def isPlain : Task α → Bool
  | .announce _ => false
  | .enter (.tick _) => false
  | task => !task.isDeciding

/-- Whether a task has no part in setting alarms or in closing the stage. -/
def isCalm (task : Task α) : Bool :=
  !task.isArming && !Pipeline.isClosing task

theorem isCalm_of_isFree {task : Task α} (free : task.isFree = true) : task.isCalm = true := by
  cases task <;> first | rfl | cases free

theorem isPlain_of_isAside {task : Task α} (aside : task.isAside = true) : task.isPlain = true := by
  cases task <;> first | rfl | cases aside

theorem isMute_of_isPlain {task : Task α} (plain : task.isPlain = true) : task.isMute = true := by
  cases task with
  | enter call => cases call <;> first | rfl | cases plain
  | _ => first | rfl | cases plain

theorem isDeciding_of_isPlain {task : Task α} (plain : task.isPlain = true) :
    task.isDeciding = false := by
  cases task <;> first | rfl | cases plain

theorem isArming_of_isCalm {task : Task α} (calm : task.isCalm = true) : task.isArming = false := by
  rw [isCalm, Bool.and_eq_true, Bool.not_eq_true'] at calm
  exact calm.1

theorem isCalm_eq_false_of_isArming {task : Task α} (arming : task.isArming = true) :
    task.isCalm = false := by
  rw [isCalm, arming]
  rfl

theorem isDeciding_of_isFree {task : Task α} (free : task.isFree = true) :
    task.isDeciding = false := by
  cases task <;> first | rfl | cases free

theorem isPivot_of_isArming {task : Task α} (arming : task.isArming = true) :
    task.isPivot = true := by
  cases task <;> first | rfl | cases arming

theorem isArming_of_isOuter {task : Task α} (outer : task.isOuter = true) :
    task.isArming = false := by
  cases task <;> first | rfl | cases outer

end Task

namespace Pipeline

/-! ## The order of the work -/

/-- What is known about the agenda of a stage, whether it is held or not. -/
structure Steady (config : Config) (stage : Stage α) (agenda : List (Task α)) : Prop where
  order : InOrder stage agenda
  prompt : Prompt stage agenda
  sized : Sized config stage agenda
  single : agenda.countP Task.isPivot ≤ 1
  noticed : Noticed stage agenda

section Steady

variable {config : Config} {setup : Setup α} {pipeline : Pipeline α} {stage : Stage α}
  {task : Task α} {timer : Timer UInt64} {events : List (Event α)} {tasks : List (Task α)}

theorem Conserved.steady {agenda : List (Task α)}
    (conserved : Conserved config stage agenda events) : Steady config stage agenda :=
  ⟨conserved.order, conserved.prompt, conserved.sized, conserved.single, conserved.noticed⟩

theorem Steady.begin (steady : Steady config stage []) (action : Action α) :
    Steady config stage [.act action] where
  order := steady.order.begin action
  prompt := .of_forall (List.forall_mem_singleton.mpr rfl)
  sized := ⟨steady.sized.config_eq, steady.sized.room,
    List.forall_mem_singleton.mpr (sound_of_none rfl rfl)⟩
  single := Nat.zero_le 1
  noticed := steady.noticed.begin action

theorem Steady.step (steady : Steady config pipeline.stage (task :: pipeline.agenda))
    (effect : Effect pipeline task stage timer events tasks) :
    Steady config stage (tasks ++ pipeline.agenda) where
  order := steady.order.step effect
  prompt := steady.prompt.step effect
  sized := steady.sized.step effect
  single := effect.single steady.order steady.single
  noticed := steady.noticed.step steady.order steady.sized effect

theorem Reachable.steady (reachable : Reachable config setup pipeline) :
    Steady config pipeline.stage pipeline.agenda := by
  obtain ⟨opening, made, later⟩ := reachable
  obtain ⟨valid, stage_eq, agenda_eq, _⟩ := opening?_eq_ok made
  refine later.preserve (fun stage agenda _ => Steady config stage agenda) ?_
    (fun _ _ action steady => steady.begin action)
    (fun _ _ _ _ _ _ effect steady => steady.step effect)
  rw [stage_eq, agenda_eq]
  exact (Conserved.opening valid []).steady

/-- What every effect on a steady agenda and every new action preserve holds of every reachable
pipeline, if it holds of every new one. -/
theorem Reachable.preserve_of_steady (reachable : Reachable config setup pipeline)
    (holds : Stage α → List (Task α) → List (Event α) → Prop)
    (start : ∀ lines : List LogLine, holds (.opening config) [] (lines.map .log))
    (begins : ∀ stage events action, holds stage [] events → holds stage [.act action] events)
    (effects : ∀ (pipeline : Pipeline α) task stage timer events tasks,
      Steady config pipeline.stage (task :: pipeline.agenda) →
      Effect pipeline task stage timer events tasks →
      holds pipeline.stage (task :: pipeline.agenda) pipeline.chronicle →
      holds stage (tasks ++ pipeline.agenda) (pipeline.chronicle ++ events)) :
    holds pipeline.stage pipeline.agenda pipeline.chronicle := by
  obtain ⟨opening, made, later⟩ := reachable
  obtain ⟨valid, stage_eq, agenda_eq, lines, chronicle_eq⟩ := opening?_eq_ok made
  have both := later.preserve
    (fun stage agenda events => Steady config stage agenda ∧ holds stage agenda events) ?_ ?_ ?_
  · exact both.2
  · rw [stage_eq, agenda_eq, chronicle_eq]
    exact ⟨(Conserved.opening valid []).steady, start lines⟩
  · rintro stage events action ⟨steady, before⟩
    exact ⟨steady.begin action, begins stage events action before⟩
  · rintro pipeline task stage timer events tasks effect ⟨steady, before⟩
    exact ⟨steady.step effect, effects pipeline task stage timer events tasks steady effect before⟩

/-- What every effect preserves that leaves a stage which is held alone outside its calls, holds of
every reachable pipeline whose stage is held. -/
theorem Reachable.preserve_of_held (reachable : Reachable config setup pipeline)
    (held : pipeline.alive = true)
    (holds : Stage α → List (Task α) → List (Event α) → Prop)
    (start : ∀ lines : List LogLine, holds (.opening config) [] (lines.map .log))
    (begins : ∀ stage events action, holds stage [] events → holds stage [.act action] events)
    (effects : ∀ (pipeline : Pipeline α) task stage timer events tasks,
      Steady config pipeline.stage (task :: pipeline.agenda) →
      Effect pipeline task stage timer events tasks →
      (task.isAside = true → stage = pipeline.stage) →
      holds pipeline.stage (task :: pipeline.agenda) pipeline.chronicle →
      holds stage (tasks ++ pipeline.agenda) (pipeline.chronicle ++ events)) :
    holds pipeline.stage pipeline.agenda pipeline.chronicle := by
  obtain ⟨opening, made, later⟩ := reachable
  induction later with
  | here =>
      obtain ⟨_, stage_eq, agenda_eq, lines, chronicle_eq⟩ := opening?_eq_ok made
      rw [stage_eq, agenda_eq, chronicle_eq]
      exact start lines
  | @step last earlier ih =>
      have steady : Steady config last.stage last.agenda :=
        Reachable.steady ⟨opening, made, earlier⟩
      cases agenda_eq : last.agenda with
      | nil =>
          rw [step_of_atRest (List.isEmpty_iff.mpr agenda_eq)] at held ⊢
          exact ih held
      | cons task rest =>
          obtain ⟨stage, timer, events, tasks, effect, becomes, same⟩ :=
            exists_held_effect agenda_eq held
          have before := ih (alive_of_step held)
          rw [agenda_eq] at before steady
          rw [becomes.stage_eq, becomes.agenda_eq, becomes.chronicle_eq]
          exact effects _ task stage timer events tasks steady effect same before
  | @begin last earlier rest action ih =>
      have before := ih held
      rw [List.isEmpty_iff.mp rest] at before
      rw [agenda_begin_of_atRest rest]
      exact begins last.stage last.chronicle action before

end Steady

/-! ## Watching the alarm -/

/-- An alarm is tied to a stage whose token it is, or to which its token is on its way. -/
def Tied (stage : Stage α) (agenda : List (Task α)) (token : CancelToken) : Prop :=
  stage.alarm = some token ∨ ∃ handOff, .answered (.ok token) handOff ∈ agenda

/-- Whether an alarm that just started is about to call the stage. -/
def IsStarting (stage : Stage α) (agenda : List (Task α)) (events : List (Event α)) : Prop :=
  events.getLast? = some .fired ∧ agenda.head? = some (.enter (.tick stage.generation))

/-- The alarms that wait are watched by the stage. -/
structure Watch (stage : Stage α) (agenda : List (Task α)) (events : List (Event α))
    (waiting : List (Alarm UInt64)) : Prop where
  /-- At most one alarm waits. It is that of the current generation, and the stage has its token or
  is about to get it. -/
  single : ∀ alarm others, waiting = alarm :: others →
    others = [] ∧ alarm.task = stage.generation ∧ Tied stage agenda alarm.token
  unset : ∀ task ∈ agenda, task.isArming = true → stage.alarm = none
  asking : ∀ handOff, .setAlarm handOff ∈ agenda → waiting = []
  finishing : .finish ∈ agenda → waiting = [] ∧ ∀ task ∈ agenda, task.isArming = false
  ended : stage.status ≠ .active → waiting = [] ∨ HasNotice stage agenda
  /-- An alarm that no longer waits has left a tick. -/
  awake : stage.status = .active → (∃ token, Tied stage agenda token) →
    waiting ≠ [] ∨ .tick stage.generation ∈ stage.signals ∨ IsStarting stage agenda events
  /-- A stage to which a producer subscribed has an alarm or is about to set one. -/
  tended : stage.status = .active → stage.producer.isSome = true →
    stage.alarm ≠ none ∨ (∃ task ∈ agenda, task.isDeciding = true) ∨
      .announce .subscribed ∈ agenda ∨ .subscribed ∈ stage.signals

/-- Two stages that differ in nothing that has to do with alarms. -/
structure SameAlarm (stage next : Stage α) : Prop where
  alarm_eq : next.alarm = stage.alarm
  generation_eq : next.generation = stage.generation
  status_eq : next.status = stage.status
  signals_of : ∀ signal ∈ stage.signals, signal ∈ next.signals

theorem SameAlarm.refl (stage : Stage α) : SameAlarm stage stage :=
  ⟨rfl, rfl, rfl, fun _ member => member⟩

namespace Watch

variable {stage next : Stage α} {task : Task α} {agenda tasks : List (Task α)}
  {events later : List (Event α)} {waiting : List (Alarm UInt64)}

theorem opening (config : Config) : Watch (.opening config : Stage α) [] events [] := by
  constructor
  case single => nofun
  case awake =>
    rintro _ ⟨token, set | ⟨handOff, member⟩⟩
    · cases set
    · cases member
  case tended => exact fun _ attached => nomatch attached
  all_goals simp [Stage.opening]

/-- A task that neither takes the token of an alarm nor lets a working stage go on untended leaves
the alarm alone. -/
theorem keep (watch : Watch stage (task :: agenda) events waiting) (same : SameAlarm stage next)
    (attached : next.producer.isSome = true → stage.producer.isSome = true ∨
      .announce .subscribed ∈ tasks)
    (announced : ∀ signal, task = .announce signal → signal ∈ next.signals)
    (entered : ∀ generation, task = .enter (.tick generation) →
      .tick generation ∈ next.signals)
    (other : ∀ token handOff, task ≠ .answered (.ok token) handOff)
    (decided : task.isDeciding = true → stage.status = .active →
      ∃ added ∈ tasks, added.isDeciding = true)
    (calm : ∀ task ∈ tasks, task.isCalm = true) : Watch next (tasks ++ agenda) later waiting := by
  have below : ∀ {sought : Task α}, sought.isCalm = false → sought ∈ tasks ++ agenda →
      sought ∈ task :: agenda :=
    fun uneasy member => List.mem_cons_of_mem _ (mem_below calm uneasy member)
  have tied_iff : ∀ token, Tied next (tasks ++ agenda) token ↔
      Tied stage (task :: agenda) token := by
    intro token
    rw [Tied, Tied, same.alarm_eq]
    refine or_congr Iff.rfl (exists_congr fun handOff => ⟨fun member => ?_, fun member => ?_⟩)
    · exact below rfl member
    · rcases List.mem_cons.mp member with same | member
      · exact absurd same.symm (other token handOff)
      · exact List.mem_append_right _ member
  constructor
  case single =>
    intro alarm others waiting_eq
    obtain ⟨alone, task_eq, tied⟩ := watch.single alarm others waiting_eq
    exact ⟨alone, task_eq.trans same.generation_eq.symm, (tied_iff _).mpr tied⟩
  case unset =>
    intro sought member arming
    rw [same.alarm_eq]
    exact watch.unset sought (below (Task.isCalm_eq_false_of_isArming arming) member) arming
  case asking =>
    intro handOff member
    exact watch.asking handOff (below rfl member)
  case finishing =>
    intro member
    obtain ⟨nothing, unarmed⟩ := watch.finishing (below rfl member)
    refine ⟨nothing, List.forall_mem_append.mpr ⟨?_, ?_⟩⟩
    · exact fun task member => Task.isArming_of_isCalm (calm task member)
    · exact fun task member => unarmed task (List.mem_cons_of_mem _ member)
  case ended =>
    intro ended
    rw [same.status_eq] at ended
    rcases watch.ended ended with nothing | waits | coming
    · exact Or.inl nothing
    · exact Or.inr (Or.inl (same.signals_of _ waits))
    · rcases List.mem_cons.mp coming with same | coming
      · exact Or.inr (Or.inl (announced _ same.symm))
      · exact Or.inr (Or.inr (List.mem_append_right _ coming))
  case awake =>
    rintro active ⟨token, tied⟩
    rw [same.status_eq] at active
    rw [same.generation_eq]
    rcases watch.awake active ⟨token, (tied_iff token).mp tied⟩ with some | ticks | ⟨_, first⟩
    · exact Or.inl some
    · exact Or.inr (Or.inl (same.signals_of _ ticks))
    · exact Or.inr (Or.inl (entered _ (Option.some.inj first)))
  case tended =>
    intro active isSome
    rw [same.status_eq] at active
    rcases attached isSome with before | added
    · rcases watch.tended active before with set | ⟨sought, member, decides⟩ | coming | waits
      · rw [same.alarm_eq]
        exact Or.inl set
      · rcases List.mem_cons.mp member with rfl | member
        · obtain ⟨added, member, decides⟩ := decided decides active
          exact Or.inr (Or.inl ⟨added, List.mem_append_left _ member, decides⟩)
        · exact Or.inr (Or.inl ⟨sought, List.mem_append_right _ member, decides⟩)
      · rcases List.mem_cons.mp coming with same | coming
        · exact Or.inr (Or.inr (Or.inr (announced _ same.symm)))
        · exact Or.inr (Or.inr (Or.inl (List.mem_append_right _ coming)))
      · exact Or.inr (Or.inr (Or.inr (same.signals_of _ waits)))
    · exact Or.inr (Or.inr (Or.inl (List.mem_append_left _ added)))

theorem keep_of_isMute (watch : Watch stage (task :: agenda) events waiting)
    (mute : task.isMute = true) (same : SameAlarm stage next)
    (attached : next.producer.isSome = true → stage.producer.isSome = true ∨
      .announce .subscribed ∈ tasks)
    (decided : task.isDeciding = true → stage.status = .active →
      ∃ added ∈ tasks, added.isDeciding = true)
    (calm : ∀ task ∈ tasks, task.isCalm = true) : Watch next (tasks ++ agenda) later waiting := by
  refine watch.keep same attached ?_ ?_ ?_ decided calm
  · rintro signal rfl
    cases mute
  · rintro generation rfl
    cases mute
  · rintro token handOff rfl
    cases mute

theorem keep_of_isPlain (watch : Watch stage (task :: agenda) events waiting)
    (plain : task.isPlain = true) (same : SameAlarm stage next)
    (attached : next.producer.isSome = true → stage.producer.isSome = true ∨
      .announce .subscribed ∈ tasks)
    (calm : ∀ task ∈ tasks, task.isCalm = true) : Watch next (tasks ++ agenda) later waiting := by
  refine watch.keep_of_isMute (Task.isMute_of_isPlain plain) same attached (fun decides => ?_) calm
  rw [Task.isDeciding_of_isPlain plain] at decides
  cases decides

/-- A stage without an alarm has nothing to watch where no token is on its way and somebody decides
how it goes on. -/
theorem of_nil (unset : next.status = .active ∨ (∃ task ∈ agenda, task.isArming = true) →
      next.alarm = none)
    (unanswered : ∀ token handOff, .answered (.ok token) handOff ∉ agenda)
    (finishing : .finish ∈ agenda → ∀ task ∈ agenda, task.isArming = false)
    (decided : next.status = .active → ∃ task ∈ agenda, task.isDeciding = true) :
    Watch next agenda events [] := by
  constructor
  case single => nofun
  case unset => exact fun task member arming => unset (Or.inr ⟨task, member, arming⟩)
  case asking => exact fun _ _ => rfl
  case finishing => exact fun member => ⟨rfl, finishing member⟩
  case ended => exact fun _ => Or.inl rfl
  case awake =>
    rintro active ⟨token, set | ⟨handOff, member⟩⟩
    · rw [unset (Or.inl active)] at set
      cases set
    · exact absurd member (unanswered token handOff)
  case tended => exact fun active _ => Or.inr (Or.inl (decided active))

/-- A signal that means nothing to the alarm leaves the queue. -/
theorem pop {signal : Signal α} {rest : List (Signal α)}
    (watch : Watch stage agenda events waiting) (first : stage.signals = signal :: rest)
    (ticks : stage.status = .active → signal ≠ .tick stage.generation)
    (subscribes : stage.status = .active → signal = .subscribed → stage.alarm ≠ none)
    (notices : signal ≠ .cancelled) :
    Watch { stage with signals := rest } agenda events waiting where
  single := watch.single
  unset := watch.unset
  asking := watch.asking
  finishing := watch.finishing
  ended := by
    intro ended
    rcases watch.ended ended with nothing | waits | coming
    · exact Or.inl nothing
    · rw [first] at waits
      rcases List.mem_cons.mp waits with same | waits
      · exact absurd same.symm notices
      · exact Or.inr (Or.inl waits)
    · exact Or.inr (Or.inr coming)
  awake := by
    intro active tied
    rcases watch.awake active tied with some | waits | starting
    · exact Or.inl some
    · rw [first] at waits
      rcases List.mem_cons.mp waits with same | waits
      · exact absurd same.symm (ticks active)
      · exact Or.inr (Or.inl waits)
    · exact Or.inr (Or.inr starting)
  tended := by
    intro active attached
    rcases watch.tended active attached with set | decides | coming | waits
    · exact Or.inl set
    · exact Or.inr (Or.inl decides)
    · exact Or.inr (Or.inr (Or.inl coming))
    · rw [first] at waits
      rcases List.mem_cons.mp waits with same | waits
      · exact Or.inl (subscribes active same.symm)
      · exact Or.inr (Or.inr (Or.inr waits))

end Watch

/-! ## Signals -/

theorem tracks_idleTimer {stage : Stage α} {timer : Timer UInt64} {waiting : List (Alarm UInt64)}
    (tracks : timer.Tracks waiting)
    (tied : ∀ alarm ∈ waiting, stage.alarm = some alarm.token) :
    (idleTimer stage timer).Tracks [] := by
  cases set : stage.alarm with
  | none =>
      have nothing : waiting = [] := by
        refine List.eq_nil_iff_forall_not_mem.mpr fun alarm member => ?_
        rw [tied alarm member] at set
        cases set
      rw [idleTimer, set, ← nothing]
      exact tracks
  | some token =>
      rw [idleTimer, set]
      refine tracks.cancel fun alarm member => ?_
      rw [tied alarm member] at set
      exact Option.some.inj set

section Work

variable {hook : DiscardHook} {stage next : Stage α} {timer clock : Timer UInt64}
  {events later : List (Event α)} {agenda tasks : List (Task α)} {waiting : List (Alarm UInt64)}

theorem isCalm_hookTasks {items : List α} : ∀ task ∈ hookTasks hook items, task.isCalm = true := by
  intro task member
  obtain ⟨call, _, rfl⟩ := List.mem_map.mp member
  rfl

theorem isCalm_failureTasks {items : List α} {error : StreamError} :
    ∀ task ∈ failureTasks hook items error, task.isCalm = true := by
  rw [failureTasks, List.forall_mem_append]
  exact ⟨isCalm_hookTasks, List.forall_mem_singleton.mpr rfl⟩

theorem isCalm_endingTasks {items : List α} {error : StreamError} {origin : Origin} :
    ∀ task ∈ hookTasks hook items ++ [Task.reportError error origin], task.isCalm = true :=
  List.forall_mem_append.mpr ⟨isCalm_hookTasks, List.forall_mem_singleton.mpr rfl⟩

theorem isCalm_wakeTasks : ∀ task ∈ wakeTasks stage, task.isCalm = true := by
  rw [wakeTasks]
  split
  · exact List.forall_mem_singleton.mpr rfl
  · exact List.forall_mem_nil _

theorem isDeciding_failureTasks {items : List α} {error : StreamError} :
    ∃ task ∈ failureTasks hook items error, task.isDeciding = true :=
  ⟨.endWith error .stage, List.mem_append_right _ (List.mem_singleton_self _), rfl⟩

/-- While nobody decides how the stage goes on, it has the token of every alarm that waits. -/
theorem Watch.alarm_eq (watch : Watch stage agenda events waiting)
    (calm : ∀ task ∈ agenda, task.isArming = false) :
    ∀ alarm ∈ waiting, stage.alarm = some alarm.token := by
  intro alarm member
  cases waiting with
  | nil => cases member
  | cons first others =>
      obtain ⟨rfl, _, tied⟩ := watch.single first others rfl
      rw [List.mem_singleton.mp member]
      rcases tied with set | ⟨handOff, answered⟩
      · exact set
      · cases calm _ answered

/-- While a signal is worked off, nobody else is about to set an alarm. -/
theorem unarmed_of_outer {missed : Nat} (outer : ∀ task ∈ agenda, task.isOuter = true) :
    ∀ task ∈ .workOff missed :: agenda, task.isArming = false :=
  List.forall_mem_cons.mpr
    ⟨rfl, fun task member => Task.isArming_of_isOuter (outer task member)⟩

/-- Calm tasks need no alarm where nobody is about to set one. -/
theorem watch_of_unarmed (below : ∀ task ∈ agenda, task.isArming = false)
    (calm : ∀ task ∈ tasks, task.isCalm = true)
    (unset : next.status = .active → next.alarm = none)
    (decided : next.status = .active → ∃ task ∈ tasks, task.isDeciding = true) :
    Watch next (tasks ++ agenda) later [] := by
  have unarmed : ∀ task ∈ tasks ++ agenda, task.isArming = false :=
    List.forall_mem_append.mpr
      ⟨fun task member => Task.isArming_of_isCalm (calm task member), below⟩
  refine .of_nil ?_ (fun token handOff member => ?_) (fun _ => unarmed) fun active => ?_
  · rintro (active | ⟨task, member, arming⟩)
    · exact unset active
    · cases (unarmed task member).symm.trans arming
  · cases unarmed _ member
  · obtain ⟨task, member, decides⟩ := decided active
    exact ⟨task, List.mem_append_left _ member, decides⟩

/-- A signal whose work begins without an alarm leaves nothing to watch but its own tasks. -/
theorem watch_dispatched {missed : Nat} (outer : ∀ task ∈ agenda, task.isOuter = true)
    (unset : next.alarm = none)
    (unanswered : ∀ token handOff, .answered (.ok token) handOff ∉ tasks)
    (finishing : .finish ∈ tasks → ∀ task ∈ tasks, task.isArming = false)
    (decided : next.status = .active → ∃ task ∈ tasks, task.isDeciding = true) :
    Watch next (tasks ++ [Task.workOff missed] ++ agenda) later [] := by
  have inside : ∀ {sought : Task α}, sought.isInner = true →
      sought ∈ tasks ++ [Task.workOff missed] ++ agenda → sought ∈ tasks := by
    intro sought inner member
    rcases List.mem_append.mp member with member | member
    · rcases List.mem_append.mp member with member | member
      · exact member
      · rw [List.mem_singleton.mp member] at inner
        cases inner
    · have isOuter := outer sought member
      rw [Task.isOuter, inner] at isOuter
      cases isOuter
  refine .of_nil (fun _ => unset) (fun token handOff member => ?_) (fun member => ?_)
    fun active => ?_
  · exact unanswered token handOff (inside rfl member)
  · rw [List.append_assoc]
    exact List.forall_mem_append.mpr ⟨finishing (inside rfl member), unarmed_of_outer outer⟩
  · obtain ⟨task, member, decides⟩ := decided active
    exact ⟨task, List.mem_append_left _ (List.mem_append_left _ member), decides⟩

theorem watch_setAlarm {missed : Nat} (outer : ∀ task ∈ agenda, task.isOuter = true)
    (unset : next.alarm = none) (handOff : Option (HandOff α)) :
    Watch next ([Task.setAlarm handOff] ++ [Task.workOff missed] ++ agenda) later [] := by
  refine watch_dispatched outer unset ?_ ?_ fun _ => ⟨_, List.mem_singleton_self _, rfl⟩
  · exact fun token handOff member => nomatch List.mem_singleton.mp member
  · exact fun member => nomatch List.mem_singleton.mp member

theorem watch_of_isCalm {missed : Nat} (outer : ∀ task ∈ agenda, task.isOuter = true)
    (unset : next.alarm = none) (calm : ∀ task ∈ tasks, task.isCalm = true)
    (decided : next.status = .active → ∃ task ∈ tasks, task.isDeciding = true) :
    Watch next (tasks ++ [Task.workOff missed] ++ agenda) later [] := by
  rw [List.append_assoc]
  exact watch_of_unarmed (unarmed_of_outer outer) calm (fun _ => unset) decided

/-- Working a signal off leaves the alarm alone, or cancels it and decides how the stage goes on. -/
theorem Watch.handle {signal : Signal α} {rest : List (Signal α)} {missed : Nat}
    (watch : Watch stage (.workOff missed :: agenda) events waiting)
    (outer : ∀ task ∈ agenda, task.isOuter = true)
    (noticed : Noticed stage (.workOff missed :: agenda)) (tracks : timer.Tracks waiting)
    (first : stage.signals = signal :: rest) {happened : List (Event α)}
    (dispatch : Dispatch hook { stage with signals := rest } timer signal next clock happened
      tasks) :
    ∃ waiting, clock.Tracks waiting ∧
      Watch next (tasks ++ [Task.workOff missed] ++ agenda) later waiting := by
  have unarmed : ∀ task ∈ .workOff missed :: agenda, task.isArming = false :=
    unarmed_of_outer outer
  have idle : (idleTimer { stage with signals := rest } timer).Tracks [] :=
    tracks_idleTimer tracks (watch.alarm_eq unarmed)
  -- A signal that means nothing to the alarm leaves the queue, and its tasks are calm.
  have keep : ∀ {next : Stage α} {tasks : List (Task α)},
      SameAlarm { stage with signals := rest } next → next.producer = stage.producer →
      (stage.status = .active → signal ≠ .tick stage.generation) →
      (stage.status = .active → signal = .subscribed → stage.alarm ≠ none) →
      signal ≠ .cancelled → (∀ task ∈ tasks, task.isCalm = true) →
      Watch next (tasks ++ [Task.workOff missed] ++ agenda) later waiting := by
    intro next tasks same producer_eq ticks subscribes notices calm
    refine (watch.pop first ticks subscribes notices).keep_of_isPlain rfl same ?_
      (List.forall_mem_append.mpr ⟨calm, List.forall_mem_singleton.mpr rfl⟩)
    exact fun attached => Or.inl (producer_eq ▸ attached)
  -- So it is with every signal that is neither of a subscription nor of a tick nor a notice.
  have pass : ∀ {next : Stage α} {tasks : List (Task α)},
      SameAlarm { stage with signals := rest } next → next.producer = stage.producer →
      signal.isMute = true → (∀ task ∈ tasks, task.isCalm = true) →
      Watch next (tasks ++ [Task.workOff missed] ++ agenda) later waiting := by
    intro next tasks same producer_eq mute calm
    refine keep same producer_eq ?_ ?_ ?_ calm
    · rintro _ rfl
      cases mute
    · rintro _ rfl
      cases mute
    · rintro rfl
      cases mute
  cases dispatch with
  | subscribedAgain reason =>
      refine ⟨waiting, tracks, keep (.refl _) rfl (by simp) (fun active _ => ?_) (by simp)
        (List.forall_mem_nil _)⟩
      exact reason.resolve_left fun ended => ended active
  | subscribed active unset =>
      have nothing : waiting = [] := by
        refine List.eq_nil_iff_forall_not_mem.mpr fun alarm member => ?_
        cases unset.symm.trans (watch.alarm_eq unarmed alarm member)
      exact ⟨[], nothing ▸ tracks, watch_setAlarm outer unset none⟩
  | itemLate ended =>
      exact ⟨waiting, tracks, pass (.refl _) rfl rfl
        (List.forall_mem_singleton.mpr rfl)⟩
  | itemUnrequested active unrequested =>
      exact ⟨waiting, tracks, pass (.refl _) rfl rfl
        (by simp [Task.isCalm, Task.isArming, isClosing])⟩
  | itemTaken active received room =>
      exact ⟨waiting, tracks, pass ⟨rfl, rfl, rfl, fun _ member => member⟩ rfl rfl
        (List.forall_mem_nil _)⟩
  | itemLast active received full =>
      exact ⟨[], idle, watch_setAlarm outer rfl _⟩
  | tickLate ended =>
      exact ⟨waiting, tracks, keep (.refl _) rfl (fun active => absurd active ended) (by simp)
        (by simp) (List.forall_mem_nil _)⟩
  | tickStale active stale =>
      refine ⟨waiting, tracks, keep (.refl _) rfl (fun _ same => ?_) (by simp) (by simp)
        (List.forall_mem_nil _)⟩
      cases same
      exact stale rfl
  | tickEmpty active empty =>
      exact ⟨[], idle, watch_setAlarm outer rfl _⟩
  | tickClosing active filled =>
      exact ⟨[], idle, watch_setAlarm outer rfl _⟩
  | completedLate ended =>
      exact ⟨waiting, tracks, pass (.refl _) rfl rfl (List.forall_mem_nil _)⟩
  | completedEmpty active empty =>
      refine ⟨[], idle, watch_dispatched outer rfl ?_ ?_ fun _ => ?_⟩
      · simp
      · simp [Task.isArming]
      · exact ⟨_, List.mem_singleton_self _, rfl⟩
  | completed active filled delivery =>
      cases delivery with
      | late ended => exact absurd active ended
      | unpaid _ unpaid =>
          exact ⟨[], idle, watch_of_isCalm outer rfl isCalm_failureTasks
            fun _ => isDeciding_failureTasks⟩
      | paid _ paid =>
          refine ⟨[], idle, watch_dispatched outer rfl ?_ ?_ fun _ => ?_⟩
          · simp [closingTasks]
          · simp [closingTasks, Task.isArming]
          · exact ⟨.finish, by simp [closingTasks], rfl⟩
  | failed failure =>
      cases failure with
      | late ended =>
          exact ⟨waiting, tracks, pass (.refl _) rfl rfl (List.forall_mem_nil _)⟩
      | ended active =>
          exact ⟨[], idle, watch_of_isCalm outer rfl isCalm_endingTasks (by simp)⟩
  | cancelledEmpty empty =>
      have ended := noticed.ended (Or.inl (by rw [first]; exact List.mem_cons_self))
      exact ⟨[], idle, watch_of_isCalm outer rfl isCalm_hookTasks
        fun active => absurd active ended⟩
  | cancelled filled =>
      have ended := noticed.ended (Or.inl (by rw [first]; exact List.mem_cons_self))
      exact ⟨[], idle, watch_of_isCalm outer rfl isCalm_hookTasks
        fun active => absurd active ended⟩

/-! ## Other tasks -/

/-- The alarm that waited starts: its tick is about to be announced. -/
theorem Watch.fire {alarm : Alarm UInt64} {others : List (Alarm UInt64)} {instant : Duration}
    (watch : Watch stage (.advance instant :: agenda) events (alarm :: others))
    (later : List (Event α)) :
    others = [] ∧
      Watch stage ([Task.enter (.tick alarm.task), .release, .advance instant] ++ agenda)
        (later ++ [Event.fired]) [] := by
  obtain ⟨alone, task_eq, _⟩ := watch.single alarm others rfl
  have calm : ∀ task ∈ [Task.enter (.tick alarm.task), .release, .advance instant],
      (task : Task α).isCalm = true := by
    simp [Task.isCalm, Task.isArming, isClosing]
  have below : ∀ {sought : Task α}, sought.isCalm = false →
      sought ∈ [Task.enter (.tick alarm.task), .release, .advance instant] ++ agenda →
      sought ∈ .advance instant :: agenda :=
    fun uneasy member => List.mem_cons_of_mem _ (mem_below calm uneasy member)
  refine ⟨alone, ?_⟩
  constructor
  case single => rintro _ _ ⟨⟩
  case unset =>
    intro task member arming
    exact watch.unset task (below (Task.isCalm_eq_false_of_isArming arming) member) arming
  case asking => exact fun _ _ => rfl
  case finishing =>
    intro member
    have impossible := (watch.finishing (below rfl member)).1
    cases impossible
  case ended => exact fun _ => Or.inl rfl
  case awake =>
    intro _ _
    refine Or.inr (Or.inr ⟨List.getLast?_concat, ?_⟩)
    rw [← task_eq]
    rfl
  case tended =>
    intro active attached
    rcases watch.tended active attached with set | ⟨task, member, decides⟩ | coming | waits
    · exact Or.inl set
    · rcases List.mem_cons.mp member with rfl | member
      · cases decides
      · exact Or.inr (Or.inl ⟨task, List.mem_append_right _ member, decides⟩)
    · rcases List.mem_cons.mp coming with same | coming
      · cases same
      · exact Or.inr (Or.inr (Or.inl (List.mem_append_right _ coming)))
    · exact Or.inr (Or.inr (Or.inr waits))

/-- A stage that is cancelled keeps its alarm until it works the notice off. -/
theorem Watch.cancel {task : Task α} (watch : Watch stage (task :: agenda) events waiting)
    (other : task.isDeciding = false) (calm : ∀ task ∈ tasks, task.isArming = false)
    (unfinished : .finish ∉ tasks) (notice : .announce .cancelled ∈ tasks) :
    Watch { stage with status := .cancelled } (tasks ++ agenda) later waiting := by
  have below : ∀ {sought : Task α}, sought.isArming = true → sought ∈ tasks ++ agenda →
      sought ∈ task :: agenda :=
    fun arming member => List.mem_cons_of_mem _ (mem_below calm arming member)
  constructor
  case single =>
    intro alarm others waiting_eq
    obtain ⟨alone, task_eq, set | ⟨handOff, member⟩⟩ := watch.single alarm others waiting_eq
    · exact ⟨alone, task_eq, Or.inl set⟩
    · rcases List.mem_cons.mp member with same | member
      · rw [← same] at other
        cases other
      · exact ⟨alone, task_eq, Or.inr ⟨handOff, List.mem_append_right _ member⟩⟩
  case unset => exact fun task member arming => watch.unset task (below arming member) arming
  case asking => exact fun handOff member => watch.asking handOff (below rfl member)
  case finishing =>
    intro member
    have before := (List.mem_append.mp member).resolve_left unfinished
    obtain ⟨nothing, unarmed⟩ := watch.finishing (List.mem_cons_of_mem _ before)
    refine ⟨nothing, List.forall_mem_append.mpr ⟨calm, ?_⟩⟩
    exact fun task member => unarmed task (List.mem_cons_of_mem _ member)
  case ended => exact fun _ => Or.inr (Or.inr (List.mem_append_left _ notice))
  case awake => nofun
  case tended => nofun

section Answer

variable {token : CancelToken} {handOff : Option (HandOff α)}

theorem Watch.eq_token
    (watch : Watch stage (.answered (.ok token) handOff :: agenda) events waiting)
    (unarmed : ∀ task ∈ agenda, task.isArming = false) :
    ∀ alarm ∈ waiting, some token = some alarm.token := by
  intro alarm member
  cases waiting with
  | nil => cases member
  | cons first others =>
      obtain ⟨rfl, _, tied⟩ := watch.single first others rfl
      rw [List.mem_singleton.mp member]
      rcases tied with set | ⟨other, answered⟩
      · cases set.symm.trans (watch.unset _ List.mem_cons_self rfl)
      · rcases List.mem_cons.mp answered with same | answered
        · cases same
          rfl
        · cases unarmed _ answered

/-- The token of the alarm arrives, whether the alarm still waits or not. -/
theorem Watch.accept
    (watch : Watch stage (.answered (.ok token) handOff :: agenda) events waiting)
    (unarmed : ∀ task ∈ agenda, task.isArming = false)
    (same : SameAlarm { stage with alarm := some token } next)
    (calm : ∀ task ∈ tasks, task.isCalm = true) : Watch next (tasks ++ agenda) later waiting := by
  have nobody : ∀ task ∈ tasks ++ agenda, task.isArming = false :=
    List.forall_mem_append.mpr
      ⟨fun task member => Task.isArming_of_isCalm (calm task member), unarmed⟩
  constructor
  case single =>
    rintro alarm others rfl
    obtain ⟨alone, task_eq, _⟩ := watch.single alarm others rfl
    refine ⟨alone, task_eq.trans same.generation_eq.symm, Or.inl ?_⟩
    exact same.alarm_eq.trans (watch.eq_token unarmed alarm List.mem_cons_self)
  case unset =>
    intro task member arming
    rw [nobody task member] at arming
    cases arming
  case asking => exact fun handOff member => nomatch nobody _ member
  case finishing =>
    intro member
    rcases List.mem_append.mp member with member | member
    · cases calm _ member
    · have impossible :=
        (watch.finishing (List.mem_cons_of_mem _ member)).2 _ List.mem_cons_self
      cases impossible
  case ended =>
    intro ended
    rcases watch.ended (same.status_eq ▸ ended) with nothing | waits | coming
    · exact Or.inl nothing
    · exact Or.inr (Or.inl (same.signals_of _ waits))
    · rcases List.mem_cons.mp coming with same | coming
      · cases same
      · exact Or.inr (Or.inr (List.mem_append_right _ coming))
  case awake =>
    intro active _
    have before : ∃ token, Tied stage (.answered (.ok token) handOff :: agenda) token :=
      ⟨token, Or.inr ⟨handOff, List.mem_cons_self⟩⟩
    rcases watch.awake (same.status_eq ▸ active) ⟨token, Or.inr ⟨handOff, List.mem_cons_self⟩⟩
      with some | ticks | ⟨_, first⟩
    · exact Or.inl some
    · refine Or.inr (Or.inl ?_)
      rw [same.generation_eq]
      exact same.signals_of _ ticks
    · cases first
  case tended =>
    intro _ _
    left
    rw [same.alarm_eq]
    exact Option.some_ne_none token

end Answer

end Work

section Step

variable {config : Config} {setup : Setup α} {pipeline : Pipeline α} {task : Task α}
  {stage : Stage α} {timer : Timer UInt64} {events : List (Event α)} {tasks : List (Task α)}
  {waiting : List (Alarm UInt64)}

/-- The timer refuses, or sets the alarm of the current generation. -/
theorem askTimer_of_tracks (attached : pipeline.detached = false)
    (tracks : pipeline.timer.Tracks []) :
    (∃ rejection, pipeline.askTimer = (.error rejection, pipeline.timer)) ∨
      ∃ alarm next, pipeline.askTimer = (.ok alarm.token, next) ∧ next.Tracks [alarm] ∧
        next.now = pipeline.timer.now ∧
        alarm.deadline = pipeline.timer.now + pipeline.stage.config.timeSpan ∧
        alarm.task = pipeline.stage.generation := by
  cases refusal : pipeline.refusal with
  | some rejection =>
      left
      exact ⟨rejection, by rw [askTimer, refusal]⟩
  | none =>
      rcases tracks.schedule pipeline.stage.config.timeSpan pipeline.stage.generation with
        ⟨rejection, scheduled⟩ | ⟨alarm, next, scheduled, kept, now_eq, deadline_eq, task_eq⟩
      · left
        refine ⟨rejection, ?_⟩
        rw [askTimer, refusal]
        simp only [scheduled]
      · right
        refine ⟨alarm, next, ?_, kept, now_eq, deadline_eq, task_eq⟩
        rw [askTimer, refusal]
        simp only [scheduled, attached, Bool.false_eq_true, if_false]

theorem Watch.ask {handOff : Option (HandOff α)}
    (watch : Watch pipeline.stage (.setAlarm handOff :: pipeline.agenda) pipeline.chronicle
      waiting)
    (tracks : pipeline.timer.Tracks waiting) (attached : pipeline.detached = false)
    (active : pipeline.stage.status = .active)
    (unarmed : ∀ task ∈ pipeline.agenda, task.isArming = false) :
    ∃ waiting, pipeline.askTimer.2.Tracks waiting ∧
      Watch pipeline.stage
        ([Task.call (.schedule pipeline.stage.config.timeSpan pipeline.askTimer.1.isOk),
          .answered pipeline.askTimer.1 handOff] ++ pipeline.agenda) events waiting := by
  have nothing : waiting = [] := watch.asking handOff List.mem_cons_self
  have unset : pipeline.stage.alarm = none := watch.unset _ List.mem_cons_self rfl
  have unfinished : .finish ∉ pipeline.agenda := by
    intro member
    have impossible := (watch.finishing (List.mem_cons_of_mem _ member)).2 _ List.mem_cons_self
    cases impossible
  subst nothing
  rcases askTimer_of_tracks attached tracks with
    ⟨rejection, asked⟩ | ⟨alarm, next, asked, kept, _, _, task_eq⟩
  · rw [asked]
    refine ⟨[], tracks, .of_nil (fun _ => unset) ?_ ?_
      fun _ => ⟨.answered (.error rejection) handOff, ?_, rfl⟩⟩
    · intro token other member
      rcases List.mem_append.mp member with member | member
      · simp at member
      · cases unarmed _ member
    · intro member
      rcases List.mem_append.mp member with member | member
      · simp at member
      · exact absurd member unfinished
    · exact List.mem_append_left _ (List.mem_cons_of_mem _ List.mem_cons_self)
  · rw [asked]
    have answered : .answered (.ok alarm.token) handOff ∈
        [.call (.schedule pipeline.stage.config.timeSpan true),
          .answered (.ok alarm.token) handOff] ++ pipeline.agenda :=
      List.mem_append_left _ (List.mem_cons_of_mem _ List.mem_cons_self)
    refine ⟨[alarm], kept, ?_⟩
    constructor
    case single =>
      intro first others waiting_eq
      cases waiting_eq
      exact ⟨rfl, task_eq, Or.inr ⟨handOff, answered⟩⟩
    case unset => exact fun _ _ _ => unset
    case asking =>
      intro other member
      rcases List.mem_append.mp member with member | member
      · simp at member
      · cases unarmed _ member
    case finishing =>
      intro member
      rcases List.mem_append.mp member with member | member
      · simp at member
      · exact absurd member unfinished
    case ended => exact fun ended => absurd active ended
    case awake => exact fun _ _ => Or.inl (List.cons_ne_nil _ _)
    case tended => exact fun _ _ => Or.inr (Or.inl ⟨_, answered, rfl⟩)

/-- Every task of an open timer and of a stage that is held keeps the watch. -/
theorem Watch.step
    (watch : Watch pipeline.stage (task :: pipeline.agenda) pipeline.chronicle waiting)
    (tracks : pipeline.timer.Tracks waiting)
    (steady : Steady config pipeline.stage (task :: pipeline.agenda))
    (attached : pipeline.detached = false) (held : pipeline.alive = true)
    (effect : Effect pipeline task stage timer events tasks)
    (same : task.isAside = true → stage = pipeline.stage) (isOpen : timer.isShutDown = false) :
    ∃ waiting, timer.Tracks waiting ∧
      Watch stage (tasks ++ pipeline.agenda) (pipeline.chronicle ++ events) waiting := by
  -- Below a pivot nobody is about to set an alarm.
  have unarmed : task.isPivot = true → ∀ other ∈ pipeline.agenda, other.isArming = false := by
    intro pivot other member
    by_contra arming
    rw [Bool.not_eq_false] at arming
    have below := noPivot_below steady.order steady.single (by rw [pivot]; rfl) other member
    rw [Task.isPivot_of_isArming arming] at below
    cases below
  cases effect with
  | free aside inert allFree =>
      exact ⟨waiting, tracks, watch.keep_of_isPlain (Task.isPlain_of_isAside aside) (.refl _) Or.inl
        fun task member => Task.isCalm_of_isFree (allFree task member)⟩
  | swept aside gone =>
      have unchanged : cleared pipeline.stage = pipeline.stage := same aside
      rw [idleTimer_of_cleared unchanged, unchanged]
      exact ⟨waiting, tracks, watch.keep_of_isPlain (Task.isPlain_of_isAside aside) (.refl _) Or.inl
        (List.forall_mem_nil _)⟩
  | timerClosed => cases isOpen
  | clockSet idle =>
      exact ⟨waiting, tracks.setClock _,
        watch.keep_of_isPlain rfl (.refl _) Or.inl (List.forall_mem_nil _)⟩
  | alarmPassedOver due cancelled =>
      obtain ⟨_, _, _, ⟨_, kept, _⟩ | ⟨live, _⟩⟩ := tracks.takeDue due
      · exact ⟨waiting, kept, watch.keep_of_isPlain rfl (.refl _) Or.inl
          (List.forall_mem_singleton.mpr rfl)⟩
      · cases cancelled.symm.trans live
  | alarmFiredLate due live gone => cases held.symm.trans gone
  | alarmFired due live held =>
      obtain ⟨_, _, _, ⟨cancelled, _⟩ | ⟨_, others, rfl, kept⟩⟩ := tracks.takeDue due
      · cases live.symm.trans cancelled
      · obtain ⟨rfl, fired⟩ := watch.fire pipeline.chronicle
        exact ⟨[], kept, fired⟩
  | called actions =>
      exact ⟨waiting, tracks, watch.keep_of_isPlain rfl (.refl _) Or.inl
        fun task member => Task.isCalm_of_isFree (isFree_acts actions task member)⟩
  | enteredSignal announces =>
      refine ⟨waiting, tracks, watch.keep ⟨rfl, rfl, rfl, fun _ => List.mem_append_left _⟩ Or.inl
        (by simp) ?_ (by simp) (by simp [Task.isDeciding]) isCalm_wakeTasks⟩
      rintro generation same
      cases same
      cases announces
      exact List.mem_append_right _ (List.mem_singleton_self _)
  | announced =>
      refine ⟨waiting, tracks, watch.keep ⟨rfl, rfl, rfl, fun _ => List.mem_append_left _⟩ Or.inl
        ?_ (by simp) (by simp) (by simp [Task.isDeciding]) isCalm_wakeTasks⟩
      rintro signal ⟨⟩
      exact List.mem_append_right _ (List.mem_singleton_self _)
  | attached first =>
      refine ⟨waiting, tracks, watch.keep_of_isPlain rfl ⟨rfl, rfl, rfl, fun _ member => member⟩
        (fun _ => ?_) (by simp [Task.isCalm, Task.isArming, isClosing])⟩
      exact Or.inr (List.mem_cons_of_mem _ List.mem_cons_self)
  | attachedTwice second =>
      exact ⟨waiting, tracks, watch.keep_of_isPlain rfl (.refl _) Or.inl
        (by simp [Task.isCalm, Task.isArming, isClosing])⟩
  | cancelled active =>
      refine ⟨waiting, tracks, watch.cancel rfl (List.forall_mem_append.mpr ⟨?_, ?_⟩) ?_ ?_⟩
      · exact forall_cancelProducerTasks pipeline fun _ => rfl
      · exact List.forall_mem_singleton.mpr rfl
      · simp [cancelProducerTasks]
      · exact List.mem_append_right _ (List.mem_singleton_self _)
  | handled first dispatch =>
      exact watch.handle steady.order.outer_of_workOff steady.noticed tracks first dispatch
  | alarmSet => exact watch.ask tracks attached (steady.prompt.head _ rfl rfl) (unarmed rfl)
  | accepted =>
      exact ⟨waiting, tracks, watch.accept (unarmed rfl) (.refl _) (List.forall_mem_nil _)⟩
  | @acceptedHandOff token handOff stage timer events tasks delivery =>
      have below := unarmed rfl
      have trigger := (steady.sized.sound _ List.mem_cons_self).trigger handOff rfl
      cases delivery with
      | late ended =>
          exact ⟨waiting, tracks, watch.accept below (.refl _) isCalm_hookTasks⟩
      | unpaid active unpaid =>
          exact ⟨[], tracks_idleTimer tracks (watch.eq_token below),
            watch_of_unarmed below isCalm_failureTasks (fun _ => rfl)
              fun _ => isDeciding_failureTasks⟩
      | paid active paid =>
          rw [closingTasks, if_neg trigger]
          exact ⟨waiting, tracks, watch.accept below ⟨rfl, rfl, rfl, fun _ member => member⟩
            (List.forall_mem_singleton.mpr rfl)⟩
  | refused =>
      exact ⟨waiting, tracks, watch.keep_of_isMute rfl (.refl _) Or.inl
        (fun _ _ => ⟨_, List.mem_singleton_self _, rfl⟩) (List.forall_mem_singleton.mpr rfl)⟩
  | refusedHandOff =>
      exact ⟨waiting, tracks, watch.keep_of_isMute rfl (.refl _) Or.inl
        (fun _ _ => isDeciding_failureTasks) isCalm_failureTasks⟩
  | failed failure =>
      cases failure with
      | late ended =>
          exact ⟨waiting, tracks, watch.keep_of_isMute rfl (.refl _) Or.inl
            (fun _ active => absurd active ended) (List.forall_mem_nil _)⟩
      | ended active =>
          have below := unarmed rfl
          have set := watch.alarm_eq (List.forall_mem_cons.mpr ⟨rfl, below⟩)
          exact ⟨[], tracks_idleTimer tracks set,
            watch_of_unarmed below isCalm_endingTasks (fun _ => rfl) (by simp)⟩
  | reportedStage =>
      refine ⟨waiting, tracks, watch.keep_of_isPlain rfl (.refl _) Or.inl
        (List.forall_mem_append.mpr ⟨?_, List.forall_mem_singleton.mpr rfl⟩)⟩
      exact forall_cancelProducerTasks pipeline fun _ => rfl
  | finished active =>
      obtain ⟨rfl, alone⟩ := watch.finishing List.mem_cons_self
      exact ⟨[], tracks, watch_of_unarmed
        (fun task member => alone task (List.mem_cons_of_mem _ member))
        (List.forall_mem_singleton.mpr rfl) (by simp) (by simp)⟩
  | finishedLate ended =>
      exact ⟨waiting, tracks, watch.keep_of_isMute rfl (.refl _) Or.inl
        (fun _ active => absurd active ended) (List.forall_mem_nil _)⟩
  | _ =>
      refine ⟨waiting, tracks, watch.keep_of_isPlain rfl ⟨rfl, rfl, rfl, fun _ member => member⟩
        Or.inl ?_⟩
      first
        | exact List.forall_mem_nil _
        | exact List.forall_mem_singleton.mpr rfl

/-- Working a signal off does nothing to the timer but cancel the alarm of the stage. -/
theorem Dispatch.clock_eq {hook : DiscardHook} {stage next : Stage α} {timer clock : Timer UInt64}
    {signal : Signal α} (dispatch : Dispatch hook stage timer signal next clock events tasks) :
    clock = timer ∨ clock = idleTimer stage timer := by
  cases dispatch with
  | completed active filled delivery => cases delivery <;> exact Or.inr rfl
  | failed failure =>
      cases failure with
      | late ended => exact Or.inl rfl
      | ended active => exact Or.inr rfl
  | _ => first | exact Or.inl rfl | exact Or.inr rfl

/-- What a task can do to the timer. -/
inductive TimerStep (pipeline : Pipeline α) : Timer UInt64 → Prop where
  | left : TimerStep pipeline pipeline.timer
  | asked : TimerStep pipeline pipeline.askTimer.2
  | cancelled (token : CancelToken) : TimerStep pipeline (pipeline.timer.cancel token).2
  | closed : TimerStep pipeline pipeline.timer.shutDown
  | clockSet (instant : Duration) : TimerStep pipeline (pipeline.timer.setClock instant)
  | taken {instant : Duration} {alarm : Alarm UInt64} {timer : Timer UInt64}
      (due : pipeline.timer.takeDue instant = some (alarm, timer)) : TimerStep pipeline timer

theorem TimerStep.idle (pipeline : Pipeline α) (stage : Stage α) :
    TimerStep pipeline (idleTimer stage pipeline.timer) := by
  rw [idleTimer]
  cases stage.alarm with
  | none => exact .left
  | some token => exact .cancelled token

theorem Effect.timerStep (effect : Effect pipeline task stage timer events tasks) :
    TimerStep pipeline timer := by
  cases effect with
  | swept aside gone => exact .idle pipeline pipeline.stage
  | timerClosed => exact .closed
  | clockSet idle => exact .clockSet _
  | alarmPassedOver due cancelled => exact .taken due
  | alarmFiredLate due live gone => exact .taken due
  | alarmFired due live held => exact .taken due
  | handled first dispatch =>
      rcases dispatch.clock_eq with rfl | rfl
      · exact .left
      · exact .idle pipeline _
  | alarmSet => exact .asked
  | acceptedHandOff delivery =>
      cases delivery with
      | late ended => exact .left
      | unpaid active unpaid => exact .idle pipeline _
      | paid active paid => exact .left
  | failed failure =>
      cases failure with
      | late ended => exact .left
      | ended active => exact .idle pipeline _
  | _ => exact .left

/-- What holds of a timer, with an alarm set or not, and is kept when a stray token is made, holds
of the timer that was asked. -/
theorem askTimer_induction (holds : Timer UInt64 → Prop) (start : holds pipeline.timer)
    (scheduled : ∀ delay task, holds (pipeline.timer.schedule delay task).2)
    (stray : ∀ timer, holds timer → holds timer.strayToken.2) : holds pipeline.askTimer.2 := by
  have asked := scheduled pipeline.stage.config.timeSpan pipeline.stage.generation
  rw [askTimer]
  split
  · exact start
  · split <;> rename_i scheduled <;> rw [scheduled] at asked
    · exact asked
    · split
      · exact stray _ asked
      · exact asked

namespace TimerStep

/-- A timer that was shut down stays so. -/
theorem isOpen (turn : TimerStep pipeline timer) (isOpen : timer.isShutDown = false) :
    pipeline.timer.isShutDown = false := by
  cases turn with
  | asked =>
      rw [← isOpen]
      refine (askTimer_induction (fun timer => timer.isShutDown = pipeline.timer.isShutDown) rfl
        (fun delay task => ?_) fun timer same => same).symm
      rw [Timer.schedule]
      split
      · rfl
      · split <;> rfl
  | closed => cases isOpen
  | taken due =>
      obtain ⟨_, _, _, rfl⟩ := Timer.eq_of_takeDue due
      exact isOpen
  | _ => exact isOpen

theorem style_eq (turn : TimerStep pipeline timer) : timer.style = pipeline.timer.style := by
  cases turn with
  | asked =>
      refine askTimer_induction (fun timer => timer.style = pipeline.timer.style) rfl
        (fun delay task => ?_) fun timer same => same
      rw [Timer.schedule]
      split
      · rfl
      · split <;> rfl
  | taken due =>
      obtain ⟨_, _, _, rfl⟩ := Timer.eq_of_takeDue due
      rfl
  | _ => rfl

/-- A timer that was shut down has no alarms. -/
theorem dropped (turn : TimerStep pipeline timer)
    (dropped : pipeline.timer.isShutDown = true → pipeline.timer.queue = [])
    (down : timer.isShutDown = true) : timer.queue = [] := by
  cases turn with
  | asked =>
      revert down
      refine askTimer_induction (fun timer => timer.isShutDown = true → timer.queue = [])
        dropped (fun delay task => ?_) fun timer empty => empty
      rw [Timer.schedule]
      split
      · exact dropped
      · split
        · exact dropped
        · rename_i isOpen
          exact fun down => absurd down isOpen
  | closed => rfl
  | taken due =>
      obtain ⟨_, rest, queue_eq, rfl⟩ := Timer.eq_of_takeDue due
      rw [dropped down] at queue_eq
      cases queue_eq
  | _ => exact dropped down

end TimerStep

theorem Watch.begin (watch : Watch stage [] events waiting) (action : Action α) :
    Watch stage [.act action] events waiting where
  single := by
    intro alarm others waiting_eq
    obtain ⟨alone, task_eq, set | ⟨handOff, member⟩⟩ := watch.single alarm others waiting_eq
    · exact ⟨alone, task_eq, Or.inl set⟩
    · cases member
  unset := List.forall_mem_singleton.mpr nofun
  asking := by simp
  finishing := by simp
  ended := by
    intro ended
    rcases watch.ended ended with nothing | waits | coming
    · exact Or.inl nothing
    · exact Or.inr (Or.inl waits)
    · cases coming
  awake := by
    rintro active ⟨token, set | ⟨handOff, member⟩⟩
    · rcases watch.awake active ⟨token, Or.inl set⟩ with some | ticks | ⟨_, first⟩
      · exact Or.inl some
      · exact Or.inr (Or.inl ticks)
      · cases first
    · simp at member
  tended := by
    intro active attached
    rcases watch.tended active attached with set | ⟨task, member, _⟩ | coming | waits
    · exact Or.inl set
    · cases member
    · cases coming
    · exact Or.inr (Or.inr (Or.inr waits))

end Step

/-! ## The one alarm -/

/-- A pipeline whose timer is watched. -/
def Watched (pipeline : Pipeline α) : Prop :=
  ∃ waiting, pipeline.timer.Tracks waiting ∧
    Watch pipeline.stage pipeline.agenda pipeline.chronicle waiting

section Reachable

variable {config : Config} {setup : Setup α} {pipeline : Pipeline α}

theorem timer_opening (made : opening? config setup = .ok pipeline) :
    pipeline.timer = { style := setup.style } := by
  rw [opening?] at made
  split at made <;> cases made
  rfl

theorem watched_opening (made : opening? config setup = .ok pipeline) : Watched pipeline := by
  obtain ⟨_, stage_eq, agenda_eq, _⟩ := opening?_eq_ok made
  rw [Watched, stage_eq, agenda_eq, timer_opening made]
  exact ⟨[], ⟨rfl, List.Pairwise.nil, List.forall_mem_nil _, rfl⟩, .opening config⟩

/-- What every step of a timer preserves holds of the timer of every reachable pipeline. -/
theorem Reachable.preserve_timer (reachable : Reachable config setup pipeline)
    (holds : Timer UInt64 → Prop) (start : holds { style := setup.style })
    (steps : ∀ (pipeline : Pipeline α) timer, TimerStep pipeline timer → holds pipeline.timer →
      holds timer) : holds pipeline.timer := by
  obtain ⟨opening, made, later⟩ := reachable
  induction later with
  | here => rwa [timer_opening made]
  | @step last earlier ih =>
      cases agenda_eq : last.agenda with
      | nil => rwa [step_of_atRest (List.isEmpty_iff.mpr agenda_eq)]
      | cons task rest =>
          obtain ⟨stage, timer, events, tasks, effect, becomes⟩ := exists_step_effect agenda_eq
          rw [becomes.timer_eq]
          exact steps { last with agenda := rest } timer effect.timerStep ih
  | begin _ _ _ ih => exact ih

theorem Reachable.style_eq (reachable : Reachable config setup pipeline) :
    pipeline.timer.style = setup.style :=
  reachable.preserve_timer (fun timer => timer.style = setup.style) rfl
    fun _ _ turn same => turn.style_eq.trans same

/-- A timer that was shut down has no alarms. -/
theorem Reachable.queue_of_isShutDown (reachable : Reachable config setup pipeline)
    (down : pipeline.timer.isShutDown = true) : pipeline.timer.queue = [] :=
  reachable.preserve_timer (fun timer => timer.isShutDown = true → timer.queue = []) (fun _ => rfl)
    (fun _ _ turn dropped => turn.dropped dropped) down

/-- As long as a stage is held and its own timer open, the timer is watched. -/
theorem Reachable.watched (reachable : Reachable config setup pipeline)
    (attached : setup.detached = false) (held : pipeline.alive = true)
    (isOpen : pipeline.timer.isShutDown = false) : Watched pipeline := by
  obtain ⟨opening, made, later⟩ := reachable
  -- A stage that is held was held before, and so was the timer open.
  induction later with
  | here => exact watched_opening made
  | @step last earlier ih =>
      have before : Reachable config setup last := ⟨opening, made, earlier⟩
      cases agenda_eq : last.agenda with
      | nil =>
          rw [step_of_atRest (List.isEmpty_iff.mpr agenda_eq)] at held isOpen ⊢
          exact ih held isOpen
      | cons task rest =>
          obtain ⟨stage, timer, events, tasks, effect, becomes, same⟩ :=
            exists_held_effect agenda_eq held
          rw [becomes.timer_eq] at isOpen
          have alive : last.alive = true := alive_of_step held
          obtain ⟨waiting, tracks, watch⟩ := ih alive (effect.timerStep.isOpen isOpen)
          have steady := before.steady
          have own : last.detached = false :=
            (congrArg Nature.detached before.nature_eq).trans attached
          rw [agenda_eq] at watch steady
          rw [Watched, becomes.stage_eq, becomes.timer_eq, becomes.agenda_eq, becomes.chronicle_eq]
          exact watch.step tracks steady own alive effect same isOpen
  | @begin last earlier rest action ih =>
      obtain ⟨waiting, tracks, watch⟩ := ih held isOpen
      rw [List.isEmpty_iff.mp rest] at watch
      rw [Watched, agenda_begin_of_atRest rest]
      exact ⟨waiting, tracks, watch.begin action⟩

/-- Nobody sets an alarm for a stage that is gone. -/
theorem Effect.tracks_of_gone {task : Task α} {stage : Stage α} {timer : Timer UInt64}
    {events : List (Event α)} {tasks : List (Task α)}
    (effect : Effect pipeline task stage timer events tasks) (outside : isOutside task = true)
    (gone : pipeline.alive = false) (tracks : pipeline.timer.Tracks [])
    (empty : cleared pipeline.stage = pipeline.stage) (isOpen : timer.isShutDown = false) :
    timer.Tracks [] := by
  cases effect with
  | free aside inert allFree => exact tracks
  | swept aside _ =>
      rw [idleTimer_of_cleared empty]
      exact tracks
  | timerClosed => cases isOpen
  | clockSet idle => exact tracks.setClock _
  | alarmPassedOver due cancelled =>
      obtain ⟨_, _, _, ⟨_, kept, _⟩ | ⟨live, _⟩⟩ := tracks.takeDue due
      · exact kept
      · cases cancelled.symm.trans live
  | alarmFiredLate due live _ =>
      obtain ⟨_, _, _, ⟨cancelled, _⟩ | ⟨_, others, impossible, _⟩⟩ := tracks.takeDue due
      · cases live.symm.trans cancelled
      · cases impossible
  | alarmFired due live held => cases gone.symm.trans held
  | _ => cases outside

theorem Reachable.tracks_of_gone (reachable : Reachable config setup pipeline)
    (attached : setup.detached = false) (gone : pipeline.alive = false)
    (isOpen : pipeline.timer.isShutDown = false) : pipeline.timer.Tracks [] := by
  obtain ⟨opening, made, later⟩ := reachable
  induction later with
  | here =>
      rw [opening?] at made
      split at made <;> cases made
      cases gone
  | @step last earlier ih =>
      have before : Reachable config setup last := ⟨opening, made, earlier⟩
      have after : Reachable config setup last.step := ⟨opening, made, earlier.step⟩
      cases agenda_eq : last.agenda with
      | nil =>
          rw [step_of_atRest (List.isEmpty_iff.mpr agenda_eq)] at gone isOpen ⊢
          exact ih gone isOpen
      | cons task rest =>
          obtain ⟨stage, timer, events, tasks, effect, becomes⟩ := exists_step_effect agenda_eq
          have openAfter : timer.isShutDown = false := becomes.timer_eq ▸ isOpen
          have openBefore : last.timer.isShutDown = false := effect.timerStep.isOpen openAfter
          cases held : last.alive with
          | false =>
              have outside := before.held.isOutside held
              rw [agenda_eq] at outside
              rw [becomes.timer_eq]
              exact effect.tracks_of_gone (outside task List.mem_cons_self) held
                (ih held openBefore) (before.cleared_of_gone held) openAfter
          | true =>
              -- The stage was swept, and no part of a call is left that could set an alarm.
              obtain ⟨waiting, tracks, watch⟩ := before.watched attached held openBefore
              have outside := after.held.isOutside gone
              rw [becomes.agenda_eq, List.forall_mem_append] at outside
              rw [step_of_agenda agenda_eq] at gone
              have lost : isOutside task = true := by
                by_contra inside
                have same : ({ last with agenda := rest }.perform task).ownership =
                    last.ownership := ownership_perform (Bool.eq_false_iff.mpr inside)
                cases gone.symm.trans ((alive_eq_of_ownership same).trans held)
              have unarmed : ∀ task ∈ last.agenda, task.isArming = false := by
                have outer : ∀ {task : Task α}, isOutside task = true → task.isArming = false := by
                  intro task outside
                  cases task <;> first | rfl | cases outside
                rw [agenda_eq]
                exact List.forall_mem_cons.mpr
                  ⟨outer lost, fun task member => outer (outside.2 task member)⟩
              have still : { last with agenda := rest }.alive = true := held
              rw [step_of_agenda agenda_eq, (swept_of_gone still gone).2]
              exact tracks_idleTimer tracks (watch.alarm_eq unarmed)
  | begin earlier rest action ih => exact ih gone isOpen

/-- Where no call of the stage is under way and no alarm is about to call it, a stage that works
waits for the alarm of its generation and has its token. -/
theorem Reachable.exists_alarm (reachable : Reachable config setup pipeline)
    (simulated : setup.style = .simulated) (attached : setup.detached = false)
    (held : pipeline.alive = true) (isOpen : pipeline.timer.isShutDown = false)
    (idle : pipeline.isIdle = true) (subscribed : pipeline.stage.producer.isSome = true)
    (active : pipeline.stage.status = .active)
    (started : ¬IsStarting pipeline.stage pipeline.agenda pipeline.chronicle) :
    ∃ alarm, pipeline.timer.Keeps [alarm] ∧ pipeline.stage.alarm = some alarm.token ∧
      alarm.task = pipeline.stage.generation := by
  have free := List.all_eq_true.mp idle
  have resting := (reachable.inOrder.resting_of_isIdle idle).2
  have unarmed : ∀ task ∈ pipeline.agenda, task.isArming = false :=
    fun task member => Task.isArming_of_isCalm (Task.isCalm_of_isFree (free task member))
  obtain ⟨waiting, tracks, watch⟩ := reachable.watched attached held isOpen
  have set : pipeline.stage.alarm ≠ none := by
    rcases watch.tended active subscribed with set | ⟨task, member, decides⟩ | coming | waits
    · exact set
    · rw [Task.isDeciding_of_isFree (free task member)] at decides
      cases decides
    · cases free _ coming
    · rw [resting] at waits
      cases waits
  obtain ⟨token, token_eq⟩ := Option.ne_none_iff_exists'.mp set
  have awake : waiting ≠ [] := by
    rcases watch.awake active ⟨token, Or.inl token_eq⟩ with some | ticks | starting
    · exact some
    · rw [resting] at ticks
      cases ticks
    · exact absurd starting started
  obtain ⟨alarm, others, rfl⟩ := List.exists_cons_of_ne_nil awake
  obtain ⟨rfl, task_eq, _⟩ := watch.single alarm others rfl
  have keeps : pipeline.timer.Keeps [alarm] := ⟨tracks, reachable.style_eq.trans simulated⟩
  exact ⟨alarm, keeps, watch.alarm_eq unarmed alarm List.mem_cons_self, task_eq⟩

/-- A pipeline in which no call of the stage is under way waits for one alarm while the stage works,
and for none otherwise. -/
structure OneAlarm (pipeline : Pipeline α) : Prop where
  /-- The one alarm is that of the current generation, and the stage has its token. An alarm that
  was started last is about to call the stage. -/
  active : pipeline.alive = true → pipeline.stage.producer.isSome = true →
    pipeline.stage.status = .active → pipeline.chronicle.getLast? ≠ some .fired →
      ∃ alarm, (pipeline.timer.queue.filter fun alarm =>
          !pipeline.timer.isCancelled alarm.token) = [alarm] ∧
        pipeline.stage.alarm = some alarm.token ∧ alarm.task = pipeline.stage.generation
  ended : pipeline.stage.status ≠ .active → pipeline.timer.pending = 0
  gone : pipeline.alive = false → pipeline.timer.pending = 0

theorem pending_of_tracks {timer : Timer UInt64} {waiting : List (Alarm UInt64)}
    (tracks : timer.Tracks waiting) : timer.pending = waiting.length := by
  rw [Timer.pending, List.countP_eq_length_filter, tracks.waiting_eq]

/-- Where no call of the stage is under way, a stage that works waits for one alarm, and a stage
that does not for none. -/
theorem Reachable.oneAlarm (reachable : Reachable config setup pipeline)
    (simulated : setup.style = .simulated) (attached : setup.detached = false)
    (isOpen : pipeline.timer.isShutDown = false) (idle : pipeline.isIdle = true) :
    OneAlarm pipeline := by
  have lost := reachable.tracks_of_gone attached
  constructor
  case active =>
    intro held subscribed active started
    obtain ⟨alarm, keeps, token_eq, task_eq⟩ := reachable.exists_alarm simulated attached held
      isOpen idle subscribed active fun starting => started starting.1
    exact ⟨alarm, keeps.live_eq, token_eq, task_eq⟩
  case ended =>
    intro ended
    cases held : pipeline.alive with
    | false => exact pending_of_tracks (lost held isOpen)
    | true =>
        obtain ⟨waiting, tracks, watch⟩ := reachable.watched attached held isOpen
        rcases watch.ended ended with rfl | waits | coming
        · exact pending_of_tracks tracks
        · rw [(reachable.inOrder.resting_of_isIdle idle).2] at waits
          cases waits
        · cases List.all_eq_true.mp idle _ coming
  case gone => exact fun held => pending_of_tracks (lost held isOpen)

end Reachable

/-- The alarm is started in the middle of the call that sets it, before the stage has its token. -/
theorem oneAlarm_of_alarm_started_early :
    ∃ pipeline : Pipeline Nat,
      Reachable ⟨2, .ofMillis 10, .unbounded⟩
        { reactions := fun kind earlier =>
            if kind = .schedule ∧ earlier = 0 then [.advance (.ofMillis 10)] else [] }
        pipeline ∧
      pipeline.timer.now = .ofMillis 10 ∧ pipeline.stage.batch = [1] ∧
      pipeline.timer.pending = 1 ∧ pipeline.stage.alarm = some ⟨1⟩ ∧ OneAlarm pipeline := by
  have start : @Reachable Nat ⟨2, .ofMillis 10, .unbounded⟩
      { reactions := fun kind earlier =>
          if kind = .schedule ∧ earlier = 0 then [.advance (.ofMillis 10)] else [] } _ :=
    Reachable.of_opening rfl
  have subscribed := start.act rfl .subscribe 40
  have pushed := subscribed.act rfl (.next [1]) 10
  exact ⟨_, pushed, rfl, rfl, rfl, rfl, Reachable.oneAlarm pushed rfl rfl rfl rfl⟩

end Pipeline

end TimedBatch
