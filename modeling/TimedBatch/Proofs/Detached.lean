import TimedBatch.Proofs.Generations

/-!
# Alarms that cannot be cancelled

Where cancellation fails, every alarm of an earlier generation starts nevertheless, and its tick is
worked off without a consequence. A pipeline is trimmed by dropping all alarms and ticks but those
of the current generation. A pipeline gets from one step of the trimmed pipeline to the next one,
with some more steps in between for the dead alarms; so two pipelines that are trimmed to the same
one are seen to do the same.
-/

namespace TimedBatch

variable {α : Type}

theorem Task.breaks_pruned (task : Task α) : task.pruned.breaks = task.breaks := by
  cases task with
  | answered outcome handOff => cases outcome <;> rfl
  | _ => rfl

namespace Pipeline

/-! ## Trimmed pipelines -/

/-- The generation whose alarm is live, as long as the stage goes on. -/
def current (pipeline : Pipeline α) (generation : UInt64) : Bool :=
  pipeline.isGoing && generation == pipeline.stage.generation

/-- A pipeline without dead alarms and ticks. -/
def trimmed (pipeline : Pipeline α) : Pipeline α :=
  pipeline.pruned pipeline.current

section Trimmed

variable {live : UInt64 → Bool} {pipeline other : Pipeline α}

theorem isGoing_pruned (live : UInt64 → Bool) (pipeline : Pipeline α) :
    (pipeline.pruned live).isGoing = pipeline.isGoing := by
  have calm_eq : (pipeline.agenda.map Task.pruned).all (fun task => !task.breaks) =
      pipeline.agenda.all fun task => !task.breaks := by
    rw [List.all_map]
    exact congrArg _ (funext fun task => congrArg not task.breaks_pruned)
  exact congrArg (pipeline.alive && pipeline.stage.isActive && ·) calm_eq

theorem Agree.isGoing_eq (agree : Agree live pipeline other) :
    pipeline.isGoing = other.isGoing :=
  agree.view isGoing (isGoing_pruned live)

theorem Agree.current_eq (agree : Agree live pipeline other) :
    pipeline.current = other.current := by
  funext generation
  rw [current, current, agree.isGoing_eq, agree.generation_eq]

theorem Agree.trimmed_eq (agree : Agree live pipeline other)
    (narrower : ∀ generation, pipeline.current generation = true → live generation = true) :
    pipeline.trimmed = other.trimmed := by
  rw [trimmed, trimmed, ← agree.current_eq]
  exact agree.narrow narrower

theorem current_eq_true_iff {generation : UInt64} : pipeline.current generation = true ↔
    pipeline.isGoing = true ∧ generation = pipeline.stage.generation := by
  rw [current, Bool.and_eq_true, beq_iff_eq]

end Trimmed

/-! ## Dead ticks -/

section Dead

variable {live : UInt64 → Bool} {pipeline : Pipeline α} {generation : UInt64}

theorem agree_note (live : UInt64 → Bool) (pipeline : Pipeline α) (event : Event α)
    (ticking : event.isTicking = true) : Agree live (pipeline.note event) pipeline := by
  rw [Agree, Pipeline.pruned, note, List.filter_cons_of_neg (by rw [ticking]; decide)]
  rfl

theorem agree_withStage {stage : Stage α}
    (same : stage.pruned live = pipeline.stage.pruned live) :
    Agree live (pipeline.withStage stage) pipeline :=
  (Agree.refl live pipeline).withStage same

theorem not_isLive_tick (dead : live generation = false) :
    ¬(Signal.tick generation : Signal α).isLive live = true := by
  rw [Signal.isLive, dead]
  exact Bool.false_ne_true

theorem agree_pop {rest : List (Signal α)} (dead : live generation = false)
    (first : pipeline.stage.signals = .tick generation :: rest) :
    Agree live (pipeline.withStage { pipeline.stage with signals := rest }) pipeline := by
  refine agree_withStage ?_
  rw [Stage.pruned, Stage.pruned, first, List.filter_cons_of_neg (not_isLive_tick dead)]

theorem agree_queued (dead : live generation = false) (busy : pipeline.stage.work ≠ 0) :
    Agree live (pipeline.withStage (queued pipeline.stage (.tick generation))) pipeline := by
  have work_eq : min (pipeline.stage.work + 1) 1 = min pipeline.stage.work 1 := by
    omega
  refine agree_withStage ?_
  rw [Stage.pruned, Stage.pruned, queued, List.filter_append,
    List.filter_cons_of_neg (not_isLive_tick dead), List.filter_nil, List.append_nil, work_eq]

/-- The tick of another generation, or of a stage that has ended, changes nothing. -/
theorem endSpan_of_dead
    (dead : pipeline.stage.status = .active → generation ≠ pipeline.stage.generation) :
    pipeline.endSpan generation = pipeline ∨ ∃ line, line.isStaleTick = true ∧
      pipeline.endSpan generation = pipeline.note (.log line) := by
  by_cases active : pipeline.stage.status = .active
  · refine Or.inr ⟨staleTickLine generation pipeline.stage.generation, decide_eq_true rfl, ?_⟩
    rw [endSpan, if_pos (Stage.isActive_iff.mpr active), if_pos (dead active)]
  · refine Or.inl ?_
    rw [endSpan, if_neg (by rw [Stage.isActive_iff]; exact active)]

theorem workOff_of_all {missed : Nat} (nothing : pipeline.stage.signals = [])
    (all : pipeline.stage.work ≤ missed) :
    pipeline.workOff missed = pipeline.withStage { pipeline.stage with work := 0 } := by
  rw [workOff_of_nil nothing, Nat.sub_eq_zero_of_le all]
  rfl

/-- A dead tick in front of the queue is worked off without a consequence. -/
theorem workOff_of_dead {missed : Nat} {rest : List (Signal α)} (notLive : live generation = false)
    (dead : pipeline.stage.status = .active → generation ≠ pipeline.stage.generation)
    (first : pipeline.stage.signals = .tick generation :: rest) :
    Agree live (pipeline.workOff missed) (pipeline.todo [.workOff missed]) ∧
      (pipeline.workOff missed).stage = { pipeline.stage with signals := rest } ∧
      (pipeline.workOff missed).agenda = .workOff missed :: pipeline.agenda ∧
      (pipeline.workOff missed).timer = pipeline.timer := by
  let begun := ((pipeline.withStage { pipeline.stage with signals := rest }).note
    (.handled (.tick generation))).todo [.workOff missed]
  have begun_eq : pipeline.workOff missed = begun.endSpan generation :=
    workOff_of_cons first missed
  have agree : Agree live begun (pipeline.todo [.workOff missed]) :=
    ((agree_note live _ _ rfl).trans (agree_pop notLive first)).todo _
  have stillDead : begun.stage.status = .active → generation ≠ begun.stage.generation := dead
  rcases endSpan_of_dead stillDead with same | ⟨line, stale, noted⟩
  · rw [begun_eq, same]
    exact ⟨agree, rfl, rfl, rfl⟩
  · rw [begun_eq, noted]
    exact ⟨(agree_note live _ (.log line) stale).trans agree, rfl, rfl, rfl⟩

/-- Where more signals were announced in between, the account is made once more. -/
theorem workOff_of_more {missed : Nat} (live : UInt64 → Bool)
    (nothing : pipeline.stage.signals = []) (more : missed < pipeline.stage.work) :
    Agree live (pipeline.workOff missed) (pipeline.todo [.workOff missed]) ∧
      (pipeline.workOff missed).stage =
        { pipeline.stage with work := pipeline.stage.work - missed } ∧
      (pipeline.workOff missed).agenda =
        .workOff (pipeline.stage.work - missed) :: pipeline.agenda ∧
      (pipeline.workOff missed).timer = pipeline.timer := by
  have work_eq : min (pipeline.stage.work - missed) 1 = min pipeline.stage.work 1 := by
    omega
  have same : [Task.workOff (pipeline.stage.work - missed)].map Task.pruned =
      [(Task.workOff missed : Task α)].map Task.pruned := rfl
  have accounted : Agree live
      (pipeline.withStage { pipeline.stage with work := pipeline.stage.work - missed })
      pipeline := by
    refine agree_withStage ?_
    rw [Stage.pruned, Stage.pruned, work_eq]
  rw [workOff_of_nil nothing, if_neg (Nat.sub_ne_zero_of_lt more)]
  exact ⟨accounted.todo_of_pruned same, rfl, rfl, rfl⟩

/-- Whoever finds no signal in the queue accounts for the one that was announced, and lets go of the
stage. -/
theorem run_account (alive : pipeline.alive = true) (nothing : pipeline.stage.signals = [])
    (once : pipeline.stage.work = 1) :
    ((pipeline.hold []).todo [.workOff 1]).run 2 =
      pipeline.withStage { pipeline.stage with work := 0 } := by
  have accounted : (pipeline.hold []).workOff 1 =
      (pipeline.withStage { pipeline.stage with work := 0 }).hold [] := by
    have nothingHeld : (pipeline.hold []).stage.signals = [] := nothing
    exact workOff_of_all nothingHeld once.le
  rw [run_of_agenda rfl]
  change ((pipeline.hold []).workOff 1).run 1 = _
  rw [accounted, run_of_agenda rfl]
  exact sweep_of_alive alive

/-- A pipeline went on without a consequence. -/
structure Unheeded (live : UInt64 → Bool) (pipeline next : Pipeline α) : Prop where
  agree : Agree live next pipeline
  agenda_eq : next.agenda = pipeline.agenda
  timer_eq : next.timer = pipeline.timer

theorem Unheeded.refl (live : UInt64 → Bool) (pipeline : Pipeline α) :
    Unheeded live pipeline pipeline :=
  ⟨Agree.refl live pipeline, Eq.refl _, Eq.refl _⟩

theorem Unheeded.note {next : Pipeline α} (unheeded : Unheeded live pipeline next)
    {event : Event α} (ticking : event.isTicking = true) :
    Unheeded live pipeline (next.note event) where
  agree := (agree_note live next event ticking).trans unheeded.agree
  agenda_eq := unheeded.agenda_eq
  timer_eq := unheeded.timer_eq

theorem Unheeded.trans {next last : Pipeline α} (unheeded : Unheeded live pipeline next)
    (later : Unheeded live next last) : Unheeded live pipeline last where
  agree := later.agree.trans unheeded.agree
  agenda_eq := later.agenda_eq.trans unheeded.agenda_eq
  timer_eq := later.timer_eq.trans unheeded.timer_eq

theorem run_enter_tick (pipeline : Pipeline α) (generation : UInt64) (steps : Nat) :
    (pipeline.hold [.enter (.tick generation)]).run (steps + 1) =
      (((pipeline.note (.entered (.tick generation))).hold []).announce
        (.tick generation)).run steps := by
  rw [run_of_agenda rfl]
  rfl

/-- The tick of a dead alarm is left to whoever is at work. -/
theorem exists_unheeded_of_busy (notLive : live generation = false)
    (alive : pipeline.alive = true) (busy : pipeline.stage.work ≠ 0) :
    ∃ steps, Unheeded live pipeline
      ((pipeline.hold [.enter (.tick generation)]).run steps) := by
  let entered := pipeline.note (.entered (.tick generation))
  let announced := (entered.withStage (queued pipeline.stage (.tick generation))).note
    (.announced (.tick generation))
  have announce_eq : (entered.hold []).announce (.tick generation) = announced.hold [] := by
    rw [announce]
    exact if_neg busy
  have left_eq : (pipeline.hold [.enter (.tick generation)]).run 2 = announced := by
    rw [run_enter_tick, announce_eq, run_of_agenda rfl]
    exact sweep_of_alive alive
  have queued : Agree live (entered.withStage (queued pipeline.stage (.tick generation)))
      entered := agree_queued notLive busy
  refine ⟨2, ?_, ?_, ?_⟩ <;> rw [left_eq]
  · exact (agree_note live _ (.announced (.tick generation)) rfl).trans
      (queued.trans (agree_note live _ (.entered (.tick generation)) rfl))
  · rfl
  · rfl

/-- Where nobody is at work, the tick of a dead alarm is worked off at once. -/
theorem exists_unheeded_of_idle (live : UInt64 → Bool) (alive : pipeline.alive = true)
    (idle : pipeline.stage.work = 0) (nothing : pipeline.stage.signals = [])
    (dead : pipeline.stage.status = .active → generation ≠ pipeline.stage.generation) :
    ∃ steps, Unheeded live pipeline
      ((pipeline.hold [.enter (.tick generation)]).run steps) := by
  let entered := pipeline.note (.entered (.tick generation))
  let announced := (entered.withStage (queued pipeline.stage (.tick generation))).note
    (.announced (.tick generation))
  let handled := (announced.withStage { announced.stage with signals := [] }).note
    (.handled (.tick generation))
  have announce_eq : (entered.hold []).announce (.tick generation) =
      (announced.hold []).todo [.workOff 1] := by
    rw [announce]
    exact if_pos idle
  have handle_eq : (announced.hold []).workOff 1 =
      ((handled.hold []).todo [.workOff 1]).endSpan generation := by
    have first : (announced.hold []).stage.signals = [.tick generation] :=
      congrArg (· ++ [Signal.tick generation]) nothing
    exact workOff_of_cons first 1
  have stage_eq : { handled.stage with work := 0 } = pipeline.stage := by
    change { pipeline.stage with signals := [], work := 0 } = pipeline.stage
    rw [← nothing, ← idle]
  have settle : ∀ settled : Pipeline α, settled.alive = true → settled.stage = handled.stage →
      ((handled.hold []).todo [.workOff 1]).endSpan generation =
        (settled.hold []).todo [.workOff 1] →
      (pipeline.hold [.enter (.tick generation)]).run 4 = settled.withStage pipeline.stage := by
    intro settled held same spanned
    have once : settled.stage.work = 1 := by
      rw [same]
      exact congrArg (· + 1) idle
    rw [run_enter_tick, announce_eq, run_of_agenda rfl]
    change ((announced.hold []).workOff 1).run 2 = _
    rw [handle_eq, spanned, run_account held (by rw [same]; rfl) once, same, stage_eq]
  have unheeded : Unheeded live pipeline (handled.withStage pipeline.stage) :=
    (((Unheeded.refl live pipeline).note rfl).note rfl).note rfl
  have stillDead : ((handled.hold []).todo [.workOff 1]).stage.status = .active →
      generation ≠ ((handled.hold []).todo [.workOff 1]).stage.generation := dead
  refine ⟨4, ?_⟩
  rcases endSpan_of_dead stillDead with same | ⟨line, stale, noted⟩
  · rw [settle handled alive rfl same]
    exact unheeded
  · rw [settle (handled.note (.log line)) alive rfl noted]
    exact unheeded.note stale

/-- A dead alarm that starts calls the stage without a consequence. -/
theorem exists_unheeded (notLive : live generation = false) (alive : pipeline.alive = true)
    (resting : pipeline.stage.work = 0 → pipeline.stage.signals = [])
    (dead : pipeline.stage.work = 0 → pipeline.stage.status = .active →
      generation ≠ pipeline.stage.generation) :
    ∃ steps, Unheeded live pipeline
      ((pipeline.hold [.enter (.tick generation)]).run steps) := by
  by_cases idle : pipeline.stage.work = 0
  · exact exists_unheeded_of_idle live alive idle (resting idle) (dead idle)
  · exact exists_unheeded_of_busy notLive alive idle

end Dead

/-! ## Steps of a trimmed pipeline -/

section Follow

variable {config : Config} {setup : Setup α} {pipeline : Pipeline α} {task : Task α}
  {rest : List (Task α)}

theorem step_trimmed (agenda_eq : pipeline.agenda = task :: rest) :
    pipeline.trimmed.step =
      ({ pipeline with agenda := rest }.pruned pipeline.current).perform task.pruned := by
  have agenda_trimmed : pipeline.trimmed.agenda = task.pruned :: rest.map Task.pruned := by
    rw [trimmed, pruned, agenda_eq]
    rfl
  rw [step_of_agenda agenda_trimmed]
  rfl

/-- Where no alarm is set, no generation comes to life. -/
theorem current_of_step (tame : Tame config setup pipeline)
    (agenda_eq : pipeline.agenda = task :: rest) (other : ∀ handOff, task ≠ .setAlarm handOff)
    (generation : UInt64) (live : pipeline.step.current generation = true) :
    pipeline.current generation = true := by
  obtain ⟨going, rfl⟩ := current_eq_true_iff.mp live
  have goesOn := goesOn_of_isGoing tame.reachable.steady agenda_eq other going
  exact current_eq_true_iff.mpr ⟨goesOn.going, goesOn.generation_eq⟩

/-- A step follows that of the trimmed pipeline if it does the same to what is live. -/
theorem follow_of_agree (tame : Tame config setup pipeline)
    (agenda_eq : pipeline.agenda = task :: rest) (other : ∀ handOff, task ≠ .setAlarm handOff)
    (agree : Agree pipeline.current pipeline.step pipeline.trimmed.step) :
    pipeline.step.trimmed = pipeline.trimmed.step.trimmed :=
  agree.trimmed_eq (current_of_step tame agenda_eq other)

theorem follow_plain (tame : Tame config setup pipeline)
    (agenda_eq : pipeline.agenda = task :: rest) (plain : isPlainTask task = true) :
    pipeline.step.trimmed = pipeline.trimmed.step.trimmed := by
  refine follow_of_agree tame agenda_eq ?_ ?_
  · rintro handOff rfl
    cases plain
  · rw [step_trimmed agenda_eq, step_of_agenda agenda_eq]
    exact (Agree.of_pruned _ _).perform plain

/-! ## Setting an alarm -/

/-- It does not matter which alarms and ticks are live, where none of them is left. -/
theorem pruned_congr {live fewer : UInt64 → Bool}
    (alarms : ∀ alarm ∈ pipeline.timer.queue, live alarm.task = fewer alarm.task)
    (ticks : ∀ generation, .tick generation ∈ pipeline.stage.signals →
      live generation = fewer generation) : pipeline.pruned live = pipeline.pruned fewer := by
  have queue_eq : (pipeline.timer.queue.filter fun alarm => live alarm.task) =
      pipeline.timer.queue.filter fun alarm => fewer alarm.task :=
    List.filter_congr alarms
  have signals_eq : pipeline.stage.signals.filter (Signal.isLive live) =
      pipeline.stage.signals.filter (Signal.isLive fewer) := by
    refine List.filter_congr fun signal member => ?_
    cases signal with
    | tick generation => exact ticks generation member
    | _ => rfl
  rw [pruned, pruned, Stage.pruned, Stage.pruned, Timer.pruned, Timer.pruned, queue_eq, signals_eq]

theorem pruned_withAlarm {live : UInt64 → Bool}
    (none : ∀ alarm ∈ pipeline.timer.queue, live alarm.task = false) (deadline : Duration)
    (own : CancelToken) (register : CancelRegister) :
    (pipeline.withAlarm deadline own register).pruned live =
      { pipeline.pruned live with
        timer :=
          { pipeline.timer.pruned live with
            queue := if live pipeline.stage.generation then
              [⟨deadline, pipeline.timer.nextOrder, ⟨0⟩, pipeline.stage.generation⟩] else []
            nextOrder := pipeline.timer.nextOrder + 1 } } := by
  have queue_eq : (((Alarm.mk deadline pipeline.timer.nextOrder own
      pipeline.stage.generation).insert pipeline.timer.queue).filter
        fun alarm => live alarm.task).map Alarm.pruned =
      if live pipeline.stage.generation then
        [⟨deadline, pipeline.timer.nextOrder, ⟨0⟩, pipeline.stage.generation⟩] else [] := by
    rw [Alarm.filter_insert none, List.filter_cons]
    split <;> rfl
  rw [pruned, Timer.pruned, withAlarm]
  dsimp only
  rw [queue_eq]
  rfl

/-- A new alarm is the only live one, before and after a pipeline is pruned. -/
theorem agree_withAlarm {live : UInt64 → Bool}
    (none : ∀ alarm ∈ pipeline.timer.queue, live alarm.task = false) (deadline : Duration)
    (own other : CancelToken) (register next : CancelRegister) :
    Agree live (pipeline.withAlarm deadline own register)
      ((pipeline.pruned live).withAlarm deadline other next) := by
  have noneLeft : ∀ alarm ∈ (pipeline.pruned live).timer.queue, live alarm.task = false := by
    intro alarm member
    obtain ⟨before, kept, rfl⟩ := List.mem_map.mp member
    exact none before (List.mem_filter.mp kept).1
  have agree : (pipeline.pruned live).pruned live = pipeline.pruned live :=
    (Agree.of_pruned live pipeline).symm
  have timer_eq : (pipeline.timer.pruned live).pruned live = pipeline.timer.pruned live :=
    Timer.pruned_pruned (fun _ kept => kept) pipeline.timer
  rw [Agree, pruned_withAlarm none, pruned_withAlarm noneLeft, agree, ← timer_eq]
  rfl

theorem current_of_breaks (member : task ∈ pipeline.agenda) (breaks : task.breaks = true)
    (generation : UInt64) : pipeline.current generation = false := by
  by_contra live
  have going := (current_eq_true_iff.mp (Bool.eq_true_of_not_eq_false live)).1
  cases breaks.symm.trans ((isGoing_iff.mp going).2.2 task member)

theorem current_of_ne {generation : UInt64} (other : generation ≠ pipeline.stage.generation) :
    pipeline.current generation = false := by
  by_contra live
  exact other (current_eq_true_iff.mp (Bool.eq_true_of_not_eq_false live)).2

section SetAlarm

variable {handOff : Option (HandOff α)} {live : UInt64 → Bool}

theorem trimmed_setAlarm_of_error {rejection : TimerRejection}
    (asked : pipeline.verdict = .error rejection) :
    (pipeline.setAlarm handOff).trimmed = ((pipeline.pruned live).setAlarm handOff).trimmed := by
  have askedPruned : (pipeline.pruned live).verdict = .error rejection := asked
  have agree := (Agree.of_pruned live pipeline).todo
    [.call (.schedule pipeline.stage.config.timeSpan false), .answered (.error rejection) handOff]
  rw [setAlarm_of_error asked, setAlarm_of_error askedPruned]
  refine agree.trimmed_eq fun generation isLive => ?_
  have refused : Task.answered (.error rejection) handOff ∈
      (pipeline.todo [.call (.schedule pipeline.stage.config.timeSpan false),
        .answered (.error rejection) handOff]).agenda :=
    List.mem_cons_of_mem _ List.mem_cons_self
  cases (current_of_breaks refused rfl generation).symm.trans isLive

/-- A new alarm is the only one that comes to life, where nothing of its generation is to come. -/
theorem trimmed_setAlarm_of_ok {deadline : Duration} {agenda : List (Task α)}
    (asked : pipeline.verdict = .ok deadline) (dead : ∀ generation, live generation = false)
    (none : toCome pipeline.stage pipeline.timer agenda pipeline.stage.generation = 0) :
    (pipeline.setAlarm handOff).trimmed = ((pipeline.pruned live).setAlarm handOff).trimmed := by
  have askedPruned : (pipeline.pruned live).verdict = .ok deadline := asked
  obtain ⟨token, own, register, next_eq, _⟩ := exists_setAlarm asked handOff
  obtain ⟨answer, other, others, pruned_eq, _⟩ := exists_setAlarm askedPruned handOff
  rw [toCome, Nat.add_eq_zero_iff, Nat.add_eq_zero_iff, List.countP_eq_zero,
    List.countP_eq_zero] at none
  let next := (pipeline.withAlarm deadline own register).todo
    [.call (.schedule pipeline.stage.config.timeSpan true), .answered (.ok token) handOff]
  have noAlarm : ∀ alarm ∈ pipeline.timer.queue, next.current alarm.task = false :=
    fun alarm member => current_of_ne fun same => none.1.1 alarm member (beq_iff_eq.mpr same)
  have noTick : ∀ generation, .tick generation ∈ pipeline.stage.signals →
      next.current generation = false :=
    fun generation member => current_of_ne fun same => none.1.2 _ member (beq_iff_eq.mpr same)
  have same : pipeline.pruned live = pipeline.pruned next.current :=
    pruned_congr (fun alarm member => (dead _).trans (noAlarm alarm member).symm)
      fun generation member => (dead _).trans (noTick generation member).symm
  rw [pruned_eq, next_eq, same]
  refine Agree.trimmed_eq ?_ fun _ isLive => isLive
  exact (agree_withAlarm noAlarm deadline own other register others).todo_of_pruned rfl

theorem follow_setAlarm (tame : Tame config setup pipeline)
    (agenda_eq : pipeline.agenda = .setAlarm handOff :: rest)
    (bound : pipeline.step.timer.nextOrder < 2 ^ 64) :
    pipeline.step.trimmed = pipeline.trimmed.step.trimmed := by
  obtain ⟨count, fit⟩ := tame.fit
  have asks : .setAlarm handOff ∈ pipeline.agenda := agenda_eq ▸ List.mem_cons_self
  have dead := current_of_breaks asks rfl
  rw [nextOrder_step_of_setAlarm agenda_eq] at bound
  rw [step_trimmed agenda_eq, step_of_agenda agenda_eq]
  cases asked : pipeline.verdict with
  | error rejection => exact trimmed_setAlarm_of_error asked
  | ok deadline =>
      rw [asked] at bound
      have fits : count < 2 ^ 64 := Nat.lt_of_le_of_lt (fit.asking handOff asks).1 bound
      exact trimmed_setAlarm_of_ok asked dead (fit.toCome_of_asking agenda_eq fits)

end SetAlarm

end Follow

/-! ## From one step of a trimmed pipeline to the next -/

/-- A pipeline gets to where one step of the trimmed pipeline leads. -/
def Follows (pipeline : Pipeline α) : Prop :=
  ∃ steps, (pipeline.step.run steps).trimmed = pipeline.trimmed.step.trimmed

section Follows

variable {config : Config} {setup : Setup α} {pipeline : Pipeline α} {task : Task α}
  {rest : List (Task α)}

theorem Follows.of_step (same : pipeline.step.trimmed = pipeline.trimmed.step.trimmed) :
    pipeline.Follows :=
  ⟨0, same⟩

/-- Steps that the trimmed pipeline does not take lead on to the one that it takes. -/
theorem Follows.of_run {steps : Nat} (follows : (pipeline.run steps).Follows)
    (busy : (pipeline.run steps).atRest = false)
    (same : (pipeline.run steps).trimmed.step = pipeline.trimmed.step) : pipeline.Follows := by
  obtain ⟨more, reached⟩ := follows
  have before : pipeline.atRest = false := by
    by_contra resting
    have atRest := Bool.eq_true_of_not_eq_false resting
    rw [run_of_atRest atRest, atRest] at busy
    cases busy
  refine ⟨steps + more, ?_⟩
  rw [← run_succ_of_busy before, Nat.add_assoc, run_add, run_succ_of_busy busy, reached, same]

theorem step_eq_run_one (agenda_eq : pipeline.agenda = task :: rest) :
    pipeline.step = pipeline.run 1 := by
  rw [run_succ_of_busy (busy_of_agenda agenda_eq), run]

/-! ### Working the queue off -/

section WorkOff

variable {missed : Nat}

/-- A live signal that is worked off is the first one of the trimmed pipeline, too. -/
theorem agree_workOff {live : UInt64 → Bool} {signal : Signal α} {behind : List (Signal α)}
    (isLive : signal.isLive live = true) (first : pipeline.stage.signals = signal :: behind) :
    Agree live (pipeline.workOff missed) ((pipeline.pruned live).workOff 1) := by
  have firstPruned : (pipeline.pruned live).stage.signals =
      signal :: behind.filter (Signal.isLive live) := by
    change pipeline.stage.signals.filter (Signal.isLive live) = _
    rw [first, List.filter_cons_of_pos isLive]
  have popped : Agree live (pipeline.withStage { pipeline.stage with signals := behind })
      ((pipeline.pruned live).withStage
        { (pipeline.pruned live).stage with signals := behind.filter (Signal.isLive live) }) :=
    (Agree.of_pruned live pipeline).withStage
      (Stage.pruned_pruned (fun _ kept => kept) { pipeline.stage with signals := behind }).symm
  have same : [Task.workOff missed].map Task.pruned =
      [(Task.workOff 1 : Task α)].map Task.pruned := rfl
  rw [workOff_of_cons first, workOff_of_cons firstPruned]
  exact ((popped.note _).todo_of_pruned same).handle signal

theorem follow_account (tame : Tame config setup pipeline)
    (agenda_eq : pipeline.agenda = .workOff missed :: rest)
    (nothing : pipeline.stage.signals = []) (all : pipeline.stage.work ≤ missed) :
    pipeline.step.trimmed = pipeline.trimmed.step.trimmed := by
  let popped := { pipeline with agenda := rest }
  have nothingPruned : (popped.pruned pipeline.current).stage.signals = [] := by
    change pipeline.stage.signals.filter _ = []
    rw [nothing]
    rfl
  have accounted : popped.workOff missed = _ := workOff_of_all nothing all
  refine follow_of_agree tame agenda_eq (fun _ => nofun) ?_
  rw [step_trimmed agenda_eq, step_of_agenda agenda_eq]
  change Agree _ (popped.workOff missed) ((popped.pruned pipeline.current).workOff 1)
  rw [accounted, workOff_of_all nothingPruned (Nat.min_le_right _ 1)]
  exact (Agree.of_pruned _ popped).change (fun stage => { stage with work := 0 }) fun _ => rfl

theorem follow_handled {signal : Signal α} {behind : List (Signal α)}
    (tame : Tame config setup pipeline) (agenda_eq : pipeline.agenda = .workOff missed :: rest)
    (first : pipeline.stage.signals = signal :: behind)
    (isLive : signal.isLive pipeline.current = true) :
    pipeline.step.trimmed = pipeline.trimmed.step.trimmed := by
  let popped := { pipeline with agenda := rest }
  have firstPopped : popped.stage.signals = signal :: behind := first
  refine follow_of_agree tame agenda_eq (fun _ => nofun) ?_
  rw [step_trimmed agenda_eq, step_of_agenda agenda_eq]
  exact agree_workOff isLive firstPopped

theorem todo_of_agenda (agenda_eq : pipeline.agenda = task :: rest) :
    { pipeline with agenda := rest }.todo [task] = pipeline := by
  rw [todo, List.singleton_append, ← agenda_eq]

/-- Where the work goes on after a step that does nothing to what is live, the trimmed pipeline does
not take that step. -/
theorem Follows.of_workOff {left : Nat} (tame : Tame config setup pipeline)
    (agenda_eq : pipeline.agenda = .workOff missed :: rest)
    (agree : Agree pipeline.current pipeline.step
      ({ pipeline with agenda := rest }.todo [.workOff missed]))
    (after_eq : pipeline.step.agenda = .workOff left :: rest)
    (follows : pipeline.step.Follows) : pipeline.Follows := by
  rw [todo_of_agenda agenda_eq] at agree
  have same := agree.trimmed_eq (current_of_step tame agenda_eq fun _ => nofun)
  rw [step_eq_run_one agenda_eq] at after_eq follows same
  exact follows.of_run (busy_of_agenda after_eq) (congrArg step same)

theorem follows_workOff (tame : Tame config setup pipeline) (tickless : Tickless setup.reactions)
    (agenda_eq : pipeline.agenda = .workOff missed :: rest)
    (bound : pipeline.timer.nextOrder < 2 ^ 64) : pipeline.Follows := by
  let popped := { pipeline with agenda := rest }
  have step_eq : pipeline.step = popped.workOff missed := step_of_agenda agenda_eq
  generalize signals_eq : pipeline.stage.signals = signals
  induction signals generalizing pipeline missed with
  | nil =>
      have nothing : popped.stage.signals = [] := signals_eq
      by_cases all : pipeline.stage.work ≤ missed
      · exact .of_step (follow_account tame agenda_eq nothing all)
      obtain ⟨agree, stage_eq, after_eq, timer_eq⟩ :=
        workOff_of_more pipeline.current nothing (Nat.lt_of_not_le all)
      rw [← step_eq] at agree stage_eq after_eq timer_eq
      have next := tame.step tickless (timer_eq ▸ bound)
      refine .of_workOff tame agenda_eq agree after_eq ?_
      exact .of_step (follow_account next after_eq
        ((congrArg Stage.signals stage_eq).trans nothing)
        (Nat.le_of_eq (congrArg Stage.work stage_eq)))
  | cons signal behind ih =>
      have first : popped.stage.signals = signal :: behind := signals_eq
      by_cases isLive : signal.isLive pipeline.current = true
      · exact .of_step (follow_handled tame agenda_eq first isLive)
      · cases signal with
        | tick generation =>
            have notLive : pipeline.current generation = false := Bool.eq_false_iff.mpr isLive
            have dead : pipeline.stage.status = .active →
                generation ≠ pipeline.stage.generation := by
              intro active same
              have going := isGoing_of_workOff tame.reachable.inOrder tame.reachable.held
                agenda_eq active
              exact isLive (current_eq_true_iff.mpr ⟨going, same⟩)
            have deadPopped : popped.stage.status = .active →
                generation ≠ popped.stage.generation := dead
            obtain ⟨agree, stage_eq, after_eq, timer_eq⟩ :=
              workOff_of_dead notLive deadPopped first
            rw [← step_eq] at agree stage_eq after_eq timer_eq
            have boundNext : pipeline.step.timer.nextOrder < 2 ^ 64 := timer_eq ▸ bound
            refine .of_workOff tame agenda_eq agree after_eq ?_
            exact ih (tame.step tickless boundNext) after_eq boundNext
              (step_of_agenda after_eq) (congrArg Stage.signals stage_eq)
        | _ => exact absurd rfl isLive

end WorkOff

/-! ### Moving the clock -/

section Advance

variable {instant : Duration} {alarm : Alarm UInt64} {next : Timer UInt64}

/-- The clock may be moved up to an instant before all deadlines, before it is moved further. -/
theorem advance_of_earlier {earlier : Duration}
    (later : ∀ alarm ∈ pipeline.timer.queue, earlier ≤ alarm.deadline) :
    { pipeline with
      timer := { pipeline.timer with now := max pipeline.timer.now earlier } }.advance instant =
      pipeline.advance instant := by
  have takeDue_eq :
      { pipeline.timer with now := max pipeline.timer.now earlier }.takeDue instant =
        pipeline.timer.takeDue instant := by
    rw [Timer.takeDue, Timer.takeDue]
    dsimp only
    split
    · rfl
    · rename_i alarm rest queue_eq
      have before : earlier ≤ alarm.deadline := later alarm (queue_eq ▸ List.mem_cons_self)
      have now_eq : max (max pipeline.timer.now earlier) alarm.deadline =
          max pipeline.timer.now alarm.deadline := by
        rw [Duration.le_def] at before
        refine Duration.ext ?_
        rw [Duration.nanos_max, Duration.nanos_max, Duration.nanos_max]
        omega
      rw [now_eq]
  rw [advance, advance, takeDue_eq]
  cases pipeline.timer.takeDue instant <;> rfl

/-- A dead alarm that is taken from the queue is none that the trimmed pipeline takes. -/
theorem step_trimmed_of_dead (tame : Tame config setup pipeline)
    (agenda_eq : pipeline.agenda = .advance instant :: rest)
    (due : pipeline.timer.takeDue instant = some (alarm, next))
    (dead : pipeline.current alarm.task = false) :
    { pipeline with timer := next }.trimmed.step = pipeline.trimmed.step := by
  let popped := { pipeline with agenda := rest }.pruned pipeline.current
  have passedAgenda : { pipeline with timer := next }.agenda = .advance instant :: rest := agenda_eq
  have before : pipeline.trimmed.step = popped.advance instant := step_trimmed agenda_eq
  have after : { pipeline with timer := next }.trimmed.step =
      { popped with timer := next.pruned pipeline.current }.advance instant :=
    step_trimmed passedAgenda
  have sorted := tame.reachable.sorted
  obtain ⟨_, others, queue_eq, next_eq⟩ := Timer.eq_of_takeDue due
  have queue_pruned : popped.timer.queue =
      (others.filter fun alarm => pipeline.current alarm.task).map Alarm.pruned := by
    change (pipeline.timer.queue.filter _).map _ = _
    rw [queue_eq, List.filter_cons_of_neg (by rw [dead]; exact Bool.false_ne_true)]
  have timer_eq : next.pruned pipeline.current =
      { popped.timer with now := max popped.timer.now alarm.deadline } := by
    rw [next_eq, Timer.pruned, ← queue_pruned]
    rfl
  rw [after, before, timer_eq]
  refine advance_of_earlier fun other member => ?_
  rw [queue_pruned] at member
  obtain ⟨kept, among, rfl⟩ := List.mem_map.mp member
  rw [queue_eq] at sorted
  have ordered : alarm.deadline ≤ kept.deadline :=
    List.rel_of_pairwise_cons sorted (List.mem_filter.mp among).1
  exact ordered

/-- A dead alarm that is taken from the queue starts without a consequence. -/
theorem exists_skipped (tame : Tame config setup pipeline)
    (agenda_eq : pipeline.agenda = .advance instant :: rest)
    (due : pipeline.timer.takeDue instant = some (alarm, next))
    (dead : pipeline.current alarm.task = false) :
    ∃ steps, Unheeded pipeline.current { pipeline with timer := next } (pipeline.run steps) := by
  let passed := { pipeline with timer := next }
  have taken_eq : { passed with agenda := rest }.todo [.advance instant] = passed :=
    todo_of_agenda agenda_eq
  have step_eq : pipeline.step =
      if next.isCancelled alarm.token then passed
      else if passed.alive then (passed.note .fired).hold [.enter (.tick alarm.task)]
        else passed.note .fired := by
    rw [step_of_agenda agenda_eq, ← taken_eq]
    have duePopped : { pipeline with agenda := rest }.timer.takeDue instant = some (alarm, next) :=
      due
    exact advance_of_due duePopped
  have taken : Unheeded pipeline.current passed passed := .refl _ _
  split at step_eq
  · refine ⟨1, ?_⟩
    rw [← step_eq_run_one agenda_eq, step_eq]
    exact taken
  · split at step_eq
    · rename_i alive
      have order := tame.reachable.inOrder
      have notGoing : pipeline.stage.work = 0 → pipeline.stage.status = .active →
          alarm.task ≠ pipeline.stage.generation := by
        intro idle active same
        have going : pipeline.isGoing = true := isGoing_iff.mpr ⟨alive, active,
          fun task member => Task.breaks_of_isOuter (order.outer_of_idle idle task member)⟩
        exact Bool.eq_false_iff.mp dead (current_eq_true_iff.mpr ⟨going, same⟩)
      have held : (passed.note .fired).alive = true := alive
      obtain ⟨steps, unheeded⟩ := exists_unheeded dead held order.resting notGoing
      refine ⟨steps + 1, ?_⟩
      rw [run_succ_of_busy (busy_of_agenda agenda_eq), step_eq]
      exact (taken.note rfl).trans unheeded
    · refine ⟨1, ?_⟩
      rw [← step_eq_run_one agenda_eq, step_eq]
      exact taken.note rfl

/-- Where no alarm is due, none of the trimmed pipeline is. -/
theorem follow_setClock (tame : Tame config setup pipeline)
    (agenda_eq : pipeline.agenda = .advance instant :: rest)
    (idle : pipeline.timer.takeDue instant = none) :
    pipeline.step.trimmed = pipeline.trimmed.step.trimmed := by
  let popped := { pipeline with agenda := rest }
  have set : ∀ {next : Pipeline α}, next.timer.takeDue instant = none →
      next.advance instant = { next with timer := next.timer.setClock instant } := by
    intro next idle
    rw [advance, idle]
  have later := Timer.lt_of_takeDue tame.reachable.sorted idle
  have idlePruned : (popped.pruned pipeline.current).timer.takeDue instant = none := by
    refine Timer.takeDue_of_lt fun alarm member => ?_
    obtain ⟨before, kept, rfl⟩ := List.mem_map.mp member
    exact later before (List.mem_filter.mp kept).1
  refine follow_of_agree tame agenda_eq (by simp) ?_
  rw [step_trimmed agenda_eq, step_of_agenda agenda_eq]
  change Agree _ (popped.advance instant) ((popped.pruned pipeline.current).advance instant)
  have idlePopped : popped.timer.takeDue instant = none := idle
  rw [set idlePopped, set idlePruned]
  exact (Agree.of_pruned _ popped).map
    (fun next => { next with timer := next.timer.setClock instant }) fun _ => rfl

theorem takeDue_pruned {live : UInt64 → Bool} {timer : Timer UInt64}
    (due : timer.takeDue instant = some (alarm, next)) (isLive : live alarm.task = true) :
    (timer.pruned live).takeDue instant = some (alarm.pruned, next.pruned live) := by
  obtain ⟨onTime, others, queue_eq, rfl⟩ := Timer.eq_of_takeDue due
  have queue_pruned : (timer.pruned live).queue =
      alarm.pruned :: (others.filter fun alarm => live alarm.task).map Alarm.pruned := by
    simp [Timer.pruned, queue_eq, isLive]
  rw [Timer.takeDue, queue_pruned]
  exact if_pos onTime

/-- An alarm of the generation of a stage that goes on starts in the trimmed pipeline, too. -/
theorem follow_fired (tame : Tame config setup pipeline)
    (agenda_eq : pipeline.agenda = .advance instant :: rest)
    (due : pipeline.timer.takeDue instant = some (alarm, next))
    (isLive : pipeline.current alarm.task = true) :
    pipeline.step.trimmed = pipeline.trimmed.step.trimmed := by
  obtain ⟨count, fit⟩ := tame.fit
  obtain ⟨going, same⟩ := current_eq_true_iff.mp isLive
  have alive := (isGoing_iff.mp going).1
  obtain ⟨onTime, others, queue_eq, next_eq⟩ := Timer.eq_of_takeDue due
  have uncancelled : next.isCancelled alarm.token = false := by
    rw [next_eq]
    exact (fit.going going).uncancelled alarm (queue_eq ▸ List.mem_cons_self) same
  let popped := { pipeline with agenda := rest }
  let passed := { popped with timer := next }
  have fires : ∀ {before : Pipeline α} {alarm : Alarm UInt64} {next : Timer UInt64},
      before.timer.takeDue instant = some (alarm, next) → next.isCancelled alarm.token = false →
      before.alive = true →
      before.advance instant =
        (({ before with timer := next }.todo [.advance instant]).note .fired).hold
          [.enter (.tick alarm.task)] := by
    intro before alarm next due uncancelled alive
    rw [advance, due]
    dsimp only
    rw [uncancelled]
    exact if_pos alive
  have duePruned : (popped.pruned pipeline.current).timer.takeDue instant =
      some (alarm.pruned, next.pruned pipeline.current) :=
    takeDue_pruned due isLive
  refine follow_of_agree tame agenda_eq (by simp) ?_
  rw [step_trimmed agenda_eq, step_of_agenda agenda_eq]
  change Agree _ (popped.advance instant) ((popped.pruned pipeline.current).advance instant)
  have duePopped : popped.timer.takeDue instant = some (alarm, next) := due
  have alivePopped : popped.alive = true := alive
  rw [fires duePopped uncancelled alivePopped, fires duePruned rfl alivePopped]
  exact (((Agree.of_pruned pipeline.current passed).todo _).note .fired).hold _

theorem follows_advance (tame : Tame config setup pipeline) (tickless : Tickless setup.reactions)
    (agenda_eq : pipeline.agenda = .advance instant :: rest)
    (bound : pipeline.timer.nextOrder < 2 ^ 64) : pipeline.Follows := by
  generalize queue_eq : pipeline.timer.queue = queue
  induction queue generalizing pipeline with
  | nil =>
      refine .of_step (follow_setClock tame agenda_eq ?_)
      rw [Timer.takeDue, queue_eq]
  | cons first others ih =>
      cases due : pipeline.timer.takeDue instant with
      | none => exact .of_step (follow_setClock tame agenda_eq due)
      | some taken =>
          obtain ⟨alarm, next⟩ := taken
          cases isLive : pipeline.current alarm.task with
          | true => exact .of_step (follow_fired tame agenda_eq due isLive)
          | false =>
              obtain ⟨steps, agree, kept_eq, timer_eq⟩ := exists_skipped tame agenda_eq due isLive
              have after_eq := kept_eq.trans agenda_eq
              have narrower : ∀ generation, (pipeline.run steps).current generation = true →
                  pipeline.current generation = true := by
                intro generation live
                rwa [agree.current_eq] at live
              have same := step_trimmed_of_dead tame agenda_eq due isLive
              rw [← agree.trimmed_eq narrower] at same
              obtain ⟨_, rest, rest_eq, next_eq⟩ := Timer.eq_of_takeDue due
              obtain ⟨rfl, rfl⟩ := List.cons.inj (queue_eq.symm.trans rest_eq)
              rw [next_eq] at timer_eq
              have boundNext : (pipeline.run steps).timer.nextOrder < 2 ^ 64 := timer_eq ▸ bound
              have follows := ih (tame.run tickless boundNext) after_eq boundNext
                (congrArg Timer.queue timer_eq)
              exact follows.of_run (busy_of_agenda after_eq) same

end Advance

/-! ### Steps of any kind -/

theorem nextOrder_step_trimmed (pipeline : Pipeline α) :
    pipeline.trimmed.step.timer.nextOrder = pipeline.step.timer.nextOrder := by
  cases agenda_eq : pipeline.agenda with
  | nil =>
      have trimmed_eq : pipeline.trimmed.agenda = [] := congrArg (List.map Task.pruned) agenda_eq
      rw [step_of_atRest (List.isEmpty_iff.mpr agenda_eq),
        step_of_atRest (List.isEmpty_iff.mpr trimmed_eq)]
      rfl
  | cons task rest =>
      have trimmed_eq : pipeline.trimmed.agenda = task.pruned :: rest.map Task.pruned :=
        congrArg (List.map Task.pruned) agenda_eq
      by_cases sets : ∃ handOff, task = .setAlarm handOff
      · obtain ⟨handOff, rfl⟩ := sets
        rw [nextOrder_step_of_setAlarm agenda_eq, nextOrder_step_of_setAlarm trimmed_eq]
        rfl
      · have other := not_exists.mp sets
        rw [nextOrder_step_of_other agenda_eq other, nextOrder_step_of_other trimmed_eq ?_]
        · rfl
        · intro handOff same
          cases task with
          | setAlarm waiting => exact other waiting rfl
          | answered outcome waiting => cases outcome <;> cases same
          | _ => cases same

theorem follows_of_busy (tame : Tame config setup pipeline) (tickless : Tickless setup.reactions)
    (busy : pipeline.atRest = false) (bound : pipeline.step.timer.nextOrder < 2 ^ 64) :
    pipeline.Follows := by
  have before := Nat.lt_of_le_of_lt (nextOrder_le_step pipeline) bound
  cases agenda_eq : pipeline.agenda with
  | nil =>
      rw [atRest, agenda_eq] at busy
      cases busy
  | cons task rest =>
      cases task with
      | setAlarm handOff => exact .of_step (follow_setAlarm tame agenda_eq bound)
      | workOff missed => exact follows_workOff tame tickless agenda_eq before
      | advance instant => exact follows_advance tame tickless agenda_eq before
      | _ => exact .of_step (follow_plain tame agenda_eq rfl)

end Follows

/-! ## Two runs -/

section Runs

variable {config : Config} {setup otherSetup : Setup α} {pipeline other : Pipeline α}

theorem current_trimmed (pipeline : Pipeline α) : pipeline.trimmed.current = pipeline.current :=
  (Agree.of_pruned pipeline.current pipeline).current_eq.symm

theorem agree_of_trimmed_eq (same : pipeline.trimmed = other.trimmed) :
    Agree pipeline.current pipeline other := by
  have current_eq : pipeline.current = other.current := by
    rw [← current_trimmed pipeline, same, current_trimmed]
  rw [trimmed, trimmed, ← current_eq] at same
  exact same

theorem atRest_trimmed (pipeline : Pipeline α) : pipeline.trimmed.atRest = pipeline.atRest :=
  List.isEmpty_map

theorem atRest_eq (same : pipeline.trimmed = other.trimmed) : pipeline.atRest = other.atRest := by
  rw [← atRest_trimmed pipeline, same, atRest_trimmed]

theorem trimmed_begin_eq (same : pipeline.trimmed = other.trimmed) (action : Action α) :
    (pipeline.begin action).trimmed = (other.begin action).trimmed := by
  refine ((agree_of_trimmed_eq same).todo [.act action]).trimmed_eq fun generation live => ?_
  obtain ⟨going, same⟩ := current_eq_true_iff.mp live
  obtain ⟨alive, active, calm⟩ := isGoing_iff.mp going
  exact current_eq_true_iff.mpr ⟨isGoing_iff.mpr ⟨alive, active,
    fun task member => calm task (List.mem_cons_of_mem _ member)⟩, same⟩

/-- A run that comes to rest does so through any earlier moment of it. -/
theorem run_sub_of_atRest {steps : Nat} (atRest : (pipeline.run steps).atRest = true)
    (earlier : Nat) : (pipeline.run earlier).run (steps - earlier) = pipeline.run steps := by
  rcases Nat.le_total earlier steps with le | le
  · rw [← run_add, Nat.add_sub_cancel' le]
  · obtain ⟨more, rfl⟩ := Nat.exists_eq_add_of_le le
    rw [run_add, run_of_atRest atRest, run_of_atRest atRest]

/-- A pipeline comes to rest if another one does that is trimmed to the same one, and they are
trimmed to the same one again. -/
theorem exists_atRest (tame : Tame config setup pipeline) (tickless : Tickless setup.reactions)
    (tameOther : Tame config otherSetup other) (ticklessOther : Tickless otherSetup.reactions)
    (same : pipeline.trimmed = other.trimmed) {steps : Nat}
    (atRest : (pipeline.run steps).atRest = true)
    (bound : (pipeline.run steps).timer.nextOrder < 2 ^ 64) :
    ∃ more, (other.run more).atRest = true ∧
      (pipeline.run steps).trimmed = (other.run more).trimmed := by
  induction steps using Nat.strongRecOn generalizing pipeline other with
  | ind steps ih =>
      cases resting : pipeline.atRest with
      | true =>
          refine ⟨0, (atRest_eq same).symm.trans resting, ?_⟩
          rw [run_of_atRest resting]
          exact same
      | false =>
          cases steps with
          | zero => cases resting.symm.trans atRest
          | succ steps =>
              rw [run_succ_of_busy resting] at atRest bound ⊢
              have restingOther : other.atRest = false := (atRest_eq same).symm.trans resting
              have before := Nat.lt_of_le_of_lt (nextOrder_le_run pipeline.step steps) bound
              have beforeOther : other.step.timer.nextOrder < 2 ^ 64 := by
                rw [← nextOrder_step_trimmed, ← same, nextOrder_step_trimmed]
                exact before
              obtain ⟨first, reached⟩ := follows_of_busy tame tickless resting before
              obtain ⟨second, reachedOther⟩ :=
                follows_of_busy tameOther ticklessOther restingOther beforeOther
              let next := pipeline.step.run first
              let nextOther := other.step.run second
              have together : next.trimmed = nextOther.trimmed := by
                rw [reached, reachedOther, same]
              have run_eq : next.run (steps - first) = pipeline.step.run steps :=
                run_sub_of_atRest atRest first
              rw [← run_eq] at atRest bound ⊢
              have boundNext := Nat.lt_of_le_of_lt (nextOrder_le_run next (steps - first)) bound
              have boundOther : nextOther.timer.nextOrder < 2 ^ 64 := by
                rw [← (agree_of_trimmed_eq together).nextOrder_eq]
                exact boundNext
              obtain ⟨more, rests, reached⟩ := ih (steps - first)
                (Nat.lt_succ_of_le (Nat.sub_le _ _))
                ((tame.step tickless before).run tickless boundNext)
                ((tameOther.step ticklessOther beforeOther).run ticklessOther boundOther)
                together atRest bound
              refine ⟨second + more + 1, ?_⟩
              rw [run_succ_of_busy restingOther, run_add]
              exact ⟨rests, reached⟩

theorem InTurn.nextOrder_le {last : Pipeline α} {actions : List (Action α)}
    (turns : InTurn pipeline actions last) :
    pipeline.timer.nextOrder ≤ last.timer.nextOrder := by
  induction turns with
  | nil pipeline => exact Nat.le_refl _
  | @cons pipeline last action actions steps _ _ ih =>
      exact (nextOrder_le_run (pipeline.begin action) steps).trans ih

theorem exists_sameTurns (tame : Tame config setup pipeline) (tickless : Tickless setup.reactions)
    (tameOther : Tame config otherSetup other) (ticklessOther : Tickless otherSetup.reactions)
    (same : pipeline.trimmed = other.trimmed) (atRest : pipeline.atRest = true)
    {last : Pipeline α} {actions : List (Action α)}
    (ticklessActions : ∀ action ∈ actions, action.isTick = false)
    (turns : InTurn pipeline actions last) (bound : last.timer.nextOrder < 2 ^ 64) :
    ∃ lastOther, InTurn other actions lastOther ∧ last.trimmed = lastOther.trimmed := by
  induction turns generalizing other with
  | nil pipeline => exact ⟨other, .nil _, same⟩
  | @cons pipeline last action actions steps rests others ih =>
      have ⟨ticklessFirst, ticklessRest⟩ := List.forall_mem_cons.mp ticklessActions
      have begun := tame.begin atRest ticklessFirst
      have begunOther := tameOther.begin ((atRest_eq same).symm.trans atRest) ticklessFirst
      have before := Nat.lt_of_le_of_lt others.nextOrder_le bound
      obtain ⟨more, restsOther, together⟩ := exists_atRest begun tickless begunOther ticklessOther
        (trimmed_begin_eq same action) rests before
      have beforeOther : ((other.begin action).run more).timer.nextOrder < 2 ^ 64 := by
        rw [← (agree_of_trimmed_eq together).nextOrder_eq]
        exact before
      obtain ⟨lastOther, turnsOther, reached⟩ := ih (begun.run tickless before)
        (begunOther.run ticklessOther beforeOther) together rests ticklessRest bound
      exact ⟨lastOther, .cons more restsOther turnsOther, reached⟩

end Runs

/-! ## Cancellation makes no difference -/

/-- Two pipelines have seen the same, up to alarms that started, and stand the same. -/
structure SeenAlike (pipeline other : Pipeline α) : Prop where
  timeline_eq : pipeline.timeline.filter (fun entry => !entry.event.isTicking) =
    other.timeline.filter fun entry => !entry.event.isTicking
  now_eq : pipeline.timer.now = other.timer.now
  diagnostics_eq : pipeline.diagnostics = other.diagnostics
  information_eq : pipeline.information = other.information

theorem SeenAlike.of_trimmed_eq {pipeline other : Pipeline α}
    (same : pipeline.trimmed = other.trimmed) : SeenAlike pipeline other where
  timeline_eq := by
    have journal_eq : (pipeline.journal.filter fun entry => !entry.event.isTicking) =
        other.journal.filter fun entry => !entry.event.isTicking :=
      congrArg Pipeline.journal same
    rw [timeline, timeline, List.filter_reverse, List.filter_reverse, journal_eq]
  now_eq := (agree_of_trimmed_eq same).now_eq
  diagnostics_eq := (agree_of_trimmed_eq same).view Pipeline.diagnostics fun _ => rfl
  information_eq := (agree_of_trimmed_eq same).view Pipeline.information fun _ => rfl

/-- The collaborators were called alike: the consumer, the producers, the discard hook and the
timer. -/
theorem SeenAlike.outbound_eq {pipeline other : Pipeline α} (alike : SeenAlike pipeline other) :
    pipeline.chronicle.filterMap Event.outbound? = other.chronicle.filterMap Event.outbound? := by
  have seen : ∀ entries : List (Entry α),
      (entries.filter fun entry => !entry.event.isTicking).filterMap
        (fun entry => entry.event.outbound?) =
      (entries.map Entry.event).filterMap Event.outbound? := by
    intro entries
    rw [List.filterMap_filter, List.filterMap_map]
    refine List.filterMap_congr fun entry _ => ?_
    cases ticking : entry.event.isTicking with
    | false => rfl
    | true =>
        cases event_eq : entry.event with
        | called call =>
            rw [event_eq] at ticking
            cases ticking
        | _ => simp [event_eq, Event.outbound?]
  rw [← map_event_timeline, ← map_event_timeline, ← seen, ← seen, alike.timeline_eq]

theorem trimmed_opening_eq {config : Config} {setup : Setup α} {cancelling stray : Pipeline α}
    (made : opening? config { setup with detached := false } = .ok cancelling)
    (madeStray : opening? config { setup with detached := true } = .ok stray) :
    cancelling.trimmed = stray.trimmed := by
  rw [opening?] at made madeStray
  split at made <;> cases made
  rename_i sound
  rw [sound] at madeStray
  cases madeStray
  rfl

/-- Whether or not the tokens that the stage gets cancel its alarms, the same is seen of a run in
which nobody passes ticks by hand, and both come to rest or neither does. A timer numbers its alarms
in 64 bits; beyond that the numbers of generations would repeat, too. -/
theorem seenAlike_of_opening {config : Config} {setup : Setup α} {cancelling stray : Pipeline α}
    {actions : List (Action α)}
    (made : opening? config { setup with detached := false } = .ok cancelling)
    (madeStray : opening? config { setup with detached := true } = .ok stray)
    (tickless : Tickless setup.reactions)
    (ticklessActions : ∀ action ∈ actions, action.isTick = false) :
    (∀ last, InTurn cancelling actions last → last.timer.nextOrder < 2 ^ 64 →
      ∃ lastStray, InTurn stray actions lastStray ∧ SeenAlike last lastStray) ∧
    ∀ lastStray, InTurn stray actions lastStray → lastStray.timer.nextOrder < 2 ^ 64 →
      ∃ last, InTurn cancelling actions last ∧ SeenAlike last lastStray := by
  have same := trimmed_opening_eq made madeStray
  have tame := Tame.opening made
  have tameStray := Tame.opening madeStray
  have atRest : cancelling.atRest = true := by
    rw [atRest, (opening?_eq_ok made).2.2.1]
    rfl
  constructor
  · intro last turns bound
    obtain ⟨lastStray, turnsStray, reached⟩ :=
      exists_sameTurns tame tickless tameStray tickless same atRest ticklessActions turns bound
    exact ⟨lastStray, turnsStray, .of_trimmed_eq reached⟩
  · intro lastStray turnsStray bound
    obtain ⟨last, turns, reached⟩ := exists_sameTurns tameStray tickless tame tickless same.symm
      ((atRest_eq same).symm.trans atRest) ticklessActions turnsStray bound
    exact ⟨last, turns, .of_trimmed_eq reached.symm⟩

/-- A batch is closed by its size before its time is over, so an alarm that is not cancelled starts
in vain. -/
theorem seenAlike_of_superseded_alarm :
    ∃ last lastStray : Pipeline Nat,
      InTurn
        { stage := .opening ⟨2, .ofMillis 10, .unbounded⟩
          timer := {}
          reactions := fun kind _ => if kind = .subscribe then [.request 5] else [] }
        [.subscribe, .advance (.ofMillis 4), .next [1, 2, 3], .advance (.ofMillis 12)] last ∧
      InTurn
        { stage := .opening ⟨2, .ofMillis 10, .unbounded⟩
          timer := {}
          detached := true
          reactions := fun kind _ => if kind = .subscribe then [.request 5] else [] }
        [.subscribe, .advance (.ofMillis 4), .next [1, 2, 3], .advance (.ofMillis 12)] lastStray ∧
      last.chronicle.countP Event.isTicking = 4 ∧ lastStray.chronicle.countP Event.isTicking = 9 ∧
      lastStray.delivered = [[1, 2], [3]] ∧ SeenAlike last lastStray := by
  let setup : Setup Nat :=
    { reactions := fun kind _ => if kind = .subscribe then [.request 5] else [] }
  have tickless : Tickless setup.reactions := by
    intro kind earlier action member
    change action ∈ if kind = .subscribe then [.request 5] else [] at member
    split at member
    · rw [List.mem_singleton.mp member]
      rfl
    · cases member
  have made : ∀ detached, opening? ⟨2, .ofMillis 10, .unbounded⟩
      { setup with detached := detached } = .ok _ := fun _ => rfl
  have exists_turns : ∀ detached, ∃ last : Pipeline Nat,
      InTurn
        { stage := .opening ⟨2, .ofMillis 10, .unbounded⟩
          timer := {}
          detached := detached
          reactions := fun kind _ => if kind = .subscribe then [.request 5] else [] }
        [.subscribe, .advance (.ofMillis 4), .next [1, 2, 3], .advance (.ofMillis 12)] last ∧
      last.chronicle.countP Event.isTicking = (if detached then 9 else 4) ∧
      last.delivered = [[1, 2], [3]] ∧ last.timer.nextOrder < 2 ^ 64 := by
    intro detached
    refine ⟨_, .cons 40 ?_ (.cons 10 ?_ (.cons 40 ?_ (.cons 40 ?_ (.nil _)))), ?_, ?_, ?_⟩ <;>
      cases detached <;> decide +kernel
  obtain ⟨last, turns, ticks, _, bound⟩ := exists_turns false
  obtain ⟨lastStray, turnsStray, ticksStray, delivered_eq, _⟩ := exists_turns true
  obtain ⟨reached, turnsReached, alike⟩ :=
    (seenAlike_of_opening (made false) (made true) tickless (by decide)).1 last turns bound
  obtain rfl := turnsReached.unique turnsStray
  exact ⟨last, reached, turns, turnsStray, ticks, ticksStray, delivered_eq, alike⟩

end Pipeline

end TimedBatch
