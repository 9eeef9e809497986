import TimedBatch.Proofs.Frame

/-!
# Calls in the middle of calls

A call of the stage that is made while a signal is worked off only puts its signal into the queue.
So collaborators that call the stage in the middle of their calls achieve what the driver achieves
by making the same calls one after the other.

The proof lets both run side by side. Wherever the nested run works a signal off, the run in turn
works off the same signal of the call that it is at; all that differs is the ground on which the
work stands. Whatever the nested run does in between leaves the run in turn where it is.
-/

namespace TimedBatch

variable {α : Type}

namespace Pipeline

/-! ## One call -/

/-- A pipeline that has taken the signal of a call in and is about to work it off. -/
def pushed (pipeline : Pipeline α) (push : Push α) : Pipeline α :=
  pipeline.bare.onGround
    { signals := [push.signal]
      work := 1
      holders := pipeline.holders + 1
      reactions := pipeline.reactions
      agenda := [.workOff 1, .release]
      journal := ⟨pipeline.timer.now, .announced push.signal⟩ ::
        ⟨pipeline.timer.now, .entered push.call⟩ :: pipeline.journal }

structure Resting (pipeline : Pipeline α) : Prop where
  agenda_eq : pipeline.agenda = []
  signals_eq : pipeline.stage.signals = []
  work_eq : pipeline.stage.work = 0

theorem enter_push (pipeline : Pipeline α) (push : Push α) :
    pipeline.enter push.call = (pipeline.note (.entered push.call)).announce push.signal := by
  cases push <;> rfl

theorem act_push (pipeline : Pipeline α) (push : Push α) (owned : pipeline.owned = true) :
    pipeline.act push.action = pipeline.hold [.enter push.call] := by
  have held : ∀ tasks, pipeline.onStage tasks = pipeline.hold tasks := by
    intro tasks
    rw [onStage, if_pos owned]
  cases push <;> exact held _

/-- The first two tasks of a call at rest take its signal in. -/
theorem run_two (pipeline : Pipeline α) (push : Push α) (resting : Resting pipeline)
    (owned : pipeline.owned = true) :
    (pipeline.begin push.action).run 2 = pipeline.pushed push := by
  obtain ⟨agenda_eq, signals_eq, work_eq⟩ := resting
  obtain ⟨stage, timer, hook, detached, refusal, producers, subscribed, held, holders, calls,
    reactions, agenda, journal⟩ := pipeline
  obtain ⟨config, ledger, status, producer, signals, work, batch, generation, alarm⟩ := stage
  cases agenda_eq
  cases signals_eq
  cases work_eq
  cases owned
  cases push <;> rfl

/-! ## Steps on their ground -/

section Step

variable {pipeline : Pipeline α} {lower : List (Task α)}

theorem popped_eq (pipeline : Pipeline α) (lower : List (Task α)) :
    { pipeline with agenda := lower } =
      pipeline.bare.onGround { pipeline.ground with agenda := lower } :=
  rfl

theorem step_of_signal {signal : Signal α} {rest : List (Signal α)} {missed : Nat}
    (agenda_eq : pipeline.agenda = .workOff missed :: lower)
    (signals_eq : pipeline.stage.signals = signal :: rest) :
    pipeline.step =
      ((pipeline.bare.note (.handled signal)).handle signal).onGround
        { pipeline.ground with signals := rest } := by
  have worked : pipeline.step =
      ((pipeline.bare.note (.handled signal)).onGround
        { pipeline.ground with signals := rest }).handle signal := by
    have first : { pipeline with agenda := lower }.stage.signals = signal :: rest := signals_eq
    rw [step_of_agenda agenda_eq, perform, workOff_of_cons first]
    congr 1
    rw [ground, agenda_eq]
    rfl
  rw [worked, handle_onGround]

theorem step_of_work {task : Task α} (agenda_eq : pipeline.agenda = task :: lower)
    (work : isWork task = true) (silent : task.outbound? = none) :
    pipeline.step =
      (pipeline.bare.perform task).onGround { pipeline.ground with agenda := lower } := by
  rw [step_of_agenda agenda_eq, popped_eq, perform_onGround _ _ work silent]

theorem step_of_call {call : Outbound α} (agenda_eq : pipeline.agenda = .call call :: lower) :
    pipeline.step =
      (pipeline.bare.call call).onGround
        { pipeline.ground with
          agenda := (pipeline.reacts pipeline.ground call).map Task.act ++ lower } := by
  rw [step_of_agenda agenda_eq, popped_eq, perform, call_onGround]
  rfl

theorem step_of_account {missed : Nat} (agenda_eq : pipeline.agenda = .workOff missed :: lower)
    (signals_eq : pipeline.stage.signals = []) :
    pipeline.step =
      pipeline.bare.onGround
        { pipeline.ground with
          work := pipeline.stage.work - missed
          agenda :=
            if pipeline.stage.work - missed = 0 then lower
            else .workOff (pipeline.stage.work - missed) :: lower } := by
  have nothing : { pipeline with agenda := lower }.stage.signals = [] := signals_eq
  rw [step_of_agenda agenda_eq, perform, workOff_of_nil nothing]
  change Pipeline.todo _ (if pipeline.stage.work - missed = 0 then _ else _) = _
  split <;> rfl

theorem step_of_release (agenda_eq : pipeline.agenda = .release :: lower)
    (owned : pipeline.owned = true) :
    pipeline.step =
      pipeline.bare.onGround
        { pipeline.ground with holders := pipeline.holders - 1, agenda := lower } := by
  rw [step_of_agenda agenda_eq, perform, release, sweep]
  have held : alive { { pipeline with agenda := lower } with holders := pipeline.holders - 1 } := by
    rw [alive]
    change (pipeline.owned || _) = true
    rw [owned]
    rfl
  rw [if_pos held]
  rfl

theorem step_of_enter {push : Push α} (agenda_eq : pipeline.agenda = .enter push.call :: lower)
    (busy : pipeline.stage.work ≠ 0) :
    pipeline.step =
      pipeline.bare.onGround
        { pipeline.ground with
          signals := pipeline.stage.signals ++ [push.signal]
          work := pipeline.stage.work + 1
          agenda := lower
          journal := ⟨pipeline.timer.now, .announced push.signal⟩ ::
            ⟨pipeline.timer.now, .entered push.call⟩ :: pipeline.journal } := by
  rw [step_of_agenda agenda_eq, perform, enter_push, announce]
  exact if_neg busy

theorem exists_pushes {action : Action α} (isPush : action.isPush = true)
    (agenda_eq : pipeline.agenda = .act action :: lower) (owned : pipeline.owned = true) :
    ∃ pushes : List (Push α), pipeline.step =
      pipeline.bare.onGround
        { pipeline.ground with
          holders := pipeline.holders + 1
          agenda := pushes.map (fun push => .enter push.call) ++ .release :: lower } := by
  have held : ∀ pushes : List (Push α),
      Pipeline.onStage { pipeline with agenda := lower }
          (pushes.map fun push => .enter push.call) =
        pipeline.bare.onGround
          { pipeline.ground with
            holders := pipeline.holders + 1
            agenda := pushes.map (fun push => .enter push.call) ++ .release :: lower } := by
    intro pushes
    rw [onStage, if_pos owned, hold, todo, List.append_assoc]
    rfl
  rw [step_of_agenda agenda_eq, perform]
  cases action with
  | next items =>
      refine ⟨items.map .next, Eq.trans ?_ (held (items.map .next))⟩
      rw [act, List.map_map]
      rfl
  | error error => exact ⟨[.error error], held [.error error]⟩
  | complete => exact ⟨[.complete], held [.complete]⟩
  | tick generation => exact ⟨[.tick generation], held [.tick generation]⟩
  | _ => cases isPush

end Step

/-! ## Both runs side by side -/

/-- The journal without the record of what was passed to the stage. -/
def record (journal : List (Entry α)) : List (Entry α) :=
  journal.filter fun entry => !entry.event.isPassing

theorem record_append (later earlier : List (Entry α)) :
    record (later ++ earlier) = record later ++ record earlier :=
  List.filter_append _ _

/-- Two pipelines differ only in what lies beneath the work, and in what was passed to the stage. -/
structure Alike (nested flat : Pipeline α) : Prop where
  bare_eq : nested.bare = flat.bare
  record_eq : record nested.journal = record flat.journal

/-- The run in turn has come to rest after some calls. -/
structure Turned (first : Pipeline α) (done : List (Push α)) (flat : Pipeline α) : Prop where
  turns : InTurn first.quiet (done.map Push.action) flat
  resting : Resting flat
  holders_eq : flat.holders = first.holders
  quiet : flat.reactions = fun _ _ => []

def isRelease : Task α → Bool
  | .release => true
  | _ => false

/-- What the nested run may have on its agenda above the work on the queue. -/
inductive Allowed : Task α → Prop where
  | work {task : Task α} (work : isWork task = true) : Allowed task
  | act {action : Action α} (isPush : action.isPush = true) : Allowed (.act action)
  | enter (push : Push α) : Allowed (.enter push.call)
  | release : Allowed .release

/-- The nested run works on the queue; `done` are the calls whose signals were worked off, and
`waiting` those whose signals wait in the queue. -/
structure Working (first nested : Pipeline α) (upper : List (Task α))
    (done waiting : List (Push α)) : Prop where
  agenda_eq : ∃ missed, nested.agenda = upper ++ [.workOff missed, .release]
  allowed : ∀ task ∈ upper, Allowed task
  signals_eq : nested.stage.signals = waiting.map Push.signal
  busy : nested.stage.work ≠ 0
  holders_eq : nested.holders = first.holders + 1 + upper.countP isRelease
  calls_eq : nested.inboundCalls = first.inboundCalls ++ (done ++ waiting).map Push.call
  owned : nested.owned = true
  reactions_eq : nested.reactions = first.reactions

/-- What the run in turn stands on in the middle of the work on a signal. -/
def flatGround (first flat : Pipeline α) (upper : List (Task α)) : Ground α where
  signals := []
  work := 1
  holders := first.holders + 1
  reactions := fun _ _ => []
  agenda := upper.filter isWork ++ [.workOff 1, .release]
  journal := flat.journal

/-- Where both runs stand. -/
inductive Beside (first nested : Pipeline α) : Prop where
  /-- The nested run is about to work the next signal off. -/
  | between {done waiting : List (Push α)} {flat : Pipeline α}
      (working : Working first nested [] done waiting) (turned : Turned first done flat)
      (alike : Alike nested flat)
  /-- Both runs are in the middle of the work on a signal. -/
  | inside {upper : List (Task α)} {done waiting : List (Push α)} {current : Push α}
      {flat : Pipeline α} {steps : Nat}
      (working : Working first nested upper (done ++ [current]) waiting)
      (turned : Turned first done flat)
      (alike : Alike nested ((flat.begin current.action).run steps))
      (onGround : ((flat.begin current.action).run steps).ground =
        flatGround first ((flat.begin current.action).run steps) upper)
  /-- The nested run is about to let go of the stage. -/
  | leaving {done : List (Push α)} {flat : Pipeline α} (owned : nested.owned = true)
      (agenda_eq : nested.agenda = [.release])
      (signals_eq : nested.stage.signals = []) (work_eq : nested.stage.work = 0)
      (holders_eq : nested.holders = first.holders + 1)
      (calls_eq : nested.inboundCalls = first.inboundCalls ++ done.map Push.call)
      (turned : Turned first done flat) (alike : Alike nested flat)
  /-- The nested run has come to rest. -/
  | ended {done : List (Push α)} {flat : Pipeline α} (resting : Resting nested)
      (holders_eq : nested.holders = first.holders)
      (calls_eq : nested.inboundCalls = first.inboundCalls ++ done.map Push.call)
      (turned : Turned first done flat) (alike : Alike nested flat)

theorem inboundCalls_step {pipeline : Pipeline α} {task : Task α} {lower : List (Task α)}
    (agenda_eq : pipeline.agenda = task :: lower) :
    pipeline.step.inboundCalls = pipeline.inboundCalls ++ task.inbound?.toList := by
  obtain ⟨stage, timer, events, tasks, effect, becomes⟩ := exists_step_effect agenda_eq
  rw [inboundCalls, becomes.chronicle_eq, List.filterMap_append, effect.inbound_eq]
  rfl

/-- The nested run may change its ground while the run in turn waits. -/
theorem Alike.wait {nested flat : Pipeline α} (alike : Alike nested flat) {ground : Ground α}
    (record_eq : record ground.journal = record nested.journal) :
    Alike (nested.bare.onGround ground) flat :=
  ⟨alike.bare_eq, record_eq.trans alike.record_eq⟩

/-- The run in turn may change its ground while the nested run waits. -/
theorem Alike.turn {nested flat : Pipeline α} (alike : Alike nested flat) {ground : Ground α}
    (record_eq : record ground.journal = record flat.journal) :
    Alike nested (flat.bare.onGround ground) :=
  ⟨alike.bare_eq, alike.record_eq.trans record_eq.symm⟩

/-- Both runs do the same work, each on its own ground. -/
theorem alike_onGround {nested flat : Pipeline α} (alike : Alike nested flat)
    {lower upper : Ground α} (lower_eq : record lower.journal = record nested.journal)
    (upper_eq : record upper.journal = record flat.journal) (work : Pipeline α → Pipeline α) :
    Alike ((work nested.bare).onGround lower) ((work flat.bare).onGround upper) := by
  constructor
  · rw [bare_onGround, bare_onGround, alike.bare_eq]
  · change record (_ ++ lower.journal) = record (_ ++ upper.journal)
    rw [record_append, record_append, lower_eq, upper_eq, alike.record_eq, alike.bare_eq]

section Beside

variable {first nested flat : Pipeline α} {upper : List (Task α)} {done waiting : List (Push α)}

theorem run_succ_step {pipeline : Pipeline α} {steps : Nat} {task : Task α} {lower : List (Task α)}
    (agenda_eq : (pipeline.run steps).agenda = task :: lower) :
    pipeline.run (steps + 1) = (pipeline.run steps).step := by
  rw [run_add, run_succ_of_busy (busy_of_agenda agenda_eq), run]

theorem filter_isWork_of_forall {tasks : List (Task α)}
    (work : ∀ task ∈ tasks, isWork task = true) : tasks.filter isWork = tasks :=
  List.filter_eq_self.mpr work

theorem countP_isRelease_of_isWork {tasks : List (Task α)}
    (work : ∀ task ∈ tasks, isWork task = true) : tasks.countP isRelease = 0 := by
  rw [List.countP_eq_zero]
  intro task member
  have works := work task member
  cases task <;> first | (simp [isRelease]; done) | cases works

/-- The next signal is worked off in both runs. -/
theorem Beside.dispatch {push : Push α}
    (working : Working first nested [] done (push :: waiting)) (turned : Turned first done flat)
    (alike : Alike nested flat) : Beside first nested.step := by
  obtain ⟨missed, agenda_eq⟩ := working.agenda_eq
  have flatOwned : flat.owned = true := by
    have same := congrArg Pipeline.owned alike.bare_eq
    exact same.symm.trans working.owned
  have nestedStep := step_of_signal agenda_eq working.signals_eq
  have twoSteps := run_two flat push turned.resting flatOwned
  have flatAgenda : ((flat.begin push.action).run 2).agenda = [.workOff 1, .release] := by
    rw [twoSteps]
    rfl
  have flatSignals : ((flat.begin push.action).run 2).stage.signals = [push.signal] := by
    rw [twoSteps]
    rfl
  have threeSteps := (run_succ_step flatAgenda).trans (step_of_signal flatAgenda flatSignals)
  rw [twoSteps] at threeSteps
  have work : ∀ task ∈ ((nested.bare.note (.handled push.signal)).handle push.signal).agenda,
      isWork task = true := isWork_handle _ _ rfl
  have working' : Working first nested.step
      ((nested.bare.note (.handled push.signal)).handle push.signal).agenda (done ++ [push])
      waiting := by
    constructor
    · refine ⟨missed, ?_⟩
      rw [nestedStep]
      change _ ++ nested.agenda = _
      rw [agenda_eq]
      rfl
    · exact fun task member => .work (work task member)
    · rw [nestedStep]
      rfl
    · rw [nestedStep]
      exact working.busy
    · rw [nestedStep, countP_isRelease_of_isWork work]
      exact working.holders_eq
    · rw [inboundCalls_step agenda_eq, working.calls_eq, List.append_assoc done [push]]
      exact List.append_nil _
    · rw [nestedStep]
      have kept := setting_handle (nested.bare.note (.handled push.signal)) push.signal
      exact (congrArg Setting.owned kept).trans working.owned
    · rw [nestedStep]
      exact working.reactions_eq
  have alike' : Alike nested.step ((flat.begin push.action).run 3) := by
    rw [nestedStep, threeSteps]
    exact alike_onGround alike rfl rfl fun core =>
      (core.note (.handled push.signal)).handle push.signal
  have onGround : ((flat.begin push.action).run 3).ground =
      flatGround first ((flat.begin push.action).run 3)
        ((nested.bare.note (.handled push.signal)).handle push.signal).agenda := by
    rw [flatGround, filter_isWork_of_forall work, alike.bare_eq, threeSteps, ← turned.holders_eq,
      ← turned.quiet]
    rfl
  exact .inside working' turned alike' onGround

/-- The nested run accounts for the signals that were announced, and goes on or ends. -/
theorem Beside.account (working : Working first nested [] done []) (turned : Turned first done flat)
    (alike : Alike nested flat) : Beside first nested.step := by
  obtain ⟨missed, agenda_eq⟩ := working.agenda_eq
  have nestedStep := step_of_account agenda_eq working.signals_eq
  have calls_eq : nested.step.inboundCalls = first.inboundCalls ++ (done ++ []).map Push.call := by
    rw [inboundCalls_step agenda_eq, working.calls_eq]
    exact List.append_nil _
  have alike' : Alike nested.step flat := by
    rw [nestedStep]
    exact alike.wait rfl
  by_cases nothing : nested.stage.work - missed = 0
  · rw [if_pos nothing, nothing] at nestedStep
    rw [List.append_nil] at calls_eq
    refine .leaving ?_ ?_ ?_ ?_ ?_ calls_eq turned alike'
    · rw [nestedStep]
      exact working.owned
    · rw [nestedStep]
      rfl
    · rw [nestedStep]
      exact working.signals_eq
    · rw [nestedStep]
      rfl
    · rw [nestedStep]
      exact working.holders_eq
  · rw [if_neg nothing] at nestedStep
    have working' : Working first nested.step [] done [] := by
      constructor
      · refine ⟨nested.stage.work - missed, ?_⟩
        rw [nestedStep]
        rfl
      · exact List.forall_mem_nil _
      · rw [nestedStep]
        exact working.signals_eq
      · rw [nestedStep]
        exact nothing
      · rw [nestedStep]
        exact working.holders_eq
      · exact calls_eq
      · rw [nestedStep]
        exact working.owned
      · rw [nestedStep]
        exact working.reactions_eq
    exact .between working' turned alike'

/-- Where nothing is left of a signal, the run in turn comes to rest. -/
theorem exists_turned {current : Push α} {steps : Nat} (owned : nested.owned = true)
    (turned : Turned first done flat)
    (alike : Alike nested ((flat.begin current.action).run steps))
    (onGround : ((flat.begin current.action).run steps).ground =
      flatGround first ((flat.begin current.action).run steps) []) :
    ∃ next, Turned first (done ++ [current]) next ∧ Alike nested next := by
  let middle := (flat.begin current.action).run steps
  have flatOwned : middle.owned = true := by
    have same := congrArg Pipeline.owned alike.bare_eq
    exact same.symm.trans owned
  have agenda_eq : middle.agenda = [.workOff 1, .release] := congrArg Ground.agenda onGround
  have signals_eq : middle.stage.signals = [] := congrArg Ground.signals onGround
  have work_eq : middle.stage.work = 1 := congrArg Ground.work onGround
  have holders_eq : middle.holders = first.holders + 1 := congrArg Ground.holders onGround
  have quiet : middle.reactions = fun _ _ => [] := congrArg Ground.reactions onGround
  have accounted := step_of_account agenda_eq signals_eq
  rw [work_eq] at accounted
  have nextAgenda : middle.step.agenda = [.release] := by
    rw [accounted]
    rfl
  have nextOwned : middle.step.owned = true := by
    rw [accounted]
    exact flatOwned
  have released := step_of_release nextAgenda nextOwned
  have oneMore : (flat.begin current.action).run (steps + 1) = middle.step :=
    run_succ_step agenda_eq
  have twoMore : (flat.begin current.action).run (steps + 1 + 1) = middle.step.step := by
    have stillBusy : ((flat.begin current.action).run (steps + 1)).agenda = [.release] := by
      rw [oneMore]
      exact nextAgenda
    rw [run_succ_step stillBusy, oneMore]
  rw [accounted] at released
  have same : middle.step.step =
      middle.bare.onGround
        { middle.ground with work := 0, holders := middle.holders - 1, agenda := [] } := by
    rw [accounted, released]
    rfl
  have rest : ((flat.begin current.action).run (steps + 1 + 1)).atRest = true := by
    rw [twoMore, same]
    rfl
  refine ⟨(flat.begin current.action).run (steps + 1 + 1), ⟨?_, ?_, ?_, ?_⟩, ?_⟩
  · rw [List.map_append]
    exact turned.turns.concat rest
  · rw [twoMore, same]
    exact ⟨rfl, signals_eq, rfl⟩
  · rw [twoMore, same]
    change middle.holders - 1 = first.holders
    rw [holders_eq]
    rfl
  · rw [twoMore, same]
    exact quiet
  · rw [twoMore, same]
    exact alike.turn rfl

variable {task : Task α} {current : Push α} {steps : Nat}

theorem isRelease_of_isWork (work : isWork task = true) : isRelease task = false := by
  cases task <;> first | rfl | cases work

theorem inbound?_of_isWork (work : isWork task = true) : task.inbound? = none := by
  cases task <;> first | rfl | cases work

/-- Both runs do the same part of the work on a signal. -/
theorem Beside.work (working : Working first nested (task :: upper) (done ++ [current]) waiting)
    (turned : Turned first done flat) (alike : Alike nested ((flat.begin current.action).run steps))
    (onGround : ((flat.begin current.action).run steps).ground =
      flatGround first ((flat.begin current.action).run steps) (task :: upper))
    (work : isWork task = true) (silent : task.outbound? = none) :
    Beside first nested.step := by
  obtain ⟨missed, agenda_eq⟩ := working.agenda_eq
  have nestedStep := step_of_work agenda_eq work silent
  have flatAgenda : ((flat.begin current.action).run steps).agenda =
      task :: (upper.filter isWork ++ [Task.workOff 1, .release]) := by
    have agenda := congrArg Ground.agenda onGround
    rw [flatGround, List.filter_cons_of_pos work] at agenda
    exact agenda
  have flatStep := (run_succ_step flatAgenda).trans (step_of_work flatAgenda work silent)
  have added := isWork_perform nested work
  have working' : Working first nested.step ((nested.bare.perform task).agenda ++ upper)
      (done ++ [current]) waiting := by
    constructor
    · refine ⟨missed, ?_⟩
      rw [nestedStep, List.append_assoc]
      rfl
    · rw [List.forall_mem_append]
      exact ⟨fun task member => .work (added task member),
        (List.forall_mem_cons.mp working.allowed).2⟩
    · rw [nestedStep]
      exact working.signals_eq
    · rw [nestedStep]
      exact working.busy
    · have holders := working.holders_eq
      rw [List.countP_cons, isRelease_of_isWork work] at holders
      rw [nestedStep, List.countP_append, countP_isRelease_of_isWork added, Nat.zero_add]
      exact holders
    · rw [inboundCalls_step agenda_eq, inbound?_of_isWork work, working.calls_eq]
      exact List.append_nil _
    · rw [nestedStep]
      have kept := setting_perform nested.bare work silent
      exact (congrArg Setting.owned kept).trans working.owned
    · rw [nestedStep]
      exact working.reactions_eq
  have alike' : Alike nested.step ((flat.begin current.action).run (steps + 1)) := by
    rw [nestedStep, flatStep]
    exact alike_onGround alike rfl rfl fun core => core.perform task
  have onGround' : ((flat.begin current.action).run (steps + 1)).ground =
      flatGround first ((flat.begin current.action).run (steps + 1))
        ((nested.bare.perform task).agenda ++ upper) := by
    rw [flatGround, List.filter_append, filter_isWork_of_forall added, alike.bare_eq, flatStep,
      onGround, List.append_assoc]
    rfl
  exact .inside working' turned alike' onGround'

/-- Both runs make the same call; only in the nested run somebody reacts to it. -/
theorem Beside.call {call : Outbound α}
    (working : Working first nested (.call call :: upper) (done ++ [current]) waiting)
    (turned : Turned first done flat) (alike : Alike nested ((flat.begin current.action).run steps))
    (onGround : ((flat.begin current.action).run steps).ground =
      flatGround first ((flat.begin current.action).run steps) (.call call :: upper))
    (reacts : ∀ action ∈ nested.reacts nested.ground call, action.isPush = true) :
    Beside first nested.step := by
  obtain ⟨missed, agenda_eq⟩ := working.agenda_eq
  have nestedStep := step_of_call agenda_eq
  have flatAgenda : ((flat.begin current.action).run steps).agenda =
      .call call :: (upper.filter isWork ++ [Task.workOff 1, .release]) := by
    have agenda := congrArg Ground.agenda onGround
    rw [flatGround, List.filter_cons_of_pos rfl] at agenda
    exact agenda
  have flatStep := (run_succ_step flatAgenda).trans (step_of_call flatAgenda)
  have noReaction : ((flat.begin current.action).run steps).reacts
      ((flat.begin current.action).run steps).ground call = [] := by
    rw [Pipeline.reacts, onGround, flatGround]
    split <;> rfl
  rw [noReaction] at flatStep
  have acts : ∀ task ∈ (nested.reacts nested.ground call).map Task.act,
      isWork task = false ∧ isRelease task = false := by
    intro task member
    obtain ⟨action, _, rfl⟩ := List.mem_map.mp member
    exact ⟨rfl, rfl⟩
  have working' : Working first nested.step
      ((nested.reacts nested.ground call).map Task.act ++ upper) (done ++ [current]) waiting := by
    constructor
    · refine ⟨missed, ?_⟩
      rw [nestedStep, List.append_assoc]
      change (nested.bare.call call).agenda ++ _ = _
      rw [agenda_call]
      rfl
    · rw [List.forall_mem_append]
      refine ⟨fun task member => ?_, (List.forall_mem_cons.mp working.allowed).2⟩
      obtain ⟨action, made, rfl⟩ := List.mem_map.mp member
      exact .act (reacts action made)
    · rw [nestedStep]
      exact working.signals_eq
    · rw [nestedStep]
      exact working.busy
    · have none : ((nested.reacts nested.ground call).map Task.act).countP isRelease = 0 := by
        rw [List.countP_eq_zero]
        intro task member
        rw [(acts task member).2]
        decide
      have holders := working.holders_eq
      rw [List.countP_cons, isRelease_of_isWork rfl] at holders
      rw [nestedStep, List.countP_append, none, Nat.zero_add]
      exact holders
    · rw [inboundCalls_step agenda_eq, working.calls_eq]
      exact List.append_nil _
    · rw [nestedStep]
      exact (owned_call nested.bare call).trans working.owned
    · rw [nestedStep]
      exact working.reactions_eq
  have alike' : Alike nested.step ((flat.begin current.action).run (steps + 1)) := by
    rw [nestedStep, flatStep]
    exact alike_onGround alike rfl rfl fun core => core.call call
  have onGround' : ((flat.begin current.action).run (steps + 1)).ground =
      flatGround first ((flat.begin current.action).run (steps + 1))
        ((nested.reacts nested.ground call).map Task.act ++ upper) := by
    have none : ((nested.reacts nested.ground call).map Task.act).filter isWork = [] := by
      rw [List.filter_eq_nil_iff]
      intro task member
      rw [(acts task member).1]
      decide
    rw [flatGround, List.filter_append, none, flatStep, onGround, List.nil_append, Pipeline.ground,
      Pipeline.onGround, agenda_call]
    rfl
  exact .inside working' turned alike' onGround'

section Wait

variable (turned : Turned first done flat)
  (alike : Alike nested ((flat.begin current.action).run steps))

include turned alike

/-- The run in turn waits while the nested run begins a reaction. -/
theorem Beside.act {action : Action α}
    (working : Working first nested (.act action :: upper) (done ++ [current]) waiting)
    (onGround : ((flat.begin current.action).run steps).ground =
      flatGround first ((flat.begin current.action).run steps) (.act action :: upper))
    (isPush : action.isPush = true) : Beside first nested.step := by
  obtain ⟨missed, agenda_eq⟩ := working.agenda_eq
  obtain ⟨pushes, nestedStep⟩ := exists_pushes isPush agenda_eq working.owned
  have alike' : Alike nested.step ((flat.begin current.action).run steps) := by
    rw [nestedStep]
    exact alike.wait rfl
  have entered : ∀ task ∈ pushes.map fun push => Task.enter push.call,
      isWork task = false ∧ isRelease task = false ∧ Allowed task := by
    intro task member
    obtain ⟨push, _, rfl⟩ := List.mem_map.mp member
    exact ⟨rfl, rfl, .enter push⟩
  have working' : Working first nested.step
      (pushes.map (fun push => Task.enter push.call) ++ .release :: upper) (done ++ [current])
      waiting := by
    constructor
    · refine ⟨missed, ?_⟩
      rw [nestedStep, List.append_assoc]
      rfl
    · rw [List.forall_mem_append, List.forall_mem_cons]
      exact ⟨fun task member => (entered task member).2.2, .release,
        (List.forall_mem_cons.mp working.allowed).2⟩
    · rw [nestedStep]
      exact working.signals_eq
    · rw [nestedStep]
      exact working.busy
    · have none : (pushes.map fun push => Task.enter push.call).countP isRelease = 0 := by
        rw [List.countP_eq_zero]
        intro task member
        rw [(entered task member).2.1]
        decide
      have holders := working.holders_eq
      rw [List.countP_cons_of_neg (by simp [isRelease])] at holders
      rw [nestedStep, List.countP_append, none, List.countP_cons_of_pos rfl]
      change nested.holders + 1 = _
      omega
    · rw [inboundCalls_step agenda_eq, working.calls_eq]
      exact List.append_nil _
    · rw [nestedStep]
      exact working.owned
    · rw [nestedStep]
      exact working.reactions_eq
  have onGround' : ((flat.begin current.action).run steps).ground =
      flatGround first ((flat.begin current.action).run steps)
        (pushes.map (fun push => Task.enter push.call) ++ .release :: upper) := by
    have none : (pushes.map fun push => Task.enter push.call).filter isWork = [] := by
      rw [List.filter_eq_nil_iff]
      intro task member
      rw [(entered task member).1]
      decide
    rw [onGround, flatGround, flatGround, List.filter_append, none]
    rfl
  exact .inside working' turned alike' onGround'

/-- The run in turn waits while the nested run puts a signal into the queue. -/
theorem Beside.enter {push : Push α}
    (working : Working first nested (.enter push.call :: upper) (done ++ [current]) waiting)
    (onGround : ((flat.begin current.action).run steps).ground =
      flatGround first ((flat.begin current.action).run steps) (.enter push.call :: upper)) :
    Beside first nested.step := by
  obtain ⟨missed, agenda_eq⟩ := working.agenda_eq
  have nestedStep := step_of_enter agenda_eq working.busy
  have alike' : Alike nested.step ((flat.begin current.action).run steps) := by
    rw [nestedStep]
    exact alike.wait rfl
  have working' : Working first nested.step upper (done ++ [current]) (waiting ++ [push]) := by
    constructor
    · refine ⟨missed, ?_⟩
      rw [nestedStep]
      rfl
    · exact (List.forall_mem_cons.mp working.allowed).2
    · rw [nestedStep, List.map_append, ← working.signals_eq]
      rfl
    · rw [nestedStep]
      exact Nat.succ_ne_zero _
    · have holders := working.holders_eq
      rw [List.countP_cons_of_neg (by simp [isRelease])] at holders
      rw [nestedStep]
      exact holders
    · rw [inboundCalls_step agenda_eq, working.calls_eq]
      simp [Task.inbound?]
    · rw [nestedStep]
      exact working.owned
    · rw [nestedStep]
      exact working.reactions_eq
  exact .inside working' turned alike' onGround

/-- The run in turn waits while a reaction of the nested run lets go of the stage. -/
theorem Beside.release
    (working : Working first nested (.release :: upper) (done ++ [current]) waiting)
    (onGround : ((flat.begin current.action).run steps).ground =
      flatGround first ((flat.begin current.action).run steps) (.release :: upper)) :
    Beside first nested.step := by
  obtain ⟨missed, agenda_eq⟩ := working.agenda_eq
  have nestedStep := step_of_release agenda_eq working.owned
  have alike' : Alike nested.step ((flat.begin current.action).run steps) := by
    rw [nestedStep]
    exact alike.wait rfl
  have working' : Working first nested.step upper (done ++ [current]) waiting := by
    constructor
    · refine ⟨missed, ?_⟩
      rw [nestedStep]
      rfl
    · exact (List.forall_mem_cons.mp working.allowed).2
    · rw [nestedStep]
      exact working.signals_eq
    · rw [nestedStep]
      exact working.busy
    · have holders := working.holders_eq
      rw [List.countP_cons_of_pos rfl] at holders
      rw [nestedStep]
      change nested.holders - 1 = _
      omega
    · rw [inboundCalls_step agenda_eq, working.calls_eq]
      exact List.append_nil _
    · rw [nestedStep]
      exact working.owned
    · rw [nestedStep]
      exact working.reactions_eq
  exact .inside working' turned alike' onGround

end Wait

/-- Both runs stay beside each other while collaborators react with calls that only announce
signals. -/
theorem Beside.step (beside : Beside first nested)
    (allowed : ∀ call lower, nested.agenda = .call call :: lower → nested.isSeen call = true →
      ∀ action ∈ first.reactions call.kind (nested.calls call.kind), action.isPush = true) :
    Beside first nested.step := by
  cases beside with
  | @between done waiting flat working turned alike =>
      cases waiting with
      | nil => exact .account working turned alike
      | cons push waiting => exact .dispatch working turned alike
  | @inside upper done waiting current flat steps working turned alike onGround =>
      cases upper with
      | nil =>
          -- Nothing is left of the signal: the run in turn comes to rest before the next one.
          obtain ⟨next, turned', alike'⟩ := exists_turned working.owned turned alike onGround
          cases waiting with
          | nil => exact .account working turned' alike'
          | cons push waiting => exact .dispatch working turned' alike'
      | cons task upper =>
          cases (List.forall_mem_cons.mp working.allowed).1 with
          | work work =>
              cases silent : task.outbound? with
              | none => exact .work working turned alike onGround work silent
              | some call =>
                  have task_eq : task = .call call := by
                    cases task <;> cases silent
                    rfl
                  subst task_eq
                  obtain ⟨missed, agenda_eq⟩ := working.agenda_eq
                  refine .call working turned alike onGround ?_
                  intro action made
                  rw [Pipeline.reacts] at made
                  split at made
                  · rename_i seen
                    change action ∈ nested.reactions call.kind _ at made
                    rw [working.reactions_eq] at made
                    exact allowed call _ agenda_eq seen action made
                  · cases made
          | act isPush => exact .act turned alike working onGround isPush
          | enter push => exact .enter turned alike working onGround
          | release => exact .release turned alike working onGround
  | @leaving done flat owned agenda_eq signals_eq work_eq holders_eq calls_eq turned alike =>
      have nestedStep := step_of_release agenda_eq owned
      have calls_eq' : nested.step.inboundCalls = first.inboundCalls ++ done.map Push.call := by
        rw [inboundCalls_step agenda_eq, calls_eq]
        exact List.append_nil _
      refine .ended ?_ ?_ calls_eq' turned ?_
      · rw [nestedStep]
        exact ⟨rfl, signals_eq, work_eq⟩
      · rw [nestedStep]
        change nested.holders - 1 = _
        rw [holders_eq]
        rfl
      · rw [nestedStep]
        exact alike.wait rfl
  | ended resting holders_eq calls_eq turned alike =>
      rw [step_of_atRest (List.isEmpty_iff.mpr resting.agenda_eq)]
      exact .ended resting holders_eq calls_eq turned alike

end Beside

/-! ## Whole runs -/

section Run

variable {first nested : Pipeline α}

theorem calls_le_step (pipeline : Pipeline α) (kind : CallKind) :
    pipeline.calls kind ≤ pipeline.step.calls kind := by
  cases agenda_eq : pipeline.agenda with
  | nil =>
      have still := step_of_atRest (List.isEmpty_iff.mpr agenda_eq)
      exact Nat.le_of_eq (congrArg (fun last => last.calls kind) still.symm)
  | cons task rest =>
      obtain ⟨stage, timer, events, tasks, effect, becomes⟩ := exists_step_effect agenda_eq
      exact becomes.calls_le kind

theorem calls_le_run (pipeline : Pipeline α) (bound : Nat) (kind : CallKind) :
    pipeline.calls kind ≤ (pipeline.run bound).calls kind :=
  preserve_run (fun last => pipeline.calls kind ≤ last.calls kind)
    (fun last before => Nat.le_trans before (calls_le_step last kind)) (Nat.le_refl _) bound

/-- A call that somebody sees is counted. -/
theorem calls_lt_step {call : Outbound α} {lower : List (Task α)}
    (agenda_eq : nested.agenda = .call call :: lower) (seen : nested.isSeen call = true) :
    nested.calls call.kind < nested.step.calls call.kind := by
  have counted : nested.step.calls call.kind = nested.calls call.kind + 1 := by
    rw [step_of_agenda agenda_eq]
    change (Pipeline.call _ call).calls call.kind = _
    rw [Pipeline.call]
    have still : isSeen { nested with agenda := lower } call = true := seen
    rw [if_pos still]
    exact if_pos rfl
  omega

theorem Beside.run (bound : Nat) (beside : Beside first nested)
    (counted : ∀ kind, first.calls kind ≤ nested.calls kind)
    (allowed : ∀ kind count, first.calls kind ≤ count → count < (nested.run bound).calls kind →
      ∀ action ∈ first.reactions kind count, action.isPush = true) :
    Beside first (nested.run bound) := by
  induction bound generalizing nested with
  | zero => exact beside
  | succ bound ih =>
      rw [run_succ] at allowed ⊢
      split
      · exact beside
      · rename_i busy
        rw [if_neg busy] at allowed
        -- The counts never fall, so the reactions of this step are among those of the whole run.
        refine ih (beside.step ?_) ?_ allowed
        · intro call lower agenda_eq seen
          apply allowed call.kind (nested.calls call.kind) (counted call.kind)
          exact Nat.lt_of_lt_of_le (calls_lt_step agenda_eq seen) (calls_le_run _ _ _)
        · exact fun kind => Nat.le_trans (counted kind) (calls_le_step nested kind)

/-- Both runs start beside each other when the nested run has taken the first signal in. -/
theorem beside_pushed (push : Push α) (resting : Resting first) (owned : first.owned = true) :
    Beside first (first.pushed push) := by
  have turned : Turned first [] first.quiet :=
    ⟨.nil _, ⟨resting.agenda_eq, resting.signals_eq, resting.work_eq⟩, rfl, rfl⟩
  have working : Working first (first.pushed push) [] [] [push] := by
    constructor
    · exact ⟨1, rfl⟩
    · exact List.forall_mem_nil _
    · rfl
    · exact Nat.one_ne_zero
    · rfl
    · simp [pushed, inboundCalls, chronicle, onGround, bare, Event.inbound?]
    · exact owned
    · rfl
  exact .between working turned ⟨rfl, rfl⟩

theorem outline_eq {flat : Pipeline α} (nestedRests : Resting nested) (flatRests : Resting flat)
    (holders_eq : nested.holders = flat.holders) (alike : Alike nested flat) :
    nested.outline = flat.outline := by
  have rebuilt : ∀ {pipeline : Pipeline α}, Resting pipeline → pipeline.outline =
      pipeline.bare.onGround
        { holders := pipeline.holders, journal := record pipeline.journal } := by
    intro pipeline rests
    obtain ⟨agenda_eq, signals_eq, work_eq⟩ := rests
    obtain ⟨stage, timer, hook, detached, refusal, producers, subscribed, held, holders, calls,
      reactions, agenda, journal⟩ := pipeline
    obtain ⟨config, ledger, status, producer, signals, work, batch, generation, alarm⟩ := stage
    cases agenda_eq
    cases signals_eq
    cases work_eq
    rfl
  rw [rebuilt nestedRests, rebuilt flatRests, alike.bare_eq, alike.record_eq, holders_eq]

/-- A call at rest whose collaborators only announce signals comes to rest where the calls that
were made come to rest in turn. -/
theorem exists_inTurn (push : Push α) (bound : Nat) (resting : Resting first)
    (rest : ((first.begin push.action).run bound).atRest = true)
    (allowed : ∀ kind count, first.calls kind ≤ count →
      count < ((first.begin push.action).run bound).calls kind →
      ∀ action ∈ first.reactions kind count, action.isPush = true) :
    ∃ pushes flat,
      ((first.begin push.action).run bound).inboundCalls =
        first.inboundCalls ++ List.map Push.call pushes ∧
      InTurn first.quiet (pushes.map Push.action) flat ∧
      ((first.begin push.action).run bound).outline = flat.outline := by
  have still : first.atRest = true := List.isEmpty_iff.mpr resting.agenda_eq
  have begun := agenda_begin_of_atRest still push.action
  cases owned : first.owned with
  | false =>
      -- A stage that is given up hears nothing, and the call comes to nothing.
      have ignored : (first.begin push.action).run bound = first := by
        cases bound with
        | zero =>
            rw [run_zero, Pipeline.atRest, begun] at rest
            cases rest
        | succ bound =>
            have unheard : (first.begin push.action).step = first := by
              have popped : { first.begin push.action with agenda := [] } = first := by
                rw [← resting.agenda_eq]
                rfl
              rw [step_of_agenda begun, popped, perform]
              cases push <;> simp [Push.action, act, onStage, owned]
            rw [run_succ_of_busy (busy_of_agenda begun), unheard, run_of_atRest still]
      rw [ignored]
      exact ⟨[], first.quiet, (List.append_nil _).symm, .nil _, rfl⟩
  | true =>
      have twoSteps := run_two first push resting owned
      have many : 2 ≤ bound := by
        by_contra few
        have enough : bound + (2 - bound) = 2 := by omega
        rw [← enough, run_add, run_of_atRest rest] at twoSteps
        rw [twoSteps] at rest
        cases rest
      obtain ⟨others, rfl⟩ := Nat.exists_eq_add_of_le many
      rw [run_add, twoSteps] at rest allowed ⊢
      have beside := (beside_pushed push resting owned).run others (fun _ => Nat.le_refl _) allowed
      cases beside with
      | between working turned alike =>
          obtain ⟨missed, agenda_eq⟩ := working.agenda_eq
          rw [Pipeline.atRest, agenda_eq] at rest
          cases rest
      | @inside upper done waiting current flat steps working turned alike onGround =>
          obtain ⟨missed, agenda_eq⟩ := working.agenda_eq
          rw [Pipeline.atRest, agenda_eq] at rest
          cases upper <;> cases rest
      | leaving owned agenda_eq =>
          rw [Pipeline.atRest, agenda_eq] at rest
          cases rest
      | @ended done flat resting holders_eq calls_eq turned alike =>
          exact ⟨done, flat, calls_eq, turned.turns,
            outline_eq resting turned.resting (holders_eq.trans turned.holders_eq.symm) alike⟩

end Run

/-- Signals are worked off one at a time, and calls of the stage in the middle of calls are like
calls in turn. -/
structure Serial (pipeline : Pipeline α) : Prop where
  /-- No signal begins to be worked off while another one is. -/
  exclusive : pipeline.isDispatching = true →
    pipeline.step.handledSignals = pipeline.handledSignals
  /-- Signals are worked off in the order in which they were announced, each once. -/
  ordered : pipeline.announcedSignals = pipeline.handledSignals ++ pipeline.stage.signals
  /-- Nothing is left when no call of the stage is under way. -/
  settled : pipeline.isIdle = true →
    pipeline.announcedSignals = pipeline.handledSignals ∧ pipeline.stage.signals = [] ∧
      pipeline.stage.work = 0
  /-- A call and those that it provokes come to the same as all of them in turn with collaborators
  that do nothing. -/
  flat : pipeline.atRest = true → ∀ (push : Push α) (bound : Nat),
    ((pipeline.begin push.action).run bound).atRest = true →
    (∀ kind count, pipeline.calls kind ≤ count →
      count < ((pipeline.begin push.action).run bound).calls kind →
      ∀ action ∈ pipeline.reactions kind count, action.isPush = true) →
    ∃ pushes flat,
      ((pipeline.begin push.action).run bound).inboundCalls =
        pipeline.inboundCalls ++ List.map Push.call pushes ∧
      InTurn pipeline.quiet (pushes.map Push.action) flat ∧
      ((pipeline.begin push.action).run bound).outline = flat.outline

theorem Effect.handles_nothing {pipeline : Pipeline α} {task : Task α} {stage : Stage α}
    {timer : Timer UInt64} {events : List (Event α)} {tasks : List (Task α)}
    (effect : Effect pipeline task stage timer events tasks) (other : task.isWorkOff = false) :
    events.filterMap Event.handled? = [] := by
  cases effect with
  | free aside inert allFree =>
      exact filterMap_eq_nil_of_isAside Event.handled?_of_isAside fun event member =>
        Event.isAside_of_isInert (inert event member)
  | handled first dispatch => cases other
  | acceptedHandOff delivery =>
      exact filterMap_eq_nil_of_isAside Event.handled?_of_isAside delivery.aside
  | failed failure => exact filterMap_eq_nil_of_isAside Event.handled?_of_isAside failure.aside
  | _ => rfl

theorem InOrder.exclusive {pipeline : Pipeline α}
    (order : InOrder pipeline.stage pipeline.agenda) (dispatching : pipeline.isDispatching = true) :
    pipeline.step.handledSignals = pipeline.handledSignals := by
  cases agenda_eq : pipeline.agenda with
  | nil =>
      rw [step_of_atRest (List.isEmpty_iff.mpr agenda_eq)]
  | cons task rest =>
      rw [isDispatching, agenda_eq, List.any_eq_true] at dispatching
      obtain ⟨lower, member, works⟩ := dispatching
      rw [agenda_eq] at order
      have other : task.isWorkOff = false := by
        by_contra alsoWorks
        have outer := (List.pairwise_cons.mp order.beneath).1 lower member
          (eq_true_of_ne_false alsoWorks)
        rw [Task.isOuter, works, Bool.not_true, Bool.and_false] at outer
        cases outer
      obtain ⟨stage, timer, events, tasks, effect, becomes⟩ := exists_step_effect agenda_eq
      rw [handledSignals, becomes.chronicle_eq, List.filterMap_append,
        effect.handles_nothing other, List.append_nil]
      rfl

theorem Reachable.serial {config : Config} {setup : Setup α} {pipeline : Pipeline α}
    (reachable : Reachable config setup pipeline) : Serial pipeline := by
  have order := reachable.inOrder
  have ordered := reachable.announcedSignals_eq
  constructor
  · exact order.exclusive
  · exact ordered
  · intro idle
    obtain ⟨nobody, nothing⟩ := order.resting_of_isIdle idle
    rw [nothing, List.append_nil] at ordered
    exact ⟨ordered, nothing, nobody⟩
  · intro rest push bound
    have idle : pipeline.isIdle = true := by
      rw [isIdle, List.isEmpty_iff.mp rest]
      rfl
    obtain ⟨nobody, nothing⟩ := order.resting_of_isIdle idle
    exact exists_inTurn push bound ⟨List.isEmpty_iff.mp rest, nothing, nobody⟩

theorem serial_of_nested_pushes :
    ∃ pipeline : Pipeline Nat,
      Reachable ⟨2, .ofMillis 10, .unbounded⟩
        { reactions := fun kind count =>
            if kind = .subscribe then [.request 5]
            else if kind = .next ∧ count = 0 then [.next [3, 4, 5], .complete, .next [6]]
            else [] } pipeline ∧
      ((pipeline.begin (.next [2])).run 80).handledSignals = [.subscribed, .item 1, .item 2,
        .item 3, .item 4, .item 5, .completed, .item 6] ∧
      ((pipeline.begin (.next [2])).run 80).received =
        [.subscribed, .next [1, 2], .next [3, 4], .next [5], .complete] ∧
      ∃ pushes flat,
        ((pipeline.begin (.next [2])).run 80).inboundCalls =
          pipeline.inboundCalls ++ List.map Push.call pushes ∧
        InTurn pipeline.quiet (pushes.map Push.action) flat ∧
        ((pipeline.begin (.next [2])).run 80).outline = flat.outline := by
  have start : @Reachable Nat ⟨2, .ofMillis 10, .unbounded⟩
      { reactions := fun kind count =>
          if kind = .subscribe then [.request 5]
          else if kind = .next ∧ count = 0 then [.next [3, 4, 5], .complete, .next [6]]
          else [] } _ := Reachable.of_opening rfl
  have subscribed := start.act rfl .subscribe 20
  have one := subscribed.act rfl (.next [1]) 20
  refine ⟨_, one, rfl, rfl, (Reachable.serial one).flat rfl (.next 2) 80 rfl ?_⟩
  intro kind count made notMade action member
  cases kind with
  | subscribe =>
      have once : (1 : Nat) ≤ count := made
      have only : count < 1 := notMade
      omega
  | next =>
      change action ∈ (if CallKind.next = .subscribe then ([.request 5] : List (Action Nat))
        else if CallKind.next = .next ∧ count = 0 then [.next [3, 4, 5], .complete, .next [6]]
        else []) at member
      rw [if_neg (by decide)] at member
      split at member
      · rcases List.mem_cons.mp member with rfl | member
        · rfl
        · rcases List.mem_pair.mp member with rfl | rfl <;> rfl
      · cases member
  | _ => cases member

end Pipeline

end TimedBatch
