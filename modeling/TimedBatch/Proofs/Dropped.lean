import TimedBatch.Proofs.Watch

/-!
# A stage that was given up

After the driver has given the stage up, only the calls that are under way hold it. When the last
of them lets go, the stage is gone: its alarm is cancelled, and nothing that still refers to it can
call it back. Alarms that were cancelled are passed over when the clock moves on, and the
subscription of the consumer finds nobody.
-/

namespace TimedBatch

variable {α : Type}

/-- Whether an event is a mark of the driver or a line of the log. -/
def Event.isOwn : Event α → Bool
  | .marked _ => true
  | .log _ => true
  | _ => false

/-- Whether an action neither leaves a mark nor has the timer log that it is shut down. -/
def Action.isSilent : Action α → Bool
  | .mark _ => false
  | .shutDownTimer => false
  | _ => true

namespace Pipeline

/-! ## Nobody is called back -/

section Gone

variable {pipeline : Pipeline α}

theorem chronicle_eq_of_journal {next : Pipeline α} (same : next.journal = pipeline.journal) :
    next.chronicle = pipeline.chronicle := by
  rw [chronicle, chronicle, same]

theorem journal_sweep (pipeline : Pipeline α) : pipeline.sweep.journal = pipeline.journal := by
  rw [sweep]
  split
  · rfl
  · exact journal_cancelAlarm pipeline

/-- Where the stage is gone, the driver and the consumer reach nobody. -/
theorem journal_act_of_gone (gone : pipeline.alive = false) {action : Action α}
    (silent : action.isSilent = true) : (pipeline.act action).journal = pipeline.journal := by
  have ⟨given, _⟩ := (alive_eq_false_iff pipeline).mp gone
  cases action with
  | dropStage => exact journal_sweep _
  | mark content => cases silent
  | shutDownTimer => cases silent
  | advance span =>
      simp only [act, moveClock]
      split <;> rfl
  | advanceTo instant =>
      simp only [act, moveClock]
      split <;> rfl
  | refuse rejection => rfl
  | accept => rfl
  | _ =>
      simp only [act, onStage, onSubscription, given, gone, Bool.false_eq_true, and_false, if_false]

/-- Where the stage is gone, an action leaves nothing to be done but to move the clock, or to log
that the timer was shut down. -/
theorem agenda_act_of_gone (gone : pipeline.alive = false) {action : Action α}
    (silent : action.isSilent = true) (rest : pipeline.agenda = []) :
    (pipeline.act action).agenda = [] ∨
      ∃ instant, (pipeline.act action).agenda = [.advance instant] := by
  have ⟨given, _⟩ := (alive_eq_false_iff pipeline).mp gone
  have moved : ∀ target, (pipeline.moveClock target).agenda = [] ∨
      ∃ instant, (pipeline.moveClock target).agenda = [.advance instant] := by
    intro target
    rw [moveClock]
    split
    · refine Or.inr ⟨target, ?_⟩
      rw [agenda_todo, rest]
      rfl
    · exact Or.inl rest
  cases action with
  | dropStage => exact Or.inl ((agenda_sweep _).trans rest)
  | mark content => cases silent
  | shutDownTimer => cases silent
  | advance span => exact moved _
  | advanceTo instant => exact moved _
  | refuse rejection => exact Or.inl rest
  | accept => exact Or.inl rest
  | _ =>
      left
      simp only [act, onStage, onSubscription, given, gone, Bool.false_eq_true, and_false, if_false,
        rest]

/-- An alarm that is taken where none is live was cancelled. -/
theorem isCancelled_of_takeDue {timer next : Timer UInt64} (none : timer.pending = 0)
    {instant : Duration} {alarm : Alarm UInt64}
    (due : timer.takeDue instant = some (alarm, next)) : next.isCancelled alarm.token = true := by
  obtain ⟨_, rest, queue_eq, rfl⟩ := Timer.eq_of_takeDue due
  rw [Timer.pending, List.countP_eq_zero] at none
  have dead := none alarm (queue_eq ▸ List.mem_cons_self)
  rwa [Bool.not_eq_true', Bool.not_eq_false] at dead

theorem advance_of_gone (none : pipeline.timer.pending = 0) (instant : Duration) :
    (pipeline.timer.takeDue instant = .none ∧
        pipeline.advance instant = { pipeline with timer := pipeline.timer.setClock instant }) ∨
      ∃ alarm timer, pipeline.timer.takeDue instant = some (alarm, timer) ∧
        pipeline.advance instant = { pipeline with timer := timer }.todo [.advance instant] := by
  rw [advance]
  split
  · rename_i nothing
    exact Or.inl ⟨nothing, rfl⟩
  · rename_i alarm timer due
    exact Or.inr ⟨alarm, timer, due, if_pos (isCancelled_of_takeDue none due)⟩

/-- What is done where the stage is gone leaves nothing in the journal but marks of the driver and
lines of the log. -/
theorem chronicle_perform_of_gone (gone : pipeline.alive = false)
    (none : pipeline.timer.pending = 0) {task : Task α} (outside : isOutside task = true) :
    ∃ events, (pipeline.perform task).chronicle = pipeline.chronicle ++ events ∧
      ∀ event ∈ events, event.isOwn = true := by
  have silent : ∀ {next : Pipeline α}, next.journal = pipeline.journal →
      ∃ events, next.chronicle = pipeline.chronicle ++ events ∧
        ∀ event ∈ events, event.isOwn = true := by
    intro next same
    refine ⟨[], ?_, List.forall_mem_nil _⟩
    rw [List.append_nil]
    exact chronicle_eq_of_journal same
  cases task with
  | act action =>
      cases action with
      | mark content =>
          exact ⟨[.marked content], chronicle_note pipeline _, List.forall_mem_singleton.mpr rfl⟩
      | shutDownTimer => exact silent rfl
      | _ => exact silent (journal_act_of_gone gone rfl)
  | release => exact silent (journal_sweep _)
  | log line => exact ⟨[.log line], chronicle_note pipeline _, List.forall_mem_singleton.mpr rfl⟩
  | advance instant =>
      rcases advance_of_gone none instant with ⟨_, same⟩ | ⟨alarm, timer, _, same⟩ <;>
        rw [perform, same] <;> exact silent rfl
  | _ => cases outside

end Gone

/-! ## Once nobody holds the stage -/

section Reachable

variable {config : Config} {setup : Setup α} {pipeline first last : Pipeline α}

theorem Reachable.later (reachable : Reachable config setup first) (later : Later first last) :
    Reachable config setup last := by
  obtain ⟨opening, made, earlier⟩ := reachable
  exact ⟨opening, made, earlier.trans later⟩

/-- The driver cannot take back a stage that it gave up. -/
theorem Later.owned_of_given (later : Later first last) (given : first.owned = false) :
    last.owned = false := by
  induction later with
  | here => exact given
  | begin _ _ _ ih => exact ih
  | @step last earlier ih =>
      cases agenda_eq : last.agenda with
      | nil => rwa [step_of_atRest (List.isEmpty_iff.mpr agenda_eq)]
      | cons task rest =>
          obtain ⟨stage, timer, events, tasks, _, becomes⟩ := exists_step_effect agenda_eq
          by_contra kept
          have before := becomes.owned_of (Bool.not_eq_false _ ▸ kept)
          cases ih.symm.trans before

/-- A stage that was given up is gone when the calls that are under way have returned. -/
theorem Reachable.gone_of_returned (reachable : Reachable config setup pipeline)
    (given : pipeline.owned = false) (returned : .release ∉ pipeline.agenda) :
    pipeline.alive = false := by
  refine (alive_eq_false_iff pipeline).mpr ⟨given, ?_⟩
  rw [reachable.held.holders_eq, List.countP_eq_zero]
  intro task member letting
  cases task with
  | release => exact returned member
  | _ => cases letting

theorem Later.alive_of_gone (later : Later first last) (gone : first.alive = false) :
    last.alive = false := by
  induction later with
  | here => exact gone
  | step _ ih =>
      by_contra held
      rw [Bool.not_eq_false] at held
      cases ih.symm.trans (alive_of_step held)
  | begin _ _ _ ih => exact ih

/-- A stage that is gone has no live alarm, whether its timer was shut down or not. -/
theorem Reachable.pending_of_gone (reachable : Reachable config setup pipeline)
    (attached : setup.detached = false) (gone : pipeline.alive = false) :
    pipeline.timer.pending = 0 := by
  cases down : pipeline.timer.isShutDown with
  | true => rw [Timer.pending, reachable.queue_of_isShutDown down, List.countP_nil]
  | false => exact pending_of_tracks (reachable.tracks_of_gone attached gone down)

/-- Moving the clock passes cancelled alarms over until none of them is due. -/
theorem Reachable.exists_passed_over (reachable : Reachable config setup pipeline)
    (attached : setup.detached = false) (gone : pipeline.alive = false) {instant : Duration}
    (agenda_eq : pipeline.agenda = [.advance instant]) :
    ∃ bound, (pipeline.run bound).atRest = true ∧
      (pipeline.run bound).journal = pipeline.journal := by
  -- Each alarm that is taken shortens the queue.
  induction length_eq : pipeline.timer.queue.length using Nat.strongRecOn
    generalizing pipeline with
  | ind length ih =>
      have idle : { pipeline with agenda := [] }.timer.pending = 0 :=
        reachable.pending_of_gone attached gone
      rcases advance_of_gone idle instant with ⟨_, same⟩ | ⟨alarm, timer, due, same⟩
      · refine ⟨1, ?_, ?_⟩ <;> rw [run_of_agenda agenda_eq, perform, same] <;> rfl
      · obtain ⟨_, rest, queue_eq, rfl⟩ := Timer.eq_of_takeDue due
        have stepped := (step_of_agenda agenda_eq).trans same
        have shorter : pipeline.step.timer.queue.length < length := by
          have longer : pipeline.timer.queue.length = rest.length + 1 := congrArg _ queue_eq
          rw [stepped, ← length_eq, longer]
          exact Nat.lt_succ_self _
        obtain ⟨bound, rests, journal_eq⟩ := ih _ shorter reachable.step
          ((Later.step .here).alive_of_gone gone) (congrArg Pipeline.agenda stepped) rfl
        refine ⟨bound + 1, ?_, ?_⟩ <;> rw [run_succ_of_busy (busy_of_agenda agenda_eq)]
        · exact rests
        · rw [journal_eq, stepped]
          rfl

theorem step_begin_of_atRest (rest : pipeline.atRest = true) (action : Action α) :
    (pipeline.begin action).step = pipeline.act action := by
  have same : { pipeline with agenda := [] } = pipeline := by
    rw [← List.isEmpty_iff.mp rest]
  rw [step_of_agenda (agenda_begin_of_atRest rest action)]
  exact congrArg (Pipeline.act · action) same

/-- Whatever is done to a stage that is gone, nothing happens. -/
theorem Reachable.exists_silent (reachable : Reachable config setup pipeline)
    (attached : setup.detached = false) (gone : pipeline.alive = false)
    (rest : pipeline.atRest = true) {action : Action α} (silent : action.isSilent = true) :
    ∃ bound, ((pipeline.begin action).run bound).atRest = true ∧
      ((pipeline.begin action).run bound).journal = pipeline.journal := by
  have stepped := step_begin_of_atRest rest action
  have same := journal_act_of_gone gone silent
  have busy : (pipeline.begin action).atRest = false := rfl
  rcases agenda_act_of_gone gone silent (List.isEmpty_iff.mp rest) with done | ⟨instant, moves⟩
  · refine ⟨1, ?_, ?_⟩ <;> rw [run_succ_of_busy busy, stepped]
    · exact List.isEmpty_iff.mpr done
    · exact same
  · have acted : Reachable config setup (pipeline.act action) :=
      stepped ▸ (reachable.begin rest action).step
    obtain ⟨bound, rests, journal_eq⟩ :=
      acted.exists_passed_over attached (gone_act gone action) moves
    refine ⟨bound + 1, ?_, ?_⟩ <;> rw [run_succ_of_busy busy, stepped]
    · exact rests
    · exact journal_eq.trans same

theorem Reachable.chronicle_of_gone (reachable : Reachable config setup first)
    (attached : setup.detached = false) (gone : first.alive = false) (later : Later first last) :
    ∃ events, last.chronicle = first.chronicle ++ events ∧
      ∀ event ∈ events, event.isOwn = true := by
  induction later with
  | here => exact ⟨[], (List.append_nil _).symm, List.forall_mem_nil _⟩
  | begin _ _ _ ih => exact ih
  | @step last earlier ih =>
      cases agenda_eq : last.agenda with
      | nil => rwa [step_of_atRest (List.isEmpty_iff.mpr agenda_eq)]
      | cons task rest =>
          obtain ⟨events, chronicle_eq, own⟩ := ih
          have before := reachable.later earlier
          have goneLast := earlier.alive_of_gone gone
          have outside := before.held.isOutside goneLast
          rw [agenda_eq] at outside
          have goneRest : { last with agenda := rest }.alive = false := goneLast
          have noneRest : { last with agenda := rest }.timer.pending = 0 :=
            before.pending_of_gone attached goneLast
          obtain ⟨added, added_eq, ownAdded⟩ := chronicle_perform_of_gone goneRest noneRest
            (outside task List.mem_cons_self)
          refine ⟨events ++ added, ?_, List.forall_mem_append.mpr ⟨own, ownAdded⟩⟩
          rw [step_of_agenda agenda_eq, added_eq, ← List.append_assoc, ← chronicle_eq]
          rfl

/-- What is certain about a stage that is gone. -/
structure CleanlyGone (pipeline : Pipeline α) : Prop where
  alive : pipeline.alive = false
  pending : pipeline.timer.pending = 0
  /-- It stays gone, and never again has an alarm that waits. -/
  later : ∀ last, Later pipeline last → last.alive = false ∧ last.timer.pending = 0
  /-- Nobody calls it, and it calls nobody: what still happens are marks of the driver and lines
  that the timer logs. -/
  own : ∀ last, Later pipeline last → ∃ events, last.chronicle = pipeline.chronicle ++ events ∧
    ∀ event ∈ events, event.isOwn = true
  /-- When the clock moves on, or the consumer asks for batches or cancels, nothing happens. -/
  silent : ∀ last, Later pipeline last → last.atRest = true → ∀ action, action.isSilent = true →
    ∃ bound, ((last.begin action).run bound).atRest = true ∧
      ((last.begin action).run bound).journal = last.journal

/-- A stage that was given up is gone without a trace when the calls that were under way have
returned. -/
theorem Reachable.cleanlyGone (reachable : Reachable config setup first)
    (attached : setup.detached = false) (given : first.owned = false) (later : Later first last)
    (returned : .release ∉ last.agenda) : CleanlyGone last := by
  have reached := reachable.later later
  have alive := reached.gone_of_returned (later.owned_of_given given) returned
  have stays : ∀ next, Later last next → Reachable config setup next ∧ next.alive = false :=
    fun next after => ⟨reached.later after, after.alive_of_gone alive⟩
  constructor
  case alive => exact alive
  case pending => exact reached.pending_of_gone attached alive
  case later =>
    intro next after
    obtain ⟨there, gone⟩ := stays next after
    exact ⟨gone, there.pending_of_gone attached gone⟩
  case own => exact fun next after => reached.chronicle_of_gone attached alive after
  case silent =>
    intro next after rest action silent
    obtain ⟨there, gone⟩ := stays next after
    exact there.exists_silent attached gone rest silent

end Reachable

/-- The driver gives the stage up in the middle of the call that sets the first alarm, while an item
is still in the queue. -/
theorem cleanlyGone_of_drop_in_schedule :
    ∃ first last : Pipeline Nat,
      Reachable ⟨2, .ofMillis 10, .unbounded⟩
        { reactions := fun kind _ =>
            if kind = .schedule then [.next [7], .dropStage] else [] } first ∧
      first.owned = false ∧ first.timer.pending = 1 ∧ first.stage.signals.length = 1 ∧
      Later first last ∧ last.subscribed = true ∧ CleanlyGone last := by
  have start : @Reachable Nat ⟨2, .ofMillis 10, .unbounded⟩
      { reactions := fun kind _ =>
          if kind = .schedule then [.next [7], .dropStage] else [] } _ :=
    Reachable.of_opening rfl
  have first := start.act rfl .subscribe 11
  exact ⟨_, _, first, rfl, rfl, rfl, .run .here 40, rfl,
    Reachable.cleanlyGone first rfl rfl (.run .here 40) nofun⟩

end Pipeline

end TimedBatch
