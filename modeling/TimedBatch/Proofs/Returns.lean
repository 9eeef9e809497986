import TimedBatch.Proofs.Effort
import TimedBatch.Proofs.Punctual

/-!
# Advances that return

A stage that finds no item in its batch when its time span is over sets its alarm anew, so the queue
of its timer never runs empty while the clock is moved. What ends an advance is the clock: no two
alarms are live at once, and each one is set a whole time span after the reading at which the one
before it started.
-/

namespace TimedBatch.Pipeline

variable {α : Type} {config : Config} {setup : Setup α} {pipeline first : Pipeline α}
  {task : Task α}

/-! ## One live alarm -/

/-- No two alarms of a stage are live at once. -/
theorem Reachable.live_length_le (reachable : Reachable config setup pipeline)
    (attached : setup.detached = false) : pipeline.timer.live.length ≤ 1 := by
  cases closed : pipeline.timer.isShutDown with
  | true =>
      rw [Timer.live, reachable.queue_of_isShutDown closed]
      exact Nat.zero_le 1
  | false =>
      cases held : pipeline.alive with
      | true =>
          obtain ⟨waiting, tracks, watch⟩ := reachable.watched attached held closed
          rw [tracks.live_eq]
          cases waiting with
          | nil => exact Nat.zero_le 1
          | cons alarm others =>
              rw [(watch.single alarm others rfl).1]
              exact Nat.le_refl 1
      | false =>
          rw [(reachable.tracks_of_gone attached held closed).live_eq]
          exact Nat.zero_le 1

/-- When the only live alarm starts, none is left. -/
theorem live_of_takeDue {timer next : Timer UInt64} {instant : Duration} {alarm : Alarm UInt64}
    (due : timer.takeDue instant = some (alarm, next)) (live : next.isCancelled alarm.token = false)
    (single : timer.live.length ≤ 1) : alarm ∈ timer.live ∧ next.live = [] := by
  obtain ⟨_, rest, queue_eq, rfl⟩ := Timer.eq_of_takeDue due
  let others := rest.filter fun other => !timer.isCancelled other.token
  have live_eq : timer.live = alarm :: others := by
    rw [Timer.live, queue_eq]
    exact List.filter_cons_of_pos (congrArg not live)
  rw [live_eq] at single ⊢
  refine ⟨List.mem_cons_self, ?_⟩
  rw [List.length_cons] at single
  exact List.length_eq_zero_iff.mp (Nat.le_zero.mp (Nat.le_of_succ_le_succ single))

/-! ## Alarms that start one time span apart -/

theorem add_eq_longest_or (instant span : Duration) :
    instant + span = .longest ∨ (instant + span).nanos = instant.nanos + span.nanos := by
  by_cases fits : instant.nanos + span.nanos ≤ 2 ^ 64 * 10 ^ 9 - 1
  · right
    rw [Duration.nanos_add]
    exact Nat.min_eq_left fits
  · left
    ext
    rw [Duration.nanos_add, Duration.nanos_longest]
    omega

/-- The instant that an action gives to the clock. -/
def target? (pipeline : Pipeline α) : Action α → Option Duration
  | .advance span => some (pipeline.timer.now + span)
  | .advanceTo instant => some (pipeline.timer.now + (instant - pipeline.timer.now))
  | _ => none

/-- How long the time spans of all alarms that have started since some moment last together. -/
def spent (first pipeline : Pipeline α) (span : Duration) : Nat :=
  (pipeline.firings - first.firings) * span.nanos

/-- An advance from some moment to a target is under way or over. Each alarm that has started since
then, but the first, has waited for a whole time span. -/
structure Spaced (first pipeline : Pipeline α) (target span : Duration) : Prop where
  firings_le : first.firings ≤ pipeline.firings
  elapsed : first.timer.now.nanos + spent first pipeline span ≤
    pipeline.timer.now.nanos + span.nanos
  /-- The alarm that is live waits for a whole time span, too, unless the clock ends before. -/
  waits : ∀ alarm ∈ pipeline.timer.live, alarm.deadline = .longest ∨
    first.timer.now.nanos + spent first pipeline span ≤
      max pipeline.timer.now.nanos alarm.deadline.nanos
  within : pipeline.timer.now ≤ target
  ending : pipeline.agenda = [] ∧ pipeline.timer.now = target ∨
    ∃ above, pipeline.agenda = above ++ [.advance target]

namespace Spaced

/-- No alarm has started yet. -/
theorem begin {target span : Duration} (forward : first.timer.now ≤ target)
    (agenda_eq : ∃ above, pipeline.agenda = above ++ [Task.advance target])
    (timer_eq : pipeline.timer = first.timer)
    (chronicle_eq : pipeline.chronicle = first.chronicle) :
    Spaced first pipeline target span := by
  have firings_eq : pipeline.firings = first.firings := by rw [firings, chronicle_eq, firings]
  have nothing : spent first pipeline span = 0 := by
    rw [spent, firings_eq, Nat.sub_self, Nat.zero_mul]
  refine ⟨Nat.le_of_eq firings_eq.symm, ?_, fun alarm _ => Or.inr ?_, timer_eq ▸ forward,
    Or.inr agenda_eq⟩
  · rw [nothing, timer_eq]
    exact Nat.le_add_right _ _
  · rw [nothing, timer_eq]
    exact Nat.le_max_left _ _

variable {target span : Duration} {rest : List (Task α)}

/-- A task that is not the clock may set an alarm, which waits for a whole time span. -/
theorem other (spaced : Spaced first pipeline target span)
    (span_eq : pipeline.stage.config.timeSpan = span) {above : List (Task α)}
    (agenda_eq : pipeline.agenda = task :: (above ++ [Task.advance target]))
    (still : ∀ instant, task ≠ .advance instant) : Spaced first pipeline.step target span := by
  obtain ⟨stage, timer, events, tasks, effect, becomes⟩ := exists_step_effect agenda_eq
  let popped : Pipeline α := { pipeline with agenda := above ++ [Task.advance target] }
  have step_eq : pipeline.step = popped.perform task := step_of_agenda agenda_eq
  have now_eq : pipeline.step.timer.now = pipeline.timer.now := by
    rw [step_eq]
    exact (stamped_perform popped still).now_eq
  have firings_eq : pipeline.step.firings = pipeline.firings := by
    rw [step_eq]
    exact firings_perform popped still
  have spent_eq : spent first pipeline.step span = spent first pipeline span := by
    rw [spent, spent, firings_eq]
  constructor
  case firings_le => exact firings_eq ▸ spaced.firings_le
  case elapsed =>
    rw [spent_eq, now_eq]
    exact spaced.elapsed
  case waits =>
    intro alarm member
    rw [spent_eq, now_eq]
    rw [becomes.timer_eq] at member
    rcases effect.mem_live member with before | ⟨_, deadline_eq⟩
    · exact spaced.waits alarm before
    · rw [deadline_eq, show popped.stage.config.timeSpan = span from span_eq]
      refine (add_eq_longest_or _ span).imp_right fun exact => ?_
      rw [exact]
      exact Nat.le_trans spaced.elapsed (Nat.le_max_right _ _)
  case within => exact now_eq ▸ spaced.within
  case ending =>
    right
    refine ⟨tasks ++ above, ?_⟩
    rw [becomes.agenda_eq, List.append_assoc]

/-- The clock moves on, and no alarm starts or is set. -/
theorem pass (spaced : Spaced first pipeline target span) {next : Pipeline α}
    (firings_eq : next.firings = pipeline.firings)
    (live : ∀ alarm ∈ next.timer.live, alarm ∈ pipeline.timer.live)
    (goes : pipeline.timer.now ≤ next.timer.now) (within : next.timer.now ≤ target)
    (ending : next.agenda = [] ∧ next.timer.now = target ∨
      ∃ above, next.agenda = above ++ [Task.advance target]) : Spaced first next target span := by
  have spent_eq : spent first next span = spent first pipeline span := by
    rw [spent, spent, firings_eq]
  rw [Duration.le_def] at goes
  constructor
  case firings_le => exact firings_eq ▸ spaced.firings_le
  case elapsed =>
    have elapsed := spaced.elapsed
    rw [spent_eq]
    omega
  case waits =>
    intro alarm member
    refine (spaced.waits alarm (live alarm member)).imp_right fun bound => ?_
    rw [spent_eq]
    omega
  case within => exact within
  case ending => exact ending

/-- When an alarm starts, a whole time span has passed, and no alarm is live any more. -/
theorem fire (spaced : Spaced first pipeline target span) (inTime : target < .longest)
    (single : pipeline.timer.live.length ≤ 1) {alarm : Alarm UInt64} {timer : Timer UInt64}
    (due : pipeline.timer.takeDue target = some (alarm, timer))
    (live : timer.isCancelled alarm.token = false) {next : Pipeline α}
    (timer_eq : next.timer = timer) (firings_eq : next.firings = pipeline.firings + 1)
    {above : List (Task α)} (agenda_eq : next.agenda = above ++ [Task.advance target]) :
    Spaced first next target span := by
  obtain ⟨now_eq, onTime⟩ := now_takeDue due
  obtain ⟨member, none⟩ := live_of_takeDue due live single
  have within : pipeline.timer.now.nanos ≤ target.nanos := spaced.within
  have waited : first.timer.now.nanos + spent first pipeline span ≤
      max pipeline.timer.now.nanos alarm.deadline.nanos := by
    refine (spaced.waits alarm member).resolve_left fun last => ?_
    rw [last] at onTime
    exact Nat.not_lt_of_le onTime inTime
  have spent_eq : spent first next span = spent first pipeline span + span.nanos := by
    have earlier := spaced.firings_le
    have one : next.firings - first.firings = pipeline.firings - first.firings + 1 := by omega
    rw [spent, one, Nat.succ_mul, spent]
  constructor
  case firings_le => exact firings_eq ▸ Nat.le_succ_of_le spaced.firings_le
  case elapsed =>
    rw [spent_eq, timer_eq, now_eq, Duration.nanos_max]
    omega
  case waits =>
    rw [timer_eq, none]
    exact List.forall_mem_nil _
  case within =>
    rw [Duration.le_def] at onTime
    rw [timer_eq, now_eq, Duration.le_def, Duration.nanos_max]
    omega
  case ending => exact Or.inr ⟨above, agenda_eq⟩

/-- The clock is moved up to the deadline of an alarm, or to the target. -/
theorem clock (spaced : Spaced first pipeline target span) (inTime : target < .longest)
    (single : pipeline.timer.live.length ≤ 1) (agenda_eq : pipeline.agenda = [.advance target]) :
    Spaced first pipeline.step target span := by
  obtain ⟨stage, timer, events, tasks, effect, becomes⟩ := exists_step_effect agenda_eq
  have firings_eq : pipeline.step.firings = pipeline.firings + events.countP Event.isFired := by
    rw [firings, becomes.chronicle_eq, List.countP_append]
    rfl
  cases effect with
  | free aside inert allFree => cases aside
  | swept aside gone => cases aside
  | clockSet idle =>
      have none : pipeline.step.agenda = [] := becomes.agenda_eq
      have now_eq : pipeline.step.timer.now = target := congrArg Timer.now becomes.timer_eq
      exact spaced.pass firings_eq (becomes.timer_eq ▸ fun _ => id) (now_eq ▸ spaced.within)
        (now_eq ▸ Nat.le_refl _) (Or.inl ⟨none, now_eq⟩)
  | alarmPassedOver due cancelled =>
      obtain ⟨now_eq, onTime⟩ := now_takeDue due
      have within := spaced.within
      rw [Duration.le_def] at onTime within
      refine spaced.pass firings_eq ?_ ?_ ?_ (Or.inr ⟨[], becomes.agenda_eq⟩)
      · rw [becomes.timer_eq]
        exact fun alarm member => Timer.mem_live_of_takeDue due member
      · rw [becomes.timer_eq, now_eq, Duration.le_def, Duration.nanos_max]
        exact Nat.le_max_left _ _
      · rw [becomes.timer_eq, now_eq, Duration.le_def, Duration.nanos_max]
        exact Nat.max_le.mpr ⟨within, onTime⟩
  | alarmFiredLate due live gone =>
      have agenda_eq : pipeline.step.agenda = [] ++ [Task.advance target] := becomes.agenda_eq
      exact spaced.fire inTime single due live becomes.timer_eq firings_eq agenda_eq
  | @alarmFired _ alarm _ due live held =>
      have agenda_eq : pipeline.step.agenda =
        [Task.enter (.tick alarm.task), .release] ++ [Task.advance target] := becomes.agenda_eq
      exact spaced.fire inTime single due live becomes.timer_eq firings_eq agenda_eq

theorem step (spaced : Spaced first pipeline target config.timeSpan)
    (reachable : Reachable config setup pipeline) (attached : setup.detached = false)
    (unhurried : Unhurried setup.reactions) (inTime : target < .longest) :
    Spaced first pipeline.step target config.timeSpan := by
  rcases spaced.ending with ⟨agenda_eq, _⟩ | ⟨above, agenda_eq⟩
  · rwa [step_of_atRest (List.isEmpty_iff.mpr agenda_eq)]
  · cases above with
    | nil => exact spaced.clock inTime (reachable.live_length_le attached) agenda_eq
    | cons task above =>
        have span_eq := congrArg Config.timeSpan reachable.steady.sized.config_eq
        refine spaced.other span_eq agenda_eq ?_
        rintro instant rfl
        -- Nothing that moves the clock stands above another task.
        have alone := (reachable.paced unhurried).rest_eq_nil agenda_eq rfl
        simp at alone

theorem run (spaced : Spaced first pipeline target config.timeSpan)
    (reachable : Reachable config setup pipeline) (attached : setup.detached = false)
    (unhurried : Unhurried setup.reactions) (inTime : target < .longest) (steps : Nat) :
    Spaced first (pipeline.run steps) target config.timeSpan := by
  have both := preserve_run
    (fun last => Reachable config setup last ∧ Spaced first last target config.timeSpan)
    (fun _ ⟨reachable, spaced⟩ =>
      ⟨reachable.step, spaced.step reachable attached unhurried inTime⟩)
    ⟨reachable, spaced⟩ steps
  exact both.2

/-- The number of alarms that start is bounded by the time that passes. -/
theorem firings_le_of_pos (spaced : Spaced first pipeline target span) (positive : 0 < span.nanos) :
    pipeline.firings ≤
      first.firings + ((target.nanos - first.timer.now.nanos) / span.nanos + 1) := by
  have elapsed := spaced.elapsed
  have within : pipeline.timer.now.nanos ≤ target.nanos := spaced.within
  have bound : (pipeline.firings - first.firings) * span.nanos ≤
      target.nanos - first.timer.now.nanos + span.nanos := by
    rw [spent] at elapsed
    omega
  have quotient := (Nat.le_div_iff_mul_le positive).mpr bound
  rw [Nat.add_div_right _ positive] at quotient
  omega

end Spaced

/-! ## Advances that return -/

/-- Collaborators make only so many calls in the middle of the calls of a run. -/
def AnswersFinitely (pipeline : Pipeline α) : Prop :=
  ∃ limit, ∀ steps, (pipeline.run steps).reentrantCalls ≤ limit

theorem Reachable.answersFinitely (reachable : Reachable config setup pipeline)
    (rest : pipeline.atRest = true) (bound : Nat)
    (silent : ∀ kind earlier, bound ≤ earlier → callTotal (setup.reactions kind earlier) = 0)
    (action : Action α) : AnswersFinitely (pipeline.begin action) := by
  obtain ⟨limit, few⟩ := reachable.exists_reentrantCalls_le bound silent
  exact ⟨limit, fun steps => few _ (Later.here.act rest action steps)⟩

/-- The first step of an advance puts its target on the agenda. -/
theorem step_begin_of_target? (simulated : pipeline.timer.style = .simulated)
    (rest : pipeline.atRest = true) {action : Action α} {target : Duration}
    (moves : pipeline.target? action = some target) :
    (pipeline.begin action).step = { pipeline with agenda := [.advance target] } := by
  rw [step_of_agenda (agenda_begin_of_atRest rest action)]
  cases action with
  | advance span =>
      cases moves
      simp only [perform, act, moveClock, begin, todo, simulated]
      rfl
  | advanceTo instant =>
      cases moves
      simp only [perform, act, moveClock, begin, todo, simulated]
      rfl
  | _ => cases moves

theorem le_of_target? {action : Action α} {target : Duration}
    (moves : pipeline.target? action = some target) : pipeline.timer.now ≤ target := by
  cases action with
  | advance span =>
      cases moves
      exact le_add _ _
  | advanceTo instant =>
      cases moves
      exact le_add _ _
  | _ => cases moves

/-- An advance to an instant before the end of the clock returns, although a stage that is idle sets
its alarm again and again: no more alarms start than the time that passes has room for. No reaction
moves the clock, and only so many calls are made in the middle of calls. -/
theorem Reachable.returns_of_advance (reachable : Reachable config setup pipeline)
    (simulated : setup.style = .simulated) (attached : setup.detached = false)
    (unhurried : Unhurried setup.reactions) (rest : pipeline.atRest = true) {action : Action α}
    {target : Duration} (moves : pipeline.target? action = some target)
    (inTime : target < .longest) (finite : AnswersFinitely (pipeline.begin action)) :
    ∃ steps, ((pipeline.begin action).run steps).atRest = true ∧
      ((pipeline.begin action).run steps).timer.now = target ∧
      ((pipeline.begin action).run steps).firings ≤ pipeline.firings +
        ((target.nanos - pipeline.timer.now.nanos) / config.timeSpan.nanos + 1) := by
  have style_eq := reachable.style_eq.trans simulated
  have begun := reachable.begin rest action
  have step_eq := step_begin_of_target? style_eq rest moves
  have busy : (pipeline.begin action).atRest = false :=
    busy_of_agenda (agenda_begin_of_atRest rest action)
  have run_eq := fun steps => run_succ_of_busy busy steps
  have spaced : Spaced pipeline (pipeline.begin action).step target config.timeSpan := by
    rw [step_eq]
    exact .begin (le_of_target? moves) ⟨[], rfl⟩ rfl rfl
  have positive : 0 < config.timeSpan.nanos := by
    obtain ⟨opening, made, _⟩ := reachable
    exact timeSpan_pos_of_made made
  have later := fun steps => spaced.run begun.step attached unhurried inTime steps
  obtain ⟨limit, calls⟩ := finite
  obtain ⟨steps, rests⟩ := begun.step.exists_rest (fun steps => run_eq steps ▸ calls (steps + 1))
    fun steps => (later steps).firings_le_of_pos positive
  refine ⟨steps + 1, ?_⟩
  rw [run_eq]
  refine ⟨rests, ?_, (later steps).firings_le_of_pos positive⟩
  rcases (later steps).ending with ⟨_, now_eq⟩ | ⟨above, agenda_eq⟩
  · exact now_eq
  · rw [atRest, agenda_eq] at rests
    simp at rests

/-- The alarm is set four times; an item is pushed while it is set for the third time. -/
theorem returns_of_advance_past_push :
    ∃ (pipeline : Pipeline Nat) (steps : Nat),
      Reachable ⟨2, .ofMillis 10, .unbounded⟩
        { reactions := fun kind earlier =>
            if kind = .schedule ∧ earlier = 2 then [.next [1]] else [] }
        pipeline ∧
      pipeline.timer.pending = 1 ∧
      ((pipeline.begin (.advance (.ofMillis 35))).run steps).atRest = true ∧
      ((pipeline.begin (.advance (.ofMillis 35))).run steps).timer.now = .ofMillis 35 ∧
      ((pipeline.begin (.advance (.ofMillis 35))).run steps).firings ≤ 0 + (35000000 / 10000000 + 1)
      := by
  have start : @Reachable Nat ⟨2, .ofMillis 10, .unbounded⟩
      { reactions := fun kind earlier =>
          if kind = .schedule ∧ earlier = 2 then [.next [1]] else [] } _ :=
    Reachable.of_opening rfl
  have subscribed := start.act rfl .subscribe 40
  have silent : ∀ kind earlier, 3 ≤ earlier → callTotal
      (if kind = CallKind.schedule ∧ earlier = 2 then [Action.next [1]] else []) = 0 := by
    intro kind earlier late
    rw [if_neg (by omega)]
    rfl
  have finite := subscribed.answersFinitely rfl 3 silent (.advance (.ofMillis 35))
  have unhurried : Unhurried fun kind earlier =>
      if kind = CallKind.schedule ∧ earlier = 2 then [Action.next [1]] else [] := by
    intro kind earlier action member
    dsimp only at member
    split at member
    · rw [List.mem_singleton.mp member]
      rfl
    · cases member
  obtain ⟨steps, returns⟩ :=
    subscribed.returns_of_advance rfl rfl unhurried rfl rfl (by decide) finite
  exact ⟨_, steps, subscribed, rfl, returns⟩

end TimedBatch.Pipeline
