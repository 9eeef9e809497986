import TimedBatch.Proofs.HandOff

/-!
# One decision for each generation

Ticks reach the stage from the alarm, from whoever declares a time span over, and out of callbacks,
and they wait in the queue together with items that fill the batch. Which of them ends a generation
is decided when it is worked off: the first that closes the batch hands it off and begins the next
generation, and a tick that is left of an old one is passed over. So the hand-offs of a run are
counted by the generations that they end.
-/

namespace TimedBatch

variable {α : Type}

namespace Pipeline

/-- A batch that is handed off because it is full or its time is over, with the generation that its
hand-off ends. -/
structure Decision (α : Type) where
  generation : UInt64
  handOff : HandOff α

/-- The hand-off that the next task makes, if it makes one: a signal is worked off, and then the
alarm of the next generation is to be set while the batch waits. -/
def decision? (pipeline : Pipeline α) : Option (Decision α) :=
  match pipeline.agenda, pipeline.step.agenda with
  | .workOff _ :: _, .setAlarm (some handOff) :: _ => some ⟨pipeline.stage.generation, handOff⟩
  | _, _ => none

/-- A run from one pipeline to another makes some hand-offs, in their order. -/
inductive Decides (first : Pipeline α) : List (Decision α) → Pipeline α → Prop where
  | here : Decides first [] first
  | step {decisions : List (Decision α)} {last : Pipeline α}
      (earlier : Decides first decisions last) :
      Decides first (decisions ++ last.decision?.toList) last.step
  | begin {decisions : List (Decision α)} {last : Pipeline α}
      (earlier : Decides first decisions last) (rest : last.atRest = true) (action : Action α) :
      Decides first decisions (last.begin action)

theorem Decides.of_opening {config : Config} {setup : Setup α} {first : Pipeline α}
    (_made : opening? config setup = .ok first) : Decides first [] first :=
  .here

theorem Later.exists_decides {first last : Pipeline α} (later : Later first last) :
    ∃ decisions, Decides first decisions last := by
  induction later with
  | here => exact ⟨[], .here⟩
  | step _ before => exact before.imp' _ fun _ decides => decides.step
  | begin _ rest action before => exact before.imp fun _ decides => decides.begin rest action

theorem Decides.later {first last : Pipeline α} {decisions : List (Decision α)}
    (decides : Decides first decisions last) : Later first last := by
  induction decides with
  | here => exact .here
  | step _ later => exact later.step
  | begin _ rest action later => exact later.begin rest action

/-- The hand-offs that are made until a pipeline is at rest, but no more than so many tasks are
done. -/
def decided : Nat → Pipeline α → List (Decision α)
  | 0, _ => []
  | bound + 1, pipeline =>
      if pipeline.atRest then [] else pipeline.decision?.toList ++ decided bound pipeline.step

theorem Decides.run {first middle : Pipeline α} {decisions : List (Decision α)}
    (earlier : Decides first decisions middle) (bound : Nat) :
    Decides first (decisions ++ decided bound middle) (middle.run bound) := by
  induction bound generalizing decisions middle with
  | zero =>
      rw [decided, List.append_nil]
      exact earlier
  | succ bound ih =>
      rw [run_succ, decided]
      split
      · rw [List.append_nil]
        exact earlier
      · rw [← List.append_assoc]
        exact ih earlier.step

theorem Decides.act {first middle : Pipeline α} {decisions : List (Decision α)}
    (earlier : Decides first decisions middle) (rest : middle.atRest = true) (action : Action α)
    (bound : Nat) :
    Decides first (decisions ++ decided bound (middle.begin action))
      ((middle.begin action).run bound) :=
  (earlier.begin rest action).run bound

/-! ## What one task decides -/

section Work

variable {hook : DiscardHook} {stage next : Stage α} {timer clock : Timer UInt64}
  {events : List (Event α)} {tasks : List (Task α)} {signal : Signal α}

/-- A signal closes the batch and begins a new generation, or it does neither. -/
inductive Resolves (stage next : Stage α) (signal : Signal α) (tasks : List (Task α)) : Prop where
  | keeps (generation_eq : next.generation = stage.generation)
      (published_eq : next.published = stage.published)
      (idle : ∀ handOff, .setAlarm (some handOff) ∉ tasks)
  | closes {handOff : HandOff α} (active : stage.status = .active)
      (closing : Closing stage signal handOff)
      (generation_eq : next.generation = stage.generation + 1)
      (published_eq : next.published = next.generation)
      (tasks_eq : tasks = [.setAlarm (some handOff)])

theorem Delivery.keeps {handOff : HandOff α}
    (delivery : Delivery hook stage timer handOff next clock events tasks) :
    next.generation = stage.generation ∧ next.published = stage.published ∧
      ∀ waiting, .setAlarm (some waiting) ∉ tasks := by
  cases delivery with
  | late ended => exact ⟨rfl, rfl, fun _ => unasked_of_isCalm isCalm_hookTasks _⟩
  | unpaid active unpaid => exact ⟨rfl, rfl, fun _ => unasked_of_isCalm isCalm_failureTasks _⟩
  | paid active paid =>
      refine ⟨rfl, rfl, fun waiting => ?_⟩
      rw [closingTasks]
      split <;> simp

theorem Failure.keeps {error : StreamError} {origin : Origin}
    (failure : Failure hook stage timer error origin next clock events tasks) :
    next.generation = stage.generation ∧ next.published = stage.published ∧
      ∀ waiting, .setAlarm (some waiting) ∉ tasks := by
  cases failure with
  | late ended => exact ⟨rfl, rfl, fun _ => List.not_mem_nil⟩
  | ended active => exact ⟨rfl, rfl, fun _ => unasked_of_isCalm isCalm_endingTasks _⟩

theorem Dispatch.resolves
    (dispatch : Dispatch hook stage timer signal next clock events tasks) :
    Resolves stage next signal tasks := by
  cases dispatch with
  | itemLast active received full => exact .closes active (.size received full) rfl rfl rfl
  | tickClosing active filled => exact .closes active (.time filled) rfl rfl rfl
  | completed active filled delivery =>
      obtain ⟨generation_eq, published_eq, idle⟩ := delivery.keeps
      exact .keeps generation_eq published_eq idle
  | failed failure =>
      obtain ⟨generation_eq, published_eq, idle⟩ := failure.keeps
      exact .keeps generation_eq published_eq idle
  | cancelledEmpty empty => exact .keeps rfl rfl fun _ => unasked_of_isCalm isCalm_hookTasks _
  | cancelled filled => exact .keeps rfl rfl fun _ => unasked_of_isCalm isCalm_hookTasks _
  | _ => exact .keeps rfl rfl (by simp)

end Work

section Step

variable {pipeline : Pipeline α} {task : Task α} {stage : Stage α} {timer : Timer UInt64}
  {events : List (Event α)} {tasks : List (Task α)} {decision : Decision α}

/-- What the work on the queue does with its next signal, or without one. -/
theorem Effect.resolves {missed : Nat}
    (effect : Effect pipeline (.workOff missed) stage timer events tasks) :
    (pipeline.stage.signals = [] ∧ stage.generation = pipeline.stage.generation ∧
        stage.published = pipeline.stage.published ∧
        ∀ handOff, .setAlarm (some handOff) ∉ tasks) ∨
      ∃ signal rest, pipeline.stage.signals = signal :: rest ∧ ∃ more,
        tasks = more ++ [Task.workOff missed] ∧
        Resolves { pipeline.stage with signals := rest } stage signal more := by
  cases effect with
  | free aside => cases aside
  | swept aside => cases aside
  | accounted empty => exact Or.inl ⟨empty, rfl, rfl, fun _ => List.not_mem_nil⟩
  | accountedMore empty => exact Or.inl ⟨empty, rfl, rfl, by simp⟩
  | handled first dispatch => exact Or.inr ⟨_, _, first, _, rfl, dispatch.resolves⟩

/-- Outside the work on the queue no generation begins. -/
theorem Effect.generation_eq (effect : Effect pipeline task stage timer events tasks)
    (outside : ∀ missed, task ≠ .workOff missed) :
    stage.generation = pipeline.stage.generation ∧ stage.published = pipeline.stage.published := by
  cases effect with
  | accounted => exact absurd rfl (outside _)
  | accountedMore => exact absurd rfl (outside _)
  | handled => exact absurd rfl (outside _)
  | acceptedHandOff delivery => exact ⟨delivery.keeps.1, delivery.keeps.2.1⟩
  | failed failure => exact ⟨failure.keeps.1, failure.keeps.2.1⟩
  | _ => exact ⟨rfl, rfl⟩

theorem Effect.published_eq (effect : Effect pipeline task stage timer events tasks)
    (same : pipeline.stage.published = pipeline.stage.generation) :
    stage.published = stage.generation := by
  by_cases outside : ∀ missed, task ≠ .workOff missed
  · obtain ⟨generation_eq, published_eq⟩ := effect.generation_eq outside
    rw [generation_eq, published_eq, same]
  · obtain ⟨missed, works⟩ := not_forall_not.mp outside
    subst works
    rcases effect.resolves with ⟨_, generation_eq, published_eq, _⟩ | ⟨_, _, _, _, _, resolves⟩
    · rw [generation_eq, published_eq, same]
    · cases resolves with
      | keeps generation_eq published_eq _ =>
          exact published_eq.trans (same.trans generation_eq.symm)
      | closes _ _ _ published_eq _ => exact published_eq

/-- It is the first signal that closes a batch, whatever waits behind it. -/
theorem Closing.of_signals {signal : Signal α} {signals : List (Signal α)} {handOff : HandOff α}
    (closing : Closing { stage with signals := signals } signal handOff) :
    Closing stage signal handOff := by
  cases closing with
  | size received full => exact .size received full
  | time filled => exact .time filled

/-- The open batch is closed by the next task. -/
structure IsClosing (pipeline : Pipeline α) (handOff : HandOff α) : Prop where
  working : ∃ missed below, pipeline.agenda = .workOff missed :: below
  active : pipeline.stage.status = .active
  closing : ∃ signal rest, pipeline.stage.signals = signal :: rest ∧
    Closing pipeline.stage signal handOff

theorem IsClosing.closed {handOff : HandOff α} (closing : IsClosing pipeline handOff) :
    Closed pipeline pipeline.step handOff := by
  obtain ⟨⟨missed, below, agenda_eq⟩, active, signal, rest, signals_eq, closes⟩ := closing
  exact closed_step agenda_eq active signals_eq closes

theorem IsClosing.decision?_eq {handOff : HandOff α} (closing : IsClosing pipeline handOff) :
    pipeline.decision? = some ⟨pipeline.stage.generation, handOff⟩ := by
  obtain ⟨missed, below, agenda_eq⟩ := closing.working
  rw [decision?, closing.closed.agenda_eq, agenda_eq]

/-- Where the work leaves no alarm to be set for a batch on top, there is no hand-off. -/
theorem decision?_of_unasked {missed : Nat} {below : List (Task α)}
    (order : InOrder pipeline.stage (.workOff missed :: below))
    (after_eq : pipeline.step.agenda = tasks ++ below)
    (unasked : ∀ handOff, .setAlarm (some handOff) ∉ tasks) : pipeline.decision? = none := by
  have untouched : ∀ handOff, .setAlarm (some handOff) ∉ pipeline.step.agenda := by
    intro handOff member
    rw [after_eq] at member
    rcases List.mem_append.mp member with added | left
    · exact unasked handOff added
    · cases order.outer_of_workOff _ left
  rw [decision?]
  split
  · rename_i handOff _ _ top
    exact absurd (top ▸ List.mem_cons_self) (untouched handOff)
  · rfl

/-- A task that does not close the batch makes no hand-off and begins no generation. -/
theorem decision?_eq_none (order : InOrder pipeline.stage pipeline.agenda)
    (stays : ∀ handOff, ¬IsClosing pipeline handOff) :
    pipeline.decision? = none ∧ pipeline.step.stage.generation = pipeline.stage.generation := by
  cases agenda_eq : pipeline.agenda with
  | nil =>
      rw [step_of_atRest (List.isEmpty_iff.mpr agenda_eq), decision?, agenda_eq]
      exact ⟨rfl, rfl⟩
  | cons task below =>
      obtain ⟨stage, timer, events, tasks, effect, becomes⟩ := exists_step_effect agenda_eq
      rw [becomes.stage_eq]
      by_cases outside : ∀ missed, task ≠ .workOff missed
      · refine ⟨?_, (effect.generation_eq outside).1⟩
        rw [decision?, agenda_eq]
        cases task with
        | workOff missed => exact absurd rfl (outside missed)
        | _ => rfl
      · obtain ⟨missed, works⟩ := not_forall_not.mp outside
        subst works
        rw [agenda_eq] at order
        rcases effect.resolves with ⟨_, generation_eq, _, unasked⟩ |
          ⟨signal, rest, signals_eq, more, rfl, resolves⟩
        · exact ⟨decision?_of_unasked order becomes.agenda_eq unasked, generation_eq⟩
        · cases resolves with
          | keeps generation_eq published_eq unasked =>
              exact ⟨decision?_of_unasked order becomes.agenda_eq (by simpa using unasked),
                generation_eq⟩
          | @closes handOff active closing =>
              exact absurd ⟨⟨_, _, agenda_eq⟩, active, _, _, signals_eq, closing.of_signals⟩
                (stays handOff)

theorem Reachable.published_eq {config : Config} {setup : Setup α}
    (reachable : Reachable config setup pipeline) :
    pipeline.stage.published = pipeline.stage.generation :=
  reachable.preserve (fun stage _ _ => stage.published = stage.generation) (fun _ => rfl)
    (fun _ _ _ same => same) fun _ _ _ _ _ _ effect same => effect.published_eq same

end Step

/-! ## Ticks that are passed over -/

/-- A tick that is worked off leaves everything but the queue and the journal as it was, and nobody
is called. -/
structure PassedOver (pipeline : Pipeline α) (generation : UInt64) (rest : List (Signal α)) :
    Prop where
  step_eq : pipeline.step =
    { pipeline with
      stage := { pipeline.stage with signals := rest }
      journal := pipeline.step.journal }
  chronicle_eq : pipeline.step.chronicle = pipeline.chronicle ++ .handled (.tick generation) ::
    if pipeline.stage.status = .active then
      [.log (staleTickLine generation pipeline.stage.generation)]
    else []
  diagnostics_eq : pipeline.step.diagnostics = pipeline.diagnostics

theorem endSpan_of_idle (pipeline : Pipeline α) {generation : UInt64}
    (idle : generation ≠ pipeline.stage.generation ∨ pipeline.stage.status ≠ .active) :
    pipeline.endSpan generation =
      if pipeline.stage.status = .active then
        pipeline.note (.log (staleTickLine generation pipeline.stage.generation))
      else pipeline := by
  rw [endSpan]
  by_cases active : pipeline.stage.status = .active
  · have stale := idle.resolve_right (not_not_intro active)
    rw [if_pos (Stage.isActive_iff.mpr active), if_pos stale, if_pos active]
  · rw [if_neg (mt Stage.isActive_iff.mp active), if_neg active]

/-- A tick of another generation, or one that finds the stage ended, is passed over. -/
theorem passedOver_of_tick {pipeline : Pipeline α} {missed : Nat} {below : List (Task α)}
    {generation : UInt64} {rest : List (Signal α)}
    (agenda_eq : pipeline.agenda = .workOff missed :: below)
    (signals_eq : pipeline.stage.signals = .tick generation :: rest)
    (idle : generation ≠ pipeline.stage.generation ∨ pipeline.stage.status ≠ .active) :
    PassedOver pipeline generation rest := by
  let taken := { pipeline with stage := { pipeline.stage with signals := rest } }
  have step_eq : pipeline.step = (taken.note (.handled (.tick generation))).endSpan generation := by
    rw [step_of_agenda agenda_eq, perform, workOff, signals_eq]
    dsimp only [handle, todo, withStage, note, taken]
    rw [List.singleton_append, ← agenda_eq]
  rw [endSpan_of_idle (taken.note _) idle] at step_eq
  have chronicle_eq : taken.chronicle = pipeline.chronicle := rfl
  constructor
  case chronicle_eq =>
    by_cases active : pipeline.stage.status = .active
    · have works : (taken.note (.handled (.tick generation))).stage.status = .active := active
      rw [step_eq, if_pos works, if_pos active, chronicle_note, chronicle_note, chronicle_eq,
        List.append_assoc]
      rfl
    · have ended : (taken.note (.handled (.tick generation))).stage.status ≠ .active := active
      rw [step_eq, if_neg ended, if_neg active, chronicle_note, chronicle_eq]
  all_goals
    rw [step_eq]
    split <;> rfl

/-! ## One decision for each generation -/

/-- The hand-offs of a run, and the generation that it has come to. -/
structure Counted (decisions : List (Decision α)) (pipeline : Pipeline α) : Prop where
  generation_eq : pipeline.stage.generation = .ofNat decisions.length
  numbers_eq : decisions.map Decision.generation = (List.range decisions.length).map .ofNat
  /-- A batch that is handed off in this way is not that of a completion, nor empty. -/
  early : ∀ decision ∈ decisions,
    decision.handOff.trigger ≠ .completion ∧ decision.handOff.batch ≠ []

theorem Closing.filled {stage : Stage α} {signal : Signal α} {handOff : HandOff α}
    (closing : Closing stage signal handOff) : handOff.batch ≠ [] := by
  cases closing with
  | size received full => exact List.append_ne_nil_of_right_ne_nil _ (List.cons_ne_nil _ [])
  | time filled => exact filled

theorem Counted.step {decisions : List (Decision α)} {pipeline : Pipeline α}
    (counted : Counted decisions pipeline) (order : InOrder pipeline.stage pipeline.agenda) :
    Counted (decisions ++ pipeline.decision?.toList) pipeline.step := by
  obtain ⟨generation_eq, numbers_eq, early⟩ := counted
  by_cases stays : ∀ handOff, ¬IsClosing pipeline handOff
  · obtain ⟨none, same⟩ := decision?_eq_none order stays
    rw [none, Option.toList_none, List.append_nil]
    exact ⟨same.trans generation_eq, numbers_eq, early⟩
  · obtain ⟨handOff, closing⟩ := not_forall_not.mp stays
    rw [closing.decision?_eq, Option.toList_some]
    constructor
    · rw [closing.closed.generation_eq, generation_eq, List.length_append]
      exact (UInt64.ofNat_add _ 1).symm
    · rw [List.length_append, List.length_singleton, List.range_succ, List.map_append,
        List.map_append, numbers_eq, List.map_singleton, List.map_singleton, generation_eq]
    · obtain ⟨_, _, _, closes⟩ := closing.closing
      exact List.forall_mem_append.mpr
        ⟨early, List.forall_mem_singleton.mpr ⟨closes.early, closes.filled⟩⟩

theorem Decides.counted {config : Config} {setup : Setup α} {first last : Pipeline α}
    {decisions : List (Decision α)} (made : opening? config setup = .ok first)
    (decides : Decides first decisions last) : Counted decisions last := by
  induction decides with
  | here =>
      obtain ⟨_, stage_eq, _, _⟩ := opening?_eq_ok made
      exact ⟨by rw [stage_eq]; rfl, rfl, List.forall_mem_nil _⟩
  | step earlier counted =>
      have reachable : Reachable config setup _ := ⟨first, made, earlier.later⟩
      exact counted.step reachable.inOrder
  | begin _ rest action counted => exact ⟨counted.1, counted.2, counted.3⟩

/-- What a run decides: the generation counts the hand-offs, and none is handed off twice. -/
structure DecidesOnce (decisions : List (Decision α)) (pipeline : Pipeline α) : Prop where
  generation_eq : pipeline.stage.generation = .ofNat decisions.length
  counts : decisions.length < 2 ^ 64 → pipeline.stage.generation.toNat = decisions.length
  /-- Whoever declares the time span over is told the generation of the stage. -/
  published_eq : pipeline.stage.published = pipeline.stage.generation
  numbers_eq : decisions.map Decision.generation = (List.range decisions.length).map .ofNat
  once : decisions.length ≤ 2 ^ 64 → (decisions.map Decision.generation).Nodup
  early : ∀ decision ∈ decisions,
    decision.handOff.trigger ≠ .completion ∧ decision.handOff.batch ≠ []
  /-- A hand-off is made where the first signal closes the batch of an active stage. -/
  decides_iff : ∀ decision, pipeline.decision? = some decision ↔
    decision.generation = pipeline.stage.generation ∧ IsClosing pipeline decision.handOff
  ignores : ∀ missed below generation rest, pipeline.agenda = .workOff missed :: below →
    pipeline.stage.signals = .tick generation :: rest →
    generation ≠ pipeline.stage.generation ∨ pipeline.stage.status ≠ .active →
      PassedOver pipeline generation rest

/-- Whatever ticks reach the stage, from wherever and however often, each generation is ended by one
decision, and a tick of another generation or after the end is passed over. -/
theorem Decides.decidesOnce {config : Config} {setup : Setup α} {first last : Pipeline α}
    {decisions : List (Decision α)} (made : opening? config setup = .ok first)
    (decides : Decides first decisions last) : DecidesOnce decisions last := by
  have reachable : Reachable config setup last := ⟨first, made, decides.later⟩
  obtain ⟨generation_eq, numbers_eq, early⟩ := decides.counted made
  constructor
  case generation_eq => exact generation_eq
  case counts =>
    intro few
    rw [generation_eq, UInt64.toNat_ofNat_of_lt' few]
  case published_eq => exact reachable.published_eq
  case numbers_eq => exact numbers_eq
  case once =>
    intro few
    rw [numbers_eq]
    refine List.nodup_range.map_on fun earlier inside later within same => ?_
    exact ofNat_inj ((List.mem_range.mp inside).trans_le few)
      ((List.mem_range.mp within).trans_le few) same
  case early => exact early
  case decides_iff =>
    intro decision
    constructor
    · intro decided
      by_cases stays : ∀ handOff, ¬IsClosing last handOff
      · rw [(decision?_eq_none reachable.inOrder stays).1] at decided
        cases decided
      · obtain ⟨handOff, closing⟩ := not_forall_not.mp stays
        rw [closing.decision?_eq] at decided
        cases decided
        exact ⟨rfl, closing⟩
    · rintro ⟨number, closing⟩
      rw [closing.decision?_eq, ← number]
  case ignores => exact fun _ _ _ _ agenda_eq signals_eq idle =>
    passedOver_of_tick agenda_eq signals_eq idle

set_option maxRecDepth 2000 in
/-- While the first batch is delivered, ticks of both generations and an item are queued. The tick
of the first is stale then, the first of the second finds no item, the next one hands the item off,
and the last one is stale again. -/
theorem decidesOnce_of_ticks_in_batch :
    ∃ (first last : Pipeline Nat) (decisions : List (Decision Nat)),
      opening? ⟨2, .ofMillis 10, .unbounded⟩
        { reactions := fun kind earlier =>
            if kind = .subscribe then [.request .unbounded]
            else if kind = .next ∧ earlier = 0 then
              [.tick 0, .flushNow, .next [3], .flushNow, .tick 1]
            else [] } = .ok first ∧
      Decides first decisions last ∧
      decisions = [⟨0, ⟨[1, 2], .size⟩⟩, ⟨1, ⟨[3], .time⟩⟩] ∧
      last.delivered = [[1, 2], [3]] ∧ DecidesOnce decisions last := by
  have made : @opening? Nat ⟨2, .ofMillis 10, .unbounded⟩
      { reactions := fun kind earlier =>
          if kind = .subscribe then [.request .unbounded]
          else if kind = .next ∧ earlier = 0 then
            [.tick 0, .flushNow, .next [3], .flushNow, .tick 1]
          else [] } = .ok _ := rfl
  have subscribed := (Decides.of_opening made).act rfl .subscribe 15
  have filled := subscribed.act rfl (.next [1, 2]) 40
  exact ⟨_, _, _, made, filled, rfl, rfl, Decides.decidesOnce made filled⟩

end Pipeline

end TimedBatch
