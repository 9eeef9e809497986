import TimedBatch.Proofs.Refinement
import TimedBatch.Proofs.Timeline
import TimedBatch.Proofs.Watch

/-!
# No item waits longer than the time span

The alarm of the open batch is set when the batch is begun, so its deadline is at most one time span
after the arrival of every item in the batch. An item that is on its way to the batch, or from it to
the consumer or to the discard hook, moves on before the clock does. So when the clock is about to
go on, all items are in the open batch, their alarm waits, and the clock stops at its deadline.
-/

namespace TimedBatch

variable {α : Type}

/-- The stay of an item with the stage. -/
structure Stay (α : Type) where
  item : α
  arrived : Duration
  left : Duration

namespace Stay

def arrival (stay : Stay α) : Duration × α :=
  (stay.arrived, stay.item)

def departure (stay : Stay α) : Duration × α :=
  (stay.left, stay.item)

/-- The stay of an item that leaves at an instant. -/
def endingAt (left : Duration) (arrival : Duration × α) : Stay α :=
  ⟨arrival.2, arrival.1, left⟩

end Stay

namespace Pipeline

/-- Items under one reading of the clock. -/
def stamp (time : Duration) (items : List α) : List (Duration × α) :=
  items.map fun item => (time, item)

theorem map_snd_stamp (time : Duration) (items : List α) :
    (stamp time items).map Prod.snd = items := by
  rw [stamp, List.map_map]
  exact List.map_id items

theorem fst_of_mem_stamp {time : Duration} {items : List α} {arrival : Duration × α}
    (member : arrival ∈ stamp time items) : arrival.1 = time := by
  obtain ⟨item, _, rfl⟩ := List.mem_map.mp member
  rfl

theorem stamp_append (time : Duration) (items others : List α) :
    stamp time (items ++ others) = stamp time items ++ stamp time others :=
  List.map_append

/-- Items that change places keep their times. -/
theorem exists_perm_timed {timed : List (Duration × α)} {items : List α}
    (perm : items.Perm (timed.map Prod.snd)) :
    ∃ moved : List (Duration × α), moved.map Prod.snd = items ∧ moved.Perm timed := by
  have moves : Relation.Comp (fun items timed => items = List.map Prod.snd timed) List.Perm
      items timed := by
    rw [List.eq_map_comp_perm]
    exact perm
  obtain ⟨moved, rfl, same⟩ := moves
  exact ⟨moved, rfl, same⟩

theorem flatMap_arriving (events : List (Event α)) :
    events.flatMap Event.arriving = passedIn events := by
  induction events with
  | nil => rfl
  | cons event events ih =>
      rw [List.flatMap_cons, ih]
      cases event with
      | entered call => cases call <;> rfl
      | _ => rfl

theorem flatMap_leaving (events : List (Event α)) :
    events.flatMap Event.leaving =
      (events.filterMap Event.outbound?).flatMap fun call =>
        call.batch?.getD [] ++ call.discards := by
  induction events with
  | nil => rfl
  | cons event events ih =>
      rw [List.flatMap_cons, ih]
      cases event <;> rfl

/-- The items that were passed to the stage, without the times. -/
theorem map_snd_arrivals (pipeline : Pipeline α) :
    pipeline.arrivals.map Prod.snd = pipeline.passed := by
  rw [passed_eq, ← flatMap_arriving, ← map_event_timeline, arrivals, timed, List.map_flatMap,
    List.flatMap_map]
  congr 1
  funext entry
  exact map_snd_stamp entry.time (Event.arriving entry.event)

/-! ## Where items are, and since when -/

/-- An account of all items with their times: those that left, those on their way, those in the open
batch, and those that were lost with the stage. -/
structure Account (pipeline : Pipeline α) (stays : List (Stay α))
    (onWay inBatch lost : List (Duration × α)) : Prop where
  departures_eq : pipeline.departures = stays.map Stay.departure
  arrivals_perm : pipeline.arrivals.Perm (stays.map Stay.arrival ++ onWay ++ inBatch ++
    stamp pipeline.timer.now (waiting pipeline.stage) ++ lost)
  onWay_eq : onWay.map Prod.snd = carried pipeline.agenda
  inBatch_eq : inBatch.map Prod.snd = pipeline.stage.batch
  lost_eq : pipeline.alive = true → lost = []

section Account

variable {pipeline next : Pipeline α} {task : Task α} {rest tasks : List (Task α)}
  {stage : Stage α} {timer : Timer UInt64} {events : List (Event α)} {stays : List (Stay α)}
  {onWay inBatch lost : List (Duration × α)}

theorem Effect.leaving_eq (effect : Effect pipeline task stage timer events tasks) :
    events.flatMap Event.leaving = task.given := by
  rw [flatMap_leaving, effect.outbound_eq]
  cases task with
  | call call => exact List.append_nil _
  | _ => rfl

theorem Effect.arriving_eq (effect : Effect pipeline task stage timer events tasks) :
    events.flatMap Event.arriving = task.passed := by
  rw [flatMap_arriving, effect.passed_eq]

/-- What the account of the next moment takes over from that of the moment before. -/
structure TakesOver (now : Duration) (onWay inBatch : List (Duration × α)) (more : List (Stay α))
    (nextOnWay nextInBatch : List (Duration × α)) : Prop where
  left : ∀ stay ∈ more, stay.arrival ∈ onWay ∧ stay.left = now
  onWay : ∀ arrival ∈ nextOnWay, arrival ∈ onWay ∨ arrival ∈ inBatch ∨ arrival.1 = now
  inBatch : ∀ arrival ∈ nextInBatch, arrival ∈ inBatch ∨ arrival.1 = now

/-- An account of the next moment. -/
def Continues (pipeline next : Pipeline α) (stays : List (Stay α))
    (onWay inBatch : List (Duration × α)) : Prop :=
  ∃ more nextOnWay nextInBatch lost,
    Account next (stays ++ more) nextOnWay nextInBatch lost ∧
      TakesOver pipeline.timer.now onWay inBatch more nextOnWay nextInBatch

/-- A task moves items while the clock stands still. -/
structure Moves (pipeline next : Pipeline α) (task : Task α) (rest tasks : List (Task α)) :
    Prop where
  popped : pipeline.agenda = task :: rest
  agenda_eq : next.agenda = tasks ++ rest
  now_eq : next.timer.now = pipeline.timer.now
  departures_eq : next.departures = pipeline.departures ++ stamp pipeline.timer.now task.given
  arrivals_eq : next.arrivals = pipeline.arrivals ++ stamp pipeline.timer.now task.passed
  held : next.alive = true → pipeline.alive = true

theorem moves_step (popped : pipeline.agenda = task :: rest)
    (effect : Effect { pipeline with agenda := rest } task stage timer events tasks)
    (becomes : Becomes { pipeline with agenda := rest } pipeline.step stage timer events tasks)
    (now_eq : timer.now = pipeline.timer.now) : Moves pipeline pipeline.step task rest tasks := by
  have timeline_eq := timeline_step popped becomes
  rw [now_eq] at timeline_eq
  refine ⟨popped, becomes.agenda_eq, ?_, ?_, ?_, alive_of_step⟩
  · rw [becomes.timer_eq, now_eq]
  · rw [departures, timeline_eq, timed_append, timed_map, effect.leaving_eq]
    rfl
  · rw [arrivals, timeline_eq, timed_append, timed_map, effect.arriving_eq]
    rfl

/-- The items on their way are those of the task at hand and those of the tasks beneath. -/
theorem Account.exists_split (account : Account pipeline stays onWay inBatch lost)
    (popped : pipeline.agenda = task :: rest) :
    ∃ here below, onWay = here ++ below ∧ here.map Prod.snd = task.items ∧
      below.map Prod.snd = carried rest := by
  have onWay_eq := account.onWay_eq
  rw [popped, carried_cons] at onWay_eq
  exact List.map_eq_append_iff.mp onWay_eq

theorem Account.pass (account : Account pipeline stays onWay inBatch lost)
    (moves : Moves pipeline next task rest tasks)
    (given_perm : (task.given ++ carried tasks).Perm task.items)
    (batch_eq : next.stage.batch = pipeline.stage.batch)
    (waiting_eq : waiting next.stage = waiting pipeline.stage ++ task.passed) :
    Continues pipeline next stays onWay inBatch := by
  obtain ⟨here, below, rfl, here_eq, below_eq⟩ := account.exists_split moves.popped
  rw [← here_eq] at given_perm
  obtain ⟨moved, moved_eq, moved_perm⟩ := exists_perm_timed given_perm
  obtain ⟨out, kept, rfl, out_eq, kept_eq⟩ := List.map_eq_append_iff.mp moved_eq
  have out_arrival : (out.map (Stay.endingAt pipeline.timer.now)).map Stay.arrival = out := by
    rw [List.map_map]
    exact List.map_id out
  refine ⟨out.map (Stay.endingAt pipeline.timer.now), kept ++ below, inBatch, lost, ?_, ?_⟩
  · constructor
    case departures_eq =>
      rw [moves.departures_eq, account.departures_eq, List.map_append, List.map_map, ← out_eq,
        stamp, List.map_map]
      rfl
    case arrivals_perm =>
      have before := Multiset.coe_eq_coe.mpr account.arrivals_perm
      have parts : (out : Multiset (Duration × α)) + kept = here :=
        Multiset.coe_eq_coe.mpr moved_perm
      rw [moves.arrivals_eq, moves.now_eq, waiting_eq, stamp_append, List.map_append, out_arrival,
        ← Multiset.coe_eq_coe]
      simp only [← Multiset.coe_add] at before ⊢
      rw [before, ← parts]
      abel
    case onWay_eq => rw [moves.agenda_eq, List.map_append, kept_eq, below_eq, carried_append]
    case inBatch_eq =>
      rw [batch_eq]
      exact account.inBatch_eq
    case lost_eq => exact fun held => account.lost_eq (moves.held held)
  · constructor
    case left =>
      intro stay member
      obtain ⟨arrival, leaves, rfl⟩ := List.mem_map.mp member
      have origin := moved_perm.mem_iff.mp (List.mem_append_left kept leaves)
      exact ⟨List.mem_append_left _ origin, rfl⟩
    case onWay =>
      intro arrival member
      left
      rcases List.mem_append.mp member with member | member
      · exact List.mem_append_left _ (moved_perm.mem_iff.mp (List.mem_append_right _ member))
      · exact List.mem_append_right _ member
    case inBatch => exact fun _ => Or.inl

theorem Account.gather (account : Account pipeline stays onWay inBatch lost)
    (moves : Moves pipeline next task rest tasks) {front : List α} (given_eq : task.given = [])
    (items_eq : task.items = []) (passed_eq : task.passed = [])
    (waiting_eq : waiting pipeline.stage = front ++ waiting next.stage)
    (gathered : (carried tasks ++ next.stage.batch).Perm (pipeline.stage.batch ++ front)) :
    Continues pipeline next stays onWay inBatch := by
  obtain ⟨here, below, rfl, here_eq, below_eq⟩ := account.exists_split moves.popped
  rw [items_eq, List.map_eq_nil_iff] at here_eq
  subst here_eq
  have sources : (inBatch ++ stamp pipeline.timer.now front).map Prod.snd =
      pipeline.stage.batch ++ front := by
    rw [List.map_append, account.inBatch_eq, map_snd_stamp]
  rw [← sources] at gathered
  obtain ⟨moved, moved_eq, moved_perm⟩ := exists_perm_timed gathered
  obtain ⟨taken, left, rfl, taken_eq, left_eq⟩ := List.map_eq_append_iff.mp moved_eq
  have source : ∀ arrival ∈ taken ++ left, arrival ∈ inBatch ∨ arrival.1 = pipeline.timer.now := by
    intro arrival member
    rcases List.mem_append.mp (moved_perm.mem_iff.mp member) with member | member
    · exact Or.inl member
    · exact Or.inr (fst_of_mem_stamp member)
  refine ⟨[], taken ++ below, left, lost, ?_, ?_⟩
  · constructor
    case departures_eq =>
      rw [moves.departures_eq, account.departures_eq, given_eq, List.append_nil]
      exact List.append_nil _
    case arrivals_perm =>
      have before := Multiset.coe_eq_coe.mpr account.arrivals_perm
      have parts : (taken : Multiset (Duration × α)) + left =
          inBatch + stamp pipeline.timer.now front := Multiset.coe_eq_coe.mpr moved_perm
      have nothing : stamp pipeline.timer.now task.passed = [] := by
        rw [passed_eq]
        rfl
      rw [moves.arrivals_eq, moves.now_eq, nothing, List.append_nil, List.append_nil,
        ← Multiset.coe_eq_coe]
      rw [waiting_eq, stamp_append] at before
      simp only [← Multiset.coe_add, Multiset.coe_nil, zero_add] at before ⊢
      have regroup : ∀ gone way open' first queue lost : Multiset (Duration × α),
          gone + way + open' + (first + queue) + lost =
            gone + way + (open' + first) + queue + lost := by
        intro gone way open' first queue lost
        abel
      rw [before, regroup, ← parts]
      abel
    case onWay_eq => rw [moves.agenda_eq, List.map_append, taken_eq, below_eq, carried_append]
    case inBatch_eq => exact left_eq
    case lost_eq => exact fun held => account.lost_eq (moves.held held)
  · constructor
    case left => nofun
    case onWay =>
      intro arrival member
      rcases List.mem_append.mp member with member | member
      · exact Or.inr (source arrival (List.mem_append_left _ member))
      · exact Or.inl member
    case inBatch => exact fun arrival member => source arrival (List.mem_append_right _ member)

/-- What a stage held when it was lost is lost with it. -/
theorem Account.sweep (account : Account pipeline stays onWay inBatch lost)
    (moves : Moves pipeline next task rest []) (aside : task.isAside = true)
    (stage_eq : next.stage = cleared pipeline.stage)
    (same : next.alive = true → next.stage = pipeline.stage) :
    Continues pipeline next stays onWay inBatch := by
  have free := Task.isFree_of_isAside aside
  have given_eq : task.given = [] := by cases task <;> first | rfl | cases aside
  have passed_eq : task.passed = [] := by cases task <;> first | rfl | cases aside
  obtain ⟨here, below, rfl, here_eq, below_eq⟩ := account.exists_split moves.popped
  rw [items_of_isFree free, List.map_eq_nil_iff] at here_eq
  subst here_eq
  refine ⟨[], below, [], lost ++ inBatch, ?_, ⟨nofun, fun _ => Or.inl, nofun⟩⟩
  constructor
  case departures_eq =>
    rw [moves.departures_eq, account.departures_eq, given_eq, List.append_nil]
    exact List.append_nil _
  case arrivals_perm =>
    have before := Multiset.coe_eq_coe.mpr account.arrivals_perm
    have nothing : stamp pipeline.timer.now task.passed = [] := by
      rw [passed_eq]
      rfl
    have queue : waiting next.stage = waiting pipeline.stage := by
      rw [stage_eq]
      rfl
    rw [moves.arrivals_eq, moves.now_eq, nothing, queue, List.append_nil, List.append_nil,
      List.append_nil, ← Multiset.coe_eq_coe]
    simp only [← Multiset.coe_add, Multiset.coe_nil, zero_add] at before ⊢
    rw [before]
    abel
  case onWay_eq => rw [moves.agenda_eq, below_eq, List.nil_append]
  case inBatch_eq =>
    rw [stage_eq]
    rfl
  case lost_eq =>
    intro held
    have empty : pipeline.stage.batch = [] := by
      rw [← same held, stage_eq]
      rfl
    rw [account.lost_eq (moves.held held), List.nil_append]
    exact List.map_eq_nil_iff.mp (account.inBatch_eq.trans empty)

/-- While the clock stands still, every task moves items on with their times. -/
theorem Account.step (account : Account pipeline stays onWay inBatch lost)
    (popped : pipeline.agenda = task :: rest)
    (effect : Effect { pipeline with agenda := rest } task stage timer events tasks)
    (becomes : Becomes { pipeline with agenda := rest } pipeline.step stage timer events tasks)
    (now_eq : timer.now = pipeline.timer.now) (noItem : task.item? = none)
    (same : pipeline.step.alive = true → task.isAside = true → stage = pipeline.stage) :
    Continues pipeline pipeline.step stays onWay inBatch := by
  have moves := moves_step popped effect becomes now_eq
  have stage_eq := becomes.stage_eq
  rcases effect.motion noItem with motion | ⟨aside, rfl, rfl, _⟩
  · subst stage_eq
    cases motion with
    | pass given_perm batch_eq waiting_eq =>
        exact account.pass moves given_perm batch_eq waiting_eq
    | gather front given_eq items_eq passed_eq waiting_eq gathered =>
        exact account.gather moves given_eq items_eq passed_eq waiting_eq gathered
  · exact account.sweep moves aside stage_eq fun held => stage_eq.trans (same held aside)

end Account

/-! ## When alarms are due -/

/-- Whether a task leads to a new alarm. -/
def isEarly : Task α → Bool
  | .setAlarm _ => true
  | .announce .subscribed => true
  | _ => false

theorem isEarly_of_isFree {task : Task α} (free : task.isFree = true) : isEarly task = false := by
  cases task <;> first | rfl | cases free

/-- An alarm is about to be set for the open batch. -/
def Early (stage : Stage α) (agenda : List (Task α)) : Prop :=
  (∃ task ∈ agenda, isEarly task = true) ∨ .subscribed ∈ stage.signals

section Effect

variable {pipeline : Pipeline α} {task : Task α} {tasks : List (Task α)} {stage : Stage α}
  {timer : Timer UInt64} {events : List (Event α)}

theorem mem_live_of_idleTimer {alarm : Alarm UInt64} {stage : Stage α} {timer : Timer UInt64}
    (member : alarm ∈ (idleTimer stage timer).live) : alarm ∈ timer.live := by
  rw [idleTimer] at member
  cases alarm_eq : stage.alarm with
  | none =>
      rw [alarm_eq] at member
      exact member
  | some token =>
      rw [alarm_eq] at member
      exact Timer.mem_live_of_cancel member

theorem mem_live_of_askTimer {alarm : Alarm UInt64} (member : alarm ∈ pipeline.askTimer.2.live) :
    alarm ∈ pipeline.timer.live ∨
      alarm.deadline = pipeline.timer.now + pipeline.stage.config.timeSpan := by
  have asked : alarm ∈ (pipeline.timer.schedule pipeline.stage.config.timeSpan
      pipeline.stage.generation).2.live → alarm ∈ pipeline.timer.live ∨
        alarm.deadline = pipeline.timer.now + pipeline.stage.config.timeSpan :=
    Timer.mem_live_of_schedule
  rw [askTimer] at member
  split at member
  · exact Or.inl member
  · split at member <;> rename_i scheduled <;> rw [scheduled] at asked
    · exact asked member
    · split at member
      · exact asked (Timer.mem_live_of_strayToken member)
      · exact asked member

/-- A live alarm was live before, or it was just set. -/
theorem Effect.mem_live (effect : Effect pipeline task stage timer events tasks)
    {alarm : Alarm UInt64} (member : alarm ∈ timer.live) :
    alarm ∈ pipeline.timer.live ∨
      (∃ handOff, task = .setAlarm handOff) ∧
        alarm.deadline = pipeline.timer.now + pipeline.stage.config.timeSpan := by
  cases effect with
  | swept aside gone => exact Or.inl (mem_live_of_idleTimer member)
  | timerClosed => cases member
  | alarmPassedOver due cancelled => exact Or.inl (Timer.mem_live_of_takeDue due member)
  | alarmFiredLate due live gone => exact Or.inl (Timer.mem_live_of_takeDue due member)
  | alarmFired due live held => exact Or.inl (Timer.mem_live_of_takeDue due member)
  | handled first dispatch =>
      rcases dispatch.clock_eq with rfl | rfl
      · exact Or.inl member
      · exact Or.inl (mem_live_of_idleTimer member)
  | alarmSet =>
      rcases mem_live_of_askTimer member with before | set
      · exact Or.inl before
      · exact Or.inr ⟨⟨_, rfl⟩, set⟩
  | acceptedHandOff delivery =>
      cases delivery with
      | late ended => exact Or.inl member
      | unpaid active unpaid => exact Or.inl (mem_live_of_idleTimer member)
      | paid active paid => exact Or.inl member
  | failed failure =>
      cases failure with
      | late ended => exact Or.inl member
      | ended active => exact Or.inl (mem_live_of_idleTimer member)
  | _ => exact Or.inl member

theorem isEarly_hookTasks {hook : DiscardHook} {items : List α} :
    ∀ task ∈ hookTasks hook items, isEarly task = false := by
  intro task member
  obtain ⟨call, _, rfl⟩ := List.mem_map.mp member
  rfl

theorem isEarly_failureTasks {hook : DiscardHook} {items : List α} {error : StreamError} :
    ∀ task ∈ failureTasks hook items error, isEarly task = false := by
  rw [failureTasks, List.forall_mem_append]
  exact ⟨isEarly_hookTasks, List.forall_mem_singleton.mpr rfl⟩

theorem isEarly_wakeTasks : ∀ task ∈ wakeTasks stage, isEarly task = false := by
  rw [wakeTasks]
  split
  · exact List.forall_mem_singleton.mpr rfl
  · exact List.forall_mem_nil _

theorem not_exists_isEarly (late : ∀ task ∈ tasks, isEarly task = false) :
    ¬∃ task ∈ tasks, isEarly task = true := by
  rintro ⟨task, member, early⟩
  cases early.symm.trans (late task member)

/-- A signal leads to a new alarm when it is the first one, or when it leaves the batch empty. -/
theorem Dispatch.early {hook : DiscardHook} {next : Stage α} {clock : Timer UInt64}
    {signal : Signal α} (dispatch : Dispatch hook stage timer signal next clock events tasks)
    (early : ∃ task ∈ tasks, isEarly task = true) : signal = .subscribed ∨ next.batch = [] := by
  cases dispatch with
  | subscribed active unset => exact Or.inl rfl
  | itemLast active received full => exact Or.inr rfl
  | tickEmpty active empty => exact Or.inr empty
  | tickClosing active filled => exact Or.inr rfl
  | completedEmpty active empty => exact Or.inr empty
  | completed active filled delivery => exact Or.inr delivery.batch_eq
  | failed failure =>
      cases failure with
      | late ended => simp at early
      | ended active => exact Or.inr rfl
  | cancelledEmpty empty => exact Or.inr rfl
  | cancelled filled => exact Or.inr rfl
  | _ => simp [isEarly] at early

/-- A new alarm is set for a stage that was just subscribed to, or for a batch that is begun. -/
theorem Effect.early_of_added (effect : Effect pipeline task stage timer events tasks)
    (early : ∃ task ∈ tasks, isEarly task = true) :
    .subscribed ∈ pipeline.stage.signals ∨ stage.batch = [] ∨ pipeline.stage.producer = none := by
  cases effect with
  | free aside inert allFree =>
      exact absurd early
        (not_exists_isEarly fun task member => isEarly_of_isFree (allFree task member))
  | called actions =>
      exact absurd early
        (not_exists_isEarly fun task member => isEarly_of_isFree (isFree_acts actions task member))
  | enteredSignal announces => exact absurd early (not_exists_isEarly isEarly_wakeTasks)
  | announced => exact absurd early (not_exists_isEarly isEarly_wakeTasks)
  | attached first => exact Or.inr (Or.inr first)
  | handled first dispatch =>
      obtain ⟨task, member, early⟩ := early
      rcases List.mem_append.mp member with member | member
      · rcases dispatch.early ⟨task, member, early⟩ with rfl | empty
        · exact Or.inl (first ▸ List.mem_cons_self)
        · exact Or.inr (Or.inl empty)
      · rw [List.mem_singleton.mp member] at early
        cases early
  | acceptedHandOff delivery =>
      cases delivery with
      | late ended => exact absurd early (not_exists_isEarly isEarly_hookTasks)
      | unpaid active unpaid => exact absurd early (not_exists_isEarly isEarly_failureTasks)
      | paid active paid =>
          rw [closingTasks] at early
          split at early <;> simp [isEarly] at early
  | refusedHandOff => exact absurd early (not_exists_isEarly isEarly_failureTasks)
  | failed failure =>
      cases failure with
      | late ended => simp at early
      | ended active => exact Or.inr (Or.inl rfl)
  | _ => simp [isEarly, cancelProducerTasks] at early

theorem Effect.subscribed_of_mem (effect : Effect pipeline task stage timer events tasks)
    (waits : .subscribed ∈ stage.signals) :
    .subscribed ∈ pipeline.stage.signals ∨ task = .announce .subscribed := by
  cases effect with
  | @enteredSignal call signal announces =>
      rcases List.mem_append.mp waits with waits | waits
      · exact Or.inl waits
      · rw [← List.mem_singleton.mp waits] at announces
        cases call <;> cases announces
  | announced =>
      rcases List.mem_append.mp waits with waits | waits
      · exact Or.inl waits
      · rw [List.mem_singleton.mp waits]
        exact Or.inr rfl
  | handled first dispatch =>
      rw [dispatch.queue_eq.1] at waits
      exact Or.inl (first ▸ List.mem_cons_of_mem _ waits)
  | acceptedHandOff delivery =>
      rw [delivery.queue_eq.1] at waits
      exact Or.inl waits
  | failed failure =>
      rw [failure.queue_eq.1] at waits
      exact Or.inl waits
  | _ => exact Or.inl waits

/-- Where an alarm is about to be set, that was so before, or no item is older than the moment. -/
theorem Effect.early (effect : Effect pipeline task stage timer events tasks)
    (early : Early stage (tasks ++ pipeline.agenda)) :
    Early pipeline.stage (task :: pipeline.agenda) ∨ stage.batch = [] ∨
      pipeline.stage.producer = none := by
  rcases early with ⟨sought, member, early⟩ | waits
  · rcases List.mem_append.mp member with member | member
    · rcases effect.early_of_added ⟨sought, member, early⟩ with waits | fresh
      · exact Or.inl (Or.inr waits)
      · exact Or.inr fresh
    · exact Or.inl (Or.inl ⟨sought, List.mem_cons_of_mem _ member, early⟩)
  · rcases effect.subscribed_of_mem waits with waits | rfl
    · exact Or.inl (Or.inr waits)
    · exact Or.inl (Or.inl ⟨_, List.mem_cons_self, rfl⟩)

end Effect

/-! ## While the clock stands still -/

/-- An item arrived, and its time is not over. -/
def InTime (span now : Duration) (arrival : Duration × α) : Prop :=
  arrival.1 ≤ now ∧ now.nanos ≤ arrival.1.nanos + span.nanos

/-- The times of an account keep within the time span, and so do the alarms that are live. -/
structure Timely (span : Duration) (pipeline : Pipeline α) (stays : List (Stay α))
    (onWay inBatch : List (Duration × α)) : Prop where
  prompt : ∀ stay ∈ stays, InTime span stay.left stay.arrival
  moving : ∀ arrival ∈ onWay, InTime span pipeline.timer.now arrival
  staying : ∀ arrival ∈ inBatch, InTime span pipeline.timer.now arrival
  ahead : ∀ alarm ∈ pipeline.timer.live,
    alarm.deadline.nanos ≤ pipeline.timer.now.nanos + span.nanos
  /-- No alarm is due later than one time span after the arrival of an item in the open batch. -/
  due : ∀ alarm ∈ pipeline.timer.live, ∀ arrival ∈ inBatch,
    alarm.deadline.nanos ≤ arrival.1.nanos + span.nanos
  early : Early pipeline.stage pipeline.agenda →
    ∀ arrival ∈ inBatch, arrival.1 = pipeline.timer.now
  /-- When the clock has come to a stop, the time of no item in the open batch is over. -/
  stopped : (∀ instant, .advance instant ∉ pipeline.agenda) →
    ∀ arrival ∈ inBatch, pipeline.timer.now.nanos < arrival.1.nanos + span.nanos

section Still

variable {span : Duration} {pipeline : Pipeline α} {task : Task α} {rest tasks : List (Task α)}
  {stage : Stage α} {timer : Timer UInt64} {events : List (Event α)} {stays more : List (Stay α)}
  {onWay inBatch nextOnWay nextInBatch : List (Duration × α)}

/-- While the clock stands still, every task keeps within the times. -/
theorem Timely.step (timely : Timely span pipeline stays onWay inBatch)
    (popped : pipeline.agenda = task :: rest)
    (effect : Effect { pipeline with agenda := rest } task stage timer events tasks)
    (becomes : Becomes { pipeline with agenda := rest } pipeline.step stage timer events tasks)
    (other : ∀ instant, task ≠ .advance instant) (now_eq : timer.now = pipeline.timer.now)
    (span_eq : pipeline.stage.config.timeSpan = span) (positive : 0 < span.nanos)
    (takesOver : TakesOver pipeline.timer.now onWay inBatch more nextOnWay nextInBatch)
    (fresh : pipeline.stage.producer = none → inBatch = [])
    (inBatch_eq : nextInBatch.map Prod.snd = stage.batch) :
    Timely span pipeline.step (stays ++ more) nextOnWay nextInBatch := by
  have same : pipeline.step.timer.now = pipeline.timer.now := by
    rw [becomes.timer_eq, now_eq]
  have older : ∀ arrival ∈ nextInBatch, arrival ∈ inBatch ∨ arrival.1 = pipeline.timer.now :=
    takesOver.inBatch
  have within : ∀ arrival : Duration × α, arrival.1 = pipeline.timer.now →
      InTime span pipeline.timer.now arrival := by
    intro arrival now
    rw [InTime, now]
    exact ⟨Nat.le_refl _, Nat.le_add_right _ _⟩
  have live : ∀ alarm ∈ pipeline.step.timer.live, alarm ∈ pipeline.timer.live ∨
      (∃ handOff, task = .setAlarm handOff) ∧
        alarm.deadline.nanos ≤ pipeline.timer.now.nanos + span.nanos := by
    intro alarm member
    rw [becomes.timer_eq] at member
    rcases effect.mem_live member with before | ⟨set, deadline_eq⟩
    · exact Or.inl before
    · refine Or.inr ⟨set, ?_⟩
      change alarm.deadline = pipeline.timer.now + pipeline.stage.config.timeSpan at deadline_eq
      rw [deadline_eq, span_eq, Duration.nanos_add]
      exact Nat.min_le_left _ _
  have young : Early pipeline.stage pipeline.agenda →
      ∀ arrival ∈ nextInBatch, arrival.1 = pipeline.timer.now := by
    intro early arrival member
    rcases older arrival member with before | now
    · exact timely.early early arrival before
    · exact now
  constructor
  case prompt =>
    refine List.forall_mem_append.mpr ⟨timely.prompt, fun stay member => ?_⟩
    obtain ⟨origin, left_eq⟩ := takesOver.left stay member
    rw [left_eq]
    exact timely.moving stay.arrival origin
  case moving =>
    intro arrival member
    rw [same]
    rcases takesOver.onWay arrival member with before | before | now
    · exact timely.moving arrival before
    · exact timely.staying arrival before
    · exact within arrival now
  case staying =>
    intro arrival member
    rw [same]
    rcases older arrival member with before | now
    · exact timely.staying arrival before
    · exact within arrival now
  case ahead =>
    intro alarm member
    rw [same]
    rcases live alarm member with before | ⟨_, deadline_le⟩
    · exact timely.ahead alarm before
    · exact deadline_le
  case due =>
    intro alarm member arrival here
    rcases live alarm member with before | ⟨⟨handOff, rfl⟩, deadline_le⟩
    · rcases older arrival here with old | now
      · exact timely.due alarm before arrival old
      · rw [now]
        exact timely.ahead alarm before
    · rw [young (Or.inl ⟨_, popped ▸ List.mem_cons_self, rfl⟩) arrival here]
      exact deadline_le
  case early =>
    intro early arrival member
    rw [same]
    rw [becomes.stage_eq, becomes.agenda_eq] at early
    rcases effect.early early with before | empty | unattached
    · rw [← popped] at before
      exact young before arrival member
    · rw [empty, List.map_eq_nil_iff] at inBatch_eq
      rw [inBatch_eq] at member
      cases member
    · rcases older arrival member with before | now
      · rw [fresh unattached] at before
        cases before
      · exact now
  case stopped =>
    intro stopped arrival member
    rw [same]
    rcases older arrival member with before | now
    · refine timely.stopped (fun instant => ?_) arrival before
      rw [popped, List.mem_cons]
      rintro (here | beneath)
      · exact other instant here.symm
      · refine stopped instant ?_
        rw [becomes.agenda_eq]
        exact List.mem_append_right _ beneath
    · rw [now]
      exact Nat.lt_add_of_pos_right positive

end Still

/-! ## When the clock goes on -/

section Clock

variable {span instant : Duration} {pipeline : Pipeline α} {tasks : List (Task α)}
  {stage : Stage α} {timer : Timer UInt64} {events : List (Event α)} {stays : List (Stay α)}
  {onWay inBatch lost : List (Duration × α)}

/-- The clock goes on where no item is on its way, and it moves none. -/
theorem Account.clock (account : Account pipeline stays onWay inBatch lost)
    (popped : pipeline.agenda = [.advance instant]) (resting : pipeline.stage.signals = [])
    (effect : Effect { pipeline with agenda := [] } (.advance instant) stage timer events tasks)
    (becomes : Becomes { pipeline with agenda := [] } pipeline.step stage timer events tasks) :
    onWay = [] ∧ Account pipeline.step stays [] inBatch lost := by
  have timeline_eq := timeline_step popped becomes
  obtain ⟨stage_eq, result⟩ := effect.of_advance
  have stage_step : pipeline.step.stage = pipeline.stage := becomes.stage_eq.trans stage_eq
  have carried_eq : carried pipeline.step.agenda = [] := by
    refine carried_of_none fun task member => items_of_isFree ?_
    rw [becomes.agenda_eq, List.append_nil] at member
    rcases result with ⟨_, _, rfl⟩ | ⟨alarm, upper, _, rfl, free⟩
    · cases member
    · rcases List.mem_append.mp member with member | member
      · exact (free task member).1
      · rw [List.mem_singleton.mp member]
        rfl
  have nothing : onWay = [] := by
    have onWay_eq := account.onWay_eq
    rw [popped] at onWay_eq
    exact List.map_eq_nil_iff.mp onWay_eq
  have queue : waiting pipeline.stage = [] := by
    rw [waiting, resting]
    rfl
  subst nothing
  refine ⟨rfl, ?_⟩
  constructor
  case departures_eq =>
    rw [departures, timeline_eq, timed_append, timed_map, effect.leaving_eq]
    exact (List.append_nil _).trans account.departures_eq
  case arrivals_perm =>
    have arrivals_eq : pipeline.step.arrivals = pipeline.arrivals := by
      rw [arrivals, timeline_eq, timed_append, timed_map, effect.arriving_eq]
      exact List.append_nil _
    have before := account.arrivals_perm
    rw [queue] at before
    rw [arrivals_eq, stage_step, queue]
    exact before
  case onWay_eq => exact carried_eq.symm
  case inBatch_eq => exact account.inBatch_eq.trans (congrArg Stage.batch stage_step).symm
  case lost_eq => exact fun held => account.lost_eq (alive_of_step held)

/-- The clock stops at the deadline of the open batch. -/
theorem Timely.clock (timely : Timely span pipeline stays onWay inBatch)
    (resting : pipeline.stage.signals = [])
    (forward : pipeline.timer.now ≤ instant)
    (effect : Effect { pipeline with agenda := [] } (.advance instant) stage timer events tasks)
    (becomes : Becomes { pipeline with agenda := [] } pipeline.step stage timer events tasks)
    (watched : inBatch ≠ [] → ∃ alarm, pipeline.timer.Keeps [alarm]) :
    Timely span pipeline.step stays [] inBatch := by
  obtain ⟨stage_eq, result⟩ := effect.of_advance
  have goes : pipeline.timer.now ≤ timer.now := by
    rcases result with ⟨_, rfl, _⟩ | ⟨alarm, upper, due, _⟩
    · exact forward
    · rw [(now_takeDue due).1, Duration.le_def, Duration.nanos_max]
      exact Nat.le_max_left _ _
  -- The alarm of the open batch is due at the end of the time span, and the clock waits for it.
  have reaches : ∀ arrival ∈ inBatch, timer.now.nanos ≤ arrival.1.nanos + span.nanos ∧
      (tasks = [] → timer.now.nanos < arrival.1.nanos + span.nanos) := by
    intro arrival member
    obtain ⟨alarm, keeps⟩ := watched (List.ne_nil_of_mem member)
    have deadline_le : alarm.deadline.nanos ≤ arrival.1.nanos + span.nanos := by
      refine timely.due alarm ?_ arrival member
      rw [keeps.live_eq]
      exact List.mem_singleton_self alarm
    rcases result with ⟨idle, rfl, rfl⟩ | ⟨first, upper, due, rfl, _⟩
    · have early := keeps.lt_of_takeDue idle alarm (List.mem_singleton_self alarm)
      have stops : instant.nanos < arrival.1.nanos + span.nanos :=
        Nat.lt_of_lt_of_le early deadline_le
      exact ⟨Nat.le_of_lt stops, fun _ => stops⟩
    · obtain ⟨now_eq, _, _, ⟨_, _, least⟩ | ⟨_, others, waiting_eq, _⟩⟩ := keeps.takeDue due
      · have before : first.deadline.nanos ≤ alarm.deadline.nanos :=
          least alarm (List.mem_singleton_self alarm)
        refine ⟨?_, by simp⟩
        rw [now_eq, Duration.nanos_max]
        exact Nat.max_le.mpr
          ⟨(timely.staying arrival member).2, Nat.le_trans before deadline_le⟩
      · cases waiting_eq
        refine ⟨?_, by simp⟩
        rw [now_eq, Duration.nanos_max]
        exact Nat.max_le.mpr ⟨(timely.staying arrival member).2, deadline_le⟩
  have live : ∀ alarm ∈ pipeline.step.timer.live, alarm ∈ pipeline.timer.live := by
    intro alarm member
    rw [becomes.timer_eq] at member
    rcases effect.mem_live member with before | ⟨⟨handOff, impossible⟩, _⟩
    · exact before
    · cases impossible
  have agenda_eq := becomes.agenda_eq
  rw [List.append_nil] at agenda_eq
  constructor
  case prompt => exact timely.prompt
  case moving => exact List.forall_mem_nil _
  case staying =>
    intro arrival member
    rw [becomes.timer_eq]
    exact ⟨Nat.le_trans (timely.staying arrival member).1 goes, (reaches arrival member).1⟩
  case ahead =>
    intro alarm member
    rw [becomes.timer_eq]
    exact Nat.le_trans (timely.ahead alarm (live alarm member)) (Nat.add_le_add_right goes _)
  case due => exact fun alarm member => timely.due alarm (live alarm member)
  case early =>
    rintro (⟨task, member, early⟩ | waits)
    · rw [agenda_eq] at member
      rcases result with ⟨_, _, rfl⟩ | ⟨alarm, upper, _, rfl, free⟩
      · cases member
      · rcases List.mem_append.mp member with member | member
        · cases early.symm.trans (isEarly_of_isFree (free task member).1)
        · rw [List.mem_singleton.mp member] at early
          cases early
    · rw [becomes.stage_eq, stage_eq] at waits
      change .subscribed ∈ pipeline.stage.signals at waits
      rw [resting] at waits
      cases waits
  case stopped =>
    intro stopped arrival member
    rw [becomes.timer_eq]
    refine (reaches arrival member).2 ?_
    rcases result with ⟨_, _, rfl⟩ | ⟨alarm, upper, _, rfl, _⟩
    · rfl
    · refine absurd ?_ (stopped instant)
      rw [agenda_eq]
      exact List.mem_append_right _ (List.mem_singleton_self _)

end Clock

/-! ## All runs -/

/-- A pipeline in which every item keeps within its time. -/
def KeepsTime (span : Duration) (pipeline : Pipeline α) : Prop :=
  ∃ stays onWay inBatch lost, Account pipeline stays onWay inBatch lost ∧
    Timely span pipeline stays onWay inBatch

/-- The first call of the stage, if there is one, is that of a subscription. -/
def BeginsSubscribed (events : List (Event α)) : Prop :=
  ∀ call ∈ (entries events).head?, ∃ producer, call = .subscribe producer

theorem BeginsSubscribed.of_append {earlier later : List (Event α)}
    (begins : BeginsSubscribed (earlier ++ later)) : BeginsSubscribed earlier := by
  intro call first
  refine begins call ?_
  rw [entries_append, Option.mem_def, List.head?_append, Option.mem_def.mp first]
  rfl

section Reachable

variable {config : Config} {setup : Setup α} {pipeline : Pipeline α}

theorem keepsTime_opening (span : Duration) (made : opening? config setup = .ok pipeline)
    (simulated : setup.style = .simulated) : KeepsTime span pipeline := by
  rw [opening?, simulated] at made
  split at made <;> cases made
  refine ⟨[], [], [], [], ⟨rfl, List.Perm.refl _, rfl, rfl, fun _ => rfl⟩, ?_⟩
  constructor
  all_goals first | exact List.forall_mem_nil _ | exact fun _ => List.forall_mem_nil _

theorem KeepsTime.begin {span : Duration} (keepsTime : KeepsTime span pipeline)
    (rest : pipeline.atRest = true) (action : Action α) :
    KeepsTime span (pipeline.begin action) := by
  obtain ⟨stays, onWay, inBatch, lost, account, timely⟩ := keepsTime
  have agenda_eq := agenda_begin_of_atRest rest action
  have before : pipeline.agenda = [] := List.isEmpty_iff.mp rest
  refine ⟨stays, onWay, inBatch, lost, ?_, ?_⟩
  · refine ⟨account.departures_eq, account.arrivals_perm, ?_, account.inBatch_eq, account.lost_eq⟩
    have onWay_eq := account.onWay_eq
    rw [before] at onWay_eq
    rw [agenda_eq]
    exact onWay_eq
  · refine ⟨timely.prompt, timely.moving, timely.staying, timely.ahead, timely.due, ?_, ?_⟩
    · rintro (⟨task, member, early⟩ | waits)
      · rw [agenda_eq] at member
        rw [List.mem_singleton.mp member] at early
        cases early
      · exact timely.early (Or.inr waits)
    · intro _
      refine timely.stopped fun instant member => ?_
      rw [before] at member
      cases member

/-- Where no call of the stage is under way, a stage that ended has no item. -/
theorem Reachable.batch_of_ended (reachable : Reachable config setup pipeline)
    (idle : pipeline.isIdle = true) (ended : pipeline.stage.status ≠ .active) :
    pipeline.stage.batch = [] := by
  rcases reachable.steady.noticed.pending ended with empty | waits | coming
  · exact empty
  · rw [(reachable.inOrder.resting_of_isIdle idle).2] at waits
    cases waits
  · cases List.all_eq_true.mp idle _ coming

theorem Reachable.passed_of_unattached (reachable : Reachable config setup pipeline)
    (begins : BeginsSubscribed pipeline.chronicle) (unattached : pipeline.stage.producer = none) :
    pipeline.passed = [] := by
  rw [passed_eq, passedIn]
  cases called : entries pipeline.chronicle with
  | nil => rfl
  | cons call calls =>
      have first : (entries pipeline.chronicle).head? = some call := by
        rw [called]
        rfl
      obtain ⟨producer, rfl⟩ := begins call first
      have attached := reachable.told.attached producer first
      rw [unattached] at attached
      cases attached

/-- When the clock is about to go on, the alarm of an open batch waits. -/
theorem Reachable.exists_alarm_of_batch (reachable : Reachable config setup pipeline)
    (simulated : setup.style = .simulated) (attached : setup.detached = false)
    (isOpen : pipeline.timer.isShutDown = false) {instant : Duration}
    (popped : pipeline.agenda = [.advance instant])
    (begins : BeginsSubscribed pipeline.chronicle) (filled : pipeline.stage.batch ≠ [])
    (passed : pipeline.passed ≠ []) : ∃ alarm, pipeline.timer.Keeps [alarm] := by
  have idle : pipeline.isIdle = true := by
    rw [isIdle, popped]
    rfl
  have held : pipeline.alive = true := by
    by_contra gone
    have empty := reachable.cleared_of_gone (Bool.eq_false_iff.mpr gone)
    exact filled (congrArg Stage.batch empty).symm
  have active : pipeline.stage.status = .active := by
    by_contra ended
    exact filled (reachable.batch_of_ended idle ended)
  have subscribed : pipeline.stage.producer.isSome = true := by
    by_contra unattached
    rw [Bool.not_eq_true, Option.isSome_eq_false_iff, Option.isNone_iff_eq_none] at unattached
    exact passed (reachable.passed_of_unattached begins unattached)
  have started : ¬IsStarting pipeline.stage pipeline.agenda pipeline.chronicle := by
    rintro ⟨_, first⟩
    rw [popped] at first
    cases first
  obtain ⟨alarm, keeps, _⟩ :=
    reachable.exists_alarm simulated attached held isOpen idle subscribed active started
  exact ⟨alarm, keeps⟩

/-- Every item keeps within its time. -/
theorem Reachable.keepsTime (reachable : Reachable config setup pipeline)
    (simulated : setup.style = .simulated) (attached : setup.detached = false)
    (unhurried : Unhurried setup.reactions) (isOpen : pipeline.timer.isShutDown = false)
    (begins : BeginsSubscribed pipeline.chronicle) : KeepsTime config.timeSpan pipeline := by
  obtain ⟨opening, made, later⟩ := reachable
  have positive := timeSpan_pos_of_made made
  induction later with
  | here => exact keepsTime_opening config.timeSpan made simulated
  | begin earlier rest action ih => exact (ih isOpen begins).begin rest action
  | @step last earlier ih =>
      have before : Reachable config setup last := ⟨opening, made, earlier⟩
      cases agenda_eq : last.agenda with
      | nil =>
          rw [step_of_atRest (List.isEmpty_iff.mpr agenda_eq)] at isOpen begins ⊢
          exact ih isOpen begins
      | cons task rest =>
          obtain ⟨stage, timer, events, tasks, effect, becomes⟩ := exists_step_effect agenda_eq
          have openBefore : last.timer.isShutDown = false :=
            effect.timerStep.isOpen (becomes.timer_eq ▸ isOpen)
          have beganBefore : BeginsSubscribed last.chronicle :=
            .of_append (becomes.chronicle_eq ▸ begins)
          obtain ⟨stays, onWay, inBatch, lost, account, timely⟩ := ih openBefore beganBefore
          have unpassed : last.passed = [] → inBatch = [] := by
            intro none
            have silent : last.arrivals = [] := by
              rw [← map_snd_arrivals, List.map_eq_nil_iff] at none
              exact none
            have all := account.arrivals_perm
            rw [silent, List.nil_perm] at all
            exact (List.append_eq_nil_iff.mp (List.append_eq_nil_iff.mp
              (List.append_eq_nil_iff.mp all).1).1).2
          by_cases clock : ∃ instant, task = .advance instant
          · obtain ⟨instant, rfl⟩ := clock
            have paced := before.paced unhurried
            have alone := paced.rest_eq_nil agenda_eq rfl
            subst alone
            have idle : last.isIdle = true := by
              rw [isIdle, agenda_eq]
              rfl
            have resting := (before.inOrder.resting_of_isIdle idle).2
            obtain ⟨rfl, next⟩ := account.clock agenda_eq resting effect becomes
            refine ⟨stays, [], inBatch, lost, next, timely.clock resting
              (paced.ahead instant (agenda_eq ▸ List.mem_singleton_self _)) effect becomes ?_⟩
            intro filled
            refine before.exists_alarm_of_batch simulated attached openBefore agenda_eq
              beganBefore ?_ (fun none => filled (unpassed none))
            rw [← account.inBatch_eq]
            exact fun empty => filled (List.map_eq_nil_iff.mp empty)
          · have other := not_exists.mp clock
            have now_eq : timer.now = last.timer.now := by
              rw [← becomes.timer_eq, step_of_agenda agenda_eq]
              exact (stamped_perform { last with agenda := rest } other).now_eq
            have sized := before.steady.sized
            have noItem := (sized.sound task (agenda_eq ▸ List.mem_cons_self)).announces
            obtain ⟨more, nextOnWay, nextInBatch, nextLost, next, takesOver⟩ :=
              account.step agenda_eq effect becomes now_eq noItem fun held aside => by
                rw [step_of_agenda agenda_eq] at held becomes
                rw [← becomes.stage_eq, stage_perform_of_alive aside held]
            refine ⟨stays ++ more, nextOnWay, nextInBatch, nextLost, next,
              timely.step agenda_eq effect becomes other now_eq ?_ positive takesOver ?_ ?_⟩
            · rw [sized.config_eq]
            · exact fun unattached =>
                unpassed (before.passed_of_unattached beganBefore unattached)
            · rw [next.inBatch_eq, becomes.stage_eq]

/-- No item stays longer than a time span. -/
structure Punctual (span : Duration) (pipeline : Pipeline α) (stays : List (Stay α))
    (kept lost : List (Duration × α)) : Prop where
  /-- Every item that left arrived, and it left in time. -/
  departures_eq : pipeline.departures = stays.map Stay.departure
  prompt : ∀ stay ∈ stays, InTime span stay.left stay.arrival
  /-- What arrived has left, is kept, or was lost with the stage. -/
  arrivals_perm : pipeline.arrivals.Perm (stays.map Stay.arrival ++ kept ++ lost)
  kept_inTime : ∀ arrival ∈ kept, InTime span pipeline.timer.now arrival
  lost_eq : pipeline.alive = true → lost = []
  /-- Between the calls of the stage and of the clock the items of the open batch are kept, and the
  time of none of them is over. -/
  kept_eq : pipeline.isIdle = true → (∀ instant, .advance instant ∉ pipeline.agenda) →
    kept.map Prod.snd = pipeline.stage.batch ∧
      ∀ arrival ∈ kept, pipeline.timer.now.nanos < arrival.1.nanos + span.nanos

/-- Where no callback moves the clock, no item stays longer than a time span. -/
theorem Reachable.punctual (reachable : Reachable config setup pipeline)
    (simulated : setup.style = .simulated) (attached : setup.detached = false)
    (unhurried : Unhurried setup.reactions) (isOpen : pipeline.timer.isShutDown = false)
    {producer : Nat} (first : pipeline.inboundCalls.head? = some (.subscribe producer)) :
    ∃ stays kept lost, Punctual config.timeSpan pipeline stays kept lost := by
  have begins : BeginsSubscribed pipeline.chronicle := by
    intro call called
    cases Option.some.inj (first.symm.trans called)
    exact ⟨producer, rfl⟩
  obtain ⟨stays, onWay, inBatch, lost, account, timely⟩ :=
    reachable.keepsTime simulated attached unhurried isOpen begins
  let queue := stamp pipeline.timer.now (waiting pipeline.stage)
  refine ⟨stays, onWay ++ inBatch ++ queue, lost, ?_⟩
  constructor
  case departures_eq => exact account.departures_eq
  case prompt => exact timely.prompt
  case arrivals_perm =>
    simpa only [List.append_assoc] using account.arrivals_perm
  case kept_inTime =>
    have early := List.forall_mem_append.mpr ⟨timely.moving, timely.staying⟩
    refine List.forall_mem_append.mpr ⟨early, ?_⟩
    intro arrival member
    rw [InTime, fst_of_mem_stamp member]
    exact ⟨Nat.le_refl _, Nat.le_add_right _ _⟩
  case lost_eq => exact account.lost_eq
  case kept_eq =>
    intro idle stopped
    have onWay_eq : onWay = [] := by
      have carried_eq : carried pipeline.agenda = [] := carried_of_none fun task member =>
        items_of_isFree (List.all_eq_true.mp idle task member)
      exact List.map_eq_nil_iff.mp (account.onWay_eq.trans carried_eq)
    have queue_eq : queue = [] := by
      change stamp _ (waiting _) = []
      rw [waiting, (reachable.inOrder.resting_of_isIdle idle).2]
      rfl
    rw [onWay_eq, queue_eq, List.append_nil, List.nil_append]
    exact ⟨account.inBatch_eq, timely.stopped stopped⟩

end Reachable

/-- Batches that are closed by their size and by their time, with an item that is pushed in the
middle of a delivery. -/
theorem punctual_of_push_in_batch :
    ∃ pipeline : Pipeline Nat,
      Reachable ⟨2, .ofMillis 10, .unbounded⟩
        { reactions := fun kind earlier =>
            if kind = .subscribe then [.request 5]
            else if kind = .next ∧ earlier = 0 then [.next [3]]
            else [] }
        pipeline ∧
      pipeline.departures = [(.ofMillis 4, 1), (.ofMillis 4, 2), (.ofMillis 14, 3)] ∧
      pipeline.stage.batch = [4] ∧
      ∃ stays kept lost, Punctual (.ofMillis 10) pipeline stays kept lost := by
  have start : @Reachable Nat ⟨2, .ofMillis 10, .unbounded⟩
      { reactions := fun kind earlier =>
          if kind = .subscribe then [.request 5]
          else if kind = .next ∧ earlier = 0 then [.next [3]]
          else [] } _ :=
    Reachable.of_opening rfl
  have subscribed := start.act rfl .subscribe 40
  have pushed := subscribed.act rfl (.next [1]) 10
  have waited := pushed.act rfl (.advance (.ofMillis 4)) 10
  have closed := waited.act rfl (.next [2]) 40
  have passed := closed.act rfl (.advance (.ofMillis 20)) 80
  have last := passed.act rfl (.next [4]) 10
  refine ⟨_, last, rfl, rfl, Reachable.punctual last rfl rfl ?_ rfl rfl⟩
  intro kind earlier action member
  dsimp only at member
  split at member
  · rw [List.mem_singleton.mp member]
    rfl
  · split at member
    · rw [List.mem_singleton.mp member]
      rfl
    · cases member

end Pipeline

end TimedBatch
