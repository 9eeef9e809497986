import TimedBatch.Timer

/-!
# Alarms that wait

A cancelled alarm stays in the queue of its timer until its deadline and is passed over then. What
a timer will do depends on the other alarms only: the first of them is the next one whose task
starts.
-/

namespace TimedBatch

/-! ## Registers -/

namespace CancelRegister

variable (register : CancelRegister)

/-- Making a bit cancels nothing. -/
theorem isCancelled_make (token : CancelToken) :
    register.make.2.isCancelled token = register.isCancelled token := by
  simp only [make, isCancelled, List.getD_eq_getElem?_getD, List.getElem?_append]
  split
  · rfl
  · rename_i unmade
    rw [List.getElem?_eq_none (Nat.le_of_not_lt unmade), List.getElem?_singleton]
    split <;> rfl

theorem isCancelled_make_self : register.make.2.isCancelled register.make.1 = false := by
  simp [make, isCancelled]

theorem isCancelled_cancel_self {token : CancelToken}
    (made : token.index < register.bits.length) :
    (register.cancel token).2.isCancelled token = true := by
  simp [cancel, isCancelled, made]

theorem isCancelled_cancel {other : CancelToken} (token : CancelToken)
    (cancelled : register.isCancelled other = true) :
    (register.cancel token).2.isCancelled other = true := by
  simp only [isCancelled, List.getD_eq_getElem?_getD] at cancelled
  simp only [cancel, isCancelled, List.getD_eq_getElem?_getD, List.getElem?_set]
  split
  · rename_i same
    split
    · rfl
    · rename_i unmade
      rw [← same, List.getElem?_eq_none (Nat.le_of_not_lt unmade)] at cancelled
      cases cancelled
  · exact cancelled

/-- Cancelling a bit that was made cancels that one only. -/
theorem isCancelled_cancel_iff {token other : CancelToken}
    (made : token.index < register.bits.length) :
    (register.cancel token).2.isCancelled other = true ↔
      register.isCancelled other = true ∨ other = token := by
  by_cases same : other = token
  · simp [same, register.isCancelled_cancel_self made]
  · have apart : token.index ≠ other.index := by
      rintro index_eq
      exact same (congrArg CancelToken.mk index_eq).symm
    simp [isCancelled, cancel, List.getD_eq_getElem?_getD, apart, same]

end CancelRegister

variable {β : Type}

/-! ## Queues -/

namespace Alarm

theorem le_of_precedes {first second : Alarm β} (order : first.precedes second = true) :
    first.deadline ≤ second.deadline := by
  rw [Duration.le_def]
  simp only [precedes, Bool.or_eq_true, decide_eq_true_eq, Bool.and_eq_true] at order
  rcases order with earlier | ⟨same, _⟩
  · exact Nat.le_of_lt earlier
  · exact Nat.le_of_eq (congrArg Duration.nanos same)

theorem le_of_not_precedes {first second : Alarm β} (order : ¬first.precedes second = true) :
    second.deadline ≤ first.deadline := by
  rw [Duration.le_def]
  simp only [precedes, Bool.or_eq_true, decide_eq_true_eq] at order
  exact Nat.le_of_not_lt fun earlier => order (Or.inl earlier)

theorem insert_cons (alarm first : Alarm β) (rest : List (Alarm β)) :
    alarm.insert (first :: rest) =
      if alarm.precedes first then alarm :: first :: rest else first :: alarm.insert rest :=
  rfl

theorem perm_insert (alarm : Alarm β) (queue : List (Alarm β)) :
    (alarm.insert queue).Perm (alarm :: queue) := by
  induction queue with
  | nil => exact .refl _
  | cons first rest ih =>
      rw [insert_cons]
      split
      · exact .refl _
      · exact (ih.cons first).trans (.swap alarm first rest)

theorem mem_insert {alarm other : Alarm β} {queue : List (Alarm β)} :
    other ∈ alarm.insert queue ↔ other = alarm ∨ other ∈ queue :=
  (perm_insert alarm queue).mem_iff.trans List.mem_cons

/-- The queue stays in the order of the deadlines. -/
theorem pairwise_insert (alarm : Alarm β) {queue : List (Alarm β)}
    (sorted : queue.Pairwise fun first second => first.deadline ≤ second.deadline) :
    (alarm.insert queue).Pairwise fun first second => first.deadline ≤ second.deadline := by
  induction queue with
  | nil => exact List.pairwise_singleton _ alarm
  | cons first rest ih =>
      have ⟨least, others⟩ := List.pairwise_cons.mp sorted
      rw [insert_cons]
      split
      · rename_i order
        have before := le_of_precedes order
        refine List.pairwise_cons.mpr ⟨?_, sorted⟩
        intro other member
        rcases List.mem_cons.mp member with rfl | member
        · exact before
        · exact Nat.le_trans before (least other member)
      · rename_i order
        refine List.pairwise_cons.mpr ⟨?_, ih others⟩
        intro other member
        rcases mem_insert.mp member with rfl | member
        · exact le_of_not_precedes order
        · exact least other member

/-- Where nothing of a queue is selected, only the alarm that is inserted can be. -/
theorem filter_insert {select : Alarm β → Bool} {alarm : Alarm β} {queue : List (Alarm β)}
    (others : ∀ other ∈ queue, select other = false) :
    (alarm.insert queue).filter select = [alarm].filter select := by
  induction queue with
  | nil => rfl
  | cons first rest ih =>
      have ⟨unselected, unselectedRest⟩ := List.forall_mem_cons.mp others
      have nothing : (first :: rest).filter select = [] := by simpa using others
      rw [insert_cons]
      split
      · rw [← List.singleton_append, List.filter_append, nothing, List.append_nil]
      · rw [List.filter_cons_of_neg (Bool.eq_false_iff.mp unselected), ih unselectedRest]

end Alarm

namespace Timer

/-- Setting an alarm does not move the clock. -/
@[simp]
theorem now_schedule (timer : Timer β) (delay : Duration) (task : β) :
    (timer.schedule delay task).2.now = timer.now := by
  unfold schedule
  split
  · rfl
  · split <;> rfl

/-! ## Due alarms -/

section Due

variable {timer next : Timer β} {instant : Duration} {first : Alarm β}

/-- An alarm that is taken was the first of the queue, and nothing else happens but that the clock
moves. -/
theorem eq_of_takeDue (due : timer.takeDue instant = some (first, next)) :
    first.deadline ≤ instant ∧ ∃ rest, timer.queue = first :: rest ∧
      next = { timer with now := max timer.now first.deadline, queue := rest } := by
  rw [takeDue] at due
  split at due
  · cases due
  · rename_i head rest queue_eq
    split at due <;> cases due
    rename_i onTime
    exact ⟨onTime, rest, queue_eq, rfl⟩

/-- Where no alarm is due, none in the queue is. -/
theorem lt_of_takeDue
    (sorted : timer.queue.Pairwise fun first second => first.deadline ≤ second.deadline)
    (none : timer.takeDue instant = none) : ∀ alarm ∈ timer.queue, instant < alarm.deadline := by
  rw [takeDue] at none
  split at none
  · rename_i queue_eq
    rw [queue_eq]
    exact List.forall_mem_nil _
  · rename_i head rest queue_eq
    split at none
    · cases none
    rename_i early
    have later : instant < head.deadline := Nat.lt_of_not_le early
    rw [queue_eq] at sorted ⊢
    exact List.forall_mem_cons.mpr ⟨later, fun alarm behind =>
      Nat.lt_of_lt_of_le later (List.rel_of_pairwise_cons sorted behind)⟩

theorem takeDue_of_lt (later : ∀ alarm ∈ timer.queue, instant < alarm.deadline) :
    timer.takeDue instant = none := by
  rw [takeDue]
  split
  · rfl
  · rename_i head rest queue_eq
    exact if_neg (Nat.not_le_of_lt (later head (queue_eq ▸ List.mem_cons_self)))

end Due

/-! ## Waiting alarms -/

/-- A timer is open, its queue is in order, and these alarms in it are not cancelled. -/
structure Tracks (timer : Timer β) (waiting : List (Alarm β)) : Prop where
  isOpen : timer.isShutDown = false
  sorted : timer.queue.Pairwise fun first second => first.deadline ≤ second.deadline
  made : ∀ alarm ∈ timer.queue, alarm.token.index < timer.register.bits.length
  waiting_eq : (timer.queue.filter fun alarm => !timer.isCancelled alarm.token) = waiting

section Tracks

variable {timer : Timer β} {waiting : List (Alarm β)}

theorem Tracks.mem (tracks : timer.Tracks waiting) {alarm : Alarm β} (member : alarm ∈ waiting) :
    alarm ∈ timer.queue := by
  rw [← tracks.waiting_eq] at member
  exact (List.mem_filter.mp member).1

/-- A timer on which all waiting alarms are cancelled has none left. -/
theorem Tracks.cancel (tracks : timer.Tracks waiting) {token : CancelToken}
    (only : ∀ alarm ∈ waiting, alarm.token = token) : (timer.cancel token).2.Tracks [] := by
  refine ⟨tracks.isOpen, tracks.sorted, ?_, ?_⟩
  · intro alarm member
    simpa [Timer.cancel, CancelRegister.cancel] using tracks.made alarm member
  · rw [List.filter_eq_nil_iff]
    intro alarm member
    have cancelled : (timer.cancel token).2.isCancelled alarm.token = true := by
      cases before : timer.isCancelled alarm.token with
      | true => exact CancelRegister.isCancelled_cancel _ token before
      | false =>
          have waits : alarm ∈ waiting := by
            rw [← tracks.waiting_eq]
            exact List.mem_filter.mpr ⟨member, by rw [before]; rfl⟩
          rw [← only alarm waits]
          exact CancelRegister.isCancelled_cancel_self _ (tracks.made alarm member)
    rw [cancelled]
    exact Bool.false_ne_true

/-- A timer on which no alarm waits sets one if it can represent the deadline. -/
theorem Tracks.set (tracks : timer.Tracks []) {delay deadline : Duration}
    (clock : timer.deadline? delay = some deadline) (task : β) :
    ∃ alarm next, timer.schedule delay task = (.ok alarm.token, next) ∧ next.Tracks [alarm] ∧
      next.style = timer.style ∧ next.now = timer.now ∧ alarm.deadline = deadline ∧
      alarm.task = task := by
  let alarm : Alarm β := ⟨deadline, timer.nextOrder, timer.register.make.1, task⟩
  let next : Timer β :=
    { timer with
      queue := alarm.insert timer.queue
      nextOrder := timer.nextOrder + 1
      register := timer.register.make.2 }
  refine ⟨alarm, next, ?_, ?_, rfl, rfl, rfl, rfl⟩
  · have accepts : ¬timer.isShutDown = true := by
      rw [tracks.isOpen]
      exact Bool.false_ne_true
    rw [Timer.schedule, clock]
    exact if_neg accepts
  · have longer : timer.register.make.2.bits.length = timer.register.bits.length + 1 := by
      simp [CancelRegister.make]
    refine ⟨tracks.isOpen, Alarm.pairwise_insert _ tracks.sorted, ?_, ?_⟩
    · intro alarm member
      rcases Alarm.mem_insert.mp member with rfl | member
      · exact longer.symm ▸ Nat.lt_succ_self _
      · exact longer.symm ▸ Nat.lt_succ_of_lt (tracks.made alarm member)
    · have uncancelled : (!next.isCancelled alarm.token) = true :=
        congrArg not timer.register.isCancelled_make_self
      refine (Alarm.filter_insert fun other member => ?_).trans
        (List.filter_cons_of_pos uncancelled)
      have cancelled := List.filter_eq_nil_iff.mp tracks.waiting_eq other member
      rw [Bool.not_eq_true] at cancelled
      exact (congrArg not (timer.register.isCancelled_make other.token)).trans cancelled

theorem eq_of_deadline? {delay deadline : Duration}
    (clock : timer.deadline? delay = some deadline) : deadline = timer.now + delay := by
  rw [deadline?] at clock
  split at clock
  · exact (Option.some.inj clock).symm
  · split at clock <;> cases clock
    rfl

/-- A timer on which no alarm waits sets one, unless it cannot represent the deadline. -/
theorem Tracks.schedule (tracks : timer.Tracks []) (delay : Duration) (task : β) :
    (∃ rejection, timer.schedule delay task = (.error rejection, timer)) ∨
      ∃ alarm next, timer.schedule delay task = (.ok alarm.token, next) ∧ next.Tracks [alarm] ∧
        next.now = timer.now ∧ alarm.deadline = timer.now + delay ∧ alarm.task = task := by
  cases clock : timer.deadline? delay with
  | none =>
      left
      exact ⟨.delayOutOfRange timer.workerName, by rw [Timer.schedule, clock]⟩
  | some deadline =>
      obtain ⟨alarm, next, scheduled, kept, _, now_eq, deadline_eq, task_eq⟩ :=
        tracks.set clock task
      exact Or.inr ⟨alarm, next, scheduled, kept, now_eq,
        deadline_eq.trans (eq_of_deadline? clock), task_eq⟩

theorem Tracks.setClock (tracks : timer.Tracks waiting) (instant : Duration) :
    (timer.setClock instant).Tracks waiting :=
  ⟨tracks.isOpen, tracks.sorted, tracks.made, tracks.waiting_eq⟩

/-- Where no alarm is due, no waiting alarm is. -/
theorem Tracks.lt_of_takeDue (tracks : timer.Tracks waiting) {instant : Duration}
    (none : timer.takeDue instant = none) : ∀ alarm ∈ waiting, instant < alarm.deadline :=
  fun alarm member => Timer.lt_of_takeDue tracks.sorted none alarm (tracks.mem member)

/-- What it means that an alarm is taken off the queue: a waiting one is the first of those that
wait, and a cancelled one leaves them as they were. -/
theorem Tracks.takeDue (tracks : timer.Tracks waiting) {instant : Duration} {first : Alarm β}
    {next : Timer β} (due : timer.takeDue instant = some (first, next)) :
    next.now = max timer.now first.deadline ∧ first.deadline ≤ instant ∧
      next.queue.length < timer.queue.length ∧
      ((next.isCancelled first.token = true ∧ next.Tracks waiting ∧
          ∀ alarm ∈ waiting, first.deadline ≤ alarm.deadline) ∨
        (next.isCancelled first.token = false ∧ ∃ rest, waiting = first :: rest ∧
          next.Tracks rest)) := by
  obtain ⟨isOpen, sorted, made, waiting_eq⟩ := tracks
  obtain ⟨onTime, behind, queue_eq, rfl⟩ := eq_of_takeDue due
  rw [queue_eq] at sorted made waiting_eq
  have ⟨least, sortedBehind⟩ := List.pairwise_cons.mp sorted
  have madeBehind := (List.forall_mem_cons.mp made).2
  refine ⟨rfl, onTime, by rw [queue_eq]; exact Nat.lt_succ_self _, ?_⟩
  cases cancelled : timer.isCancelled first.token with
  | true =>
      rw [List.filter_cons, cancelled] at waiting_eq
      refine Or.inl ⟨cancelled, ⟨isOpen, sortedBehind, madeBehind, waiting_eq⟩, ?_⟩
      intro alarm member
      rw [← waiting_eq] at member
      exact least alarm ((List.mem_filter.mp member).1)
  | false =>
      rw [List.filter_cons, cancelled] at waiting_eq
      exact Or.inr ⟨cancelled, _, waiting_eq.symm, ⟨isOpen, sortedBehind, madeBehind, rfl⟩⟩

end Tracks

/-- A simulated timer is open, its queue is in order, and these alarms in it are not cancelled. -/
structure Keeps (timer : Timer β) (waiting : List (Alarm β)) : Prop
    extends Tracks timer waiting where
  simulated : timer.style = .simulated

variable {timer : Timer β} {waiting : List (Alarm β)}

theorem Keeps.cancel (keeps : timer.Keeps waiting) {token : CancelToken}
    (only : ∀ alarm ∈ waiting, alarm.token = token) : (timer.cancel token).2.Keeps [] :=
  ⟨keeps.toTracks.cancel only, keeps.simulated⟩

/-- A simulated timer on which no alarm waits sets one. -/
theorem Keeps.schedule (keeps : timer.Keeps []) (delay : Duration) (task : β) :
    ∃ alarm next, timer.schedule delay task = (.ok alarm.token, next) ∧ next.Keeps [alarm] ∧
      next.now = timer.now ∧ alarm.deadline = timer.now + delay ∧ alarm.task = task := by
  have clock : timer.deadline? delay = some (timer.now + delay) := by
    rw [deadline?, keeps.simulated]
  obtain ⟨alarm, next, scheduled, kept, style_eq, others⟩ := keeps.toTracks.set clock task
  exact ⟨alarm, next, scheduled, ⟨kept, style_eq.trans keeps.simulated⟩, others⟩

theorem Keeps.setClock (keeps : timer.Keeps waiting) (instant : Duration) :
    (timer.setClock instant).Keeps waiting :=
  ⟨keeps.toTracks.setClock instant, keeps.simulated⟩

/-- What it means that an alarm is taken off the queue: a waiting one is the first of those that
wait, and a cancelled one leaves them as they were. -/
theorem Keeps.takeDue (keeps : timer.Keeps waiting) {instant : Duration} {first : Alarm β}
    {next : Timer β} (due : timer.takeDue instant = some (first, next)) :
    next.now = max timer.now first.deadline ∧ first.deadline ≤ instant ∧
      next.queue.length < timer.queue.length ∧
      ((next.isCancelled first.token = true ∧ next.Keeps waiting ∧
          ∀ alarm ∈ waiting, first.deadline ≤ alarm.deadline) ∨
        (next.isCancelled first.token = false ∧ ∃ rest, waiting = first :: rest ∧
          next.Keeps rest)) := by
  have simulated : next.style = .simulated := by
    obtain ⟨_, _, _, rfl⟩ := eq_of_takeDue due
    exact keeps.simulated
  obtain ⟨now_eq, onTime, shorter, ⟨cancelled, kept, least⟩ | ⟨live, rest, waiting_eq, kept⟩⟩ :=
    keeps.toTracks.takeDue due
  · exact ⟨now_eq, onTime, shorter, Or.inl ⟨cancelled, ⟨kept, simulated⟩, least⟩⟩
  · exact ⟨now_eq, onTime, shorter, Or.inr ⟨live, rest, waiting_eq, kept, simulated⟩⟩

/-! ## Live alarms -/

/-- The alarms that are queued and not cancelled. -/
def live (timer : Timer β) : List (Alarm β) :=
  timer.queue.filter fun alarm => !timer.isCancelled alarm.token

theorem Tracks.live_eq (tracks : timer.Tracks waiting) : timer.live = waiting :=
  tracks.waiting_eq

theorem mem_live {timer : Timer β} {alarm : Alarm β} :
    alarm ∈ timer.live ↔ alarm ∈ timer.queue ∧ timer.isCancelled alarm.token = false := by
  rw [live, List.mem_filter, Bool.not_eq_true']

/-- An alarm that is live after others were taken off the queue or cancelled was live before. -/
theorem mem_live_of_le {timer next : Timer β} {alarm : Alarm β} (member : alarm ∈ next.live)
    (queued : alarm ∈ next.queue → alarm ∈ timer.queue)
    (cancelled : timer.isCancelled alarm.token = true → next.isCancelled alarm.token = true) :
    alarm ∈ timer.live := by
  obtain ⟨here, live⟩ := mem_live.mp member
  refine mem_live.mpr ⟨queued here, Bool.eq_false_iff.mpr fun before => ?_⟩
  cases live.symm.trans (cancelled before)

theorem mem_live_of_cancel {timer : Timer β} {token : CancelToken} {alarm : Alarm β}
    (member : alarm ∈ (timer.cancel token).2.live) : alarm ∈ timer.live :=
  mem_live_of_le member id (CancelRegister.isCancelled_cancel _ token)

theorem mem_live_of_strayToken {timer : Timer β} {alarm : Alarm β}
    (member : alarm ∈ timer.strayToken.2.live) : alarm ∈ timer.live :=
  mem_live_of_le member id (timer.register.isCancelled_make alarm.token).trans

theorem mem_live_of_takeDue {timer next : Timer β} {instant : Duration} {first alarm : Alarm β}
    (due : timer.takeDue instant = some (first, next)) (member : alarm ∈ next.live) :
    alarm ∈ timer.live := by
  obtain ⟨_, rest, queue_eq, rfl⟩ := eq_of_takeDue due
  refine mem_live_of_le member (fun queued => ?_) id
  rw [queue_eq]
  exact List.mem_cons_of_mem _ queued

/-- An alarm that is live after one was set is that one, or was live before. -/
theorem mem_live_of_schedule {timer : Timer β} {delay : Duration} {task : β} {alarm : Alarm β}
    (member : alarm ∈ (timer.schedule delay task).2.live) :
    alarm ∈ timer.live ∨ alarm.deadline = timer.now + delay := by
  rw [Timer.schedule] at member
  split at member
  · exact Or.inl member
  · rename_i deadline clock
    split at member
    · exact Or.inl member
    · obtain ⟨queued, live⟩ := mem_live.mp member
      rcases Alarm.mem_insert.mp queued with rfl | queued
      · exact Or.inr (eq_of_deadline? clock)
      · exact Or.inl (mem_live_of_le member (fun _ => queued)
          (timer.register.isCancelled_make alarm.token).trans)

end Timer

end TimedBatch
