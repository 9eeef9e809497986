import TimedBatch.Proofs.Watch

/-!
# Tokens that name a bit

The answer of a timer brings the stage a token, and the stage keeps it as long as the alarm is its
own. Every such token names a bit that was made before, whether it belongs to an alarm or not. So
cancelling through it succeeds, and a bit that is cancelled stays so.
-/

namespace TimedBatch

variable {α : Type}

/-- The token that an answer of the timer brings. -/
def Task.token? : Task α → Option CancelToken
  | .answered (.ok token) _ => some token
  | _ => none

namespace Pipeline

/-- The tokens that a stage keeps or is about to get. -/
def tokens (stage : Stage α) (agenda : List (Task α)) : List CancelToken :=
  stage.alarm.toList ++ agenda.filterMap Task.token?

/-! ## Where tokens come from -/

section Work

variable {hook : DiscardHook} {stage next : Stage α} {timer clock : Timer UInt64}
  {events : List (Event α)} {tasks : List (Task α)}

/-- A stage keeps the token that it has, or gives it up, and no task brings another one. -/
def Unarmed (before after : Stage α) (tasks : List (Task α)) : Prop :=
  (after.alarm = before.alarm ∨ after.alarm = none) ∧ tasks.filterMap Task.token? = []

theorem token?_hookTasks (items : List α) : (hookTasks hook items).filterMap Task.token? = [] := by
  rw [List.filterMap_eq_nil_iff]
  intro task member
  obtain ⟨call, _, rfl⟩ := List.mem_map.mp member
  rfl

theorem token?_failureTasks (items : List α) (error : StreamError) :
    (failureTasks hook items error).filterMap Task.token? = [] := by
  rw [failureTasks, List.filterMap_append, token?_hookTasks]
  rfl

theorem Delivery.unarmed {handOff : HandOff α}
    (delivery : Delivery hook stage timer handOff next clock events tasks) :
    Unarmed stage next tasks := by
  cases delivery with
  | late ended => exact ⟨Or.inl rfl, token?_hookTasks _⟩
  | unpaid active unpaid => exact ⟨Or.inr rfl, token?_failureTasks _ _⟩
  | paid active paid =>
      refine ⟨Or.inl rfl, ?_⟩
      rw [closingTasks]
      split <;> rfl

theorem Failure.unarmed {error : StreamError} {origin : Origin}
    (failure : Failure hook stage timer error origin next clock events tasks) :
    Unarmed stage next tasks := by
  cases failure with
  | late ended => exact ⟨Or.inl rfl, rfl⟩
  | ended active =>
      refine ⟨Or.inr rfl, ?_⟩
      rw [List.filterMap_append, token?_hookTasks]
      rfl

theorem Dispatch.unarmed {signal : Signal α}
    (dispatch : Dispatch hook stage timer signal next clock events tasks) :
    Unarmed stage next tasks := by
  cases dispatch with
  | completed active filled delivery =>
      obtain ⟨alarm_eq, none⟩ := delivery.unarmed
      exact ⟨Or.inr (alarm_eq.elim id id), none⟩
  | failed failure => exact failure.unarmed
  | cancelledEmpty empty => exact ⟨Or.inr rfl, token?_hookTasks _⟩
  | cancelled filled => exact ⟨Or.inr rfl, token?_hookTasks _⟩
  | _ => first | exact ⟨Or.inl rfl, rfl⟩ | exact ⟨Or.inr rfl, rfl⟩

end Work

section Step

variable {pipeline : Pipeline α} {task : Task α} {stage : Stage α} {timer : Timer UInt64}
  {events : List (Event α)} {tasks : List (Task α)}

/-- Tokens come from the timer when it is asked for an alarm, and from nowhere else. -/
theorem Effect.mem_tokens (effect : Effect pipeline task stage timer events tasks)
    {token : CancelToken} (member : token ∈ tokens stage (tasks ++ pipeline.agenda)) :
    token ∈ tokens pipeline.stage (task :: pipeline.agenda) ∨
      pipeline.askTimer = (.ok token, timer) := by
  have below : token ∈ pipeline.agenda.filterMap Task.token? →
      token ∈ tokens pipeline.stage (task :: pipeline.agenda) := by
    intro member
    rw [tokens, ← List.singleton_append, List.filterMap_append]
    exact List.mem_append_right _ (List.mem_append_right _ member)
  have ofTask : task.token? = some token →
      token ∈ tokens pipeline.stage (task :: pipeline.agenda) := by
    intro brings
    rw [tokens, List.filterMap_cons_some brings]
    exact List.mem_append_right _ List.mem_cons_self
  have kept : Unarmed pipeline.stage stage tasks →
      token ∈ tokens pipeline.stage (task :: pipeline.agenda) := by
    rintro ⟨alarm_eq, none⟩
    rw [tokens, List.filterMap_append, none, List.nil_append] at member
    rcases List.mem_append.mp member with keeps | member
    · rcases alarm_eq with same | unset
      · exact List.mem_append_left _ (same ▸ keeps)
      · rw [unset] at keeps
        cases keeps
    · exact below member
  cases effect with
  | free aside inert allFree =>
      refine Or.inl (kept ⟨Or.inl rfl, List.filterMap_eq_nil_iff.mpr fun task member => ?_⟩)
      have free := allFree task member
      cases task <;> first | rfl | cases free
  | swept aside gone => exact Or.inl (kept ⟨Or.inr rfl, rfl⟩)
  | timerClosed =>
      refine Or.inl (kept ⟨Or.inl rfl, ?_⟩)
      cases pipeline.timer.closingLine? <;> rfl
  | called actions =>
      refine Or.inl (kept ⟨Or.inl rfl, List.filterMap_eq_nil_iff.mpr fun task member => ?_⟩)
      obtain ⟨action, _, rfl⟩ := List.mem_map.mp member
      rfl
  | enteredSignal announces =>
      refine Or.inl (kept ⟨Or.inl rfl, ?_⟩)
      rw [wakeTasks]
      split <;> rfl
  | announced =>
      refine Or.inl (kept ⟨Or.inl rfl, ?_⟩)
      rw [wakeTasks]
      split <;> rfl
  | cancelled active =>
      refine Or.inl (kept ⟨Or.inl rfl, ?_⟩)
      rw [List.filterMap_append, List.filterMap_eq_nil_iff.mpr
        (forall_cancelProducerTasks pipeline fun _ => rfl)]
      rfl
  | handled first dispatch =>
      obtain ⟨alarm_eq, none⟩ := dispatch.unarmed
      refine Or.inl (kept ⟨alarm_eq, ?_⟩)
      rw [List.filterMap_append, none]
      rfl
  | alarmSet =>
      rw [tokens, List.filterMap_append] at member
      rcases List.mem_append.mp member with keeps | member
      · exact Or.inl (List.mem_append_left _ keeps)
      · rcases List.mem_append.mp member with brought | member
        · right
          cases asked : pipeline.askTimer.1 with
          | error rejection =>
              rw [asked] at brought
              cases brought
          | ok other =>
              rw [asked] at brought
              rw [List.mem_singleton.mp brought, ← asked]
        · exact Or.inl (below member)
  | accepted =>
      rcases List.mem_append.mp member with brought | member
      · exact Or.inl (ofTask (congrArg some (List.mem_singleton.mp brought).symm))
      · exact Or.inl (below member)
  | acceptedHandOff delivery =>
      obtain ⟨alarm_eq, none⟩ := delivery.unarmed
      rw [tokens, List.filterMap_append, none, List.nil_append] at member
      rcases List.mem_append.mp member with keeps | member
      · rcases alarm_eq with same | unset
        · rw [same] at keeps
          exact Or.inl (ofTask (congrArg some (List.mem_singleton.mp keeps).symm))
        · rw [unset] at keeps
          cases keeps
      · exact Or.inl (below member)
  | refusedHandOff => exact Or.inl (kept ⟨Or.inl rfl, token?_failureTasks _ _⟩)
  | failed failure => exact Or.inl (kept failure.unarmed)
  | reportedStage =>
      refine Or.inl (kept ⟨Or.inl rfl, ?_⟩)
      rw [List.filterMap_append, List.filterMap_eq_nil_iff.mpr
        (forall_cancelProducerTasks pipeline fun _ => rfl)]
      rfl
  | _ => exact Or.inl (kept ⟨Or.inl rfl, rfl⟩)

/-! ## Bits that were made -/

theorem length_bits_askTimer_le (pipeline : Pipeline α) :
    pipeline.timer.register.bits.length ≤ pipeline.askTimer.2.register.bits.length := by
  refine askTimer_induction
    (fun timer => pipeline.timer.register.bits.length ≤ timer.register.bits.length)
    (Nat.le_refl _) (fun delay task => ?_) fun timer longer => ?_
  · rw [Timer.schedule]
    split
    · exact Nat.le_refl _
    · split
      · exact Nat.le_refl _
      · simp [CancelRegister.make]
  · simp only [Timer.strayToken, CancelRegister.make, List.length_append]
    omega

theorem made_of_askTimer {token : CancelToken} (asked : pipeline.askTimer = (.ok token, timer)) :
    token.index < timer.register.bits.length := by
  revert asked
  rw [askTimer, Timer.schedule]
  cases pipeline.refusal with
  | some rejection => rintro ⟨⟩
  | none =>
      cases pipeline.timer.deadline? pipeline.stage.config.timeSpan with
      | none => rintro ⟨⟩
      | some deadline =>
          dsimp only
          by_cases down : pipeline.timer.isShutDown = true
          · rw [if_pos down]
            rintro ⟨⟩
          · rw [if_neg down]
            cases pipeline.detached <;> rintro ⟨⟩ <;> simp [Timer.strayToken, CancelRegister.make]

theorem TimerStep.length_bits_le (turn : TimerStep pipeline timer) :
    pipeline.timer.register.bits.length ≤ timer.register.bits.length := by
  cases turn with
  | asked => exact length_bits_askTimer_le pipeline
  | cancelled token => simp [Timer.cancel, CancelRegister.cancel]
  | taken due =>
      obtain ⟨_, _, _, rfl⟩ := Timer.eq_of_takeDue due
      exact Nat.le_refl _
  | _ => exact Nat.le_refl _

end Step

section Reachable

variable {config : Config} {setup : Setup α} {pipeline : Pipeline α}

/-- Every token that a stage keeps or is about to get names a bit. -/
theorem Reachable.made_of_mem_tokens (reachable : Reachable config setup pipeline)
    {token : CancelToken} (member : token ∈ tokens pipeline.stage pipeline.agenda) :
    token.index < pipeline.timer.register.bits.length := by
  obtain ⟨opening, made, later⟩ := reachable
  induction later generalizing token with
  | here =>
      obtain ⟨_, stage_eq, agenda_eq, _⟩ := opening?_eq_ok made
      rw [stage_eq, agenda_eq] at member
      cases member
  | @step last _ ih =>
      cases agenda_eq : last.agenda with
      | nil =>
          rw [step_of_atRest (List.isEmpty_iff.mpr agenda_eq)] at member ⊢
          exact ih member
      | cons task rest =>
          obtain ⟨stage, timer, events, tasks, effect, becomes⟩ := exists_step_effect agenda_eq
          rw [becomes.stage_eq, becomes.agenda_eq] at member
          rw [becomes.timer_eq]
          rcases effect.mem_tokens member with before | asked
          · exact Nat.lt_of_lt_of_le (ih (agenda_eq ▸ before)) effect.timerStep.length_bits_le
          · exact made_of_askTimer asked
  | @begin last _ rest action ih =>
      rw [agenda_begin_of_atRest rest] at member
      rw [List.isEmpty_iff.mp rest] at ih
      exact ih member

/-- Once the alarm of a stage is given up, it is cancelled. -/
theorem isCancelled_idleTimer {stage : Stage α} {timer : Timer UInt64} {token : CancelToken}
    (alarm_eq : stage.alarm = some token) (made : token.index < timer.register.bits.length) :
    (idleTimer stage timer).isCancelled token = true := by
  rw [idleTimer, alarm_eq]
  exact timer.register.isCancelled_cancel_self made

end Reachable

end Pipeline

end TimedBatch
