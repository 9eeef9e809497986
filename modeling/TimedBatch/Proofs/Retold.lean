import TimedBatch.Proofs.Worker

/-!
# Histories with fewer aborts

A task that aborts loses the rest of its script and nothing else. Where scripts are cut short just
before the command at which they abort, some of them or all, the history of a worker can be told
again without these aborts: the same alarms are set, taken and started at the same readings of the
clock, and every call has the same answer.
-/

namespace TimedBatch

variable {ℓ : Type}

/-! ## Scripts that are trimmed -/

mutual

/-- A command in whose task scripts are cut short just before they abort, some of them or all. -/
inductive TrimsCommand : Command ℓ → Command ℓ → Prop where
  | same (command : Command ℓ) : TrimsCommand command command
  | task {delay : Duration} {label : ℓ} {body shorter : List (Command ℓ)}
      (trims : Trims body shorter) :
      TrimsCommand (.schedule delay label body) (.schedule delay label shorter)

/-- A script that is cut short just before it aborts, or whose commands set trimmed tasks. -/
inductive Trims : List (Command ℓ) → List (Command ℓ) → Prop where
  | nil : Trims [] []
  | cut {message : String} {rest : List (Command ℓ)} : Trims (.abort message :: rest) []
  | cons {command shorter : Command ℓ} {rest others : List (Command ℓ)}
      (head : TrimsCommand command shorter) (tail : Trims rest others) :
      Trims (command :: rest) (shorter :: others)

end

theorem Trims.refl (script : List (Command ℓ)) : Trims script script := by
  induction script with
  | nil => exact .nil
  | cons command rest ih => exact .cons (.same command) ih

/-- An alarm whose task is trimmed is the same in all else. -/
inductive TrimsAlarm (alarm : Alarm (Job ℓ)) : Alarm (Job ℓ) → Prop where
  | task {shorter : List (Command ℓ)} (trims : Trims alarm.task.body shorter) :
      TrimsAlarm alarm { alarm with task := { alarm.task with body := shorter } }

theorem TrimsAlarm.refl (alarm : Alarm (Job ℓ)) : TrimsAlarm alarm alarm :=
  .task (Trims.refl alarm.task.body)

theorem TrimsAlarm.insert {alarm shorter : Alarm (Job ℓ)} {queue others : List (Alarm (Job ℓ))}
    (trims : TrimsAlarm alarm shorter) (queued : List.Forall₂ TrimsAlarm queue others) :
    List.Forall₂ TrimsAlarm (alarm.insert queue) (shorter.insert others) := by
  induction queued with
  | nil => exact .cons trims .nil
  | @cons first other rest others head tail ih =>
      have same : shorter.precedes other = alarm.precedes first := by
        cases trims
        cases head
        rfl
      rw [Alarm.insert_cons, Alarm.insert_cons, same]
      split
      · exact .cons trims (.cons head tail)
      · exact .cons head ih

/-! ## Timers with trimmed tasks -/

namespace Timer

variable {timer : Timer (Job ℓ)} {queue : List (Alarm (Job ℓ))}

/-- The timer with another queue. -/
def withQueue (timer : Timer (Job ℓ)) (queue : List (Alarm (Job ℓ))) : Timer (Job ℓ) :=
  { timer with queue := queue }

theorem pending_withQueue (queued : List.Forall₂ TrimsAlarm timer.queue queue) :
    (timer.withQueue queue).pending = timer.pending := by
  have kept := List.rel_filter (p := fun alarm => !timer.isCancelled alarm.token)
    (q := fun alarm => !timer.isCancelled alarm.token) (fun _ _ trims => by cases trims; rfl) queued
  rw [pending, pending, List.countP_eq_length_filter, List.countP_eq_length_filter]
  exact kept.length_eq.symm

theorem record_withQueue (queued : List.Forall₂ TrimsAlarm timer.queue queue) :
    (timer.withQueue queue).record = timer.record := by
  simp only [record, withQueue, queued.length_eq]

theorem takeDue_withQueue_eq_none (queued : List.Forall₂ TrimsAlarm timer.queue queue)
    (instant : Duration) :
    (timer.withQueue queue).takeDue instant = none ↔ timer.takeDue instant = none := by
  simp only [takeDue, withQueue]
  generalize timer.queue = before at queued ⊢
  cases queued with
  | nil => rfl
  | cons head tail =>
      cases head
      simp

theorem schedule_withQueue (queued : List.Forall₂ TrimsAlarm timer.queue queue) {job : Job ℓ}
    {shorter : List (Command ℓ)} (trims : Trims job.body shorter) :
    ∃ others, List.Forall₂ TrimsAlarm (timer.schedule job.delay job).2.queue others ∧
      (timer.withQueue queue).schedule job.delay { job with body := shorter } =
        ((timer.schedule job.delay job).1,
          (timer.schedule job.delay job).2.withQueue others) := by
  have clock : (timer.withQueue queue).deadline? job.delay = timer.deadline? job.delay := rfl
  have down : (timer.withQueue queue).isShutDown = timer.isShutDown := rfl
  unfold schedule
  rw [clock, down]
  split
  · exact ⟨queue, queued, rfl⟩
  · split
    · exact ⟨queue, queued, rfl⟩
    · exact ⟨_, TrimsAlarm.insert (.task trims) queued, rfl⟩

end Timer

namespace TimerRun

variable {run : TimerRun ℓ} {queue : List (Alarm (Job ℓ))}

/-- The run with another queue, another agenda and other notes. -/
def withTasks (run : TimerRun ℓ) (queue : List (Alarm (Job ℓ))) (agenda : List (Errand ℓ))
    (notes : List (TimerNote ℓ)) : TimerRun ℓ :=
  { run with timer := run.timer.withQueue queue, agenda := agenda, notes := notes }

section Answers

variable (queued : List.Forall₂ TrimsAlarm run.timer.queue queue) (agenda : List (Errand ℓ))
  (notes : List (TimerNote ℓ))
include queued

theorem schedule_withTasks (job : Job ℓ) {shorter : List (Command ℓ)}
    (trims : Trims job.body shorter) :
    ∃ others, List.Forall₂ TrimsAlarm (run.schedule job).2.timer.queue others ∧
      (run.withTasks queue agenda notes).schedule { job with body := shorter } =
        ((run.schedule job).1, (run.schedule job).2.withTasks others agenda notes) := by
  have reading : (run.withTasks queue agenda notes).readClock =
      run.readClock.withTasks queue agenda notes := by
    have style_eq : (run.withTasks queue agenda notes).timer.style = run.timer.style := rfl
    simp only [readClock, style_eq]
    cases run.timer.style <;> rfl
  have same : run.readClock.timer.queue = run.timer.queue := by
    rw [readClock]
    split <;> rfl
  obtain ⟨others, kept, set⟩ := Timer.schedule_withQueue (same.symm ▸ queued) trims
  refine ⟨others, ?_, ?_⟩
  · rwa [timer_schedule]
  · have set : (run.readClock.withTasks queue agenda notes).timer.schedule job.delay
        { job with body := shorter } = _ := set
    simp only [schedule, reading, set]
    cases (run.readClock.timer.schedule job.delay job).1 <;> rfl

/-- What a command answers does not depend on what the tasks will do. -/
theorem answer_withTasks {command shorter : Command ℓ} (trims : TrimsCommand command shorter) :
    ∃ others left, List.Forall₂ TrimsAlarm (run.answer command).2.timer.queue others ∧
      (run.withTasks queue agenda notes).answer shorter =
        ((run.answer command).1, (run.answer command).2.withTasks others agenda left) := by
  cases trims with
  | @task delay label body shorter trims =>
      obtain ⟨others, kept, set⟩ :=
        schedule_withTasks queued agenda notes ⟨delay, label, body⟩ trims
      exact ⟨others, notes, kept, set⟩
  | same command =>
      cases command with
      | schedule delay label body =>
          obtain ⟨others, kept, set⟩ :=
            schedule_withTasks queued agenda notes ⟨delay, label, body⟩ (Trims.refl body)
          exact ⟨others, notes, kept, set⟩
      | cancel slot =>
          have held : (run.withTasks queue agenda notes).token? slot = run.token? slot := rfl
          simp only [answer, held]
          cases run.token? slot <;> exact ⟨queue, notes, queued, rfl⟩
      | isCancelled slot =>
          have held : (run.withTasks queue agenda notes).token? slot = run.token? slot := rfl
          simp only [answer, held]
          cases run.token? slot <;> exact ⟨queue, notes, queued, rfl⟩
      | pending =>
          have same := Timer.pending_withQueue queued
          exact ⟨queue, notes, queued, by simp only [answer, withTasks, same]⟩
      | record =>
          have same := Timer.record_withQueue queued
          exact ⟨queue, notes, queued, by simp only [answer, withTasks, same]⟩
      | now =>
          have style_eq : (run.withTasks queue agenda notes).timer.style = run.timer.style := rfl
          simp only [answer, style_eq]
          cases run.timer.style <;> exact ⟨queue, notes, queued, rfl⟩
      | shutDown => exact ⟨[], _, .nil, rfl⟩
      | _ => exact ⟨queue, notes, queued, rfl⟩

end Answers

theorem errand?_withTasks {command shorter : Command ℓ} (trims : TrimsCommand command shorter)
    (run : TimerRun ℓ) (queue : List (Alarm (Job ℓ))) (agenda : List (Errand ℓ))
    (notes : List (TimerNote ℓ)) :
    (run.withTasks queue agenda notes).errand? shorter = run.errand? command := by
  have style_eq : (run.withTasks queue agenda notes).timer.style = run.timer.style := rfl
  cases trims with
  | same command => rfl
  | task trims =>
      simp only [errand?, style_eq]
      cases run.timer.style <;> rfl

/-- A task that is trimmed starts as the whole one does. -/
theorem start_withTasks {alarm trimmed : Alarm (Job ℓ)} (trims : TrimsAlarm alarm trimmed)
    (rest : run.agenda = []) (queue : List (Alarm (Job ℓ))) (notes : List (TimerNote ℓ)) :
    ∃ script shorter left, (run.start alarm).agenda = script.map .perform ∧ Trims script shorter ∧
      (run.withTasks queue [] notes).start trimmed =
        (run.start alarm).withTasks queue (shorter.map .perform) left := by
  cases trims with
  | @task shorter trims =>
      let trimmed : Alarm (Job ℓ) := { alarm with task := { alarm.task with body := shorter } }
      cases bit : run.timer.isCancelled alarm.token with
      | true =>
          have passed : (run.withTasks queue [] notes).start trimmed = _ := start_of_cancelled bit
          refine ⟨[], [], notes, ?_, .nil, ?_⟩
          · rw [start_of_cancelled bit, rest]
            rfl
          · rw [passed, start_of_cancelled bit]
            rfl
      | false =>
          have started : (run.withTasks queue [] notes).start trimmed = _ := start_of_live rfl bit
          refine ⟨alarm.task.body, shorter, .started trimmed run.timer.now :: notes, ?_, trims, ?_⟩
          · rw [start_of_live rest bit]
            rfl
          · rw [started, start_of_live rest bit]
            rfl

end TimerRun

/-! ## Workers with trimmed tasks -/

namespace Worker

open TimerRun

variable {name : String} {worker next other : Worker ℓ} {command shorter : Command ℓ}

/-- A worker resembles another one if all is the same but that tasks are trimmed: those in the
queue, the one in its hand and the one that is under way. Its notes are left open. -/
inductive Resembles (worker : Worker ℓ) : Worker ℓ → Prop where
  | trimmed {queue : List (Alarm (Job ℓ))} {script shorter : List (Command ℓ)}
      {inHand : Option (Alarm (Job ℓ))} {notes : List (TimerNote ℓ)}
      (queued : List.Forall₂ TrimsAlarm worker.timer.queue queue)
      (scripted : worker.agenda = script.map .perform) (trims : Trims script shorter)
      (held : Option.Rel TrimsAlarm worker.inHand inHand) :
      Resembles worker
        { toTimerRun := worker.toTimerRun.withTasks queue (shorter.map .perform) notes
          inHand := inHand }

theorem Sound.resembles (sound : worker.Sound name) : worker.Resembles worker := by
  obtain ⟨script, scripted⟩ := sound.scripted
  have queued := (List.forall₂_same (l := worker.timer.queue)).mpr fun alarm _ =>
    TrimsAlarm.refl alarm
  have held : Option.Rel TrimsAlarm worker.inHand worker.inHand := by
    cases worker.inHand with
    | none => exact .none
    | some alarm => exact .some (.refl alarm)
  have same : worker.Resembles
      { toTimerRun := worker.toTimerRun.withTasks worker.timer.queue (script.map .perform)
          worker.notes
        inHand := worker.inHand } := .trimmed queued scripted (.refl script) held
  rwa [← scripted] at same

namespace Resembles

/-- A command from outside may be given in its trimmed form. -/
theorem outside (resembles : worker.Resembles other)
    (move : worker.Move (.outside command) next) (trims : TrimsCommand command shorter) :
    ∃ further, other.Move (.outside shorter) further ∧ next.Resembles further ∧
      (other.answer shorter).1 = (worker.answer command).1 := by
  cases resembles with
  | @trimmed queue script rest inHand notes queued scripted trimsScript held =>
      cases move with
      | outside command still =>
          obtain ⟨others, left, kept, answered⟩ :=
            answer_withTasks queued (rest.map .perform) notes trims
          have still' := (errand?_withTasks trims worker.toTimerRun queue (rest.map .perform)
            notes).trans still
          refine ⟨_, .outside shorter still', ?_, (congrArg Prod.fst answered :)⟩
          have agenda_eq := (AtOnce.answer worker.toTimerRun command).agenda_eq
          simp only [submit, still, still', answered]
          exact .trimmed kept (agenda_eq.trans scripted) trimsScript held

/-- A task gives its next command, unless it was trimmed here. -/
theorem inside (resembles : worker.Resembles other) (sound : worker.Sound name)
    (move : worker.Move (.inside command) next) :
    (∃ message, command = .abort message ∧ next.Resembles other) ∨
      ∃ shorter further, TrimsCommand command shorter ∧
        other.Move (.inside shorter) further ∧ next.Resembles further ∧
        (other.answer shorter).1 = (worker.answer command).1 := by
  cases resembles with
  | @trimmed queue script rest inHand notes queued scripted trimsScript held =>
      cases move with
      | @inside _ behind agenda still =>
          rw [scripted] at agenda
          obtain ⟨_, tail, rfl, same, rfl⟩ := List.map_eq_cons_iff.mp agenda
          cases same
          cases trimsScript with
          | @cut message tail =>
              rw [step_of_abort_last sound.style_eq scripted]
              exact Or.inl ⟨message, rfl, .trimmed queued rfl .nil held⟩
          | @cons command shorter tail trimmed trims trimsTail =>
              right
              obtain ⟨others, left, kept, answered⟩ :=
                answer_withTasks queued ((shorter :: trimmed).map .perform) notes trims
              have still' := (errand?_withTasks trims worker.toTimerRun queue
                ((shorter :: trimmed).map .perform) notes).trans still
              refine ⟨shorter, _, trims, .inside rfl still', ?_, (congrArg Prod.fst answered :)⟩
              by_cases goesOn : ∀ message, command ≠ .abort message
              · have goesOn' : ∀ message, shorter ≠ .abort message := by
                  cases trims with
                  | same => exact goesOn
                  | task => exact nofun
                rw [step_of_goesOn scripted still goesOn, step_of_goesOn rfl still' goesOn',
                  answered]
                exact .trimmed kept rfl trimsTail held
              · push Not at goesOn
                obtain ⟨message, rfl⟩ := goesOn
                cases trims
                have fails : (worker.toTimerRun.withTasks queue
                    ((.abort message :: trimmed).map .perform) notes).step = _ :=
                  step_of_abort_last sound.style_eq rfl
                rw [step_of_abort_last sound.style_eq scripted, fails]
                refine .trimmed ?_ rfl .nil ?_
                · exact queued
                · exact held

theorem wait (resembles : worker.Resembles other) (move : worker.Move .wait next) :
    ∃ further, other.Move .wait further ∧ next.Resembles further := by
  cases resembles with
  | @trimmed queue script rest inHand notes queued scripted trimsScript held =>
      cases move with
      | wait idle free none =>
          have freeOther : inHand = .none := by
            rw [free] at held
            cases held
            rfl
          rw [scripted, List.map_eq_nil_iff] at idle
          subst idle freeOther
          cases trimsScript
          exact ⟨_, .wait rfl rfl ((Timer.takeDue_withQueue_eq_none queued _).mpr none),
            .trimmed queued scripted .nil held⟩

theorem take (resembles : worker.Resembles other) {alarm : Alarm (Job ℓ)}
    (move : worker.Move (.take alarm) next) :
    ∃ trimmed further, TrimsAlarm alarm trimmed ∧ other.Move (.take trimmed) further ∧
      next.Resembles further := by
  cases resembles with
  | @trimmed queue script rest inHand notes queued scripted trimsScript held =>
      cases move with
      | take idle free first =>
          obtain ⟨behind, queue_eq, rfl⟩ := Timer.eq_of_awaitFirst first
          rw [queue_eq] at queued
          rw [free] at held
          rw [scripted, List.map_eq_nil_iff] at idle
          subst idle
          cases queued with
          | @cons _ trimmed _ others trims kept =>
              cases trims with
              | task trims =>
                  cases held
                  cases trimsScript
                  exact ⟨_, _, .task trims, .take rfl rfl rfl,
                    .trimmed kept scripted .nil (.some (.task trims))⟩

theorem look (resembles : worker.Resembles other) (sound : worker.Sound name)
    {alarm : Alarm (Job ℓ)} (move : worker.Move (.look alarm) next) :
    ∃ trimmed further, TrimsAlarm alarm trimmed ∧ other.Move (.look trimmed) further ∧
      next.Resembles further := by
  cases resembles with
  | @trimmed queue script rest inHand notes queued scripted trimsScript held =>
      cases move with
      | look taken =>
          have idle := sound.waits (taken ▸ Option.some_ne_none alarm)
          rw [taken] at held
          rw [scripted, List.map_eq_nil_iff] at idle
          subst idle
          cases held with
          | @some _ trimmed trims =>
              cases trimsScript
              obtain ⟨script, shorter, left, agenda, trimsTask, started⟩ :=
                start_withTasks trims scripted queue notes
              refine ⟨trimmed, _, trims, .look rfl, ?_⟩
              have queuedStill := (timer_start worker.toTimerRun alarm).symm ▸ queued
              simp only [List.map_nil, started]
              exact .trimmed queuedStill agenda trimsTask .none

end Resembles

/-! ## Histories that are told again -/

/-- A deed with trimmed scripts. -/
inductive Deed.Trims : Deed ℓ → Deed ℓ → Prop where
  | outside {command shorter : Command ℓ} (trims : TrimsCommand command shorter) :
      Deed.Trims (.outside command) (.outside shorter)
  | inside {command shorter : Command ℓ} (trims : TrimsCommand command shorter) :
      Deed.Trims (.inside command) (.inside shorter)
  | wait : Deed.Trims .wait .wait
  | take {alarm trimmed : Alarm (Job ℓ)} (trims : TrimsAlarm alarm trimmed) :
      Deed.Trims (.take alarm) (.take trimmed)
  | look {alarm trimmed : Alarm (Job ℓ)} (trims : TrimsAlarm alarm trimmed) :
      Deed.Trims (.look alarm) (.look trimmed)

namespace Happening

/-- The same happens, with trimmed tasks, and a command has the same answer. -/
structure Alike (happening other : Happening ℓ) : Prop where
  before : happening.before.Resembles other.before
  deed : happening.deed.Trims other.deed
  answers : ∀ command shorter, happening.deed.command? = some command →
    other.deed.command? = some shorter →
      (other.before.answer shorter).1 = (happening.before.answer command).1
  after : happening.after.Resembles other.after

end Happening

/-- A history is told again: the same happens in the same order, but that some tasks come to their
ends where they aborted. -/
inductive Retells : List (Happening ℓ) → List (Happening ℓ) → Prop where
  | nil : Retells [] []
  | told {history others : List (Happening ℓ)} {happening other : Happening ℓ}
      (earlier : Retells history others) (alike : happening.Alike other) :
      Retells (history ++ [happening]) (others ++ [other])
  | omitted {history others : List (Happening ℓ)} {happening : Happening ℓ} {message : String}
      (earlier : Retells history others) (aborts : happening.deed = .inside (.abort message)) :
      Retells (history ++ [happening]) others

/-- What happens without another thread can be told again. -/
theorem Resembles.alike (resembles : worker.Resembles other) (sound : worker.Sound name)
    {deed : Deed ℓ} (move : worker.Move deed next) (own : ∀ command, deed ≠ .outside command) :
    (∃ message, deed = .inside (.abort message) ∧ next.Resembles other) ∨
      ∃ retold further, other.Move retold further ∧
        Happening.Alike ⟨worker, deed, next⟩ ⟨other, retold, further⟩ ∧
        ∀ command, retold ≠ .outside command := by
  cases deed with
  | outside command => exact absurd rfl (own command)
  | inside command =>
      rcases resembles.inside sound move with
        ⟨message, rfl, later⟩ | ⟨shorter, further, trims, again, later, answers⟩
      · exact Or.inl ⟨message, rfl, later⟩
      · refine Or.inr ⟨_, further, again, ⟨resembles, .inside trims, ?_, later⟩, nofun⟩
        rintro _ _ ⟨⟩ ⟨⟩
        exact answers
  | wait =>
      obtain ⟨further, again, later⟩ := resembles.wait move
      exact Or.inr ⟨_, further, again, ⟨resembles, .wait, nofun, later⟩, nofun⟩
  | take alarm =>
      obtain ⟨trimmed, further, trims, again, later⟩ := resembles.take move
      exact Or.inr ⟨_, further, again, ⟨resembles, .take trims, nofun, later⟩, nofun⟩
  | look alarm =>
      obtain ⟨trimmed, further, trims, again, later⟩ := resembles.look sound move
      exact Or.inr ⟨_, further, again, ⟨resembles, .look trims, nofun, later⟩, nofun⟩

theorem exists_of_forall₂_concat {α β : Type} {related : α → β → Prop} {first : List α} {last : α}
    {others : List β} (pairs : List.Forall₂ related (first ++ [last]) others) :
    ∃ init final, others = init ++ [final] ∧ List.Forall₂ related first init ∧
      related last final := by
  induction first generalizing others with
  | nil =>
      obtain ⟨final, _, pair, rest, rfl⟩ := List.forall₂_cons_left_iff.mp pairs
      cases rest
      exact ⟨[], final, rfl, .nil, pair⟩
  | cons head first ih =>
      obtain ⟨other, _, pair, rest, rfl⟩ := List.forall₂_cons_left_iff.mp pairs
      obtain ⟨init, final, rfl, before, end_eq⟩ := ih rest
      exact ⟨other :: init, final, rfl, .cons pair before, end_eq⟩

/-- However the commands from outside are trimmed, the history can be told again with them. -/
theorem Proceeds.retold {first last : Worker ℓ} {history : List (Happening ℓ)}
    (proceeds : first.Proceeds history last) (start : first.Sound name)
    (resembles : first.Resembles other) {commands : List (Command ℓ)}
    (trims : List.Forall₂ TrimsCommand (history.filterMap Happening.outside?) commands) :
    ∃ others final, other.Proceeds others final ∧
      others.filterMap Happening.outside? = commands ∧ Retells history others ∧
      last.Resembles final := by
  induction proceeds generalizing commands with
  | here =>
      cases trims
      exact ⟨[], other, .here, rfl, .nil, resembles⟩
  | @move history before after deed earlier move ih =>
      have sound := earlier.sound start
      rw [List.filterMap_append] at trims
      by_cases own : ∀ command, deed ≠ .outside command
      · have quiet : Happening.outside? ⟨before, deed, after⟩ = none := by
          cases deed with
          | outside command => exact absurd rfl (own command)
          | _ => rfl
        rw [List.filterMap_cons_none quiet, List.filterMap_nil, List.append_nil] at trims
        obtain ⟨others, middle, begins, told, retells, same⟩ := ih trims
        rcases same.alike sound move own with
          ⟨message, rfl, later⟩ | ⟨retold, further, again, alike, ownStill⟩
        · exact ⟨others, middle, begins, told, .omitted retells rfl, later⟩
        · refine ⟨_, further, begins.move again, ?_, .told retells alike, alike.after⟩
          have quietStill : Happening.outside? ⟨middle, retold, further⟩ = none := by
            cases retold with
            | outside command => exact absurd rfl (ownStill command)
            | _ => rfl
          rw [List.filterMap_append, List.filterMap_cons_none quietStill, List.filterMap_nil,
            List.append_nil, told]
      · push Not at own
        obtain ⟨command, rfl⟩ := own
        obtain ⟨init, shorter, rfl, trimsInit, trimsLast⟩ := exists_of_forall₂_concat trims
        obtain ⟨others, middle, begins, told, retells, same⟩ := ih trimsInit
        obtain ⟨further, again, later, answers⟩ := same.outside move trimsLast
        refine ⟨_, further, begins.move again, ?_, .told retells ⟨same, .outside trimsLast, ?_,
          later⟩, later⟩
        · rw [List.filterMap_append, told]
          rfl
        · rintro _ _ ⟨⟩ ⟨⟩
          exact answers

end Worker

end TimedBatch
