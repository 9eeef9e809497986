import TimedBatch.Proofs.Credit
import TimedBatch.Proofs.Demand

/-!
# Before the consumer asks

A stage that asks for as many items as the batches in demand can hold should ask for none while
there is no demand. It does so unless the size of a batch is without bound: then even the target of
no batches is without bound, and the first request asks for everything. The ledger has two states
until the consumer asks: shut, with nothing requested and nothing taken in, or open without bound.
-/

namespace TimedBatch

variable {α : Type}

namespace Ledger

variable {ledger : Ledger}

theorem target_of_requested_eq_zero (idle : ledger.requested = 0) :
    ledger.target = if ledger.batchSize = .unbounded then .unbounded else 0 := by
  ext
  rw [target, idle, Amount.count_mul]
  by_cases whole : ledger.batchSize = .unbounded
  · simp [whole]
  · simp [whole, Amount.ext_iff]

/-- Where there is no demand, the only claim is that of a ledger whose batches are without bound,
and it is for everything. -/
theorem topUp_of_requested_eq_zero (idle : ledger.requested = 0) :
    ledger.topUp =
      if ledger.policy = .prefetch ∧ ledger.batchSize = .unbounded ∧
          ledger.outstanding ≠ .unbounded then
        some (.unbounded, { ledger with outstanding := .unbounded })
      else none := by
  rw [topUp, target_of_requested_eq_zero idle]
  cases policy : ledger.policy with
  | unbounded => rfl
  | prefetch =>
      by_cases whole : ledger.batchSize = .unbounded
      · by_cases everything : ledger.outstanding = .unbounded
        · simp [whole, everything]
        · have below : ¬Amount.unbounded ≤ ledger.outstanding := fun above =>
            everything (Amount.ext (Nat.le_antisymm ledger.outstanding.count_le above))
          simp [whole, everything, below]
      · have reached : (0 : Amount) ≤ ledger.outstanding := Nat.zero_le _
        simp [whole, reached]

end Ledger

namespace Pipeline

/-- The consumer has not asked for a batch so far. -/
def IsUnasked (events : List (Event α)) : Prop :=
  ∀ batches, .request batches ∈ entries events → batches = 0

theorem IsUnasked.of_append {earlier later : List (Event α)}
    (unasked : IsUnasked (earlier ++ later)) : IsUnasked earlier ∧ IsUnasked later := by
  simp only [IsUnasked, entries_append, List.mem_append] at unasked ⊢
  exact ⟨fun batches member => unasked batches (Or.inl member),
    fun batches member => unasked batches (Or.inr member)⟩

/-- How the account of the credit stands where the consumer has not asked. -/
inductive Reserve (ledger : Ledger) : List Amount → List α → Prop where
  | shut (outstanding_eq : ledger.outstanding = 0) : Reserve ledger [] []
  | boundless {items : List α} (batchSize_eq : ledger.batchSize = .unbounded)
      (outstanding_eq : ledger.outstanding = .unbounded) : Reserve ledger [.unbounded] items

section Step

variable {pipeline : Pipeline α} {task : Task α} {stage : Stage α} {timer : Timer UInt64}
  {events : List (Event α)} {tasks : List (Task α)}

/-- Where there is no demand, there is none until the consumer asks. -/
theorem Effect.requested_of_isUnasked (effect : Effect pipeline task stage timer events tasks)
    (idle : pipeline.stage.ledger.requested = 0) (unasked : IsUnasked events) :
    stage.ledger.requested = 0 := by
  by_cases delivers : ∃ batch, task = .call (.next batch)
  · -- The batch was paid for before.
    obtain ⟨batch, rfl⟩ := delivers
    cases effect with
    | free aside => cases aside
    | swept aside => cases aside
    | called actions => exact idle
  · have charge := effect.charge (movement?_eq_none fun batch same => delivers ⟨batch, same⟩)
    generalize happened_eq : events.filterMap Event.movement? = happened at charge
    generalize dueMovements tasks = due at charge
    cases charge with
    | none same => exact same.trans idle
    | @asked batches added =>
        have member : .request batches ∈ entries events := by
          have moved : Movement.asked batches ∈ events.filterMap Event.movement? :=
            happened_eq ▸ List.mem_singleton_self _
          obtain ⟨event, member, moves⟩ := List.mem_filterMap.mp moved
          refine List.mem_filterMap.mpr ⟨event, member, ?_⟩
          cases event with
          | entered call => cases call <;> first | cases moves; rfl | cases moves
          | called call => cases call <;> cases moves
          | _ => cases moves
        rw [added, idle, unasked batches member]
        rfl
    | delivered funded paid => exact absurd idle funded

/-- The account stands as before, or the first request opened it. -/
theorem Reserve.turn {granted : List Grant} {items : List α} {credits : List Amount}
    {taken : List α} (reserve : Reserve pipeline.stage.ledger credits taken)
    (prefetch : pipeline.stage.ledger.policy = .prefetch)
    (terms_eq : stage.ledger.terms = pipeline.stage.ledger.terms)
    (idle : stage.ledger.requested = 0)
    (turnover : Turnover pipeline.stage stage task granted items) :
    Reserve stage.ledger (credits ++ granted.map Grant.credit) (taken ++ items) := by
  have batchSize_eq : stage.ledger.batchSize = pipeline.stage.ledger.batchSize :=
    congrArg Prod.snd terms_eq
  cases turnover with
  | none outstanding_eq =>
      rw [List.map_nil, List.append_nil, List.append_nil]
      cases reserve with
      | shut nothing => exact .shut (outstanding_eq.trans nothing)
      | boundless whole everything =>
          exact .boundless (batchSize_eq.trans whole) (outstanding_eq.trans everything)
  | opened task_eq policy ledger_eq => cases prefetch.symm.trans policy
  | @claimed producer batches credit addressed short =>
      have unrequested : (pipeline.stage.ledger.ask batches).requested = 0 :=
        (Ledger.requested_topUp short).symm.trans idle
      rw [Ledger.topUp_of_requested_eq_zero unrequested] at short
      split at short
      · rename_i claims
        obtain ⟨_, whole, finite⟩ := claims
        obtain ⟨rfl, ledger_eq⟩ := Prod.mk.inj (Option.some.inj short)
        cases reserve with
        | shut nothing =>
            refine .boundless (batchSize_eq.trans whole) ?_
            rw [← ledger_eq]
        | boundless _ everything => exact absurd everything finite
      · cases short
  | taken received first works =>
      rw [List.map_nil, List.append_nil]
      rcases Ledger.of_receiveItem received with ⟨everything, same⟩ | ⟨finite, some, _⟩
      · cases reserve with
        | shut nothing => cases nothing.symm.trans everything
        | boundless whole _ => exact .boundless (same ▸ whole) (same ▸ everything)
      · cases reserve with
        | shut nothing => exact absurd nothing some
        | boundless _ everything => exact absurd everything finite

end Step

section Reachable

variable {config : Config} {setup : Setup α} {pipeline : Pipeline α}

theorem Reachable.reserve (reachable : Reachable config setup pipeline)
    (prefetch : config.policy = .prefetch) (unasked : IsUnasked pipeline.chronicle) :
    pipeline.stage.ledger.requested = 0 ∧
      Reserve pipeline.stage.ledger pipeline.credits pipeline.taken := by
  refine (reachable.preserve_of_steady (fun stage agenda events =>
    stage.ledger.policy = .prefetch ∧ (IsUnasked events → stage.ledger.requested = 0 ∧
      Reserve stage.ledger ((grantsIn events ++ dueGrants agenda).map Grant.credit)
        (takenIn events))) ?_ (fun _ _ _ before => before) ?_).2 unasked
  · intro lines
    rw [grantsIn_logs, takenIn_logs]
    refine ⟨prefetch, fun _ => ⟨rfl, .shut ?_⟩⟩
    simp [Stage.opening, Ledger.opening, prefetch]
  · rintro pipeline task stage timer events tasks steady effect ⟨policy, before⟩
    refine ⟨effect.policy_eq.trans policy, fun unasked => ?_⟩
    obtain ⟨earlier, now⟩ := unasked.of_append
    obtain ⟨idle, reserve⟩ := before earlier
    have still := effect.requested_of_isUnasked idle now
    refine ⟨still, ?_⟩
    rw [steady.grants_eq effect, List.map_append, takenIn_append]
    exact reserve.turn policy effect.terms_eq still effect.turnover

/-- A batch without bound makes the first request one for everything. -/
theorem Reachable.credits_of_firstRequest (reachable : Reachable config setup pipeline)
    (prefetch : config.policy = .prefetch) (whole : config.maxSize = .unbounded)
    (unasked : IsUnasked pipeline.chronicle) {producer : Nat}
    (next : pipeline.agenda.head? = some (.firstRequest producer))
    (active : pipeline.stage.status = .active) : pipeline.step.credits = [.unbounded] := by
  obtain ⟨rest, agenda_eq⟩ := List.head?_eq_some_iff.mp next
  obtain ⟨stage, timer, events, tasks, effect, becomes⟩ := exists_step_effect agenda_eq
  have idle := (reachable.reserve prefetch unasked).1
  have policy := reachable.policy_eq.trans prefetch
  have batchSize := reachable.batchSize_eq.trans whole
  have claim : pipeline.stage.ledger.firstRequest = pipeline.stage.ledger.topUp := by
    rw [Ledger.firstRequest, policy]
  rw [Ledger.topUp_of_requested_eq_zero idle] at claim
  -- Whether the request is made now or was made before, the credit is without bound after it.
  have opened : events = [] ∧ stage.ledger.outstanding = .unbounded := by
    cases effect with
    | free aside => cases aside
    | swept aside => cases aside
    | firstRequestIdle unmoved =>
        rcases unmoved with ended | unclaimed
        · exact absurd active ended
        · refine ⟨rfl, by_contra fun finite => ?_⟩
          rw [claim, if_pos ⟨policy, batchSize, finite⟩] at unclaimed
          cases unclaimed
    | firstRequest works short =>
        rw [claim] at short
        split at short
        · cases short
          exact ⟨rfl, rfl⟩
        · cases short
  have still : IsUnasked pipeline.step.chronicle := by
    rw [becomes.chronicle_eq, opened.1, List.append_nil]
    exact unasked
  have reserve := (reachable.step.reserve prefetch still).2
  have outstanding_eq := opened.2
  rw [← becomes.stage_eq] at outstanding_eq
  generalize pipeline.step.credits = credits at reserve ⊢
  generalize pipeline.step.taken = taken at reserve
  cases reserve with
  | shut nothing => cases nothing.symm.trans outstanding_eq
  | boundless _ _ => rfl

end Reachable

/-! ## Nothing is requested -/

/-- Where the consumer has not asked, the stage asks for nothing, save where the size of a batch is
without bound. -/
structure HeldBack (config : Config) (pipeline : Pipeline α) : Prop where
  bounded : config.maxSize ≠ .unbounded → pipeline.grants = [] ∧ pipeline.taken = []
  boundless : config.maxSize = .unbounded →
    (pipeline.grants = [] ∧ pipeline.taken = []) ∨ pipeline.credits = [.unbounded]
  /-- A batch without bound makes the first request one for everything. -/
  opens : config.maxSize = .unbounded → ∀ producer,
    pipeline.agenda.head? = some (.firstRequest producer) → pipeline.stage.status = .active →
      pipeline.step.credits = [.unbounded]
  /-- Items are answered with an error as long as nothing was requested. -/
  refuses_iff : ∀ item, IsTaking pipeline item → (Refuses pipeline item ↔ pipeline.grants = [])

/-- A stage under the prefetch policy whose consumer has not asked for a batch holds back, and a
ledger without demand claims nothing, save where the size of a batch is without bound: there it
claims everything. -/
theorem Reachable.heldBack {config : Config} {setup : Setup α} {pipeline : Pipeline α}
    (reachable : Reachable config setup pipeline) (prefetch : config.policy = .prefetch)
    (unasked : ∀ batches, .request batches ∈ pipeline.inboundCalls → batches = 0) :
    HeldBack config pipeline ∧
      ∀ ledger : Ledger, ledger.requested = 0 →
        ledger.topUp =
          if ledger.policy = .prefetch ∧ ledger.batchSize = .unbounded ∧
              ledger.outstanding ≠ .unbounded then
            some (.unbounded, { ledger with outstanding := .unbounded })
          else none := by
  refine ⟨?_, fun ledger idle => Ledger.topUp_of_requested_eq_zero idle⟩
  have reserve := (reachable.reserve prefetch unasked).2
  have batchSize := reachable.batchSize_eq
  have refuses := fun item (taking : IsTaking pipeline item) => taking.refuses_iff_receiveItem
  have granted : pipeline.credits = [] ↔ pipeline.grants = [] := List.map_eq_nil_iff
  constructor
  case opens =>
    exact fun whole _ next active =>
      reachable.credits_of_firstRequest prefetch whole unasked next active
  all_goals
    simp only [Ledger.receiveItem_eq_none_iff, ← granted] at refuses ⊢
    generalize pipeline.credits = credits at reserve ⊢
    generalize pipeline.taken = taken at reserve ⊢
  case bounded =>
    intro finite
    cases reserve with
    | shut nothing => exact ⟨rfl, rfl⟩
    | boundless whole _ => exact absurd (batchSize.symm.trans whole) finite
  case boundless =>
    intro _
    cases reserve with
    | shut nothing => exact Or.inl ⟨rfl, rfl⟩
    | boundless _ _ => exact Or.inr rfl
  case refuses_iff =>
    intro item taking
    rw [refuses item taking]
    cases reserve with
    | shut nothing => exact iff_of_true nothing rfl
    | boundless _ everything =>
        rw [everything]
        exact iff_of_false (by decide) nofun

/-- The consumer asks for no batches in its first callback, and the only item finds no credit. -/
theorem heldBack_of_request_for_nothing :
    ∃ pipeline : Pipeline Nat,
      Reachable ⟨4, .ofMillis 10, .prefetch⟩
        { reactions := fun kind _ => if kind = .subscribe then [.request 0] else [] } pipeline ∧
      pipeline.inboundCalls = [.subscribe 0, .request 0, .next 7] ∧
      pipeline.errors = [.unrequestedElement] ∧
      HeldBack ⟨4, .ofMillis 10, .prefetch⟩ pipeline := by
  have start : @Reachable Nat ⟨4, .ofMillis 10, .prefetch⟩
      { reactions := fun kind _ => if kind = .subscribe then [.request 0] else [] } _ :=
    Reachable.of_opening rfl
  have subscribed := start.act rfl .subscribe 60
  have failed := subscribed.act rfl (.next [7]) 60
  refine ⟨_, failed, rfl, rfl, (Reachable.heldBack failed rfl ?_).1⟩
  intro batches member
  have calls : _ ∈ ([.subscribe 0, .request 0, .next 7] : List (Inbound Nat)) := member
  simpa using calls

/-- A stage whose batches are without bound asks for everything when its producer subscribes, and
takes in what it is sent, although its consumer never asked; so does its ledger. -/
theorem requests_everything_unasked :
    (∃ pipeline : Pipeline Nat,
      Reachable ⟨.unbounded, .ofMillis 10, .prefetch⟩ {} pipeline ∧
      pipeline.inboundCalls = [.subscribe 0, .next 7] ∧
      pipeline.grants = [⟨0, .unbounded⟩] ∧ pipeline.taken = [7]) ∧
    (Ledger.opening .prefetch .unbounded).topUp =
      some (.unbounded, ⟨.prefetch, .unbounded, 0, .unbounded⟩) := by
  have start : @Reachable Nat ⟨.unbounded, .ofMillis 10, .prefetch⟩ {} _ :=
    Reachable.of_opening rfl
  have subscribed := start.act rfl .subscribe 60
  have sent := subscribed.act rfl (.next [7]) 60
  exact ⟨⟨_, sent, rfl, rfl, rfl⟩, rfl⟩

end Pipeline

end TimedBatch
