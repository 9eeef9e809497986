import Mathlib.Data.List.Infix
import TimedBatch.Proofs.Credit
import TimedBatch.Proofs.Demand

/-!
# The books of a ledger

Both accounts of a ledger are capped, and the cap means "without bound". So an account is not always
the sum of what was entered in it. It is that sum, in whole numbers and never negative, as long as
the sum stays below the cap; once the sum has reached it, the account is without bound for good.
This is said of single entries first and then of all entries of a ledger, whatever operations it
goes through. What an operation answers can be read off the accounts before and after it.
-/

namespace TimedBatch

/-! ## Accounts and their entries -/

namespace Amount

variable {before after : Amount} {entry : Int}

theorem pos_iff_ne_zero {amount : Amount} : 0 < amount ↔ amount ≠ 0 := by
  rw [lt_def, ne_eq, Amount.ext_iff, count_zero, Nat.pos_iff_ne_zero]

/-- An entry is posted to an account: the new account is the exact sum, which is not negative, cut
off at the greatest amount. An account without bound takes any entry and stays as it is. -/
structure Posts (before : Amount) (entry : Int) (after : Amount) : Prop where
  boundless : before = unbounded → after = unbounded
  nonneg : before ≠ unbounded → 0 ≤ before.count + entry
  count_eq : before ≠ unbounded →
    (after.count : Int) = min (before.count + entry) unbounded.count

theorem Posts.none (amount : Amount) : amount.Posts 0 amount := by
  have bound := amount.count_le
  constructor
  · exact id
  · intro _
    omega
  · intro _
    rw [count_unbounded]
    omega

theorem Posts.add (amount more : Amount) : amount.Posts more.count (amount + more) := by
  have bound := amount.count_le
  constructor
  · rintro rfl
    rw [eq_unbounded_iff, count_add, count_unbounded]
    omega
  · intro _
    omega
  · intro _
    rw [count_add, count_unbounded]
    omega

/-- One unit is drawn from an account that has one. -/
theorem Posts.draw {amount : Amount} (bounded : amount ≠ unbounded) (some : amount ≠ 0) :
    amount.Posts (-1) (amount - 1) := by
  have bound := amount.count_le
  rw [ne_eq, Amount.ext_iff, count_zero] at some
  constructor
  · exact fun boundless => absurd boundless bounded
  · intro _
    omega
  · intro _
    rw [count_sub, count_one, count_unbounded]
    omega

theorem Posts.unbounded (entry : Int) : Amount.unbounded.Posts entry Amount.unbounded :=
  ⟨id, fun bounded => absurd rfl bounded, fun bounded => absurd rfl bounded⟩

/-- An account agrees with its entries: it is their exact sum, unless that sum has reached the
greatest amount at some time, and from then on it is without bound. -/
structure Balances (account : Amount) (entries : List Int) : Prop where
  sum_eq : account ≠ unbounded → (account.count : Int) = entries.sum
  unbounded_iff : account = unbounded ↔
    ∃ earlier, earlier <+: entries ∧ (unbounded.count : Int) ≤ earlier.sum

/-- The balance that is brought forward is the first entry. -/
theorem Balances.forward (account : Amount) : account.Balances [(account.count : Int)] := by
  have bound := account.count_le
  constructor
  · intro _
    simp
  · rw [eq_unbounded_iff]
    constructor
    · intro whole
      refine ⟨_, List.prefix_refl _, ?_⟩
      simp [whole]
    · rintro ⟨earlier, isPrefix, reached⟩
      rcases List.prefix_cons_iff.mp isPrefix with rfl | ⟨rest, rfl, nothing⟩
      · simp at reached
      · rw [List.prefix_nil.mp nothing] at reached
        simp at reached
        omega

/-- What is posted to an account that agrees with its entries is one more entry. -/
theorem Balances.concat {entries : List Int} (balances : before.Balances entries)
    (posts : before.Posts entry after) : after.Balances (entries ++ [entry]) := by
  have bound := after.count_le
  constructor
  · intro bounded
    have finite : before ≠ unbounded := fun boundless => bounded (posts.boundless boundless)
    have exact := posts.count_eq finite
    rw [ne_eq, eq_unbounded_iff] at bounded
    rw [count_unbounded] at exact
    rw [List.sum_append, List.sum_singleton, ← balances.sum_eq finite]
    omega
  · by_cases boundless : before = unbounded
    · obtain ⟨earlier, isPrefix, reached⟩ := balances.unbounded_iff.mp boundless
      exact iff_of_true (posts.boundless boundless)
        ⟨earlier, isPrefix.trans (List.prefix_append _ _), reached⟩
    · have exact := posts.count_eq boundless
      have sum := balances.sum_eq boundless
      rw [count_unbounded] at exact
      -- The sum was below the cap so far, so only the whole list of entries can reach it.
      constructor
      · intro whole
        rw [eq_unbounded_iff] at whole
        refine ⟨_, List.prefix_refl _, ?_⟩
        rw [List.sum_append, List.sum_singleton, ← sum, count_unbounded]
        omega
      · rintro ⟨earlier, isPrefix, reached⟩
        rcases List.prefix_concat_iff.mp isPrefix with rfl | before
        · rw [List.sum_append, List.sum_singleton, ← sum, count_unbounded] at reached
          rw [eq_unbounded_iff]
          omega
        · exact absurd (balances.unbounded_iff.mpr ⟨earlier, before, reached⟩) boundless

end Amount

namespace Ledger

variable {ledger next : Ledger}

/-! ## Entries of operations -/

/-- The operations on a ledger with their replies. -/
def transcript (ledger : Ledger) : List Operation → List (Operation × Reply)
  | [] => []
  | operation :: rest =>
      (operation, (ledger.perform operation).1) :: (ledger.perform operation).2.transcript rest

/-- What an operation enters in the account of the demand: the batches asked for, or a batch that
was paid. -/
def demandEntry : Operation × Reply → Int
  | (.ask batches, _) => batches.count
  | (_, .paid true) => -1
  | _ => 0

/-- What an operation enters in the account of the credit: the items claimed, or an item that
arrived. -/
def creditEntry : Operation × Reply → Int
  | (_, .credit (some credit)) => credit.count
  | (_, .received true) => -1
  | _ => 0

/-- Under the unbounded policy the producer owes without bound. -/
def IsStocked (ledger : Ledger) : Prop :=
  ledger.policy = .unbounded → ledger.outstanding = .unbounded

theorem isStocked_opening (policy : Policy) (batchSize : Amount) :
    (opening policy batchSize).IsStocked := by
  intro unbounded
  simp only [opening] at unbounded ⊢
  rw [unbounded]

/-! ## Claims -/

/-- What a claim of credit answers, and the ledger that it leaves. -/
structure Claims (ledger : Ledger) (claimed : Option Amount) (next : Ledger) : Prop where
  /-- Nothing but the credit changes. -/
  next_eq : next = { ledger with outstanding := next.outstanding }
  of_some : ∀ credit, claimed = some credit →
    0 < credit ∧ next.outstanding = ledger.outstanding + credit
  of_none : claimed = none → next = ledger
  reaches : next.requested * next.batchSize ≤ next.outstanding
  /-- The same shortfall is claimed once. -/
  once : next.perform .firstRequest = (.credit none, next) ∧
    next.perform .topUp = (.credit none, next)

theorem perform_firstRequest_of_prefetch (prefetch : ledger.policy = .prefetch) :
    ledger.perform .firstRequest = ledger.perform .topUp := by
  rw [perform, perform, firstRequest, prefetch]

theorem perform_topUp_of_target_le (reached : ledger.target ≤ ledger.outstanding) :
    ledger.perform .topUp = (.credit none, ledger) := by
  have idle : ledger.topUp = none := by
    rw [topUp]
    split
    · rfl
    · rw [if_pos (Or.inr reached)]
  rw [perform, idle]

theorem once_of_target_le (prefetch : ledger.policy = .prefetch)
    (reached : ledger.target ≤ ledger.outstanding) :
    ledger.perform .firstRequest = (.credit none, ledger) ∧
      ledger.perform .topUp = (.credit none, ledger) := by
  rw [perform_firstRequest_of_prefetch prefetch, perform_topUp_of_target_le reached]
  exact ⟨rfl, rfl⟩

/-- The credit that is claimed is the difference of the accounts, or makes them without bound. -/
theorem outstanding_topUp {credit : Amount} (short : ledger.topUp = some (credit, next)) :
    0 < credit ∧ next.outstanding = ledger.outstanding + credit := by
  obtain ⟨_, _, below, rfl, rfl⟩ := of_topUp short
  have bound := ledger.target.count_le
  rw [Amount.lt_def] at below
  by_cases whole : ledger.target = .unbounded
  · rw [if_pos whole, whole, Amount.add_comm]
    exact ⟨by decide, ((Amount.Posts.add .unbounded ledger.outstanding).boundless rfl).symm⟩
  · rw [if_neg whole, Amount.lt_def, Amount.count_zero, Amount.count_sub]
    refine ⟨Nat.sub_pos_of_lt below, ?_⟩
    ext
    rw [Amount.count_add, Amount.count_sub, Nat.add_sub_cancel' (Nat.le_of_lt below),
      Nat.min_eq_left bound]

theorem exists_claims (prefetch : ledger.policy = .prefetch) :
    ∃ claimed next, ledger.perform .topUp = (.credit claimed, next) ∧
      ledger.Claims claimed next := by
  cases short : ledger.topUp with
  | none =>
      have reached := target_le_of_topUp_eq_none prefetch short
      refine ⟨none, ledger, by rw [perform, short], ?_⟩
      exact ⟨rfl, nofun, fun _ => rfl, reached, once_of_target_le prefetch reached⟩
  | some claim =>
      obtain ⟨credit, next⟩ := claim
      have raised := outstanding_topUp short
      obtain ⟨_, _, _, rfl, _⟩ := of_topUp short
      have reached : ledger.target.count ≤ ledger.target.count := Nat.le_refl _
      refine ⟨some credit, _, by rw [perform, short], ?_⟩
      refine ⟨rfl, ?_, nofun, reached, once_of_target_le prefetch reached⟩
      rintro _ ⟨⟩
      exact raised

/-! ## Single operations -/

/-- What the reply to an operation says of the ledgers before and after it. -/
def Answers (ledger next : Ledger) : Operation → Reply → Prop
  | .ask _, .demand requested => requested = next.requested
  | .payBatch, .paid done =>
      (done = true ↔ 0 < ledger.requested) ∧ (done = false → next = ledger)
  | .receiveItem, .received done =>
      (done = true ↔ 0 < ledger.outstanding) ∧ (done = false → next = ledger)
  | .firstRequest, .credit claimed =>
      (ledger.policy = .prefetch → ledger.Claims claimed next) ∧
        (ledger.policy = .unbounded → claimed = some .unbounded ∧ next = ledger)
  | .topUp, .credit claimed =>
      (ledger.policy = .prefetch → ledger.Claims claimed next) ∧
        (ledger.policy = .unbounded → claimed = none ∧ next = ledger)
  | _, _ => False

/-- An operation answers what it did, and posts it to the accounts. -/
structure Performs (ledger : Ledger) (operation : Operation) (reply : Reply) (next : Ledger) :
    Prop where
  answers : ledger.Answers next operation reply
  requested_posts : ledger.requested.Posts (demandEntry (operation, reply)) next.requested
  outstanding_posts : ledger.outstanding.Posts (creditEntry (operation, reply)) next.outstanding
  terms_eq : next.terms = ledger.terms

theorem payBatch_eq_none_iff : ledger.payBatch = none ↔ ledger.requested = 0 := by
  constructor
  · intro unpaid
    by_contra some
    rw [payBatch, if_neg some] at unpaid
    split at unpaid <;> cases unpaid
  · intro nothing
    rw [payBatch, nothing, if_neg (by decide), if_pos rfl]

theorem performs_ask (ledger : Ledger) (batches : Amount) :
    ledger.Performs (.ask batches) (.demand (ledger.ask batches).requested)
      (ledger.ask batches) where
  answers := rfl
  requested_posts := Amount.Posts.add ledger.requested batches
  outstanding_posts := Amount.Posts.none ledger.outstanding
  terms_eq := rfl

theorem performs_payBatch (ledger : Ledger) :
    ledger.Performs .payBatch (ledger.perform .payBatch).1 (ledger.perform .payBatch).2 := by
  rw [perform]
  cases paid : ledger.payBatch with
  | none =>
      have nothing := payBatch_eq_none_iff.mp paid
      refine ⟨⟨?_, fun _ => rfl⟩, .none _, .none _, rfl⟩
      rw [nothing]
      decide
  | some next =>
      have some : 0 < ledger.requested := by
        rw [Amount.pos_iff_ne_zero, ne_eq, ← payBatch_eq_none_iff, paid]
        exact nofun
      refine ⟨⟨iff_of_true rfl some, nofun⟩, ?_, ?_, terms_payBatch paid⟩
      · rcases of_payBatch paid with ⟨boundless, rfl⟩ | ⟨bounded, some, rfl⟩
        · exact boundless ▸ .unbounded (-1)
        · exact .draw bounded some
      · rw [Option.getD_some, outstanding_payBatch paid]
        exact .none _

theorem performs_receiveItem (ledger : Ledger) :
    ledger.Performs .receiveItem (ledger.perform .receiveItem).1
      (ledger.perform .receiveItem).2 := by
  rw [perform]
  cases received : ledger.receiveItem with
  | none =>
      have nothing := receiveItem_eq_none_iff.mp received
      refine ⟨⟨?_, fun _ => rfl⟩, .none _, .none _, rfl⟩
      rw [nothing]
      decide
  | some next =>
      have some : 0 < ledger.outstanding := by
        rw [Amount.pos_iff_ne_zero, ne_eq, ← receiveItem_eq_none_iff, received]
        exact nofun
      refine ⟨⟨iff_of_true rfl some, nofun⟩, ?_, ?_, terms_receiveItem received⟩
      · rw [Option.getD_some, requested_receiveItem received]
        exact .none _
      · rcases of_receiveItem received with ⟨boundless, rfl⟩ | ⟨bounded, some, rfl⟩
        · exact boundless ▸ .unbounded (-1)
        · exact .draw bounded some

/-- Both operations that claim credit are performed by the same law. -/
theorem Claims.performs {claimed : Option Amount} (claims : ledger.Claims claimed next)
    (prefetch : ledger.policy = .prefetch) :
    ledger.Performs .firstRequest (.credit claimed) next ∧
      ledger.Performs .topUp (.credit claimed) next := by
  have metered : ledger.policy ≠ .unbounded := by
    rw [prefetch]
    exact nofun
  have requested : ledger.requested.Posts 0 next.requested := by
    rw [claims.next_eq]
    exact .none ledger.requested
  have outstanding (operation : Operation) :
      ledger.outstanding.Posts (creditEntry (operation, .credit claimed)) next.outstanding := by
    cases claimed with
    | none =>
        rw [claims.of_none rfl]
        exact .none ledger.outstanding
    | some credit =>
        rw [(claims.of_some credit rfl).2]
        exact .add ledger.outstanding credit
  have terms : next.terms = ledger.terms := by
    rw [claims.next_eq]
    rfl
  constructor
  · exact ⟨⟨fun _ => claims, fun boundless => absurd boundless metered⟩, requested,
      outstanding .firstRequest, terms⟩
  · exact ⟨⟨fun _ => claims, fun boundless => absurd boundless metered⟩, requested,
      outstanding .topUp, terms⟩

theorem performs_firstRequest (stocked : ledger.IsStocked) :
    ledger.Performs .firstRequest (ledger.perform .firstRequest).1
      (ledger.perform .firstRequest).2 := by
  cases policy : ledger.policy with
  | unbounded =>
      have everything : ledger.perform .firstRequest = (.credit (some .unbounded), ledger) := by
        rw [perform, firstRequest, policy]
      rw [everything]
      refine ⟨⟨fun prefetch => ?_, fun _ => ⟨rfl, rfl⟩⟩, .none _, ?_, rfl⟩
      · cases policy.symm.trans prefetch
      · rw [stocked policy]
        exact .unbounded _
  | prefetch =>
      obtain ⟨claimed, next, performed, claims⟩ := exists_claims policy
      rw [perform_firstRequest_of_prefetch policy, performed]
      exact (claims.performs policy).1

theorem performs_topUp (ledger : Ledger) :
    ledger.Performs .topUp (ledger.perform .topUp).1 (ledger.perform .topUp).2 := by
  cases policy : ledger.policy with
  | unbounded =>
      have nothing : ledger.perform .topUp = (.credit none, ledger) := by
        rw [perform, topUp, policy]
      rw [nothing]
      refine ⟨⟨fun prefetch => ?_, fun _ => ⟨rfl, rfl⟩⟩, .none _, .none _, rfl⟩
      cases policy.symm.trans prefetch
  | prefetch =>
      obtain ⟨claimed, next, performed, claims⟩ := exists_claims policy
      rw [performed]
      exact (claims.performs policy).2

theorem IsStocked.performs (stocked : ledger.IsStocked) (operation : Operation) :
    ledger.Performs operation (ledger.perform operation).1 (ledger.perform operation).2 := by
  cases operation with
  | ask batches => exact performs_ask ledger batches
  | payBatch => exact performs_payBatch ledger
  | receiveItem => exact performs_receiveItem ledger
  | firstRequest => exact performs_firstRequest stocked
  | topUp => exact performs_topUp ledger

theorem IsStocked.perform (stocked : ledger.IsStocked) (operation : Operation) :
    (ledger.perform operation).2.IsStocked := by
  have performs := stocked.performs operation
  intro unbounded
  refine performs.outstanding_posts.boundless (stocked ?_)
  rw [← unbounded]
  exact (congrArg Prod.fst performs.terms_eq).symm

/-! ## Sequences of operations -/

theorem IsStocked.performAll (stocked : ledger.IsStocked) (operations : List Operation) :
    (ledger.performAll operations).IsStocked := by
  induction operations generalizing ledger with
  | nil => exact stocked
  | cons operation rest ih => exact ih (stocked.perform operation)

theorem IsStocked.terms_performAll (stocked : ledger.IsStocked) (operations : List Operation) :
    (ledger.performAll operations).terms = ledger.terms := by
  induction operations generalizing ledger with
  | nil => rfl
  | cons operation rest ih =>
      exact (ih (stocked.perform operation)).trans (stocked.performs operation).terms_eq

/-- Each account of a ledger agrees with its entries after any operations, if it did before. -/
theorem IsStocked.balances_performAll (stocked : ledger.IsStocked) {demand credit : List Int}
    (requested : ledger.requested.Balances demand)
    (outstanding : ledger.outstanding.Balances credit) (operations : List Operation) :
    (ledger.performAll operations).requested.Balances
        (demand ++ (ledger.transcript operations).map demandEntry) ∧
      (ledger.performAll operations).outstanding.Balances
        (credit ++ (ledger.transcript operations).map creditEntry) := by
  induction operations generalizing ledger demand credit with
  | nil =>
      rw [transcript, List.map_nil, List.map_nil, List.append_nil, List.append_nil]
      exact ⟨requested, outstanding⟩
  | cons operation rest ih =>
      have performs := stocked.performs operation
      have later := ih (stocked.perform operation) (requested.concat performs.requested_posts)
        (outstanding.concat performs.outstanding_posts)
      rw [List.append_assoc, List.append_assoc] at later
      exact later

/-- An account without bound is never left again. -/
theorem IsStocked.unbounded_performAll (stocked : ledger.IsStocked) (operations : List Operation) :
    (ledger.requested = .unbounded → (ledger.performAll operations).requested = .unbounded) ∧
      (ledger.outstanding = .unbounded →
        (ledger.performAll operations).outstanding = .unbounded) := by
  induction operations generalizing ledger with
  | nil => exact ⟨id, id⟩
  | cons operation rest ih =>
      have performs := stocked.performs operation
      obtain ⟨requested, outstanding⟩ := ih (stocked.perform operation)
      exact ⟨requested ∘ performs.requested_posts.boundless,
        outstanding ∘ performs.outstanding_posts.boundless⟩

/-- How a ledger stands after some operations, and what it does next. -/
structure KeepsBooks (opening : Ledger) (operations : List Operation) (ledger : Ledger) :
    Prop where
  requested_balances : ledger.requested.Balances
    (opening.requested.count :: (opening.transcript operations).map demandEntry)
  outstanding_balances : ledger.outstanding.Balances
    (opening.outstanding.count :: (opening.transcript operations).map creditEntry)
  performs : ∀ operation,
    ledger.Performs operation (ledger.perform operation).1 (ledger.perform operation).2
  requested_stays : ledger.requested = .unbounded →
    ∀ later, (ledger.performAll later).requested = .unbounded
  outstanding_stays : ledger.outstanding = .unbounded →
    ∀ later, (ledger.performAll later).outstanding = .unbounded
  terms_eq : ledger.terms = opening.terms
  of_unbounded : opening.policy = .unbounded →
    ledger.outstanding = .unbounded ∧ ledger.topUp = none

/-- Whatever operations a new ledger goes through, both accounts agree with their entries: neither
wraps, and neither comes back from being without bound. Every operation answers what it did. -/
theorem keepsBooks_performAll (policy : Policy) (batchSize : Amount)
    (operations : List Operation) :
    (opening policy batchSize).KeepsBooks operations
      ((opening policy batchSize).performAll operations) := by
  have stocked := isStocked_opening policy batchSize
  have now := stocked.performAll operations
  have terms := stocked.terms_performAll operations
  have balances := stocked.balances_performAll (.forward _) (.forward _) operations
  constructor
  case requested_balances => exact balances.1
  case outstanding_balances => exact balances.2
  case performs => exact now.performs
  case requested_stays => exact fun boundless later => (now.unbounded_performAll later).1 boundless
  case outstanding_stays =>
    exact fun boundless later => (now.unbounded_performAll later).2 boundless
  case terms_eq => exact terms
  case of_unbounded =>
    intro unbounded
    have still := (congrArg Prod.fst terms).trans unbounded
    refine ⟨now still, ?_⟩
    rw [topUp, show (Ledger.performAll _ operations).policy = .unbounded from still]

/-- A claim takes the credit to the cap, and an arriving item no longer lowers it. -/
example : (opening .prefetch 3).transcript
      [.payBatch, .ask (.ofNat (2 ^ 63)), .topUp, .topUp, .payBatch, .receiveItem] =
    [(.payBatch, .paid false), (.ask (.ofNat (2 ^ 63)), .demand (.ofNat (2 ^ 63))),
      (.topUp, .credit (some .unbounded)), (.topUp, .credit none), (.payBatch, .paid true),
      (.receiveItem, .received true)] := by
  decide

end Ledger

end TimedBatch
