import TimedBatch.Proofs.Portions

/-!
# Totals

Capped sums commute and associate, so the total of some requests does not depend on the order or on
the grouping in which they are added up. A factor other than zero may be taken into a sum: what is
cut off before the product is cut off after it, too. So batches may be converted to items before or
after they are added up. Only where nothing is added up at all does a factor without bound tell the
two apart: it makes everything of no batches, and there are no items to add up.
-/

namespace TimedBatch

namespace Amount

variable {first second factor : Amount}

/-! ## Sums and products -/

theorem add_unbounded (amount : Amount) : amount + unbounded = unbounded := by
  rw [eq_unbounded_iff, count_add, count_unbounded]
  omega

theorem unbounded_add (amount : Amount) : unbounded + amount = unbounded := by
  rw [add_comm, add_unbounded]

theorem mul_unbounded (amount : Amount) : amount * unbounded = unbounded :=
  if_pos (Or.inr rfl)

theorem mul_comm (first second : Amount) : first * second = second * first := by
  rw [mul_def, mul_def, Nat.mul_comm]
  exact if_congr or_comm rfl rfl

theorem mul_le_mul_left (le : first ≤ second) (factor : Amount) :
    factor * first ≤ factor * second := by
  rw [mul_comm factor first, mul_comm factor second]
  exact mul_le_mul_right le factor

/-- A product with a factor that is neither zero nor without bound is the exact one, cut off. -/
theorem count_mul_of_bounded (counts : 1 ≤ factor) (bounded : factor ≠ unbounded)
    (amount : Amount) :
    (amount * factor).count = min (amount.count * factor.count) (2 ^ 64 - 1) := by
  rw [count_mul]
  split
  · rename_i boundless
    have whole : amount.count = 2 ^ 64 - 1 :=
      eq_unbounded_iff.mp (boundless.resolve_right bounded)
    have grows := Nat.le_mul_of_pos_right amount.count counts
    omega
  · rfl

/-- A factor other than zero may be taken into a sum. -/
theorem add_mul (counts : 1 ≤ factor) (first second : Amount) :
    (first + second) * factor = first * factor + second * factor := by
  by_cases boundless : factor = unbounded
  · rw [boundless, mul_unbounded, mul_unbounded, mul_unbounded, add_unbounded]
  · ext
    rw [count_add, count_mul_of_bounded counts boundless, count_mul_of_bounded counts boundless,
      count_mul_of_bounded counts boundless, count_add]
    have exact := Nat.add_mul first.count second.count factor.count
    rcases Nat.le_total (first.count + second.count) (2 ^ 64 - 1) with fits | beyond
    · rw [Nat.min_eq_left fits, exact]
      omega
    · -- The sum is cut off, and so is the product, which is not below the sum.
      have grows := Nat.le_mul_of_pos_right (first.count + second.count) counts
      have capped := Nat.le_mul_of_pos_right (2 ^ 64 - 1) counts
      rw [Nat.min_eq_right beyond, Nat.min_eq_right capped]
      omega

end Amount

/-! ## Ways of adding up -/

/-- A way of adding up requests: one by one, in groups, in groups of groups and so on. -/
inductive Tally where
  | nothing
  | request (amount : Amount)
  | join (first second : Tally)

namespace Tally

def sum : Tally → Amount
  | nothing => 0
  | request amount => amount
  | join first second => first.sum + second.sum

/-- The requests that are added up, from the left to the right. -/
def requests : Tally → List Amount
  | nothing => []
  | request amount => [amount]
  | join first second => first.requests ++ second.requests

theorem sum_eq_total (tally : Tally) : tally.sum = Amount.total tally.requests := by
  induction tally with
  | nothing => rfl
  | request amount => exact (Amount.zero_add amount).symm
  | join first second first_eq second_eq =>
      rw [sum, requests, Amount.total_append, first_eq, second_eq]

end Tally

/-! ## Batches and items -/

namespace Amount

variable {factor : Amount}

/-- More demand is converted on top of the demand that there is. -/
theorem foldl_add_mul (counts : 1 ≤ factor) (demand : Amount) (requests : List Amount) :
    requests.foldl (· + ·) demand * factor =
      (requests.map (· * factor)).foldl (· + ·) (demand * factor) := by
  induction requests generalizing demand with
  | nil => rfl
  | cons batches rest ih =>
      rw [List.foldl_cons, ih, add_mul counts]
      rfl

theorem zero_mul_of_bounded (bounded : factor ≠ unbounded) : 0 * factor = 0 := by
  ext
  rw [count_mul, if_neg (not_or.mpr ⟨by decide, bounded⟩), count_zero, Nat.zero_mul]
  rfl

/-- A factor may be taken into a total, save that one without bound makes everything of nothing. -/
theorem total_mul_iff (counts : 1 ≤ factor) (requests : List Amount) :
    total requests * factor = total (requests.map (· * factor)) ↔
      requests ≠ [] ∨ factor ≠ unbounded := by
  by_cases boundless : factor = unbounded
  · subst boundless
    rw [mul_unbounded]
    cases requests with
    | nil => decide
    | cons batches rest =>
        rw [List.map_cons, total_cons, mul_unbounded, unbounded_add]
        exact iff_of_true rfl (Or.inl (List.cons_ne_nil _ _))
  · refine iff_of_true ?_ (Or.inr boundless)
    rw [total, total, foldl_add_mul counts, zero_mul_of_bounded boundless]

end Amount

namespace Ledger

theorem performAll_asks (ledger : Ledger) (requests : List Amount) :
    ledger.performAll (requests.map .ask) =
      { ledger with requested := requests.foldl (· + ·) ledger.requested } := by
  induction requests generalizing ledger with
  | nil => rfl
  | cons batches rest ih => exact ih (ledger.ask batches)

end Ledger

namespace Amount

/-- How amounts add up, and how batches are converted to items on the way. -/
structure AddsUp : Prop where
  comm : ∀ first second : Amount, first + second = second + first
  assoc : ∀ first second third : Amount, first + second + third = first + (second + third)
  zero : ∀ amount : Amount, amount + 0 = amount ∧ 0 + amount = amount
  boundless : ∀ amount : Amount,
    amount + unbounded = unbounded ∧ unbounded + amount = unbounded
  mul_comm : ∀ first second : Amount, first * second = second * first
  mul_mono : ∀ lower upper factor : Amount, lower ≤ upper →
    lower * factor ≤ upper * factor ∧ factor * lower ≤ factor * upper
  distrib : ∀ first second factor : Amount, 1 ≤ factor →
    (first + second) * factor = first * factor + second * factor
  /-- The total depends neither on the order of the requests nor on their grouping. -/
  total_eq : ∀ (tally : Tally) (requests : List Amount), tally.requests.Perm requests →
    tally.sum = total requests
  /-- Requests are converted before or after they are added up. -/
  total_mul : ∀ (requests : List Amount) (factor : Amount), 1 ≤ factor →
    (total requests * factor = total (requests.map (· * factor)) ↔
      requests ≠ [] ∨ factor ≠ unbounded)
  /-- On top of the demand that a ledger has, there is no exception. -/
  target_eq : ∀ (ledger : Ledger) (requests : List Amount), 1 ≤ ledger.batchSize →
    (ledger.performAll (requests.map .ask)).target =
      (requests.map (· * ledger.batchSize)).foldl (· + ·) ledger.target

/-- Capped amounts add up in any order and grouping, and they may be converted before or after it,
save where a factor without bound meets no requests at all. -/
theorem addsUp : AddsUp where
  comm := add_comm
  assoc := add_assoc
  zero amount := ⟨add_zero amount, zero_add amount⟩
  boundless amount := ⟨add_unbounded amount, unbounded_add amount⟩
  mul_comm := Amount.mul_comm
  mul_mono _ _ factor le := ⟨mul_le_mul_right le factor, mul_le_mul_left le factor⟩
  distrib first second _ counts := add_mul counts first second
  total_eq tally _ perm := (tally.sum_eq_total).trans (total_perm perm)
  total_mul requests _ counts := total_mul_iff counts requests
  target_eq ledger requests counts := by
    rw [Ledger.performAll_asks]
    exact foldl_add_mul counts ledger.requested requests

/-- No batches at all make everything where a batch is without bound, and no items make nothing. -/
theorem total_mul_of_no_requests :
    (1 : Amount) ≤ unbounded ∧
      total [] * unbounded ≠ total (([] : List Amount).map (· * unbounded)) := by
  decide

end Amount

end TimedBatch
