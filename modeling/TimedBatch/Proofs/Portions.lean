import Mathlib.Data.List.Perm.Basic
import TimedBatch.Proofs.Credit

/-!
# Demand in portions

The consumer may ask for its batches at once or in portions, and the credit of the producer is
raised after each request. Neither the size of the portions nor their order shows in the end: the
accounts are the same, and so is the sum of the claims. A claim is not always the difference of two
accounts, since a target without bound is claimed as a whole, so the sum is followed by what it
takes to raise the credit from one amount to another, and two raises in turn are one.
-/

namespace TimedBatch

/-! ## Sums of amounts -/

namespace Amount

instance : Std.Associative fun first second : Amount => first + second :=
  ⟨add_assoc⟩

instance : Std.Commutative fun first second : Amount => first + second :=
  ⟨add_comm⟩

instance : Max Amount :=
  maxOfLe

@[simp]
theorem count_max (first second : Amount) :
    (max first second).count = max first.count second.count := by
  show (if first ≤ second then second else first).count = max first.count second.count
  rw [apply_ite count, Nat.max_def]
  rfl

theorem le_add_right (first second : Amount) : first ≤ first + second := by
  have bound := first.count_le
  rw [le_def, count_add]
  omega

theorem total_cons (amount : Amount) (amounts : List Amount) :
    total (amount :: amounts) = amount + total amounts := by
  show amounts.foldl (· + ·) (0 + amount) = amount + amounts.foldl (· + ·) 0
  rw [add_comm 0 amount]
  exact List.foldl_assoc

theorem total_append (first second : List Amount) :
    total (first ++ second) = total first + total second := by
  induction first with
  | nil => exact (zero_add (total second)).symm
  | cons amount rest sum => rw [List.cons_append, total_cons, sum, total_cons, add_assoc]

theorem total_perm {first second : List Amount} (perm : first.Perm second) :
    total first = total second :=
  perm.foldl_eq 0

/-- What is claimed to raise the credit of the producer from one amount to another. Credit without
bound is claimed as a whole. -/
def raise (lower upper : Amount) : Amount :=
  if upper = unbounded ∧ lower ≠ unbounded then unbounded else upper - lower

theorem raise_self (amount : Amount) : raise amount amount = 0 := by
  rw [raise, if_neg fun both => both.2 both.1]
  ext
  rw [count_sub, Nat.sub_self, count_zero]

/-- Two raises in turn are one. -/
theorem raise_add_raise {lower middle upper : Amount} (first : lower ≤ middle)
    (second : middle ≤ upper) : raise lower middle + raise middle upper = raise lower upper := by
  have upperBound := upper.count_le
  rw [le_def] at first second
  ext
  simp only [raise, count_add, eq_unbounded_iff, ne_eq]
  split <;> split <;> split <;> simp only [count_sub, count_unbounded] <;> omega

end Amount

namespace Ledger

/-! ## Operations and their claims -/

/-- The credit that a reply tells of. -/
def Reply.claimed? : Reply → Option Amount
  | .credit claimed => claimed
  | _ => none

/-- The credits that operations claim, in their order. -/
def claims (ledger : Ledger) : List Operation → List Amount
  | [] => []
  | operation :: rest =>
      (ledger.perform operation).1.claimed?.toList ++ (ledger.perform operation).2.claims rest

/-- Ask for batches in portions, and claim what the credit lacks after each. -/
def inPortions (portions : List Amount) : List Operation :=
  portions.flatMap fun batches => [.ask batches, .topUp]

variable {ledger : Ledger}

theorem performAll_append (ledger : Ledger) (earlier later : List Operation) :
    ledger.performAll (earlier ++ later) = (ledger.performAll earlier).performAll later :=
  List.foldl_append

theorem claims_append (ledger : Ledger) (earlier later : List Operation) :
    ledger.claims (earlier ++ later) =
      ledger.claims earlier ++ (ledger.performAll earlier).claims later := by
  induction earlier generalizing ledger with
  | nil => rfl
  | cons operation rest claimed =>
      simp only [List.cons_append, claims, claimed, List.append_assoc]
      rfl

theorem inPortions_cons (batches : Amount) (portions : List Amount) :
    inPortions (batches :: portions) = [Operation.ask batches, .topUp] ++ inPortions portions :=
  rfl

/-! ## A supplied ledger -/

/-- The ledger with its credit raised to the target, where the target is above it. -/
def supplied (ledger : Ledger) : Ledger :=
  { ledger with outstanding := max ledger.outstanding ledger.target }

theorem outstanding_le_supplied (ledger : Ledger) :
    ledger.outstanding ≤ ledger.supplied.outstanding := by
  rw [Amount.le_def, supplied, Amount.count_max]
  exact Nat.le_max_left _ _

theorem supplied_of_topUp_eq_none (prefetch : ledger.policy = .prefetch)
    (idle : ledger.topUp = none) : ledger.supplied = ledger := by
  have reached := target_le_of_topUp_eq_none prefetch idle
  have kept : max ledger.outstanding ledger.target = ledger.outstanding := by
    ext
    rw [Amount.count_max, Nat.max_eq_left reached]
  rw [supplied, kept]

theorem supplied_of_topUp {credit : Amount} {next : Ledger}
    (short : ledger.topUp = some (credit, next)) :
    ledger.supplied = next ∧ credit = Amount.raise ledger.outstanding next.outstanding := by
  obtain ⟨_, bounded, below, rfl, rfl⟩ := of_topUp short
  have raised : max ledger.outstanding ledger.target = ledger.target := by
    ext
    rw [Amount.count_max, Nat.max_eq_right (Nat.le_of_lt below)]
  constructor
  · rw [supplied, raised]
  · simp [Amount.raise, bounded]

/-- A claim supplies the ledger, and claims what it takes to do so. -/
theorem perform_topUp (ledger : Ledger) (prefetch : ledger.policy = .prefetch) :
    (ledger.perform .topUp).2 = ledger.supplied ∧
      Amount.total (ledger.perform .topUp).1.claimed?.toList =
        Amount.raise ledger.outstanding ledger.supplied.outstanding := by
  cases short : ledger.topUp with
  | none =>
      rw [supplied_of_topUp_eq_none prefetch short, Amount.raise_self, perform, short]
      exact ⟨rfl, rfl⟩
  | some claim =>
      obtain ⟨credit, next⟩ := claim
      obtain ⟨supplied_eq, credit_eq⟩ := supplied_of_topUp short
      rw [supplied_eq, ← credit_eq, perform, short]
      exact ⟨rfl, Amount.zero_add credit⟩

/-- A ledger may be supplied between two requests or not: once it is supplied after them, it is the
same. -/
theorem supplied_ask_supplied_ask (ledger : Ledger) (first second : Amount) :
    ((ledger.ask first).supplied.ask second).supplied = (ledger.ask (first + second)).supplied := by
  have requested : ledger.requested + first + second = ledger.requested + (first + second) :=
    Amount.add_assoc ledger.requested first second
  have grows : (ledger.requested + first) * ledger.batchSize ≤
      (ledger.requested + (first + second)) * ledger.batchSize := by
    rw [← requested]
    exact Amount.mul_le_mul_right (Amount.le_add_right _ second) ledger.batchSize
  have highest : max (max ledger.outstanding ((ledger.requested + first) * ledger.batchSize))
        ((ledger.requested + (first + second)) * ledger.batchSize) =
      max ledger.outstanding ((ledger.requested + (first + second)) * ledger.batchSize) := by
    ext
    rw [Amount.count_max, Amount.count_max, Nat.max_assoc, Nat.max_eq_right grows, Amount.count_max]
  simp only [supplied, ask, target, requested, highest]

/-! ## Requests in portions -/

/-- What a request and a claim do to a ledger. -/
theorem performAll_ask_topUp (prefetch : ledger.policy = .prefetch) (batches : Amount) :
    ledger.performAll [.ask batches, .topUp] = (ledger.ask batches).supplied ∧
      Amount.total (ledger.claims [.ask batches, .topUp]) =
        Amount.raise ledger.outstanding (ledger.ask batches).supplied.outstanding := by
  have supplies := perform_topUp (ledger.ask batches) prefetch
  refine ⟨supplies.1, ?_⟩
  rw [← show (ledger.ask batches).outstanding = ledger.outstanding from rfl, ← supplies.2]
  simp only [claims, List.append_nil]
  rfl

/-- Requests in portions supply the ledger for all of them, and the claims add up to what that
takes. -/
theorem performAll_inPortions {portions : List Amount} (prefetch : ledger.policy = .prefetch)
    (nonempty : portions ≠ []) :
    ledger.performAll (inPortions portions) = (ledger.ask (Amount.total portions)).supplied ∧
      Amount.total (ledger.claims (inPortions portions)) =
        Amount.raise ledger.outstanding
          (ledger.ask (Amount.total portions)).supplied.outstanding := by
  induction portions generalizing ledger with
  | nil => exact absurd rfl nonempty
  | cons batches rest later =>
      have now := performAll_ask_topUp prefetch batches
      by_cases single : rest = []
      · subst single
        rw [Amount.total_cons, show Amount.total [] = 0 from rfl, Amount.add_zero]
        exact now
      · have lasts := @later (ledger.ask batches).supplied prefetch single
        rw [supplied_ask_supplied_ask, ← Amount.total_cons] at lasts
        rw [inPortions_cons, performAll_append, claims_append, Amount.total_append, now.1, now.2,
          lasts.2, lasts.1]
        refine ⟨rfl, Amount.raise_add_raise ?_ ?_⟩
        · exact outstanding_le_supplied (ledger.ask batches)
        · rw [Amount.total_cons, ← supplied_ask_supplied_ask]
          exact outstanding_le_supplied ((ledger.ask batches).supplied.ask (Amount.total rest))

/-- Whether the consumer asks for batches in portions, in whatever order, or for all of them at
once, the accounts are the same in the end, and so is the sum of the claims. -/
theorem performAll_inPortions_of_perm {portions others : List Amount}
    (prefetch : ledger.policy = .prefetch) (nonempty : portions ≠ [])
    (perm : portions.Perm others) :
    ledger.performAll (inPortions others) =
        ledger.performAll [.ask (Amount.total portions), .topUp] ∧
      Amount.total (ledger.claims (inPortions others)) =
        Amount.total (ledger.claims [.ask (Amount.total portions), .topUp]) := by
  have once := performAll_ask_topUp prefetch (Amount.total portions)
  have inTurn := performAll_inPortions prefetch fun nothing : others = [] =>
    nonempty (nothing ▸ perm).eq_nil
  rw [Amount.total_perm perm] at once ⊢
  exact ⟨inTurn.1.trans once.1.symm, inTurn.2.trans once.2.symm⟩

/-- Where the larger portion takes the target past every amount, the smaller one is claimed before
it or not at all. -/
theorem performAll_inPortions_of_capped_target :
    let ledger : Ledger := ⟨.prefetch, 3, 1, 4⟩
    let (small, large) : Amount × Amount := (2, .ofNat (2 ^ 63))
    ledger.claims (inPortions [small, large]) = [5, .unbounded] ∧
      ledger.claims (inPortions [large, small]) = [.unbounded] ∧
      ledger.performAll (inPortions [large, small]) =
        ledger.performAll [.ask (Amount.total [small, large]), .topUp] ∧
      Amount.total (ledger.claims (inPortions [large, small])) =
        Amount.total (ledger.claims [.ask (Amount.total [small, large]), .topUp]) :=
  ⟨by decide, by decide, performAll_inPortions_of_perm rfl (by decide) (.swap ..)⟩

end Ledger

end TimedBatch
