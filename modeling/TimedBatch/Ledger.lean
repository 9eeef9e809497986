import TimedBatch.Amount

/-!
# The demand ledger

The consumer asks for batches and the producer is asked for items. The ledger keeps both
accounts: `requested` is what the consumer has asked for and not yet received, in batches, and
`outstanding` is what the producer has been asked for and not yet sent, in items. An account
without bound is never drawn down.

A request to the producer is booked when it is computed, so the same shortfall is claimed once.
-/

namespace TimedBatch

/-- How the producer is asked for items: for everything at once, or for as many as the batches
that the consumer asked for can hold. -/
inductive Policy where
  | unbounded
  | prefetch
  deriving DecidableEq

namespace Policy

/-- The name of a policy in text forms. -/
def name : Policy → String
  | unbounded => "unbounded"
  | prefetch => "prefetch"

/-- The policy of a configuration that names none. -/
def fallback : Policy :=
  unbounded

end Policy

/-- The two accounts of a stage. -/
structure Ledger where
  policy : Policy
  batchSize : Amount
  requested : Amount
  outstanding : Amount
  deriving DecidableEq

namespace Ledger

/-- A ledger before the first request. Under the unbounded policy the producer owes without
bound from the start. -/
def opening (policy : Policy) (batchSize : Amount) : Ledger where
  policy := policy
  batchSize := batchSize
  requested := 0
  outstanding :=
    match policy with
    | .unbounded => .unbounded
    | .prefetch => 0

/-- Book a request of the consumer for some more batches. -/
def ask (ledger : Ledger) (batches : Amount) : Ledger :=
  { ledger with requested := ledger.requested + batches }

/-- Draw one batch from the demand of the consumer; `none` where there is no demand. -/
def payBatch (ledger : Ledger) : Option Ledger :=
  if ledger.requested = .unbounded then some ledger
  else if ledger.requested = 0 then none
  else some { ledger with requested := ledger.requested - 1 }

/-- Draw one item from the credit of the producer; `none` where no item was asked for. -/
def receiveItem (ledger : Ledger) : Option Ledger :=
  if ledger.outstanding = .unbounded then some ledger
  else if ledger.outstanding = 0 then none
  else some { ledger with outstanding := ledger.outstanding - 1 }

/-- The items that would fill every batch asked for. -/
def target (ledger : Ledger) : Amount :=
  ledger.requested * ledger.batchSize

/-- Claim what the outstanding credit lacks of the target, and book it. Where the target is
without bound so is the claim. -/
def topUp (ledger : Ledger) : Option (Amount × Ledger) :=
  match ledger.policy with
  | .unbounded => none
  | .prefetch =>
      if ledger.outstanding = .unbounded ∨ ledger.target ≤ ledger.outstanding then none
      else
        let credit :=
          if ledger.target = .unbounded then .unbounded
          else ledger.target - ledger.outstanding
        some (credit, { ledger with outstanding := ledger.target })

/-- The request that opens the exchange with the producer. -/
def firstRequest (ledger : Ledger) : Option (Amount × Ledger) :=
  match ledger.policy with
  | .unbounded => some (.unbounded, ledger)
  | .prefetch => ledger.topUp

/-! ## Sequences of ledger operations -/

inductive Operation where
  | ask (batches : Amount)
  | payBatch
  | receiveItem
  | firstRequest
  | topUp
  deriving DecidableEq

/-- What an operation answers: the demand after it, whether it went through, or the credit that
it claimed. -/
inductive Reply where
  | demand (requested : Amount)
  | paid (done : Bool)
  | received (done : Bool)
  | credit (claimed : Option Amount)
  deriving DecidableEq

/-- Perform one operation. An operation that fails leaves the ledger as it was. -/
def perform (ledger : Ledger) : Operation → Reply × Ledger
  | .ask batches => (.demand (ledger.ask batches).requested, ledger.ask batches)
  | .payBatch => (.paid ledger.payBatch.isSome, ledger.payBatch.getD ledger)
  | .receiveItem => (.received ledger.receiveItem.isSome, ledger.receiveItem.getD ledger)
  | .firstRequest =>
      match ledger.firstRequest with
      | some (credit, next) => (.credit (some credit), next)
      | none => (.credit none, ledger)
  | .topUp =>
      match ledger.topUp with
      | some (credit, next) => (.credit (some credit), next)
      | none => (.credit none, ledger)

def performAll (ledger : Ledger) (operations : List Operation) : Ledger :=
  operations.foldl (fun current operation => (current.perform operation).2) ledger

end Ledger

end TimedBatch
