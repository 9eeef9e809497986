/-!
# Discarding items

Items that were taken in and will not be delivered are given to a discard hook. A hook may take a
whole batch in one call; where it does not, a batch is given to it item by item.
-/

namespace TimedBatch

/-- How a hook takes discarded items: it ignores them, takes each in a call of its own, or takes a
batch in one call. -/
inductive DiscardHook where
  | ignore
  | each
  | bulk
  deriving DecidableEq

inductive Discard (α : Type) where
  | item (content : α)
  | batch (contents : List α)

namespace Discard

variable {α : Type}

def items : Discard α → List α
  | .item content => [content]
  | .batch contents => contents

end Discard

namespace DiscardHook

variable {α : Type}

/-- The calls that give a batch to a hook. A hook that takes batches is called for an empty one,
too. -/
def batchCalls (hook : DiscardHook) (items : List α) : List (Discard α) :=
  match hook with
  | ignore => items.map .item
  | each => items.map .item
  | bulk => [.batch items]

/-- Whether anybody sees the calls of a hook. -/
def isObserved (hook : DiscardHook) : Bool :=
  hook ≠ ignore

end DiscardHook

end TimedBatch
