import TimedBatch.Pipeline.Recorder

/-!
# Verdicts that hold for every interleaving

Several parties may use one stage, or one ledger, at the same time. Some facts about the outcome
do not depend on how their calls interleave. They are computed here from the interleaving in which
one party acts after the other.
-/

namespace TimedBatch

/-! ## A stage under contention -/

/-- A load on one stage: items pushed in order, ticks, requests, and at last a cancellation or the
completion. -/
structure StageLoad where
  items : Nat
  ticks : Nat
  requests : Nat
  cancel : Bool

/-- What is found when a stage has borne a load. -/
structure StageVerdict where
  /-- Every item was delivered or discarded, and the stage ended as it was told. -/
  settled : Bool
  /-- No batch was empty or too large. -/
  bounded : Bool
  /-- The items were delivered in order. -/
  ascending : Bool
  /-- No item was lost or given out twice. -/
  eachOnce : Bool
  /-- Whether all items were delivered; not asked where the load ends in a cancellation. -/
  nothingDiscarded : Option Bool
  requests : List Amount
  producerCancelled : Bool
  terminals : Nat
  status : Status

namespace StageLoad

/-- The actions of a load, one party after the other. -/
def actions (load : StageLoad) : List (Action Nat) :=
  [.subscribe, .next (List.range load.items)] ++ List.replicate load.ticks .flushNow ++
    List.replicate load.requests (.request 1) ++ [if load.cancel then .cancel else .complete]

/-- The pipeline under load: its consumer asks for batches without bound. -/
def setup : Pipeline.Setup Nat where
  style := .worker "worker"
  reactions := RecordingConsumer.reactions { initialRequest := .unbounded }

def ascends : List Nat → Bool
  | first :: second :: rest => first < second && ascends (second :: rest)
  | _ => true

/-- What is found in a pipeline at rest that has borne a load. -/
def verdict (load : StageLoad) (pipeline : Pipeline Nat) : StageVerdict :=
  let delivered := pipeline.delivered.flatten
  let givenOut := delivered ++ pipeline.discarded
  let terminals := pipeline.errors.length + pipeline.completions
  { settled :=
      givenOut.length = load.items && (load.cancel || pipeline.completions = 1)
    bounded :=
      pipeline.delivered.all fun batch =>
        1 ≤ batch.length && batch.length ≤ pipeline.stage.config.maxSize.count
    ascending := ascends delivered
    eachOnce := givenOut.mergeSort = List.range load.items
    nothingDiscarded := if load.cancel then none else some pipeline.discarded.isEmpty
    requests := pipeline.requestsOf 0
    producerCancelled := pipeline.isProducerCancelled 0
    terminals := terminals
    status := pipeline.stage.status }

end StageLoad

/-! ## A ledger under contention -/

/-- A load on one ledger: parties that each ask for single batches, and parties that each try to
draw single batches. Where nothing is drawn, each request is followed by a claim of credit. -/
structure LedgerLoad where
  parties : Nat
  asks : Nat
  draws : Nat

/-- What is found when a ledger has borne a load. -/
structure LedgerVerdict where
  requestedPlusTaken : Nat
  credit : Nat
  outstanding : Amount

namespace LedgerLoad

/-- The operations of a load, one party after the other. -/
def operations (load : LedgerLoad) : List Ledger.Operation :=
  let asking : List Ledger.Operation := if load.draws = 0 then [.ask 1, .topUp] else [.ask 1]
  (List.replicate (load.parties * load.asks) asking).flatten ++
    List.replicate (load.parties * load.draws) .payBatch

/-- Count what operations answer. -/
def tally (ledger : Ledger) (operations : List Ledger.Operation) : LedgerVerdict :=
  let (last, taken, credit) :=
    operations.foldl
      (fun (current, taken, credit) operation =>
        match current.perform operation with
        | (.paid true, next) => (next, taken + 1, credit)
        | (.credit (some claimed), next) => (next, taken, credit + claimed.count)
        | (_, next) => (next, taken, credit))
      (ledger, 0, 0)
  ⟨last.requested.count + taken, credit, last.outstanding⟩

/-- What is found in a new ledger that has borne a load. -/
def verdict (load : LedgerLoad) (policy : Policy) (batchSize : Amount) : LedgerVerdict :=
  tally (.opening policy batchSize) load.operations

end LedgerLoad

end TimedBatch
