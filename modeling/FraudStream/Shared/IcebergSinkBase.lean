import FraudStream.Library.BatchBuffer

/-
  The sink that buffers records and appends them to a table
  in batches.

  A flush keeps the first record of each transaction, turns
  the batch into an Arrow table, and appends it through a
  circuit breaker in a thread that it waits for. A failure
  is named in the dead-letter log, once for the batch. The
  two operator sinks do not inherit from this one, and share
  what follows the conversion.

  A record is known by its transaction identifier, if it has
  one. Times are in milliseconds. Metrics are left out, and
  their hooks return.

  Key definitions include:
    * `FlushError`
    * `FlushAttempt`
    * `FlushOutcome`
    * `IcebergSinkBase.deduplicate`
    * `IcebergSinkBase.write`
    * `IcebergOperatorSink.convertAndAppend`
-/

------------------------------------------------------------
-- Attempts And Outcomes
------------------------------------------------------------

namespace FraudStream

/- What the sinks tell of an exception: whether it is a
   timeout, a refusal of the breaker by its class or by the
   name of its class, or a connection error. -/
structure FlushError where
  isTimeout : Bool
  isCircuitBreakerError : Bool
  namesCircuitBreakerError : Bool
  isConnectionError : Bool
deriving DecidableEq, Repr

namespace FlushError

/- A call of an attribute of `None`. -/
def attributeError : FlushError where
  isTimeout := false
  isCircuitBreakerError := false
  namesCircuitBreakerError := false
  isConnectionError := false

/- The timeout is a connection error, as an `OSError`. -/
def timeoutError : FlushError where
  isTimeout := true
  isCircuitBreakerError := false
  namesCircuitBreakerError := false
  isConnectionError := true

end FlushError

/- What loading the catalog and building the breaker do. -/
structure OpenAttempt where
  catalogLoads : Bool
  breakerLoads : Bool
deriving DecidableEq, Repr

/- Whether the sink holds a table and a breaker. -/
structure SinkHandles where
  table : Bool
  breaker : Bool
deriving DecidableEq, Repr

/- What the parts of a flush do: the conversion to an Arrow
   table, the append with its duration, and the hook that
   follows a success. -/
structure FlushAttempt where
  conversion : Option FlushError
  append : Option FlushError
  durationMs : Nat
  afterSuccess : Option FlushError
deriving DecidableEq, Repr

structure DLQEvent where
  event : String
  transactionId : String
  reason : String
  batchSize : Nat
deriving DecidableEq, Repr

/- The batch whose append succeeded, if one did, and the
   dead-letter events. -/
structure FlushOutcome (ρ : Type) where
  committed : Option (List ρ)
  deadLetters : List DLQEvent
deriving DecidableEq

/- `ICEBERG_FLUSH_TIMEOUT_SEC` -/
def icebergFlushTimeoutMs : Nat := 5000

/- The time between two flushes. -/
def icebergFlushPeriodMs : Int := 1000

namespace FlushAttempt

/- `future.result(timeout=...)`. The thread that is late is
   waited for and goes on. -/
def futureResult (a : FlushAttempt) : Option FlushError :=
  if icebergFlushTimeoutMs < a.durationMs then
    some .timeoutError
  else
    a.append

/- The batch, if its append succeeds. -/
def commit
    {ρ : Type}
    (a : FlushAttempt)
    (batch : List ρ) : Option (List ρ) :=
  if a.append = none then some batch else none

end FlushAttempt

end FraudStream

------------------------------------------------------------
-- The Shared Sink
------------------------------------------------------------

namespace FraudStream

namespace IcebergSinkBase

variable {ρ : Type}

/- `_classify_flush_error` -/
def classifyFlushError (e : FlushError) : String :=
  if e.isTimeout then
    "timeout"
  else if e.isCircuitBreakerError then
    "circuit_open"
  else if e.isConnectionError then
    "catalog_unavailable"
  else
    "flush_error"

/- Neither failure is raised. -/
def «open» (o : OpenAttempt) : SinkHandles where
  table := o.catalogLoads
  breaker := o.breakerLoads

/- The records with a new `get("transaction_id", "")`. -/
def deduplicate
    (transactionId? : ρ → Option String)
    (records : List ρ) : List ρ :=
  BatchBuffer.firstOccurrences
    (fun r => (transactionId? r).getD "") [] records

/- The identifier that stands for a batch. -/
def firstTxnId
    (transactionId? : ρ → Option String)
    (batch : List ρ) : String :=
  match batch with
  | [] => "unknown"
  | r :: _ => (transactionId? r).getD "unknown"

/- The flush of a buffer. Without a table it returns, and
   without a breaker it appends directly. -/
def write
    (eventName : String)
    (transactionId? : ρ → Option String)
    (h : SinkHandles)
    (a : FlushAttempt)
    (buffer : List ρ) : FlushOutcome ρ :=
  let deduplicated := deduplicate transactionId? buffer
  let deadLetter := fun e =>
    { event := eventName
      transactionId := firstTxnId transactionId? deduplicated
      reason := classifyFlushError e
      batchSize := deduplicated.length }
  if h.table = false then
    { committed := none, deadLetters := [] }
  else
    match a.conversion with
    | some e =>
        { committed := none, deadLetters := [deadLetter e] }
    | none =>
        match a.futureResult with
        | some e =>
            { committed := a.commit deduplicated
              deadLetters := [deadLetter e] }
        | none =>
            { committed := a.commit deduplicated
              deadLetters :=
                a.afterSuccess.toList.map deadLetter }

/- The sink as a buffer with a limit. -/
def config
    (eventName : String)
    (bufferMax : Int)
    (transactionId? : ρ → Option String)
    (h : SinkHandles)
    (clock : Nat → Int)
    (attempts : Nat → FlushAttempt) :
    BatchBuffer.Config ρ (FlushOutcome ρ) where
  limit := bufferMax
  period := icebergFlushPeriodMs
  clock := clock
  write := fun n buffer =>
    write eventName transactionId? h (attempts n) buffer

end IcebergSinkBase

end FraudStream

------------------------------------------------------------
-- The Operator Sinks
------------------------------------------------------------

namespace FraudStream

namespace IcebergOperatorSink

/- The reason of an exception that leaves the executor. -/
def flushErrorReason (e : FlushError) : String :=
  if e.namesCircuitBreakerError then
    "circuit_open"
  else if e.isConnectionError then
    "catalog_unavailable"
  else
    "flush_error"

/- Both failures are raised, and the breaker is built after
   the catalog is loaded. -/
def «open» (o : OpenAttempt) : SinkHandles where
  table := o.catalogLoads
  breaker := o.catalogLoads && o.breakerLoads

/- The executor block. The call of a missing table or breaker
   fails before the append, and a timeout is caught inside
   the block. -/
def appendBatch
    {ρ : Type}
    (h : SinkHandles)
    (a : FlushAttempt)
    (deadLetter : String → DLQEvent)
    (batch : List ρ) : FlushOutcome ρ :=
  if (h.table && h.breaker) = false then
    { committed := none
      deadLetters :=
        [deadLetter (flushErrorReason .attributeError)] }
  else
    match a.futureResult with
    | none =>
        { committed := a.commit batch, deadLetters := [] }
    | some e =>
        { committed := a.commit batch
          deadLetters :=
            [deadLetter
              (if e.isTimeout then
                "timeout"
              else
                flushErrorReason e)] }

/- The conversion, and the executor block after it. -/
def convertAndAppend
    {ρ : Type}
    (h : SinkHandles)
    (a : FlushAttempt)
    (deadLetter : String → DLQEvent)
    (batch : List ρ) : FlushOutcome ρ :=
  match a.conversion with
  | some e =>
      { committed := none
        deadLetters := [deadLetter (flushErrorReason e)] }
  | none => appendBatch h a deadLetter batch

end IcebergOperatorSink

end FraudStream

------------------------------------------------------------
-- Batches
------------------------------------------------------------

namespace FraudStream

namespace IcebergSinkBase

variable {ρ : Type}
variable (transactionId? : ρ → Option String)

/- The batch and its buffer have the same first record. -/
theorem firstTxnId_deduplicate
    (buffer : List ρ) :
    firstTxnId transactionId?
        (deduplicate transactionId? buffer) =
      firstTxnId transactionId? buffer := by
  have hHead :=
    BatchBuffer.head_firstOccurrences
      (fun r => (transactionId? r).getD "") buffer
  cases buffer with
  | nil => rfl
  | cons r rs =>
      rw [deduplicate]
      cases hBatch :
          BatchBuffer.firstOccurrences
            (fun r => (transactionId? r).getD "") []
            (r :: rs) with
      | nil => simp [hBatch] at hHead
      | cons first batch =>
          have hFirst : first = r := by
            simpa [hBatch] using hHead
          rw [hFirst]
          rfl

/- Each identifier of a buffer is in its batch. -/
theorem exists_mem_deduplicate
    {buffer : List ρ}
    {r : ρ}
    (hMem : r ∈ buffer) :
    ∃ r' ∈ deduplicate transactionId? buffer,
      (transactionId? r').getD "" =
        (transactionId? r).getD "" :=
  BatchBuffer.exists_mem_firstOccurrences _ hMem

end IcebergSinkBase

end FraudStream
