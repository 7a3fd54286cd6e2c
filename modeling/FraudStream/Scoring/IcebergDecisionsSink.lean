import FraudStream.Shared.IcebergSinkBase

/-
  The sink of fraud decisions.

  It flushes as the shared sink does, but has no branch for
  a missing table or breaker.

  Key definitions include:
    * `IcebergDecisionsSink.write`
-/

namespace FraudStream

namespace IcebergDecisionsSink

open IcebergSinkBase (deduplicate firstTxnId)

variable {ρ : Type}

/- The flush of a buffer. -/
def write
    (transactionId? : ρ → Option String)
    (h : SinkHandles)
    (a : FlushAttempt)
    (buffer : List ρ) : FlushOutcome ρ :=
  let deduplicated := deduplicate transactionId? buffer
  IcebergOperatorSink.convertAndAppend h a
    (fun reason =>
      { event := "iceberg_decisions_sink_dlq"
        transactionId :=
          firstTxnId transactionId? deduplicated
        reason := reason
        batchSize := deduplicated.length })
    deduplicated

/- The sink as a buffer with a limit. -/
def config
    (bufferMax : Int)
    (transactionId? : ρ → Option String)
    (h : SinkHandles)
    (clock : Nat → Int)
    (attempts : Nat → FlushAttempt) :
    BatchBuffer.Config ρ (FlushOutcome ρ) where
  limit := bufferMax
  period := icebergFlushPeriodMs
  clock := clock
  write := fun n buffer =>
    write transactionId? h (attempts n) buffer

end IcebergDecisionsSink

end FraudStream
