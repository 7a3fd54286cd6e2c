import FraudStream.Library.Dict
import FraudStream.Library.SeenLoop
import FraudStream.Shared.IcebergSinkBase

/-
  The loops of the Iceberg sinks that keep one record of each
  transaction of a batch.

  The shared sink has a method for it, the sink of enriched
  records a loop in its flush. A record is a dictionary with
  a transaction identifier, if it has one. An identifier can
  be put in a set, and equal ones are the same.

  Key definitions include:
    * `IcebergSinkBase.deduplicateRecords`
    * `IcebergEnrichedSink.deduplicated`
    * `KeepsFirstRecords`

  The main results are:
    * `IcebergSinkBase.deduplicateRecords_eq_deduplicate`
    * `keepsFirstRecords_deduplicate`
-/

------------------------------------------------------------
-- The Method Of The Shared Sink
------------------------------------------------------------

namespace FraudStream

variable {ν : Type}
variable [DecidableEq ν]
variable (emptyText : ν)

/- `record.get("transaction_id", "")` -/
def txnId (record : Dict String ν) : ν :=
  (record.get? "transaction_id").getD emptyText

namespace IcebergSinkBase

/- The variables of `_deduplicate`. -/
structure DeduplicateState (ν : Type) where
  seen : Finset ν
  result : List (Dict String ν)

def deduplicateStep
    (s : DeduplicateState ν)
    (record : Dict String ν) : DeduplicateState ν :=
  let txnId := txnId emptyText record
  if txnId ∈ s.seen then
    s
  else
    { seen := insert txnId s.seen
      result := s.result ++ [record] }

/- `_deduplicate` -/
def deduplicateRecords
    (records : List (Dict String ν)) :
    List (Dict String ν) :=
  (records.foldl (deduplicateStep emptyText) ⟨∅, []⟩).result

end IcebergSinkBase

end FraudStream

------------------------------------------------------------
-- The Loop Of The Enriched Sink
------------------------------------------------------------

namespace FraudStream

namespace IcebergEnrichedSink

variable {ν : Type}
variable [DecidableEq ν]
variable (emptyText : ν)

/- The variables of the loop of `_flush`. -/
structure FlushState (ν : Type) where
  seenTxnIds : Finset ν
  deduplicated : List (Dict String ν)

def flushStep
    (s : FlushState ν)
    (record : Dict String ν) : FlushState ν :=
  let txnId := txnId emptyText record
  if txnId ∈ s.seenTxnIds then
    s
  else
    { seenTxnIds := insert txnId s.seenTxnIds
      deduplicated := s.deduplicated ++ [record] }

/- The batch that `_flush` makes of its buffer. -/
def deduplicated
    (buffer : List (Dict String ν)) : List (Dict String ν) :=
  (buffer.foldl (flushStep emptyText) ⟨∅, []⟩).deduplicated

end IcebergEnrichedSink

end FraudStream

------------------------------------------------------------
-- First Records
------------------------------------------------------------

namespace FraudStream

open BatchBuffer

variable {ν : Type}
variable [DecidableEq ν]
variable (emptyText : ν)

/- An iteration of the method keeps a new record. -/
theorem keepsNew_deduplicateStep :
    KeepsNew (txnId emptyText)
      IcebergSinkBase.DeduplicateState.seen
      IcebergSinkBase.DeduplicateState.result
      (IcebergSinkBase.deduplicateStep emptyText) := by
  constructor
  · intro s record hSeen
    rw [IcebergSinkBase.deduplicateStep, if_pos hSeen]
  · intro s record hNew
    rw [IcebergSinkBase.deduplicateStep, if_neg hNew]
  · intro s record hNew
    rw [IcebergSinkBase.deduplicateStep, if_neg hNew]

/- So does an iteration of the loop. -/
theorem keepsNew_flushStep :
    KeepsNew (txnId emptyText)
      IcebergEnrichedSink.FlushState.seenTxnIds
      IcebergEnrichedSink.FlushState.deduplicated
      (IcebergEnrichedSink.flushStep emptyText) := by
  constructor
  · intro s record hSeen
    rw [IcebergEnrichedSink.flushStep, if_pos hSeen]
  · intro s record hNew
    rw [IcebergEnrichedSink.flushStep, if_neg hNew]
  · intro s record hNew
    rw [IcebergEnrichedSink.flushStep, if_neg hNew]

/- The list of the method is the first records, after every
   prefix of the input. -/
theorem deduplicateRecords_eq
    (records : List (Dict String ν)) :
    IcebergSinkBase.deduplicateRecords emptyText records =
      firstOccurrences (txnId emptyText) [] records :=
  (consumed_foldl (keepsNew_deduplicateStep emptyText) rfl rfl
    records).kept

theorem deduplicated_eq
    (buffer : List (Dict String ν)) :
    IcebergEnrichedSink.deduplicated emptyText buffer =
      firstOccurrences (txnId emptyText) [] buffer :=
  (consumed_foldl (keepsNew_flushStep emptyText) rfl rfl
    buffer).kept

/- The sinks flush the list that the method returns. -/
theorem IcebergSinkBase.deduplicateRecords_eq_deduplicate
    (records : List (Dict String String)) :
    deduplicateRecords "" records =
      deduplicate (fun r => r.get? "transaction_id")
        records :=
  deduplicateRecords_eq "" records

/- A function from records to records that keeps the first
   record of each identifier, in the order of the input. -/
structure KeepsFirstRecords
    (f : List (Dict String ν) → List (Dict String ν)) :
    Prop where
  inOrder : ∀ records, List.Sublist (f records) records
  distinct :
    ∀ records, ((f records).map (txnId emptyText)).Nodup
  first :
    ∀ records k,
      (f records).filter (txnId emptyText · = k) =
        (records.find? (txnId emptyText · = k)).toList
  idempotent : ∀ records, f (f records) = f records
  concat :
    ∀ xs ys,
      f (xs ++ ys) =
        f xs ++
          (f ys).filter
            (isNew (txnId emptyText)
              (xs.map (txnId emptyText)))

theorem keepsFirstRecords_firstOccurrences :
    KeepsFirstRecords emptyText
      (firstOccurrences (txnId emptyText) []) where
  inOrder := firstOccurrences_sublist _ []
  distinct := nodup_map_firstOccurrences _ []
  first := fun records k =>
    filter_firstOccurrences_nil (txnId emptyText) k records
  idempotent := firstOccurrences_firstOccurrences _ []
  concat := firstOccurrences_append _

/-
  The method keeps the first record of each identifier, and
  the loop of the enriched sink computes the same list.
-/
theorem keepsFirstRecords_deduplicate :
    KeepsFirstRecords emptyText
        (IcebergSinkBase.deduplicateRecords emptyText) ∧
      ∀ buffer,
        IcebergEnrichedSink.deduplicated emptyText buffer =
          IcebergSinkBase.deduplicateRecords emptyText
            buffer := by
  have hMethod :
      IcebergSinkBase.deduplicateRecords emptyText =
        firstOccurrences (txnId emptyText) [] :=
    funext (deduplicateRecords_eq emptyText)
  rw [hMethod]
  exact
    ⟨keepsFirstRecords_firstOccurrences emptyText,
      deduplicated_eq emptyText⟩

/- A record without an identifier counts as one with an
   empty text. -/
example :
    (IcebergSinkBase.deduplicateRecords ""
        [.ofList [("transaction_id", ""), ("amount", "1")],
          .ofList [("amount", "2")],
          .ofList [("transaction_id", "t"),
            ("amount", "3")]]).map
        (fun r => r.get? "amount") =
      [some "1", some "3"] := by
  decide

end FraudStream
