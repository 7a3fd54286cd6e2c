import FraudStream.Library.FirstOfKey
import FraudStream.Processing.Job.Clock

/-
  Repeated transaction identifiers.

  The deduplication is keyed on the transaction and keeps
  its state for 48 hours of processing time; the velocity
  operator behind it is keyed on the account. A repetition
  that arrives before the state expires is dropped before it
  reaches any account.

  Main declarations:
    * `TransactionDedup.ttlOperator`
    * `TransactionDedup.WithinTtl`
    * `TransactionDedup.transform_ttlOperator`
    * `TransactionDedup.filtered_eq_transform`
    * `SameFeatures`
    * `duplicates_have_no_effect`
-/

------------------------------------------------------------
-- State With A Time To Live
------------------------------------------------------------

namespace FraudStream

namespace TransactionDedup

open EventTime EventStream

/- A transaction and the processing time it arrives at. -/
structure Received where
  clock : Int
  txn : RawTransaction
deriving DecidableEq

namespace Received

def transactionId (r : Received) : String :=
  r.txn.transactionId

end Received

/- The value of `dedup_seen_at` and when it was written. -/
structure SeenAt where
  eventTimeMs : Int
  writtenAt : Int
deriving DecidableEq

/- `Time.hours(48)` -/
def ttlMs : Int := 48 * 3600 * 1000

/- `self._seen.value()`: an expired value is not returned. -/
def seenValue
    (clock : Int) : Option SeenAt → Option Int
| none => none
| some seen =>
    if seen.writtenAt + ttlMs ≤ clock then
      none
    else
      some seen.eventTimeMs

/- `process_element` on state that expires. What is emitted
   keeps the processing time it arrived at. -/
def processReceived
    (eventTimeMs _currentWatermark : Int)
    (received : Received)
    (seen : Option SeenAt) :
    Effect (Option SeenAt) Received :=
  match seenValue received.clock seen with
  | some _ => { state := seen, timers := [], output := [] }
  | none =>
      { state := some ⟨eventTimeMs, received.clock⟩
        timers := []
        output := [received] }

def ttlOperator :
    Operator (Option SeenAt) Received Received where
  init := none
  processElement := processReceived
  onTimer := fun _ seen => seen

/- The stream behind the deduplication. -/
def filtered
    (stream : List (Item Received)) :
    List (Item Received) :=
  ttlOperator.transform (·.transactionId) stream

/- The stream with the first of each transaction only. -/
def firsts
    (stream : List (Item Received)) :
    List (Item Received) :=
  firstOfKey (·.transactionId) [] stream

/- Every repetition arrives less than 48 hours after the
   first transaction with its identifier. -/
def WithinTtl (stream : List (Item Received)) : Prop :=
  ∀ first ∈ elements (firsts stream),
    ∀ later ∈ elements stream,
      later.2.transactionId = first.2.transactionId →
      later.2.clock < first.2.clock + ttlMs

theorem withinTtl_firsts
    {stream : List (Item Received)}
    (hTtl : WithinTtl stream) :
    WithinTtl (firsts stream) := by
  intro first hFirst later hLater hSame
  rw [firsts, firsts, firstOfKey_firstOfKey] at hFirst
  exact
    hTtl first hFirst later
      (mem_of_mem_firstOfKey _ hLater) hSame

end TransactionDedup

end FraudStream

------------------------------------------------------------
-- What The Deduplication Passes
------------------------------------------------------------

namespace FraudStream

namespace TransactionDedup

open EventTime EventStream

/- The stored values of all transaction identifiers. -/
abbrev SeenTimes := Keyed String (Option SeenAt)

/- The stored value of one identifier. -/
def stored
    (rt : SeenTimes)
    (id : String) : Option SeenAt :=
  (rt.states id).state

theorem fireAll_ttlOperator
    (order : List Int)
    (seen : Option SeenAt) :
    fireAll ttlOperator order seen = seen := by
  induction order with
  | nil => rfl
  | cons t order ih => exact ih

@[simp] theorem stored_advanceKeys
    (rt : SeenTimes)
    (w : Int)
    (id : String) :
    stored (ttlOperator.advanceKeys rt w) id =
      stored rt id := by
  simp [stored, Operator.advanceKeys, KeyState.fire,
    fireAll_ttlOperator]

/- Processing a transaction touches its own identifier. -/
theorem stored_processKey
    (rt : SeenTimes)
    (id : String)
    (t : Int)
    (received : Received)
    (id' : String) :
    stored (ttlOperator.processKey rt id t received) id' =
      if id' = id then
        (processReceived t rt.watermark received
          (stored rt id)).state
      else
        stored rt id' := by
  by_cases hId : id' = id
  · subst hId
    simp [stored, Operator.processKey, KeyState.process,
      ttlOperator]
  · simp [stored, Operator.processKey, hId]

theorem outputOf_ttlOperator
    (rt : SeenTimes)
    (id : String)
    (t : Int)
    (received : Received) :
    ttlOperator.outputOf rt id t received =
      (processReceived t rt.watermark received
        (stored rt id)).output :=
  rfl

/- No later transaction finds an expired value. -/
def Lasting
    (rt : SeenTimes)
    (items : List (Item Received)) : Prop :=
  ∀ later ∈ elements items,
    ∀ seen, stored rt later.2.transactionId = some seen →
      later.2.clock < seen.writtenAt + ttlMs

/- A value is stored for exactly the given identifiers. -/
def Stores
    (rt : SeenTimes)
    (ids : List String) : Prop :=
  ∀ id, (stored rt id).isSome = decide (id ∈ ids)

/- A repetition changes no stored value. -/
theorem processReceived_of_lasting
    (t w : Int)
    {received : Received}
    {seen : SeenAt}
    (hClock : received.clock < seen.writtenAt + ttlMs) :
    processReceived t w received (some seen) =
      { state := some seen, timers := [], output := [] } := by
  have hLive :
      ¬ seen.writtenAt + ttlMs ≤ received.clock := by
    omega
  simp [processReceived, seenValue, hLive]

/- What the stored values and the items to come agree on: the
   identifiers that are stored, and that no repetition finds
   an expired value, now or later. -/
structure Remembers
    (rt : SeenTimes)
    (ids : List String)
    (items : List (Item Received)) : Prop where
  stores : Stores rt ids
  lasting : Lasting rt items
  inTime :
    ∀ first ∈
        elements (firstOfKey (·.transactionId) ids items),
      ∀ later ∈ elements items,
        later.2.transactionId = first.2.transactionId →
        later.2.clock < first.2.clock + ttlMs

section

variable {rt : SeenTimes}
variable {ids : List String}
variable {items : List (Item Received)}
variable {t : Int}
variable {received : Received}

/- A repetition is not emitted. -/
theorem processReceived_of_repetition
    (hRemembers :
      Remembers rt ids (.element t received :: items))
    (hMem : received.transactionId ∈ ids) :
    processReceived t rt.watermark received
        (stored rt received.transactionId) =
      { state := stored rt received.transactionId
        timers := []
        output := [] } := by
  have hStored := hRemembers.stores received.transactionId
  rw [decide_eq_true hMem] at hStored
  rcases Option.isSome_iff_exists.1 hStored with
    ⟨seen, hSeen⟩
  rw [hSeen]
  exact
    processReceived_of_lasting t rt.watermark
      (hRemembers.lasting (t, received)
        List.mem_cons_self seen hSeen)

theorem remembers_of_repetition
    (hRemembers :
      Remembers rt ids (.element t received :: items))
    (hMem : received.transactionId ∈ ids) :
    Remembers
      (ttlOperator.processKey rt received.transactionId t
        received)
      ids items := by
  have hSame := processReceived_of_repetition hRemembers hMem
  have hKept :
      ∀ id,
        stored
            (ttlOperator.processKey rt
              received.transactionId t received) id =
          stored rt id := by
    intro id
    rw [stored_processKey, hSame]
    split
    · next hId => rw [hId]
    · rfl
  have hInTime := hRemembers.inTime
  rw [firstOfKey, if_pos hMem] at hInTime
  constructor
  · intro id
    rw [hKept, hRemembers.stores]
  · intro later hLater seen hSeen
    rw [hKept] at hSeen
    exact
      hRemembers.lasting later
        (List.mem_cons_of_mem _ hLater) seen hSeen
  · intro first hFirst later hLater
    exact
      hInTime first hFirst later
        (List.mem_cons_of_mem _ hLater)

/- A first transaction is stored and emitted. -/
theorem processReceived_of_first
    (hRemembers :
      Remembers rt ids (.element t received :: items))
    (hMem : received.transactionId ∉ ids) :
    processReceived t rt.watermark received
        (stored rt received.transactionId) =
      { state := some ⟨t, received.clock⟩
        timers := []
        output := [received] } := by
  have hStored := hRemembers.stores received.transactionId
  rw [decide_eq_false hMem] at hStored
  have hNone : stored rt received.transactionId = none := by
    simpa using hStored
  rw [hNone]
  rfl

theorem remembers_of_first
    (hRemembers :
      Remembers rt ids (.element t received :: items))
    (hMem : received.transactionId ∉ ids) :
    Remembers
      (ttlOperator.processKey rt received.transactionId t
        received)
      (received.transactionId :: ids) items := by
  have hPut := processReceived_of_first hRemembers hMem
  have hInTime := hRemembers.inTime
  rw [firstOfKey, if_neg hMem] at hInTime
  constructor
  · intro id
    rw [stored_processKey, hPut]
    by_cases hId : id = received.transactionId
    · simp [hId]
    · rw [if_neg hId, hRemembers.stores]
      simp [hId]
  · intro later hLater seen hSeen
    rw [stored_processKey, hPut] at hSeen
    split at hSeen
    · next hId =>
        cases hSeen
        exact
          hInTime (t, received) List.mem_cons_self later
            (List.mem_cons_of_mem _ hLater) hId
    · exact
        hRemembers.lasting later
          (List.mem_cons_of_mem _ hLater) seen hSeen
  · intro first hFirst later hLater
    exact
      hInTime first (List.mem_cons_of_mem _ hFirst) later
        (List.mem_cons_of_mem _ hLater)

theorem remembers_of_watermark
    {w : Int}
    (hRemembers :
      Remembers rt ids (.watermark w :: items)) :
    Remembers (ttlOperator.advanceKeys rt w) ids items := by
  constructor
  · intro id
    rw [stored_advanceKeys, hRemembers.stores]
  · intro later hLater seen hSeen
    rw [stored_advanceKeys] at hSeen
    exact hRemembers.lasting later hLater seen hSeen
  · exact hRemembers.inTime

/- The deduplication keeps the first of each identifier and
   all watermarks. -/
theorem transformFrom_ttlOperator
    (hRemembers : Remembers rt ids items) :
    ttlOperator.transformFrom (·.transactionId) rt items =
      firstOfKey (·.transactionId) ids items := by
  induction items generalizing rt ids with
  | nil => rfl
  | cons item items ih =>
      cases item with
      | element t received =>
          rw [Operator.transformFrom, outputOf_ttlOperator,
            firstOfKey]
          by_cases hMem : received.transactionId ∈ ids
          · have hTail :=
              ih (remembers_of_repetition hRemembers hMem)
            rw [if_pos hMem,
              processReceived_of_repetition hRemembers hMem]
            exact hTail
          · have hTail :=
              ih (remembers_of_first hRemembers hMem)
            rw [if_neg hMem,
              processReceived_of_first hRemembers hMem,
              List.map_singleton, List.singleton_append,
              hTail]
      | watermark w =>
          rw [Operator.transformFrom, firstOfKey,
            ih (remembers_of_watermark hRemembers)]

end

/- Within the time to live, the first of each identifier
   passes, and nothing else. -/
theorem transform_ttlOperator
    {stream : List (Item Received)}
    (hTtl : WithinTtl stream) :
    filtered stream = firsts stream := by
  apply transformFrom_ttlOperator
  constructor
  · intro id
    rfl
  · intro later hLater seen hSeen
    simp [stored, Operator.startKeyed, ttlOperator] at hSeen
  · exact hTtl

end TransactionDedup

end FraudStream

------------------------------------------------------------
-- The Deduplication Of The Job
------------------------------------------------------------

namespace FraudStream

namespace TransactionDedup

open EventTime EventStream

/- The transactions without their processing times. -/
def txns
    (stream : List (Item Received)) :
    List (Item RawTransaction) :=
  flatMap (fun received => [received.txn]) stream

theorem txns_element
    (t : Int)
    (received : Received)
    (items : List (Item Received)) :
    txns (.element t received :: items) =
      .element t received.txn :: txns items := rfl

theorem txns_watermark
    (w : Int)
    (items : List (Item Received)) :
    txns (.watermark w :: items) =
      .watermark w :: txns items := rfl

/- State that never expires keeps the same transactions. -/
theorem transformFrom_operator
    {rt : Seen}
    {ids : List String}
    (hSeen : ∀ id, hasSeen rt id = decide (id ∈ ids))
    (items : List (Item Received)) :
    operator.transformFrom (·.transactionId) rt
        (txns items) =
      txns (firstOfKey (·.transactionId) ids items) := by
  induction items generalizing rt ids with
  | nil => rfl
  | cons item items ih =>
      cases item with
      | element t received =>
          rw [txns_element, Operator.transformFrom,
            outputOf_eq, hSeen, firstOfKey]
          by_cases hMem : received.txn.transactionId ∈ ids
          · have hMem' : received.transactionId ∈ ids :=
              hMem
            rw [if_pos hMem']
            simp only [hMem, decide_true, if_true,
              List.map_nil, List.nil_append]
            apply ih
            intro id
            rw [hasSeen_processKey, hSeen]
            by_cases hId : id = received.txn.transactionId
            · simp [hId, hMem]
            · simp [hId]
          · have hMem' : received.transactionId ∉ ids :=
              hMem
            rw [if_neg hMem', txns_element]
            simp only [hMem, decide_false,
              Bool.false_eq_true, if_false,
              List.map_singleton, List.singleton_append]
            rw [List.cons.injEq]
            refine ⟨rfl, ?_⟩
            apply ih
            intro id
            rw [hasSeen_processKey, hSeen]
            simp [Received.transactionId]
      | watermark w =>
          rw [txns_watermark, Operator.transformFrom,
            firstOfKey, txns_watermark, List.cons.injEq]
          refine ⟨rfl, ?_⟩
          apply ih
          intro id
          rw [hasSeen_advanceKeys, hSeen]

/- Within the time to live, the deduplication with expiring
   state is the one that `Job.dedupStream` is built from. -/
theorem filtered_eq_transform
    {stream : List (Item Received)}
    (hTtl : WithinTtl stream) :
    txns (filtered stream) =
      operator.transform (·.transactionId) (txns stream) := by
  have hStart :
      ∀ id,
        hasSeen operator.startKeyed id =
          decide (id ∈ ([] : List String)) :=
    fun _ => rfl
  rw [transform_ttlOperator hTtl, Operator.transform,
    transformFrom_operator hStart]
  rfl

end TransactionDedup

end FraudStream

------------------------------------------------------------
-- Features Of A Stream With Repetitions
------------------------------------------------------------

namespace FraudStream

namespace Job

open EventTime EventStream TransactionDedup

/- The dead-letter records of the velocity operator. -/
def sideOutput :
    Velocity.Output Velocity.Velocities → List DlqRecord
| .enriched _ _ => []
| .late record => [record]

variable (allowedLatenessMs : Int)

/- What the velocity operator emits behind the
   deduplication, its side output included. -/
def velocityOf
    (stream : List (Item Received)) :
    List (Item (Velocity.Output Velocity.Velocities)) :=
  (Velocity.operator allowedLatenessMs).transform
    (·.accountId) (txns (filtered stream))

/- The enriched transactions of a stream. -/
def enrichedOf
    (stream : List (Item Received)) :
    List (Item (RawTransaction × Velocity.Velocities)) :=
  flatMap mainOutput (velocityOf allowedLatenessMs stream)

/- The late rejections of a stream. -/
def rejectedOf
    (stream : List (Item Received)) :
    List (Item DlqRecord) :=
  flatMap sideOutput (velocityOf allowedLatenessMs stream)

/- The state of every account after a stream. -/
def accountsAfter
    (stream : List (Item Received)) :
    Keyed String Velocity.Buckets :=
  (Velocity.operator allowedLatenessMs).keyedAfter
    (·.accountId)
    (Velocity.operator allowedLatenessMs).startKeyed
    (txns (filtered stream))

/- The buckets of one account after a stream. -/
def bucketsAfter
    (stream : List (Item Received))
    (accountId : String) : Velocity.Buckets :=
  ((accountsAfter allowedLatenessMs stream).states
    accountId).state

/- The pending timers of one account after a stream. -/
def timersAfter
    (stream : List (Item Received))
    (accountId : String) : Finset Int :=
  ((accountsAfter allowedLatenessMs stream).states
    accountId).timers

/- Two streams are indistinguishable behind the two
   operators: the same enriched transactions and the same
   rejections at the same places between the watermarks, and
   the same state for every account. -/
structure SameFeatures
    (stream stream' : List (Item Received)) : Prop where
  outputs :
    enrichedOf allowedLatenessMs stream =
      enrichedOf allowedLatenessMs stream'
  rejections :
    rejectedOf allowedLatenessMs stream =
      rejectedOf allowedLatenessMs stream'
  buckets :
    ∀ accountId,
      bucketsAfter allowedLatenessMs stream accountId =
        bucketsAfter allowedLatenessMs stream' accountId
  timers :
    ∀ accountId,
      timersAfter allowedLatenessMs stream accountId =
        timersAfter allowedLatenessMs stream' accountId

/- The velocity operator reads nothing but the stream behind
   the deduplication. -/
theorem sameFeatures_of_filtered
    {stream stream' : List (Item Received)}
    (hSame : filtered stream = filtered stream') :
    SameFeatures allowedLatenessMs stream stream' where
  outputs := by
    rw [enrichedOf, velocityOf, hSame, enrichedOf, velocityOf]
  rejections := by
    rw [rejectedOf, velocityOf, hSame, rejectedOf, velocityOf]
  buckets := by
    intro accountId
    rw [bucketsAfter, accountsAfter, hSame, bucketsAfter,
      accountsAfter]
  timers := by
    intro accountId
    rw [timersAfter, accountsAfter, hSame, timersAfter,
      accountsAfter]

/- An element makes at most one enriched transaction, and
   with its own identifier. -/
theorem ids_enriched_sublist
    (rt : Keyed String Velocity.Buckets)
    (items : List (Item RawTransaction)) :
    (keys (fun pair => pair.1.transactionId)
      (flatMap mainOutput
        ((Velocity.operator allowedLatenessMs).transformFrom
          (·.accountId) rt items))).Sublist
      (keys (·.transactionId) items) := by
  induction items generalizing rt with
  | nil => exact List.Sublist.slnil
  | cons item items ih =>
      cases item with
      | element t txn =>
          rw [Operator.transformFrom, flatMap_append, keys,
            elements_append, List.map_append]
          by_cases hLate :
              Velocity.IsLate allowedLatenessMs
                rt.watermark t
          · have hOut :
                (Velocity.operator
                    allowedLatenessMs).outputOf rt
                    txn.accountId t txn =
                  [.late (Velocity.lateRecord
                    allowedLatenessMs rt.watermark t
                    txn)] := by
              simp [Operator.outputOf, Velocity.operator,
                Velocity.processElement, hLate]
            rw [hOut]
            exact (ih _).cons txn.transactionId
          · have hOut :
                ∃ velocity,
                  (Velocity.operator
                      allowedLatenessMs).outputOf rt
                      txn.accountId t txn =
                    [.enriched txn velocity] := by
              simp [Operator.outputOf, Velocity.operator,
                Velocity.processElement, hLate]
            rcases hOut with ⟨velocity, hOut⟩
            rw [hOut]
            exact (ih _).cons_cons txn.transactionId
      | watermark w => exact ih _

theorem keys_txns
    (stream : List (Item Received)) :
    keys (·.transactionId) (txns stream) =
      keys (·.transactionId) stream := by
  induction stream with
  | nil => rfl
  | cons item stream ih =>
      cases item with
      | element t received =>
          exact congrArg (received.transactionId :: ·) ih
      | watermark w => exact ih

/-
  A stream whose repetitions arrive within the time to live
  has the features of its first occurrences, and each
  identifier is emitted at most once, by the deduplication
  and by the velocity operator.
-/
theorem duplicates_have_no_effect
    (stream : List (Item Received))
    (hTtl : WithinTtl stream) :
    SameFeatures allowedLatenessMs stream (firsts stream) ∧
      (keys (·.transactionId) (filtered stream)).Nodup ∧
      (keys (fun pair => pair.1.transactionId)
        (enrichedOf allowedLatenessMs stream)).Nodup := by
  have hFirsts := transform_ttlOperator hTtl
  have hAgain := transform_ttlOperator (withinTtl_firsts hTtl)
  rw [firsts, firsts, firstOfKey_firstOfKey] at hAgain
  have hOnce :
      (keys (·.transactionId) (filtered stream)).Nodup := by
    rw [hFirsts]
    exact nodup_keys_firstOfKey _ stream
  refine ⟨?_, hOnce, ?_⟩
  · apply sameFeatures_of_filtered
    rw [hFirsts]
    exact hAgain.symm
  · rw [← keys_txns] at hOnce
    exact
      List.Sublist.nodup
        (ids_enriched_sublist allowedLatenessMs _ _) hOnce

/- A copy on another account, a watermark later. -/
def repeatedStream : List (Item Received) :=
  [.element 5 ⟨0, sampleTransaction "txn-1" 5⟩,
    .watermark 4,
    .element 9
      ⟨1000,
        { sampleTransaction "txn-1" 5 with
          accountId := "acc-002" }⟩]

theorem firsts_repeatedStream :
    firsts repeatedStream =
      [.element 5 ⟨0, sampleTransaction "txn-1" 5⟩,
        .watermark 4] := by
  simp [firsts, repeatedStream, firstOfKey,
    Received.transactionId, sampleTransaction]

theorem repeated_transaction_has_no_effect :
    SameFeatures 30000 repeatedStream
        (firsts repeatedStream) ∧
      (keys (·.transactionId)
        (filtered repeatedStream)).Nodup ∧
      (keys (fun pair => pair.1.transactionId)
        (enrichedOf 30000 repeatedStream)).Nodup := by
  apply duplicates_have_no_effect
  intro first hFirst later hLater hSame
  rw [firsts_repeatedStream] at hFirst
  simp only [elements, List.mem_singleton] at hFirst
  simp only [repeatedStream, elements, List.mem_cons,
    List.not_mem_nil, or_false] at hLater
  rw [hFirst]
  rcases hLater with hLater | hLater
  · rw [hLater]
    decide
  · rw [hLater]
    decide

end Job

end FraudStream
