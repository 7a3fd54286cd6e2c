import Mathlib.Data.List.Basic
import FraudStream.Scoring.JobExtension

/-
  The sinks of fraud alerts: the Kafka producer with its
  delivery reports, the PostgreSQL table, and the map
  function that calls both.

  A run is a sequence of calls of `map` and of delivery
  reports, which arrive at any later time. Each call keeps
  what became of its alert. The Avro writers are parameters;
  what the brokers and the database do is part of an event.

  Key definitions include:
    * `AlertKafkaSink.emit`
    * `AlertKafkaSink.onDelivery`
    * `AlertPostgresSink.persist`
    * `AlertSinks.mapCall`
    * `AlertSinks.run?`
    * `AlertSinks.NotDropped`
    * `AlertSinks.Durable`

  The main result is `AlertSinks.notDropped_iff`.
-/

------------------------------------------------------------
-- Kafka
------------------------------------------------------------

namespace FraudStream

/- The classes of what the Kafka path can raise. -/
inductive EmitError where
| valueError
| typeError
| attributeError
| runtimeError
| bufferError
| kafkaException
| other
deriving DecidableEq, Repr

namespace EmitError

/- `except (ValueError, TypeError, AttributeError)` -/
def isBadRecord : EmitError → Bool
| .valueError => true
| .typeError => true
| .attributeError => true
| _ => false

end EmitError

/- The record of the alert dead-letter topic. -/
structure FraudAlertDlq where
  alert : FraudAlert
  errorType : String
  errorMessage : String
  failedAt : Int
deriving DecidableEq

/- The schemaless writers of the two Avro schemas. -/
structure AlertWriters where
  alert : FraudAlert → Except EmitError (List UInt8)
  dlq : FraudAlertDlq → Except EmitError (List UInt8)

/- What the producer does during one call of `emit`. -/
structure ProducerBehaviour where
  isOpen : Bool
  produced : Except EmitError Unit
  polled : Except EmitError Unit

namespace AlertKafkaSink

/- `transaction_id.encode()` -/
def encodeKey : Scalar → Except EmitError (List UInt8)
| .str s => .ok s.toUTF8.toList
| _ => .error .attributeError

/- The payload that was handed to the producer, if any, and
   what was raised, if anything. -/
structure Emitted where
  accepted : Option (List UInt8)
  raised : Option EmitError

def emit
    (writers : AlertWriters)
    (alert : FraudAlert)
    (producer : ProducerBehaviour) : Emitted :=
  if !producer.isOpen then
    ⟨none, some .runtimeError⟩
  else
    match writers.alert alert with
    | .error e => ⟨none, some e⟩
    | .ok payload =>
        match encodeKey alert.transactionId with
        | .error e => ⟨none, some e⟩
        | .ok _ =>
            match producer.produced with
            | .error e => ⟨none, some e⟩
            | .ok () =>
                match producer.polled with
                | .error e => ⟨some payload, some e⟩
                | .ok () => ⟨some payload, none⟩

/- The dead-letter payload that is produced for a failed
   delivery. Whatever is raised on the way is logged. -/
def routeToDlq
    (writers : AlertWriters)
    (alert : FraudAlert)
    (err : String)
    (failedAt : Int)
    (produced : Except EmitError Unit) :
    Option (List UInt8) :=
  match writers.dlq
      { alert := alert
        errorType := "DELIVERY_FAILURE"
        errorMessage := err
        failedAt := failedAt } with
  | .error _ => none
  | .ok payload =>
      match encodeKey alert.transactionId with
      | .error _ => none
      | .ok _ =>
          match produced with
          | .error _ => none
          | .ok () => some payload

end AlertKafkaSink

end FraudStream

------------------------------------------------------------
-- PostgreSQL
------------------------------------------------------------

namespace FraudStream

/- The classes of database errors. -/
inductive PgError where
| operationalError
| interfaceError
| other
deriving DecidableEq, Repr

/- `except (OperationalError, InterfaceError)` -/
def PgError.isConnectionError : PgError → Bool
| .operationalError => true
| .interfaceError => true
| .other => false

/- What the database does during one call of `persist`. -/
structure DatabaseBehaviour where
  hasConnection : Bool
  pinged : Except PgError Unit
  connected : Except PgError Unit
  inserted : Except PgError Unit
  reconnected : Except PgError Unit
  reinserted : Except PgError Unit

namespace AlertPostgresSink

def ensureConnection
    (db : DatabaseBehaviour) : Except PgError Unit :=
  if db.hasConnection then
    match db.pinged with
    | .ok () => .ok ()
    | .error _ => db.connected
  else
    db.connected

/- Insert the alert, with one retry after a connection
   error. -/
def persist
    (db : DatabaseBehaviour) : Except PgError Unit := do
  ensureConnection db
  match db.inserted with
  | .ok () => pure ()
  | .error e =>
      if e.isConnectionError then do
        db.reconnected
        db.reinserted
      else
        .error e

end AlertPostgresSink

end FraudStream

------------------------------------------------------------
-- The Sink Function
------------------------------------------------------------

namespace FraudStream

namespace AlertSinks

/- What became of the alert of one call of `map`: whether
   its delivery report is awaited, where it was written,
   what the call raised, and the outcome of the insert. -/
structure Call where
  alert : FraudAlert
  inFlight : Option (List UInt8)
  alertsRecord : Option (List UInt8)
  dlqRecord : Option (List UInt8)
  raised : Option EmitError
  persisted : Option (Except PgError Unit)

/- A call of `map`, or the delivery report of an earlier
   call with what happens to its dead-letter record. -/
inductive Event where
| map :
    FraudAlert →
    ProducerBehaviour →
    DatabaseBehaviour →
    Event
| report :
    (call : ℕ) →
    (err : Option String) →
    (failedAt : Int) →
    (dlqProduced : Except EmitError Unit) →
    Event

variable (writers : AlertWriters)

/- One call of `map`. A bad record is logged and the insert
   goes ahead; any other exception leaves the call. What the
   insert raises is logged. -/
def mapCall
    (alert : FraudAlert)
    (producer : ProducerBehaviour)
    (db : DatabaseBehaviour) : Call :=
  let emitted := AlertKafkaSink.emit writers alert producer
  let propagated :=
    emitted.raised.filter (fun e => !e.isBadRecord)
  { alert := alert
    inFlight := emitted.accepted
    alertsRecord := none
    dlqRecord := none
    raised := propagated
    persisted :=
      match propagated with
      | some _ => none
      | none => some (AlertPostgresSink.persist db) }

/- The delivery report of a call. -/
def onDelivery
    (call : Call)
    (payload : List UInt8)
    (err : Option String)
    (failedAt : Int)
    (dlqProduced : Except EmitError Unit) : Call :=
  match err with
  | none =>
      { call with
        inFlight := none
        alertsRecord := some payload }
  | some message =>
      { call with
        inFlight := none
        dlqRecord :=
          AlertKafkaSink.routeToDlq writers call.alert
            message failedAt dlqProduced }

/- One event, if it can happen: a report needs a message in
   flight. -/
def step?
    (calls : List Call) : Event → Option (List Call)
| .map alert producer db =>
    some (calls ++ [mapCall writers alert producer db])
| .report n err failedAt dlqProduced => do
    let call ← calls[n]?
    let payload ← call.inFlight
    some
      (calls.set n
        (onDelivery writers call payload err failedAt
          dlqProduced))

def run?
    (calls : List Call) : List Event → Option (List Call)
| [] => some calls
| event :: events => do
    let calls ← step? writers calls event
    run? calls events

/- The number of calls of `map`. -/
def callCount : List Event → ℕ
| [] => 0
| .map _ _ _ :: events => callCount events + 1
| .report _ _ _ _ :: events => callCount events

/- An alert ends on a topic or its call raised, and an alert
   that was not inserted ends on the dead-letter topic. -/
structure NotDropped (call : Call) : Prop where
  endsSomewhere :
    call.alertsRecord.isSome ∨ call.dlqRecord.isSome ∨
      call.raised.isSome
  notInsertedToDlq :
    ∀ e, call.persisted = some (.error e) →
      call.dlqRecord.isSome

end AlertSinks

end FraudStream

------------------------------------------------------------
-- When Each Stage Succeeds
------------------------------------------------------------

namespace FraudStream

namespace AlertSinks

variable (writers : AlertWriters)

/- What a stage raises. -/
def failure?
    {α : Type} : Except EmitError α → Option EmitError
| .ok _ => none
| .error e => some e

/- The failure of the first stage of `emit` that fails. -/
def firstFailure
    (alert : FraudAlert)
    (producer : ProducerBehaviour) : Option EmitError :=
  (if producer.isOpen then none else some .runtimeError) <|>
    failure? (writers.alert alert) <|>
    failure? (AlertKafkaSink.encodeKey alert.transactionId) <|>
    failure? producer.produced <|>
    failure? producer.polled

/- Every stage up to the hand-over succeeds. -/
structure Accepted
    (alert : FraudAlert)
    (producer : ProducerBehaviour) : Prop where
  isOpen : producer.isOpen = true
  serialised :
    ∃ payload, writers.alert alert = .ok payload
  textKey : ∃ s, alert.transactionId = .str s
  produced : producer.produced = .ok ()

/- The alert can be routed to the dead-letter topic. -/
structure DeadLettered
    (alert : FraudAlert)
    (err : String)
    (failedAt : Int)
    (produced : Except EmitError Unit) : Prop where
  serialised :
    ∃ payload,
      writers.dlq ⟨alert, "DELIVERY_FAILURE", err, failedAt⟩ =
        .ok payload
  textKey : ∃ s, alert.transactionId = .str s
  produced : produced = .ok ()

/- There is a live connection, and the insert or its retry
   goes through. -/
structure Inserts (db : DatabaseBehaviour) : Prop where
  connection :
    (db.hasConnection = true ∧ db.pinged = .ok ()) ∨
      db.connected = .ok ()
  insert :
    db.inserted = .ok () ∨
      (∃ e, db.inserted = .error e ∧
          e.isConnectionError = true) ∧
        db.reconnected = .ok () ∧ db.reinserted = .ok ()

theorem encodeKey_isOk_iff
    (value : Scalar) :
    (∃ key, AlertKafkaSink.encodeKey value = .ok key) ↔
      ∃ s, value = .str s := by
  cases value <;> simp [AlertKafkaSink.encodeKey]

theorem emit_raised
    (alert : FraudAlert)
    (producer : ProducerBehaviour) :
    (AlertKafkaSink.emit writers alert producer).raised =
      firstFailure writers alert producer := by
  unfold AlertKafkaSink.emit firstFailure
  cases producer.isOpen with
  | false => rfl
  | true =>
      cases writers.alert alert with
      | error e => rfl
      | ok payload =>
          cases AlertKafkaSink.encodeKey
            alert.transactionId with
          | error e => rfl
          | ok key =>
              cases producer.produced with
              | error e => rfl
              | ok _ => cases producer.polled <;> rfl

theorem emit_accepted_isSome_iff
    (alert : FraudAlert)
    (producer : ProducerBehaviour) :
    (∃ payload,
        (AlertKafkaSink.emit writers alert
          producer).accepted = some payload) ↔
      Accepted writers alert producer := by
  have hKey := encodeKey_isOk_iff alert.transactionId
  constructor
  · rintro ⟨payload, hSome⟩
    unfold AlertKafkaSink.emit at hSome
    split at hSome
    · cases hSome
    rename_i hOpen
    split at hSome
    · cases hSome
    rename_i payload' hPayload
    split at hSome
    · cases hSome
    rename_i key hEncoded
    split at hSome
    · cases hSome
    rename_i hProduced
    exact
      ⟨by simpa using hOpen, ⟨payload', hPayload⟩,
        hKey.1 ⟨key, hEncoded⟩, hProduced⟩
  · intro hAccepted
    rcases hAccepted.serialised with ⟨payload, hPayload⟩
    rcases hKey.2 hAccepted.textKey with ⟨key, hEncoded⟩
    refine ⟨payload, ?_⟩
    simp only [AlertKafkaSink.emit, hAccepted.isOpen,
      hPayload, hEncoded, hAccepted.produced]
    cases producer.polled <;> rfl

theorem routeToDlq_isSome_iff
    (alert : FraudAlert)
    (err : String)
    (failedAt : Int)
    (produced : Except EmitError Unit) :
    (AlertKafkaSink.routeToDlq writers alert err failedAt
        produced).isSome ↔
      DeadLettered writers alert err failedAt produced := by
  have hKey := encodeKey_isOk_iff alert.transactionId
  constructor
  · intro hSome
    unfold AlertKafkaSink.routeToDlq at hSome
    split at hSome
    · cases hSome
    rename_i payload hPayload
    split at hSome
    · cases hSome
    rename_i key hEncoded
    split at hSome
    · cases hSome
    exact
      ⟨⟨payload, hPayload⟩, hKey.1 ⟨key, hEncoded⟩, rfl⟩
  · intro hRouted
    rcases hRouted.serialised with ⟨payload, hPayload⟩
    rcases hKey.2 hRouted.textKey with ⟨key, hEncoded⟩
    simp only [AlertKafkaSink.routeToDlq, hPayload, hEncoded,
      hRouted.produced, Option.isSome_some]

theorem ensureConnection_ok_iff
    (db : DatabaseBehaviour) :
    AlertPostgresSink.ensureConnection db = .ok () ↔
      (db.hasConnection = true ∧ db.pinged = .ok ()) ∨
        db.connected = .ok () := by
  unfold AlertPostgresSink.ensureConnection
  cases db.hasConnection with
  | false => simp
  | true => cases db.pinged <;> simp

/- The insert with its retry, once there is a connection. -/
theorem persist_ok_iff
    (db : DatabaseBehaviour) :
    AlertPostgresSink.persist db = .ok () ↔ Inserts db := by
  have hConnection := ensureConnection_ok_iff db
  have hInserts :
      Inserts db ↔
        AlertPostgresSink.ensureConnection db = .ok () ∧
          (db.inserted = .ok () ∨
            (∃ e, db.inserted = .error e ∧
                e.isConnectionError = true) ∧
              db.reconnected = .ok () ∧
              db.reinserted = .ok ()) := by
    rw [hConnection]
    exact
      ⟨fun hBoth => ⟨hBoth.connection, hBoth.insert⟩,
        fun hBoth => ⟨hBoth.1, hBoth.2⟩⟩
  rw [hInserts, AlertPostgresSink.persist]
  cases AlertPostgresSink.ensureConnection db with
  | error e => simp [bind, Except.bind]
  | ok _ =>
      cases db.inserted with
      | ok _ => simp [bind, Except.bind, pure, Except.pure]
      | error e =>
          by_cases hRetry : e.isConnectionError = true
          · cases db.reconnected <;>
              simp [hRetry, bind, Except.bind]
          · simp [hRetry, bind, Except.bind]

end AlertSinks

end FraudStream

------------------------------------------------------------
-- Runs
------------------------------------------------------------

namespace FraudStream

namespace AlertSinks

variable (writers : AlertWriters)

theorem run?_append
    (calls : List Call)
    (events events' : List Event) :
    run? writers calls (events ++ events') =
      (run? writers calls events).bind
        (run? writers · events') := by
  induction events generalizing calls with
  | nil => rfl
  | cons event events ih =>
      simp only [List.cons_append, run?]
      cases step? writers calls event with
      | none => rfl
      | some calls' => exact ih calls'

/- What one event does to an earlier call: nothing, unless
   it is the report that the call awaits. -/
theorem step?_getElem?
    {calls calls' : List Call}
    {event : Event}
    {n : ℕ}
    {call : Call}
    (hStep : step? writers calls event = some calls')
    (hCall : calls[n]? = some call) :
    (calls'[n]? = some call ∧
        ∀ err failedAt dlqProduced,
          event ≠ .report n err failedAt dlqProduced) ∨
      ∃ payload err failedAt dlqProduced,
        event = .report n err failedAt dlqProduced ∧
          call.inFlight = some payload ∧
          calls'[n]? =
            some
              (onDelivery writers call payload err failedAt
                dlqProduced) := by
  have hBound : n < calls.length :=
    (List.getElem?_eq_some_iff.1 hCall).1
  cases event with
  | map alert producer db =>
      simp only [step?, Option.some.injEq] at hStep
      subst hStep
      refine .inl ⟨?_, by simp⟩
      rw [List.getElem?_append_left hBound, hCall]
  | report m err failedAt dlqProduced =>
      simp only [step?, Option.bind_eq_bind,
        Option.bind_eq_some_iff, Option.some.injEq] at hStep
      rcases hStep with ⟨reported, hReported, hStep⟩
      rcases hStep with ⟨payload, hFlight, rfl⟩
      by_cases hSame : m = n
      · subst hSame
        rw [hCall] at hReported
        cases hReported
        refine
          .inr ⟨payload, err, failedAt, dlqProduced, rfl,
            hFlight, ?_⟩
        rw [List.getElem?_set_self hBound]
      · refine .inl ⟨?_, ?_⟩
        · rw [List.getElem?_set_ne hSame, hCall]
        · intro err' failedAt' dlqProduced' hEq
          cases hEq
          exact hSame rfl

/- What a run does to an earlier call: nothing, or what the
   only report on it does. -/
theorem run?_getElem?
    {calls calls' : List Call}
    {events : List Event}
    {n : ℕ}
    {call : Call}
    (hRun : run? writers calls events = some calls')
    (hCall : calls[n]? = some call) :
    (calls'[n]? = some call ∧
        ∀ err failedAt dlqProduced,
          .report n err failedAt dlqProduced ∉ events) ∨
      ∃ payload err failedAt dlqProduced,
        .report n err failedAt dlqProduced ∈ events ∧
          (∀ err' failedAt' dlqProduced',
            .report n err' failedAt' dlqProduced' ∈ events →
              err' = err ∧ failedAt' = failedAt ∧
                dlqProduced' = dlqProduced) ∧
          call.inFlight = some payload ∧
          calls'[n]? =
            some
              (onDelivery writers call payload err failedAt
                dlqProduced) := by
  induction events generalizing calls call with
  | nil =>
      simp only [run?, Option.some.injEq] at hRun
      subst hRun
      exact .inl ⟨hCall, by simp⟩
  | cons event events ih =>
      simp only [run?, Option.bind_eq_bind,
        Option.bind_eq_some_iff] at hRun
      rcases hRun with ⟨mid, hStep, hRest⟩
      rcases step?_getElem? writers hStep hCall with
        ⟨hMid, hOther⟩ |
        ⟨payload, err, failedAt, dlqProduced, rfl, hFlight,
          hMid⟩
      · rcases ih hRest hMid with
          ⟨hLast, hNone⟩ |
          ⟨payload, err, failedAt, dlqProduced, hMem,
            hOnly, hFlight, hLast⟩
        · refine .inl ⟨hLast, ?_⟩
          intro err failedAt dlqProduced hMem
          rcases List.mem_cons.1 hMem with hHead | hTail
          · exact hOther _ _ _ hHead.symm
          · exact hNone _ _ _ hTail
        · refine
            .inr ⟨payload, err, failedAt, dlqProduced,
              List.mem_cons_of_mem _ hMem, ?_, hFlight,
              hLast⟩
          intro err' failedAt' dlqProduced' hMem'
          rcases List.mem_cons.1 hMem' with hHead | hTail
          · exact absurd hHead.symm (hOther _ _ _)
          · exact hOnly _ _ _ hTail
      · -- The report leaves nothing to wait for.
        rcases ih hRest hMid with
          ⟨hLast, hNone⟩ |
          ⟨payload', err', failedAt', dlqProduced', hMem',
            hOnly, hFlight', hLast⟩
        · refine
            .inr ⟨payload, err, failedAt, dlqProduced,
              List.mem_cons_self .., ?_, hFlight, hLast⟩
          intro err' failedAt' dlqProduced' hMem'
          rcases List.mem_cons.1 hMem' with hHead | hTail
          · cases hHead
            exact ⟨rfl, rfl, rfl⟩
          · exact absurd hTail (hNone _ _ _)
        · cases err <;> cases hFlight'

theorem step?_length
    {calls calls' : List Call}
    {event : Event}
    (hStep : step? writers calls event = some calls') :
    calls'.length = calls.length + callCount [event] := by
  cases event with
  | map alert producer db =>
      simp only [step?, Option.some.injEq] at hStep
      simp [← hStep, callCount]
  | report n err failedAt dlqProduced =>
      simp only [step?, Option.bind_eq_bind,
        Option.bind_eq_some_iff, Option.some.injEq] at hStep
      rcases hStep with ⟨reported, hReported, hStep⟩
      rcases hStep with ⟨payload, hFlight, rfl⟩
      simp [callCount]

/- Every call of `map` is kept. -/
theorem run?_length
    {calls calls' : List Call}
    {events : List Event}
    (hRun : run? writers calls events = some calls') :
    calls'.length = calls.length + callCount events := by
  induction events generalizing calls with
  | nil =>
      simp only [run?, Option.some.injEq] at hRun
      simp [hRun, callCount]
  | cons event events ih =>
      simp only [run?, Option.bind_eq_bind,
        Option.bind_eq_some_iff] at hRun
      rcases hRun with ⟨mid, hStep, hRest⟩
      have hHead := step?_length writers hStep
      have hTail := ih hRest
      cases event with
      | map alert producer db =>
          simp only [callCount] at hHead hTail ⊢
          omega
      | report n err failedAt dlqProduced =>
          simp only [callCount] at hHead hTail ⊢
          omega

end AlertSinks

end FraudStream

------------------------------------------------------------
-- Which Alerts Are Not Dropped
------------------------------------------------------------

namespace FraudStream

namespace AlertSinks

variable (writers : AlertWriters)

/- The first stage of `emit` that fails raises something
   other than a bad-record exception. -/
def Propagates
    (alert : FraudAlert)
    (producer : ProducerBehaviour) : Prop :=
  ∃ e, firstFailure writers alert producer = some e ∧
    e.isBadRecord = false

/- An exception propagates, or the producer accepts the
   alert and what its report asks for works out: nothing but
   the insert after a delivery, the dead-letter record after
   a failed one. -/
def Durable
    (alert : FraudAlert)
    (producer : ProducerBehaviour)
    (db : DatabaseBehaviour)
    (n : ℕ)
    (after : List Event) : Prop :=
  Propagates writers alert producer ∨
    (Accepted writers alert producer ∧
      ∃ err failedAt dlqProduced,
        .report n err failedAt dlqProduced ∈ after ∧
          ((err = none ∧ Inserts db) ∨
            ∃ message, err = some message ∧
              DeadLettered writers alert message failedAt
                dlqProduced))

theorem raised_mapCall_isSome_iff
    (alert : FraudAlert)
    (producer : ProducerBehaviour)
    (db : DatabaseBehaviour) :
    (mapCall writers alert producer db).raised.isSome ↔
      Propagates writers alert producer := by
  rw [mapCall, emit_raised, Propagates]
  cases firstFailure writers alert producer with
  | none => simp
  | some e => cases e.isBadRecord <;> simp

/- The insert is attempted unless an exception left first. -/
theorem persisted_mapCall
    {alert : FraudAlert}
    {producer : ProducerBehaviour}
    (db : DatabaseBehaviour)
    (hStays : ¬ Propagates writers alert producer) :
    (mapCall writers alert producer db).persisted =
      some (AlertPostgresSink.persist db) := by
  rw [← raised_mapCall_isSome_iff writers alert producer db]
    at hStays
  have hNone := Option.not_isSome_iff_eq_none.1 hStays
  simp only [mapCall] at hNone ⊢
  rw [hNone]

theorem persisted_mapCall_of_propagates
    {alert : FraudAlert}
    {producer : ProducerBehaviour}
    (db : DatabaseBehaviour)
    (hLeaves : Propagates writers alert producer) :
    (mapCall writers alert producer db).persisted =
      none := by
  rw [← raised_mapCall_isSome_iff writers alert producer db]
    at hLeaves
  rcases Option.isSome_iff_exists.1 hLeaves with ⟨e, hSome⟩
  simp only [mapCall] at hSome ⊢
  rw [hSome]

/- A call that raised keeps the law whatever is reported. -/
theorem notDropped_of_propagates
    {alert : FraudAlert}
    {producer : ProducerBehaviour}
    {db : DatabaseBehaviour}
    {call : Call}
    (hLeaves : Propagates writers alert producer)
    (hRaised :
      call.raised =
        (mapCall writers alert producer db).raised)
    (hPersisted :
      call.persisted =
        (mapCall writers alert producer db).persisted) :
    NotDropped call := by
  constructor
  · rw [hRaised, raised_mapCall_isSome_iff]
    exact .inr (.inr hLeaves)
  · intro e hFailed
    rw [hPersisted,
      persisted_mapCall_of_propagates writers db hLeaves]
      at hFailed
    cases hFailed

/- A delivered alert depends on the insert alone. -/
theorem notDropped_delivered_iff
    {alert : FraudAlert}
    {producer : ProducerBehaviour}
    (db : DatabaseBehaviour)
    (payload : List UInt8)
    (failedAt : Int)
    (dlqProduced : Except EmitError Unit)
    (hStays : ¬ Propagates writers alert producer) :
    NotDropped
        (onDelivery writers
          (mapCall writers alert producer db) payload none
          failedAt dlqProduced) ↔
      Inserts db := by
  have hPersisted := persisted_mapCall writers db hStays
  rw [← persist_ok_iff]
  constructor
  · intro hSafe
    cases hResult : AlertPostgresSink.persist db with
    | ok _ => rfl
    | error e =>
        rw [hResult] at hPersisted
        have hDlq := hSafe.notInsertedToDlq e hPersisted
        cases hDlq
  · intro hInserted
    refine ⟨.inl rfl, fun e hFailed => ?_⟩
    have hEq := hPersisted.symm.trans hFailed
    rw [hInserted] at hEq
    cases hEq

/- An alert whose delivery failed depends on the dead-letter
   record alone. -/
theorem notDropped_failed_iff
    {alert : FraudAlert}
    {producer : ProducerBehaviour}
    (db : DatabaseBehaviour)
    (payload : List UInt8)
    (message : String)
    (failedAt : Int)
    (dlqProduced : Except EmitError Unit)
    (hStays : ¬ Propagates writers alert producer) :
    NotDropped
        (onDelivery writers
          (mapCall writers alert producer db) payload
          (some message) failedAt dlqProduced) ↔
      DeadLettered writers alert message failedAt
        dlqProduced := by
  have hRaised :
      ¬ (mapCall writers alert producer
        db).raised.isSome := by
    rw [raised_mapCall_isSome_iff]
    exact hStays
  rw [← routeToDlq_isSome_iff]
  constructor
  · intro hSafe
    rcases hSafe.endsSomewhere with
      hAlerts | hDlq | hRaised'
    · cases hAlerts
    · exact hDlq
    · exact absurd hRaised' hRaised
  · intro hRouted
    exact ⟨.inr (.inl hRouted), fun _ _ => hRouted⟩

/- The call of an event of a run, and the run after it. -/
theorem run?_map_split
    {before after : List Event}
    {alert : FraudAlert}
    {producer : ProducerBehaviour}
    {db : DatabaseBehaviour}
    {calls : List Call}
    (hRun :
      run? writers []
          (before ++ .map alert producer db :: after) =
        some calls) :
    ∃ mid : List Call,
      mid[callCount before]? =
          some (mapCall writers alert producer db) ∧
        run? writers mid after = some calls := by
  rw [run?_append, Option.bind_eq_some_iff] at hRun
  rcases hRun with ⟨earlier, hBefore, hRest⟩
  have hLength := run?_length writers hBefore
  rw [List.length_nil, zero_add] at hLength
  refine
    ⟨earlier ++ [mapCall writers alert producer db], ?_,
      hRest⟩
  rw [← hLength, List.getElem?_concat_length]

/-
  Once its delivery has been reported, the alert of any call
  of any run is kept exactly when the failures of the call
  and of the report leave it durable.
-/
theorem notDropped_iff
    (before after : List Event)
    (alert : FraudAlert)
    (producer : ProducerBehaviour)
    (db : DatabaseBehaviour)
    (calls : List Call)
    (call : Call)
    (hRun :
      run? writers []
          (before ++ .map alert producer db :: after) =
        some calls)
    (hCall : calls[callCount before]? = some call)
    (hSettled : call.inFlight = none) :
    NotDropped call ↔
      Durable writers alert producer db (callCount before)
        after := by
  rcases run?_map_split writers hRun with
    ⟨mid, hMid, hAfter⟩
  rcases run?_getElem? writers hAfter hMid with
    ⟨hLast, hNone⟩ |
    ⟨payload, err, failedAt, dlqProduced, hMem, hOnly,
      hFlight, hLast⟩
  · -- Nothing was accepted and nothing is reported.
    rw [hCall] at hLast
    cases hLast
    constructor
    · intro hSafe
      rcases hSafe.endsSomewhere with
        hAlerts | hDlq | hRaised
      · cases hAlerts
      · cases hDlq
      · rw [raised_mapCall_isSome_iff] at hRaised
        exact .inl hRaised
    · rintro (hLeaves | ⟨-, err, failedAt, dlqProduced,
        hMem, -⟩)
      · exact notDropped_of_propagates writers hLeaves rfl rfl
      · exact absurd hMem (hNone _ _ _)
  · rw [hCall] at hLast
    cases hLast
    have hAccepted : Accepted writers alert producer :=
      (emit_accepted_isSome_iff writers alert producer).1
        ⟨payload, hFlight⟩
    by_cases hLeaves : Propagates writers alert producer
    · have hSafe :
          NotDropped
            (onDelivery writers
              (mapCall writers alert producer db) payload
              err failedAt dlqProduced) := by
        cases err <;>
          exact
            notDropped_of_propagates writers hLeaves rfl rfl
      exact ⟨fun _ => .inl hLeaves, fun _ => hSafe⟩
    · cases err with
      | none =>
          rw [notDropped_delivered_iff writers db payload
            failedAt dlqProduced hLeaves]
          constructor
          · intro hInserts
            exact
              .inr ⟨hAccepted, none, failedAt, dlqProduced,
                hMem, .inl ⟨rfl, hInserts⟩⟩
          · rintro (hLeaves' | ⟨-, err, failedAt',
              dlqProduced', hMem', hOutcome⟩)
            · exact absurd hLeaves' hLeaves
            · have hSame := (hOnly _ _ _ hMem').1
              subst hSame
              simpa using hOutcome
      | some message =>
          rw [notDropped_failed_iff writers db payload
            message failedAt dlqProduced hLeaves]
          constructor
          · intro hRouted
            exact
              .inr ⟨hAccepted, some message, failedAt,
                dlqProduced, hMem,
                .inr ⟨message, rfl, hRouted⟩⟩
          · rintro (hLeaves' | ⟨-, err, failedAt',
              dlqProduced', hMem', hOutcome⟩)
            · exact absurd hLeaves' hLeaves
            · rcases hOnly _ _ _ hMem' with
                ⟨rfl, rfl, rfl⟩
              simpa using hOutcome

/- An alert on one velocity rule. -/
def sampleAlert : FraudAlert where
  transactionId := .str "txn-1"
  accountId := .str "acc-001"
  matchedRuleNames := ["VEL-001"]
  severity := .high
  evaluationTimestamp := 1000

/- The Avro record of the alert. -/
def sampleAlertAvro : List UInt8 :=
  [10, 116, 120, 110, 45, 49, 14, 97, 99, 99, 45, 48, 48,
    49, 2, 14, 86, 69, 76, 45, 48, 48, 49, 0, 4, 208, 15]

/- Writers that know this one alert. -/
def sampleWriters : AlertWriters where
  alert := fun alert =>
    if alert = sampleAlert then
      .ok sampleAlertAvro
    else
      .error .valueError
  dlq := fun _ => .error .valueError

def workingProducer : ProducerBehaviour :=
  ⟨true, .ok (), .ok ()⟩

def workingDatabase : DatabaseBehaviour :=
  ⟨true, .ok (), .ok (), .ok (), .ok (), .ok ()⟩

/- The server cannot be reached. -/
def databaseDown : DatabaseBehaviour :=
  ⟨true, .error .operationalError,
    .error .operationalError, .error .operationalError,
    .error .operationalError, .error .operationalError⟩

/- The call of the sample alert after its delivery. -/
def deliveredCall (db : DatabaseBehaviour) : Call where
  alert := sampleAlert
  inFlight := none
  alertsRecord := some sampleAlertAvro
  dlqRecord := none
  raised := none
  persisted := some (AlertPostgresSink.persist db)

/- The sample alert is emitted and delivered. -/
def sampleRun (db : DatabaseBehaviour) : List Event :=
  [.map sampleAlert workingProducer db,
    .report 0 none 0 (.ok ())]

theorem run?_sampleRun
    (db : DatabaseBehaviour) :
    run? sampleWriters [] (sampleRun db) =
      some [deliveredCall db] := by
  rfl

/- With a database that works nothing is lost. -/
theorem notDropped_sampleRun :
    run? sampleWriters [] (sampleRun workingDatabase) =
        some [deliveredCall workingDatabase] ∧
      (NotDropped (deliveredCall workingDatabase) ↔
        Durable sampleWriters sampleAlert workingProducer
          workingDatabase 0
          [.report 0 none 0 (.ok ())]) :=
  ⟨run?_sampleRun workingDatabase,
    notDropped_iff sampleWriters []
      [.report 0 none 0 (.ok ())] sampleAlert
      workingProducer workingDatabase
      [deliveredCall workingDatabase]
      (deliveredCall workingDatabase)
      (run?_sampleRun workingDatabase) rfl rfl⟩

/- While the database is down the alert is delivered, not
   inserted, and not routed to the dead-letter topic. -/
theorem postgres_outage_bypasses_dlq :
    run? sampleWriters [] (sampleRun databaseDown) =
        some [deliveredCall databaseDown] ∧
      (deliveredCall databaseDown).persisted =
        some (.error .operationalError) ∧
      (deliveredCall databaseDown).dlqRecord = none ∧
      ¬ NotDropped (deliveredCall databaseDown) := by
  have hFailed :
      (deliveredCall databaseDown).persisted =
        some (.error .operationalError) := rfl
  refine ⟨run?_sampleRun databaseDown, hFailed, rfl, ?_⟩
  intro hSafe
  have hDlq := hSafe.notInsertedToDlq _ hFailed
  cases hDlq

end AlertSinks

end FraudStream
