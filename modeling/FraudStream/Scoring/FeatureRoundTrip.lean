import FraudStream.Library.Rounding
import FraudStream.Scoring.FeatureReads

/-
  What is served of a record whose features were pushed.

  A field of the record is extracted, pushed, read back and
  converted. Two columns of the device group push a null for
  a null or zero field, and the client serves a response
  with a null as the zero vector, so a record without a
  first sight or a previous transaction is not served. A
  null also turns the column of its batch into doubles, so
  a time that is no double is served rounded.

  Main declarations:
    * `KeepsTime`
    * `served_vector_iff`
-/

------------------------------------------------------------
-- What The Client Serves
------------------------------------------------------------

namespace FraudStream

namespace FeatureServingClient

/- The values of a response are its features. -/
theorem entries_valuesOf
    {features : List (String × Scalar)}
    (accountId : String)
    (hNodup :
      (("account_id", Scalar.str accountId) ::
        features).map Prod.fst |>.Nodup) :
    (valuesOf
        (.ofList
          (("account_id", .str accountId) ::
            features))).entries = features := by
  have hFilter :
      (valuesOf
          (.ofList
            (("account_id", .str accountId) ::
              features))).entries =
        (Dict.ofList
          (("account_id", .str accountId) ::
            features)).entries.filter
          (fun e => e.1 ≠ "account_id") := rfl
  have hNames := hNodup
  rw [List.map_cons, List.nodup_cons] at hNames
  rw [hFilter, Dict.entries_ofList hNodup,
    List.filter_cons_of_neg (by simp)]
  apply List.filter_eq_self.2
  intro e hMem
  have hOther : e.1 ≠ "account_id" := by
    intro hEq
    exact hNames.1 (List.mem_map.2 ⟨e, hMem, hEq⟩)
  simpa using hOther

theorem intValue_of_get
    {values : Record}
    {name : String}
    {n : Int}
    (hValue : values.get name = .int n) :
    intValue values name = .ok n := by
  unfold intValue
  rw [hValue]
  by_cases hZero : n = 0
  · rw [hZero]
    rfl
  · simp [Scalar.orElse, Scalar.truthy, hZero,
      Scalar.toInt]

theorem floatValue_of_get
    {values : Record}
    {name : String}
    {f : PyFloat}
    (hValue : values.get name = .float f) :
    floatValue values name = .ok f := by
  unfold floatValue
  rw [hValue]
  unfold Scalar.orElse
  split
  · rfl
  · rename_i hFalse
    cases f with
    | finite v =>
        have hZero : v = 0 := by
          simpa [Scalar.truthy, PyFloat.truthy] using hFalse
        rw [hZero]
        rfl
    | inf negative => exact absurd rfl hFalse
    | nan => exact absurd rfl hFalse

theorem textValue_of_get
    (textOf : Scalar → String)
    {values : Record}
    {name s : String}
    (hValue : values.get name = .str s) :
    textValue textOf values name = s := by
  unfold textValue
  rw [hValue]
  by_cases hEmpty : s = ""
  · rw [hEmpty]
    rfl
  · simp [Scalar.orElse, Scalar.truthy, hEmpty]

theorem boolValue_of_get
    {values : Record}
    {name : String}
    {b : Bool}
    (hValue : values.get name = .bool b) :
    boolValue values name = b := by
  unfold boolValue
  rw [hValue]
  cases b <;> rfl

end FeatureServingClient

/- A time that is held as a double is served when it is
   one. -/
theorem FeatureServingClient.intValue_of_double
    {values : Record}
    {name : String}
    {n : Int}
    (hValue : values.get name = .float (.ofRat n))
    (hNonzero : n ≠ 0) :
    intValue values name = .ok n ↔
      PyFloat.ofRat n = .finite n := by
  unfold intValue
  rw [hValue]
  cases hDouble : PyFloat.ofRat n with
  | finite v =>
      rcases PyFloat.isInt_of_ofRat hDouble with ⟨m, rfl⟩
      by_cases hZero : m = 0
      · subst hZero
        have hCast : (0 : ℚ) ≠ n := by
          exact_mod_cast Ne.symm hNonzero
        simp [Scalar.orElse, Scalar.truthy, PyFloat.truthy,
          Scalar.toInt, Ne.symm hNonzero, hCast]
      · simp [Scalar.orElse, Scalar.truthy, PyFloat.truthy,
          Scalar.toInt, Scalar.truncate, hZero]
  | inf negative =>
      simp [Scalar.orElse, Scalar.truthy, PyFloat.truthy,
        Scalar.toInt]
  | nan =>
      simp [Scalar.orElse, Scalar.truthy, PyFloat.truthy,
        Scalar.toInt]

open FeatureServingClient

/- The names of the served features are distinct. -/
theorem nodup_servedFeatures
    (batch : List Record)
    (r : Record)
    (accountId : String) :
    ((("account_id", Scalar.str accountId) ::
      servedFeatures batch r).map Prod.fst).Nodup := by
  simp [servedFeatures, servedVelocity, servedGeo,
    servedDevice]

/- The values of a response with the served features. -/
def servedValues
    (batch : List Record)
    (r : Record)
    (accountId : String) : Record :=
  valuesOf
    (.ofList
      (("account_id", .str accountId) ::
        servedFeatures batch r))

theorem get_servedValues
    (batch : List Record)
    (r : Record)
    (accountId name : String) :
    (servedValues batch r accountId).get name =
      (Dict.lookupEntries name
        (servedFeatures batch r)).getD .none := by
  rw [Record.get, Dict.get?, servedValues,
    entries_valuesOf accountId
      (nodup_servedFeatures batch r accountId)]

/- Only two of the served features can be null. -/
theorem anyNone_servedValues_iff
    (batch : List Record)
    (r : Record)
    (accountId : String) :
    anyNone (servedValues batch r accountId) = false ↔
      (r.get "device_first_seen").truthy ∧
        (r.get "prev_txn_time_ms").truthy := by
  rw [anyNone, servedValues,
    entries_valuesOf accountId
      (nodup_servedFeatures batch r accountId)]
  simp [servedFeatures, servedVelocity, servedGeo,
    servedDevice]

/- Not every served feature is null. -/
theorem allNone_servedValues
    (batch : List Record)
    (r : Record)
    (accountId : String) :
    allNone (servedValues batch r accountId) = false := by
  rw [allNone, servedValues,
    entries_valuesOf accountId
      (nodup_servedFeatures batch r accountId)]
  simp [servedFeatures, servedVelocity]

section Fields

variable
  (batch : List Record)
  (r : Record)
  (accountId : String)

theorem intValue_servedValues :
    ∀ name ∈ "device_txn_count" :: countFields,
      intValue (servedValues batch r accountId) name =
        .ok (r.intOr name 0) := by
  intro name hName
  apply intValue_of_get
  rw [get_servedValues]
  simp only [countFields, List.mem_cons,
    List.not_mem_nil, or_false] at hName
  rcases hName with rfl | rfl | rfl | rfl | rfl <;>
    simp [servedFeatures, servedVelocity, servedGeo,
      servedDevice, Dict.lookupEntries]

theorem floatValue_servedValues :
    ∀ name ∈ "geo_confidence" :: amountFields,
      floatValue (servedValues batch r accountId) name =
        .ok (r.floatOr name (.finite 0)) := by
  intro name hName
  apply floatValue_of_get
  rw [get_servedValues]
  simp only [amountFields, List.mem_cons,
    List.not_mem_nil, or_false] at hName
  rcases hName with rfl | rfl | rfl | rfl | rfl <;>
    simp [servedFeatures, servedVelocity, servedGeo,
      Dict.lookupEntries]

theorem textValue_servedValues
    (textOf : Scalar → String) :
    ∀ name ∈ textFields,
      textValue textOf (servedValues batch r accountId)
          name =
        r.textOr name "" := by
  intro name hName
  apply textValue_of_get
  rw [get_servedValues]
  simp only [textFields, placeFields, List.mem_cons,
    List.not_mem_nil, or_false] at hName
  rcases hName with rfl | rfl | rfl | rfl <;>
    simp [servedFeatures, servedVelocity, servedGeo,
      servedDevice, Dict.lookupEntries]

theorem boolValue_servedValues :
    boolValue (servedValues batch r accountId)
        "device_known_fraud" =
      r.boolOr "device_known_fraud" false := by
  apply boolValue_of_get
  rw [get_servedValues]
  simp [servedFeatures, servedVelocity, servedGeo,
    servedDevice, Dict.lookupEntries]

end Fields

/- The vector of the record is served, but for its times,
   which are read back. -/
theorem populated_servedValues
    (textOf : Scalar → String)
    (batch : List Record)
    {r : Record}
    {accountId : String}
    (hAccount : r.get "account_id" = .str accountId) :
    populated textOf (servedValues batch r accountId)
        accountId =
      (do
        let seen ←
          intValue (servedValues batch r accountId)
            "device_first_seen"
        let previous ←
          intValue (servedValues batch r accountId)
            "prev_txn_time_ms"
        pure
          { vectorOf r with
            deviceFirstSeen := seen
            prevTxnTimeMs := previous }) := by
  have hInts := intValue_servedValues batch r accountId
  have hFloats := floatValue_servedValues batch r accountId
  have hTexts :=
    textValue_servedValues batch r accountId textOf
  have hFraud := boolValue_servedValues batch r accountId
  have hOwn : r.textOr "account_id" "" = accountId := by
    rw [Record.textOr, hAccount]
  simp only [countFields, amountFields, textFields,
    placeFields,
    List.forall_mem_cons] at hInts hFloats hTexts
  simp only [populated, hInts, hFloats, hTexts, hFraud,
    vectorOf, zeroFeatureVector, hOwn]
  generalize intValue (servedValues batch r accountId)
    "device_first_seen" = seen
  generalize intValue (servedValues batch r accountId)
    "prev_txn_time_ms" = previous
  cases seen with
  | error e => rfl
  | ok s =>
      cases previous with
      | error e => rfl
      | ok p => rfl

end FraudStream

------------------------------------------------------------
-- The Round Trip
------------------------------------------------------------

namespace FraudStream

open EventStream FeatureServingClient

/- A produced record counts its own transaction. -/
theorem Job.one_le_vel_count_1m
    {config : Job.JobConfig}
    {r : Record}
    (hProduced : Job.Produced config r) :
    1 ≤ r.intOr "vel_count_1m" 0 := by
  rcases hProduced with ⟨inputs, t, d, time, hMem, rfl⟩
  have hGeo := (Job.mem_deviceStream config hMem).1
  have hVelocity := (Job.mem_geoStream config hGeo).1
  rcases (Job.mem_velocityStream config hVelocity).2 with
    ⟨buckets, hEq⟩
  have hOne : 1 ≤ (d.velocity .m1).1 := by
    rw [hEq, Velocity.computeVelocity_addTransaction]
    exact Nat.le_add_left 1 _
  rw [Record.intOr, (feature_fields_assemble time d).1.1]
  exact Int.ofNat_le.2 hOne

/- The features of a produced record are typed. -/
theorem Job.featureTyped_of_produced
    {config : Job.JobConfig}
    {r : Record}
    (hProduced : Job.Produced config r) :
    FeatureTyped r := by
  rcases hProduced with ⟨inputs, t, d, time, -, rfl⟩
  exact featureTyped_assemble time d

/- A time other than null and zero, which is a double unless
   every record of the batch has such a time. -/
def KeepsTime
    (batch : List Record)
    (r : Record)
    (name : String) : Prop :=
  (r.get name).truthy ∧
    (batch.all (fun r' => (r'.get name).truthy) ∨
      PyFloat.ofRat (r.intOr name 0) =
        .finite (r.intOr name 0))

instance
    (batch : List Record)
    (r : Record)
    (name : String) :
    Decidable (KeepsTime batch r name) := by
  unfold KeepsTime
  infer_instance

/- Alone in its batch, a time is kept unless it is null. -/
theorem keepsTime_single_iff
    (r : Record)
    (name : String) :
    KeepsTime [r] r name ↔ (r.get name).truthy := by
  unfold KeepsTime
  constructor
  · exact And.left
  · intro hKnown
    exact ⟨hKnown, .inl (by simpa using hKnown)⟩

/- A known time is read back exactly when it is kept. -/
theorem intValue_time_iff
    (batch : List Record)
    {r : Record}
    (accountId : String)
    {name : String}
    (hTime : name ∈ timeFields)
    (hTyped :
      ∃ n : Option Int, r.get name = .ofOption .int n)
    (hKnown : (r.get name).truthy) :
    intValue (servedValues batch r accountId) name =
        .ok (r.intOr name 0) ↔
      KeepsTime batch r name := by
  have hValue :
      (servedValues batch r accountId).get name =
        frameTime batch r name := by
    rw [get_servedValues]
    simp only [timeFields, List.mem_cons, List.not_mem_nil,
      or_false] at hTime
    rcases hTime with rfl | rfl <;>
      simp [servedFeatures, servedVelocity, servedGeo,
        servedDevice, Dict.lookupEntries]
  have hNonzero : r.intOr name 0 ≠ 0 := by
    rcases hTyped with ⟨n, hField⟩
    rw [hField] at hKnown
    rw [Record.intOr_of_get hField]
    cases n with
    | none => cases hKnown
    | some n =>
        simpa [Scalar.ofOption, Scalar.truthy] using hKnown
  rw [frameTime, Record.intOrNull, if_pos hKnown] at hValue
  unfold KeepsTime
  simp only [hKnown, true_and]
  by_cases hAll : batch.all (fun r' => (r'.get name).truthy)
  · have hNone :
        batch.any (fun r' => !(r'.get name).truthy) =
          false := by
      simpa using hAll
    rw [hNone] at hValue
    exact iff_of_true (intValue_of_get hValue) (.inl hAll)
  · have hSome :
        batch.any (fun r' => !(r'.get name).truthy) =
          true := by
      simpa using hAll
    rw [hSome] at hValue
    rw [intValue_of_double hValue hNonzero]
    simp [hAll]

section Served

variable
  {r raw : Record}
  {accountId : String}
  {batch : List Record}
  (hAccount : r.get "account_id" = .str accountId)
  (hValues : valuesOf raw = servedValues batch r accountId)
  (textOf : Scalar → String)

include hValues

/- With a null time the zero vector is served. -/
theorem getFeatures_of_null_time
    (hNull :
      ¬ ((r.get "device_first_seen").truthy ∧
        (r.get "prev_txn_time_ms").truthy)) :
    (getFeatures textOf true (.features raw) accountId).1 =
      zeroFor accountId := by
  have hSome :
      anyNone (servedValues batch r accountId) = true :=
    Bool.of_not_eq_false
      ((anyNone_servedValues_iff batch r
        accountId).not.2 hNull)
  simp only [getFeatures, hValues, allNone_servedValues,
    hSome, Bool.not_true, Bool.false_eq_true, if_false,
    if_true]

include hAccount

/- With known times the vector of the record is served, but
   for the times that are read back. -/
theorem getFeatures_of_known_times
    (hSeen : (r.get "device_first_seen").truthy)
    (hPrevious : (r.get "prev_txn_time_ms").truthy) :
    (getFeatures textOf true (.features raw) accountId).1 =
      match
        intValue (servedValues batch r accountId)
            "device_first_seen",
        intValue (servedValues batch r accountId)
            "prev_txn_time_ms" with
      | .ok seen, .ok previous =>
          { vectorOf r with
            deviceFirstSeen := seen
            prevTxnTimeMs := previous }
      | _, _ => zeroFor accountId := by
  have hNone :=
    (anyNone_servedValues_iff batch r accountId).2
      ⟨hSeen, hPrevious⟩
  simp only [getFeatures, hValues, allNone_servedValues,
    hNone, Bool.not_true, Bool.false_eq_true, if_false,
    populated_servedValues textOf batch hAccount]
  cases intValue (servedValues batch r accountId)
    "device_first_seen" with
  | error e => rfl
  | ok seen =>
      cases intValue (servedValues batch r accountId)
        "prev_txn_time_ms" with
      | error e => rfl
      | ok previous => rfl

/- The vector of the record is served when it keeps both
   times. -/
theorem getFeatures_of_keepsTime
    (hTyped :
      ∀ name ∈ timeFields,
        ∃ n : Option Int, r.get name = .ofOption .int n)
    (hKeeps : ∀ name ∈ timeFields, KeepsTime batch r name) :
    (getFeatures textOf true (.features raw) accountId).1 =
      vectorOf r := by
  have hRead :
      ∀ name ∈ timeFields,
        intValue (servedValues batch r accountId) name =
          .ok (r.intOr name 0) := by
    intro name hTime
    exact
      (intValue_time_iff batch accountId hTime
        (hTyped name hTime) (hKeeps name hTime).1).2
        (hKeeps name hTime)
  simp only [timeFields, List.forall_mem_cons] at hKeeps
  simp only [timeFields, List.forall_mem_cons] at hRead
  rw [getFeatures_of_known_times hAccount hValues textOf
    hKeeps.1.1 hKeeps.2.1.1, hRead.1, hRead.2.1]
  rfl

/- And only then, unless it is the zero vector. -/
theorem keepsTime_of_getFeatures
    (hTyped :
      ∀ name ∈ timeFields,
        ∃ n : Option Int, r.get name = .ofOption .int n)
    (hNonzero : vectorOf r ≠ zeroFor accountId)
    (hServed :
      (getFeatures textOf true (.features raw)
        accountId).1 = vectorOf r) :
    ∀ name ∈ timeFields, KeepsTime batch r name := by
  have hKnown :
      (r.get "device_first_seen").truthy ∧
        (r.get "prev_txn_time_ms").truthy := by
    by_contra hNull
    rw [getFeatures_of_null_time hValues textOf hNull]
      at hServed
    exact hNonzero hServed.symm
  have hKeeps :
      ∀ name ∈ timeFields, (r.get name).truthy →
        intValue (servedValues batch r accountId) name =
          .ok (r.intOr name 0) →
        KeepsTime batch r name := by
    intro name hTime hTruthy
    exact
      (intValue_time_iff batch accountId hTime
        (hTyped name hTime) hTruthy).1
  rw [getFeatures_of_known_times hAccount hValues textOf
    hKnown.1 hKnown.2] at hServed
  simp only [timeFields, List.forall_mem_cons] at hKeeps ⊢
  cases hSeen :
      intValue (servedValues batch r accountId)
        "device_first_seen" with
  | error e =>
      rw [hSeen] at hServed
      exact absurd hServed.symm hNonzero
  | ok seen =>
      cases hPrevious :
          intValue (servedValues batch r accountId)
            "prev_txn_time_ms" with
      | error e =>
          rw [hSeen, hPrevious] at hServed
          exact absurd hServed.symm hNonzero
      | ok previous =>
          rw [hSeen, hPrevious] at hServed
          have hSeenEq :
              seen = r.intOr "device_first_seen" 0 :=
            congrArg FeatureVector.deviceFirstSeen hServed
          have hPreviousEq :
              previous = r.intOr "prev_txn_time_ms" 0 :=
            congrArg FeatureVector.prevTxnTimeMs hServed
          exact
            ⟨hKeeps.1 hKnown.1 (hSeenEq ▸ hSeen),
              hKeeps.2.1 hKnown.2
                (hPreviousEq ▸ hPrevious),
              List.forall_mem_nil _⟩

end Served

/- The zero vector is not the vector of a produced record. -/
theorem Job.vectorOf_ne_zeroFor
    {config : Job.JobConfig}
    {r : Record}
    (hProduced : Job.Produced config r)
    (accountId : String) :
    vectorOf r ≠ zeroFor accountId := by
  intro hEq
  have hZero : r.intOr "vel_count_1m" 0 = 0 :=
    congrArg FeatureVector.velCount1m hEq
  have hOne := Job.one_le_vel_count_1m hProduced
  omega

/-
  The vector of a produced record is served after its last
  push exactly when its device was seen and had a previous
  transaction, both at a time other than zero that the frame
  of its batch keeps.
-/
theorem served_vector_iff
    {config : Job.JobConfig}
    {r : Record}
    (hProduced : Job.Produced config r)
    {accountId : String}
    {batch : List Record}
    {store : OnlineStore}
    (hLast : LastPushed r accountId batch store)
    (textOf : Scalar → String) :
    (getFeatures textOf true
        (.features
          (store.getOnlineFeatures featureRefs accountId))
        accountId).1 = vectorOf r ↔
      ∀ name ∈ timeFields, KeepsTime batch r name := by
  have hTyped := Job.featureTyped_of_produced hProduced
  have hNonzero :=
    Job.vectorOf_ne_zeroFor hProduced accountId
  have hValues :
      valuesOf
          (store.getOnlineFeatures featureRefs accountId) =
        servedValues batch r accountId := by
    rw [getOnlineFeatures_of_lastPushed hLast hTyped]
    rfl
  have hTimes :
      ∀ name ∈ timeFields,
        ∃ n : Option Int, r.get name = .ofOption .int n := by
    intro name hTime
    exact hTyped.ints name (by simp [intFields, hTime])
  constructor
  · exact
      keepsTime_of_getFeatures hLast.account hValues textOf
        hTimes hNonzero
  · exact
      getFeatures_of_keepsTime hLast.account hValues textOf
        hTimes

end FraudStream

------------------------------------------------------------
-- A Device Seen Once And Twice
------------------------------------------------------------

namespace FraudStream

open EventStream EventTime FeatureMaterializer
open FeatureServingClient

/- All groups of a batch are pushed to a new store. -/
theorem exists_lastPushed
    {before : List Record}
    {r : Record}
    {accountId : String}
    (hAccount : r.get "account_id" = .str accountId)
    (hPushed :
      (materialize (fun _ => true)
          (before ++ [r])).toOption.any
        (fun pushes =>
          pushes.map (·.sourceName) =
            featureGroups.map Prod.fst)) :
    ∃ store, LastPushed r accountId (before ++ [r]) store := by
  rcases (Option.any_eq_true ..).1 hPushed with
    ⟨pushes, hSome, hAll⟩
  cases hOk : materialize (fun _ => true) (before ++ [r]) with
  | error e =>
      rw [hOk] at hSome
      cases hSome
  | ok pushes' =>
      rw [hOk] at hSome
      cases hSome
      refine ⟨pushes, hAccount, ?_⟩
      exact
        ⟨fun _ => true, before, [], [], pushes, [], rfl, hOk,
          by simpa using hAll, by simp, by simp, by simp⟩

/- The first transaction of a device is pushed, and the zero
   vector is served for its account. -/
theorem first_transaction_is_not_served :
    Job.Produced Job.sampleConfig Job.sampleRecord ∧
      ∃ store,
        LastPushed Job.sampleRecord "acc-001"
            [Job.sampleRecord] store ∧
          ∀ textOf,
            (getFeatures textOf true
                (.features
                  (store.getOnlineFeatures featureRefs
                    "acc-001"))
                "acc-001").1 = zeroFor "acc-001" ∧
              zeroFor "acc-001" ≠
                vectorOf Job.sampleRecord := by
  have hFields :
      Job.sampleRecord.get "account_id" = .str "acc-001" ∧
        Job.sampleRecord.get "prev_txn_time_ms" = .none := by
    decide +kernel
  have hProduced := Job.produced_sampleRecord
  have hStored :
      ∃ store,
        LastPushed Job.sampleRecord "acc-001"
          ([] ++ [Job.sampleRecord]) store :=
    exists_lastPushed hFields.1 (by decide +kernel)
  rcases hStored with ⟨store, hLast⟩
  refine ⟨hProduced, store, hLast, ?_⟩
  intro textOf
  have hTyped := Job.featureTyped_of_produced hProduced
  have hValues :
      valuesOf
          (store.getOnlineFeatures featureRefs "acc-001") =
        servedValues [Job.sampleRecord] Job.sampleRecord
          "acc-001" := by
    rw [getOnlineFeatures_of_lastPushed hLast hTyped]
    rfl
  refine
    ⟨getFeatures_of_null_time hValues textOf ?_,
      (Job.vectorOf_ne_zeroFor hProduced _).symm⟩
  rw [hFields.2]
  exact fun hKnown => Bool.false_ne_true hKnown.2

/- The Avro record of a second transaction, at time 6. -/
def secondAvro : List UInt8 :=
  [10, 116, 120, 110, 45, 50] ++
    (Job.sampleAvro.drop 6).take 26 ++ [12, 12] ++
    Job.sampleAvro.drop 34

/- A reader that knows both records. -/
def twoReader
    (bytes : List UInt8) : Except String RawTransaction :=
  if bytes = secondAvro then
    .ok (sampleTransaction "txn-2" 6)
  else
    Job.sampleReader bytes

def twoConfig : Job.JobConfig :=
  { Job.sampleConfig with schemalessReader := twoReader }

/- Both messages, stamped with their event times. -/
def twoMessages : List Job.SourceInput :=
  [.message 5 Job.samplePayload,
    .message 6 ([0, 0, 0, 0, 1] ++ secondAvro)]

/- The second transaction after the device operator. -/
def secondEnriched : DeviceEnriched where
  txn := sampleTransaction "txn-2" 6
  velocity :=
    Velocity.computeVelocity
      (Velocity.addTransaction
        (Velocity.addTransaction Dict.empty 5 10) 6 10)
      (Velocity.bucketKey 6)
  geo := nullGeoFields
  device :=
    { deviceFirstSeen := some 5
      deviceTxnCount := some 2
      deviceKnownFraud := some false
      prevGeoCountry := none
      prevTxnTimeMs := some 5 }

def secondRecord : Record :=
  assemble 1000 secondEnriched

theorem produced_secondRecord :
    Job.Produced twoConfig secondRecord := by
  have hRead :
      Job.txnStream twoConfig twoMessages =
        [.element 5 (sampleTransaction "txn-1" 5),
          .element 6 (sampleTransaction "txn-2" 6)] := by
    decide +kernel
  have hDedup :
      Job.dedupStream twoConfig twoMessages =
        [.element 5 (sampleTransaction "txn-1" 5),
          .element 6 (sampleTransaction "txn-2" 6)] := by
    rw [Job.dedupStream, hRead]
    rfl
  have hDevice :
      ∃ first, Job.deviceStream twoConfig twoMessages =
        [.element 5 first, .element 6 secondEnriched] := by
    rw [Job.deviceStream, Job.geoStream,
      Job.velocityStream, Job.velocityOutputs, hDedup]
    exact ⟨_, rfl⟩
  rcases hDevice with ⟨first, hDevice⟩
  refine
    ⟨twoMessages, 6, secondEnriched, 1000, ?_, rfl⟩
  rw [hDevice]
  simp [elements]

/- The second transaction of a device is served, in a batch
   with the first: its time is read back from a double. -/
theorem second_transaction_is_served :
    ∃ store,
      LastPushed secondRecord "acc-001"
          [Job.sampleRecord, secondRecord] store ∧
        ∀ textOf,
          (getFeatures textOf true
              (.features
                (store.getOnlineFeatures featureRefs
                  "acc-001"))
              "acc-001").1 = vectorOf secondRecord := by
  have hAccount :
      secondRecord.get "account_id" = .str "acc-001" := by
    decide +kernel
  have hStored :
      ∃ store,
        LastPushed secondRecord "acc-001"
          ([Job.sampleRecord] ++ [secondRecord]) store :=
    exists_lastPushed hAccount (by decide +kernel)
  have hTimes :
      ∀ name ∈ timeFields,
        secondRecord.get name = .int 5 := by
    decide +kernel
  have hDouble : PyFloat.ofRat (5 : Int) = .finite (5 : Int) :=
    PyFloat.ofRat_intCast (by norm_num)
  rcases hStored with ⟨store, hLast⟩
  refine ⟨store, hLast, ?_⟩
  intro textOf
  apply
    (served_vector_iff produced_secondRecord hLast textOf).2
  intro name hName
  have hValue := hTimes name hName
  refine ⟨?_, .inr ?_⟩
  · rw [hValue]
    rfl
  · rw [Record.intOr, hValue]
    exact hDouble

end FraudStream
