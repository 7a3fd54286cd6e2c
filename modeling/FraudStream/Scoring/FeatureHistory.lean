import FraudStream.Scoring.FeatureRoundTrip

/-
  What is served after a history of calls of the
  materializer, each with one record and with its own
  refused pushes.

  The pushes of a call fail one by one, so each group is
  served from the last call whose push of the group was
  stored. Each group of a served vector comes from one
  record, and the three groups come from the same record
  when one call stored all of them last.

  Key definitions include:
    * `MaterializeCall`
    * `storeAfter`
    * `lastStored?`
    * `mix`

  The main results are:
    * `lastStored_of_calls`
    * `getFeatures_of_lastStored`
    * `served_groups_of_calls`
-/

------------------------------------------------------------
-- Calls Of The Materializer
------------------------------------------------------------

namespace FraudStream

open FallibleList FeatureMaterializer LastWrite

/- A call with one record, and the tables that the store
   takes during the call. -/
structure MaterializeCall where
  accepts : FeaturePush → Bool
  record : Record

/- The tables that a call stores. A call that raises stores
   none. -/
def MaterializeCall.pushes
    (call : MaterializeCall) : List FeaturePush :=
  match materialize call.accepts [call.record] with
  | .ok pushes => pushes
  | .error _ => []

def storeAfter
    (calls : List MaterializeCall) : OnlineStore :=
  calls.flatMap (·.pushes)

/- A push of the group was stored. -/
def MaterializeCall.stores
    (group : String × List ColumnSpec)
    (call : MaterializeCall) : Bool :=
  call.pushes.any (fun push => push.sourceName = group.1)

/- The record of the last call that stored the group. -/
def lastStored?
    (group : String × List ColumnSpec)
    (calls : List MaterializeCall) : Option Record :=
  (calls.reverse.find? (·.stores group)).map (·.record)

/- A call pushes some of the groups, in their order. -/
theorem MaterializeCall.pushes_of_stores
    {group : String × List ColumnSpec}
    {call : MaterializeCall}
    (hStores : call.stores group) :
    call.pushes =
      featureGroups.filterMap
        (pushed? call.accepts [call.record]) := by
  rcases List.any_eq_true.1 hStores with ⟨push, hMem, -⟩
  unfold pushes materialize at hMem ⊢
  simp only [List.isEmpty_cons, Bool.false_eq_true,
    if_false] at hMem ⊢
  cases hTimes : [call.record].mapM eventTimestamp with
  | error e => simp [hTimes] at hMem
  | ok times => rfl

/- Tables that are pushed for groups with other sources. -/
theorem other_source_of_pushed
    {accepts : FeaturePush → Bool}
    {records : List Record}
    {groups : List (String × List ColumnSpec)}
    {source : String}
    (hOther : ∀ other ∈ groups, source ≠ other.1) :
    ∀ push ∈ groups.filterMap (pushed? accepts records),
      push.sourceName ≠ source := by
  intro push hMem
  rcases List.mem_filterMap.1 hMem with
    ⟨other, hGroup, hPushed⟩
  rw [(pushed?_eq_some hPushed).1]
  exact (hOther other hGroup).symm

/- The table of a group among the tables of a call. -/
theorem MaterializeCall.pushes_split
    {group : String × List ColumnSpec}
    (hGroup : group ∈ featureGroups)
    {call : MaterializeCall}
    (hStores : call.stores group) :
    ∃ tables push tables',
      call.pushes = tables ++ push :: tables' ∧
        pushed? call.accepts [call.record] group =
          some push ∧
        ∀ table ∈ tables', table.sourceName ≠ group.1 := by
  have hPushes := pushes_of_stores hStores
  rcases List.append_of_mem hGroup with
    ⟨groups, groups', hGroups⟩
  have hLater := source_ne_of_split hGroups
  rw [hGroups, List.filterMap_append,
    List.filterMap_cons] at hPushes
  cases hPushed :
      pushed? call.accepts [call.record] group with
  | some push =>
      rw [hPushed] at hPushes
      exact
        ⟨_, push, _, hPushes, rfl,
          other_source_of_pushed hLater⟩
  | none =>
      -- No table of the call would have the group's source.
      exfalso
      have hEarlier :
          ∀ other ∈ groups, group.1 ≠ other.1 := by
        intro other hMem hEq
        have hNodup := nodup_sources
        rw [hGroups, List.map_append, List.nodup_append]
          at hNodup
        exact
          hNodup.2.2 _ (List.mem_map_of_mem hMem) _
            (by simp) hEq.symm
      rw [hPushed] at hPushes
      rcases List.any_eq_true.1 hStores with
        ⟨push, hMem, hName⟩
      rw [hPushes] at hMem
      rcases List.mem_append.1 hMem with hBefore | hAfter
      · exact
          other_source_of_pushed hEarlier push hBefore
            (of_decide_eq_true hName)
      · exact
          other_source_of_pushed hLater push hAfter
            (of_decide_eq_true hName)

/- A call that does not store a group pushes no table of its
   source. -/
theorem MaterializeCall.other_source_of_not_stores
    {group : String × List ColumnSpec}
    {call : MaterializeCall}
    (hStores : call.stores group = false) :
    ∀ push ∈ call.pushes, push.sourceName ≠ group.1 := by
  intro push hMem hName
  have hNone := List.any_eq_false.1 hStores push hMem
  exact hNone (decide_eq_true hName)

/- The tables of calls that do not store a group. -/
theorem other_source_of_calls
    {group : String × List ColumnSpec}
    {calls : List MaterializeCall}
    (hNone : ∀ call ∈ calls, call.stores group = false) :
    ∀ push ∈ storeAfter calls, push.sourceName ≠ group.1 := by
  intro push hMem
  rcases List.mem_flatMap.1 hMem with ⟨call, hCall, hPush⟩
  exact
    MaterializeCall.other_source_of_not_stores
      (hNone call hCall) push hPush

/- A group is stored last by the last call that stores it. -/
theorem lastStored_of_calls
    {group : String × List ColumnSpec}
    (hGroup : group ∈ featureGroups)
    {calls : List MaterializeCall}
    {accountId : String}
    (hAccount :
      ∀ call ∈ calls,
        call.record.get "account_id" = .str accountId)
    {r : Record}
    (hLast : lastStored? group calls = some r) :
    LastStored group r accountId [r] (storeAfter calls) := by
  rcases Option.map_eq_some_iff.1 hLast with
    ⟨call, hFind, rfl⟩
  rcases List.find?_eq_some_iff_append.1 hFind with
    ⟨hStores, after, before, hSplit, hAfter⟩
  have hCalls :
      calls = before.reverse ++ call :: after.reverse := by
    have hReverse := congrArg List.reverse hSplit
    simpa using hReverse
  rcases MaterializeCall.pushes_split hGroup hStores with
    ⟨tables, push, tables', hPushes, hPushed, hTables'⟩
  refine
    ⟨hAccount call (by simp [hCalls]), call.accepts, [], [],
      storeAfter before.reverse ++ tables, push,
      tables' ++ storeAfter after.reverse, rfl, hPushed,
      by simp, ?_, ?_⟩
  · rw [hCalls, storeAfter, List.flatMap_append,
      List.flatMap_cons, hPushes]
    simp [storeAfter]
  · intro table hMem
    apply writes_of_other
    rcases List.mem_append.1 hMem with hSame | hLater
    · exact hTables' table hSame
    · refine other_source_of_calls ?_ table hLater
      intro c hCall
      simpa using hAfter c (List.mem_reverse.1 hCall)

/- A field of a group that no call stored reads as null. -/
theorem readField_of_never_stored
    {group : String × List ColumnSpec}
    {calls : List MaterializeCall}
    (hNever : lastStored? group calls = none)
    {ref : FeatureRef}
    (hSource : ref.source = group.1)
    (accountId : String) :
    (storeAfter calls).readField accountId ref = .none := by
  have hNone :
      ∀ call ∈ calls, call.stores group = false := by
    have hFind := Option.map_eq_none_iff.1 hNever
    intro call hMem
    simpa using
      List.find?_eq_none.1 hFind call
        (List.mem_reverse.2 hMem)
  have hUnwritten :
      ∀ e ∈ OnlineStore.log (storeAfter calls),
        e.1 ≠ (group.1, Scalar.str accountId) := by
    intro e hMem
    rcases List.mem_flatMap.1 hMem with
      ⟨push, hPush, hWrite⟩
    exact
      writes_of_other (other_source_of_calls hNone push hPush)
        _ e hWrite
  rw [OnlineStore.readField, hSource,
    read_of_unwritten hUnwritten]
  rfl

end FraudStream

------------------------------------------------------------
-- Vectors Of Several Records
------------------------------------------------------------

namespace FraudStream

open FeatureServingClient

/- The fields of the three groups of a vector. -/
def FeatureVector.velocity
    (v : FeatureVector) : List (Int × PyFloat) :=
  [(v.velCount1m, v.velAmount1m),
    (v.velCount5m, v.velAmount5m),
    (v.velCount1h, v.velAmount1h),
    (v.velCount24h, v.velAmount24h)]

def FeatureVector.geo
    (v : FeatureVector) :
    String × String × String × PyFloat :=
  (v.geoCountry, v.geoCity, v.geoNetworkClass,
    v.geoConfidence)

def FeatureVector.device
    (v : FeatureVector) :
    Int × Int × Bool × String × Int :=
  (v.deviceFirstSeen, v.deviceTxnCount, v.deviceKnownFraud,
    v.prevGeoCountry, v.prevTxnTimeMs)

def velocityFields : List String :=
  velocityRefs.map (·.field)

def geoFields : List String :=
  geoRefs.map (·.field)

def deviceFields : List String :=
  deviceRefs.map (·.field)

/- A record with the velocity fields of one record, the
   geolocation fields of another and the device fields of a
   third. -/
def mix (rv rg rd : Record) : Record :=
  .ofList
    (("account_id", rv.get "account_id") ::
      (velocityFields.map (fun f => (f, rv.get f)) ++
        geoFields.map (fun f => (f, rg.get f)) ++
        deviceFields.map (fun f => (f, rd.get f))))

theorem nodup_mix
    (rv rg rd : Record) :
    ((("account_id", rv.get "account_id") ::
      (velocityFields.map (fun f => (f, rv.get f)) ++
        geoFields.map (fun f => (f, rg.get f)) ++
        deviceFields.map (fun f => (f, rd.get f)))).map
      Prod.fst).Nodup := by
  have hNames :
      ("account_id" ::
        (velocityFields ++ geoFields ++ deviceFields)).Nodup := by
    decide
  simpa [Function.comp_def] using hNames

/- The entries of a mixed record have distinct names, so each
   field reads from the record of its group. -/
theorem get_mix
    (rv rg rd : Record) :
    (mix rv rg rd).get "account_id" =
        rv.get "account_id" ∧
      (∀ f ∈ velocityFields,
        (mix rv rg rd).get f = rv.get f) ∧
      (∀ f ∈ geoFields, (mix rv rg rd).get f = rg.get f) ∧
      ∀ f ∈ deviceFields,
        (mix rv rg rd).get f = rd.get f := by
  have hRead :
      ∀ f,
        (mix rv rg rd).get f =
          if f = "account_id" then
            rv.get "account_id"
          else if f ∈ velocityFields then
            rv.get f
          else if f ∈ geoFields then
            rg.get f
          else if f ∈ deviceFields then
            rd.get f
          else
            .none := by
    intro f
    rw [Record.get, mix, Dict.get?_ofList (nodup_mix rv rg rd),
      Dict.lookupEntries, Dict.lookupEntries_append,
      Dict.lookupEntries_append, Dict.lookupEntries_graph,
      Dict.lookupEntries_graph, Dict.lookupEntries_graph]
    split
    · rfl
    · split
      · rfl
      · split
        · rfl
        · split <;> rfl
  have hGeo :
      ∀ f ∈ geoFields,
        f ≠ "account_id" ∧ f ∉ velocityFields := by
    decide
  have hDevice :
      ∀ f ∈ deviceFields,
        f ≠ "account_id" ∧ f ∉ velocityFields ∧
          f ∉ geoFields := by
    decide
  have hVelocity :
      ∀ f ∈ velocityFields, f ≠ "account_id" := by
    decide
  refine ⟨?_, ?_, ?_, ?_⟩
  · rw [hRead, if_pos rfl]
  · intro f hf
    rw [hRead, if_neg (hVelocity f hf), if_pos hf]
  · intro f hf
    rw [hRead, if_neg (hGeo f hf).1, if_neg (hGeo f hf).2,
      if_pos hf]
  · intro f hf
    rw [hRead, if_neg (hDevice f hf).1,
      if_neg (hDevice f hf).2.1, if_neg (hDevice f hf).2.2,
      if_pos hf]

/- What is served of a mixed record is served of its three
   records. -/
theorem servedFeatures_mix
    (rv rg rd : Record) :
    servedFeatures [mix rv rg rd] (mix rv rg rd) =
      servedVelocity rv ++ servedGeo rg ++
        servedDevice [rd] rd := by
  rcases get_mix rv rg rd with ⟨-, hVel, hGeo, hDev⟩
  simp only [velocityFields, geoFields, deviceFields,
    velocityRefs, geoRefs, deviceRefs, List.map_cons,
    List.map_nil, List.forall_mem_cons] at hVel hGeo hDev
  simp [servedVelocity, servedGeo, servedDevice,
    servedFeatures, frameTime_single, Record.intOr,
    Record.floatOr, Record.textOr, Record.boolOr,
    Record.intOrNull, hVel, hGeo, hDev]

/- The vector of a mixed record has the groups of the
   vectors of its three records. -/
theorem vectorOf_mix
    (rv rg rd : Record) :
    (vectorOf (mix rv rg rd)).accountId =
        (vectorOf rv).accountId ∧
      (vectorOf (mix rv rg rd)).velocity =
        (vectorOf rv).velocity ∧
      (vectorOf (mix rv rg rd)).geo = (vectorOf rg).geo ∧
      (vectorOf (mix rv rg rd)).device =
        (vectorOf rd).device := by
  rcases get_mix rv rg rd with ⟨hAccount, hVel, hGeo, hDev⟩
  simp only [velocityFields, geoFields, deviceFields,
    velocityRefs, geoRefs, deviceRefs, List.map_cons,
    List.map_nil, List.forall_mem_cons] at hVel hGeo hDev
  simp [vectorOf, FeatureVector.velocity,
    FeatureVector.geo, FeatureVector.device, Record.intOr,
    Record.floatOr, Record.textOr, Record.boolOr, hAccount,
    hVel, hGeo, hDev]

/- Vectors with the same groups are the same vector. -/
theorem FeatureVector.ext_groups
    {v w : FeatureVector}
    (hAccount : v.accountId = w.accountId)
    (hVelocity : v.velocity = w.velocity)
    (hGeo : v.geo = w.geo)
    (hDevice : v.device = w.device) :
    v = w := by
  cases v
  cases w
  simp_all [velocity, geo, device]

end FraudStream

------------------------------------------------------------
-- What Is Served After The Calls
------------------------------------------------------------

namespace FraudStream

open FeatureMaterializer FeatureServingClient

/- What the client gets from the store: its features of the
   account, or none in time. -/
def FeatureServingClient.StoreResponse.Answers
    (store : OnlineStore)
    (accountId : String) :
    FeatureServingClient.StoreResponse → Prop
| .features raw =>
    raw = store.getOnlineFeatures featureRefs accountId
| .timeout => True
| .failure _ => True

/- The three groups, by the push source of each. -/
def velocityGroup : String × List ColumnSpec :=
  ("velocity_push_source", velocityColumns)

def geoGroup : String × List ColumnSpec :=
  ("geo_push_source", geoColumns)

def deviceGroup : String × List ColumnSpec :=
  ("device_push_source", deviceColumns)

/- A response with a null is served as the zero vector. -/
theorem getFeatures_of_null
    {store : OnlineStore}
    {accountId : String}
    {ref : FeatureRef}
    (hRef : ref ∈ featureRefs)
    (hNull : store.readField accountId ref = .none)
    (textOf : Scalar → String) :
    (getFeatures textOf true
        (.features
          (store.getOnlineFeatures featureRefs accountId))
        accountId).1 = zeroFor accountId := by
  have hEntries :
      (valuesOf
          (store.getOnlineFeatures featureRefs
            accountId)).entries =
        featureRefs.map (fun ref =>
          (ref.field, store.readField accountId ref)) := by
    apply entries_valuesOf
    simp [featureRefs, velocityRefs, geoRefs, deviceRefs]
  have hAny :
      anyNone
          (valuesOf
            (store.getOnlineFeatures featureRefs
              accountId)) = true := by
    rw [anyNone, hEntries, List.any_eq_true]
    exact
      ⟨_, List.mem_map.2 ⟨ref, hRef, rfl⟩,
        decide_eq_true hNull⟩
  simp only [getFeatures, Bool.not_true, Bool.false_eq_true,
    if_false, hAny, if_true]
  split <;> rfl

/- The groups of a served vector are those of the records
   that were stored last. -/
theorem getFeatures_of_lastStored
    {rv rg rd : Record}
    {accountId : String}
    {store : OnlineStore}
    (hVelocity :
      LastStored velocityGroup rv accountId [rv] store)
    (hGeo : LastStored geoGroup rg accountId [rg] store)
    (hDevice :
      LastStored deviceGroup rd accountId [rd] store)
    (hTypedV : FeatureTyped rv)
    (hTypedG : FeatureTyped rg)
    (hTypedD : FeatureTyped rd)
    (textOf : Scalar → String) :
    (getFeatures textOf true
        (.features
          (store.getOnlineFeatures featureRefs accountId))
        accountId).1 =
      if (rd.get "device_first_seen").truthy ∧
          (rd.get "prev_txn_time_ms").truthy then
        vectorOf (mix rv rg rd)
      else
        zeroFor accountId := by
  rcases get_mix rv rg rd with ⟨hAccount, -, -, hDev⟩
  have hSeen := hDev "device_first_seen" (by decide)
  have hPrevious := hDev "prev_txn_time_ms" (by decide)
  have hValues :
      valuesOf
          (store.getOnlineFeatures featureRefs accountId) =
        servedValues [mix rv rg rd] (mix rv rg rd)
          accountId := by
    rw [getOnlineFeatures_of_lastStored hVelocity hGeo
      hDevice hTypedV hTypedG hTypedD, servedValues,
      servedFeatures_mix]
  have hTimes :
      ∀ name ∈ timeFields, ∃ n : Option Int,
        (mix rv rg rd).get name = .ofOption .int n := by
    simp only [timeFields, List.forall_mem_cons, hSeen,
      hPrevious]
    exact
      ⟨hTypedD.ints _ (by simp [intFields, timeFields]),
        hTypedD.ints _ (by simp [intFields, timeFields]),
        List.forall_mem_nil _⟩
  rw [← hSeen, ← hPrevious]
  split
  · rename_i hKnown
    apply
      getFeatures_of_keepsTime
        (hAccount.trans hVelocity.account) hValues textOf
        hTimes
    simp only [timeFields, List.forall_mem_cons,
      keepsTime_single_iff]
    exact ⟨hKnown.1, hKnown.2, List.forall_mem_nil _⟩
  · rename_i hUnknown
    exact getFeatures_of_null_time hValues textOf hUnknown

end FraudStream

namespace FraudStream

open FeatureMaterializer FeatureServingClient

/- The groups of the store are the groups of the vector. -/
theorem groups_mem_featureGroups :
    velocityGroup ∈ featureGroups ∧
      geoGroup ∈ featureGroups ∧
      deviceGroup ∈ featureGroups :=
  ⟨velocity_mem_featureGroups, geo_mem_featureGroups,
    device_mem_featureGroups⟩

/- A vector other than zero is served from the store. -/
theorem answers_of_served
    {textOf : Scalar → String}
    {opened : Bool}
    {response : StoreResponse}
    {store : OnlineStore}
    {accountId : String}
    (hAnswers : response.Answers store accountId)
    (hServed :
      (getFeatures textOf opened response accountId).1 ≠
        zeroFor accountId) :
    opened = true ∧
      response =
        .features
          (store.getOnlineFeatures featureRefs
            accountId) := by
  cases opened with
  | false => exact absurd rfl hServed
  | true =>
      cases response with
      | features raw => exact ⟨rfl, congrArg _ hAnswers⟩
      | timeout => exact absurd rfl hServed
      | failure exc => exact absurd rfl hServed

/- Every field of a feature group reads as null unless some
   call stored the group. -/
theorem exists_lastStored_of_served
    {group : String × List ColumnSpec}
    {calls : List MaterializeCall}
    {accountId : String}
    {textOf : Scalar → String}
    (hServed :
      (getFeatures textOf true
          (.features
            ((storeAfter calls).getOnlineFeatures
              featureRefs accountId))
          accountId).1 ≠ zeroFor accountId)
    (ref : FeatureRef)
    (hRef : ref ∈ featureRefs)
    (hSource : ref.source = group.1) :
    ∃ r, lastStored? group calls = some r := by
  rw [← Option.ne_none_iff_exists']
  intro hNever
  have hNull :=
    readField_of_never_stored hNever hSource accountId
  exact hServed (getFeatures_of_null hRef hNull textOf)

/- The last record of a group is that of a call. -/
theorem mem_of_lastStored
    {group : String × List ColumnSpec}
    {calls : List MaterializeCall}
    {r : Record}
    (hLast : lastStored? group calls = some r) :
    ∃ call ∈ calls, call.record = r := by
  rcases Option.map_eq_some_iff.1 hLast with
    ⟨call, hFind, hRecord⟩
  have hMem := List.mem_of_find?_eq_some hFind
  exact ⟨call, List.mem_reverse.1 hMem, hRecord⟩

/- A call that stores a group is the last to store it when no
   later call does. -/
theorem lastStored_of_split
    {group : String × List ColumnSpec}
    (before : List MaterializeCall)
    {after : List MaterializeCall}
    {call : MaterializeCall}
    (hStores : call.stores group)
    (hAfter : ∀ c ∈ after, c.stores group = false) :
    lastStored? group (before ++ call :: after) =
      some call.record := by
  have hNone :
      after.reverse.find? (·.stores group) = none := by
    rw [List.find?_eq_none]
    intro c hMem
    simpa using hAfter c (List.mem_reverse.1 hMem)
  simp [lastStored?, List.find?_append, hNone, hStores]

/-
  Each group of a served vector comes from the record of the
  last call that stored the group. When one call stored the
  three groups and no later call stored any, the vector is
  that of its record.
-/
theorem served_groups_of_calls
    {calls : List MaterializeCall}
    {accountId : String}
    (hProduced :
      ∀ call ∈ calls,
        ∃ config, Job.Produced config call.record)
    (hAccount :
      ∀ call ∈ calls,
        call.record.get "account_id" = .str accountId)
    (textOf : Scalar → String)
    (opened : Bool)
    (response : StoreResponse)
    (hAnswers :
      response.Answers (storeAfter calls) accountId)
    (hServed :
      (getFeatures textOf opened response accountId).1 ≠
        zeroFor accountId) :
    let v := (getFeatures textOf opened response accountId).1
    (∃ rv rg rd,
      lastStored? velocityGroup calls = some rv ∧
        lastStored? geoGroup calls = some rg ∧
        lastStored? deviceGroup calls = some rd ∧
        v.velocity = (vectorOf rv).velocity ∧
        v.geo = (vectorOf rg).geo ∧
        v.device = (vectorOf rd).device) ∧
      ∀ before call after,
        calls = before ++ call :: after →
        (∀ group ∈ featureGroups, call.stores group) →
        (∀ c ∈ after, ∀ group ∈ featureGroups,
          c.stores group = false) →
        v = vectorOf call.record := by
  intro v
  rcases answers_of_served hAnswers hServed with ⟨rfl, rfl⟩
  rcases groups_mem_featureGroups with ⟨hV, hG, hD⟩
  have hVelocity :
      ∃ rv, lastStored? velocityGroup calls = some rv :=
    exists_lastStored_of_served hServed
      ⟨"velocity_features", "vel_count_1m"⟩
      (by simp [featureRefs, velocityRefs]) rfl
  have hGeo : ∃ rg, lastStored? geoGroup calls = some rg :=
    exists_lastStored_of_served hServed
      ⟨"geo_features", "geo_city"⟩
      (by simp [featureRefs, geoRefs]) rfl
  have hDevice :
      ∃ rd, lastStored? deviceGroup calls = some rd :=
    exists_lastStored_of_served hServed
      ⟨"device_features", "device_txn_count"⟩
      (by simp [featureRefs, deviceRefs]) rfl
  rcases hVelocity with ⟨rv, hVelocity⟩
  rcases hGeo with ⟨rg, hGeo⟩
  rcases hDevice with ⟨rd, hDevice⟩
  have hTyped :
      ∀ {group r}, lastStored? group calls = some r →
        FeatureTyped r := by
    intro group r hLast
    rcases mem_of_lastStored hLast with ⟨call, hMem, rfl⟩
    rcases hProduced call hMem with ⟨config, hRecord⟩
    exact Job.featureTyped_of_produced hRecord
  have hVector :=
    getFeatures_of_lastStored
      (lastStored_of_calls hV hAccount hVelocity)
      (lastStored_of_calls hG hAccount hGeo)
      (lastStored_of_calls hD hAccount hDevice)
      (hTyped hVelocity) (hTyped hGeo) (hTyped hDevice)
      textOf
  have hMix : v = vectorOf (mix rv rg rd) := by
    split at hVector
    · exact hVector
    · exact absurd hVector hServed
  rcases vectorOf_mix rv rg rd with
    ⟨hOwn, hMixV, hMixG, hMixD⟩
  rw [hMix]
  constructor
  · exact
      ⟨rv, rg, rd, hVelocity, hGeo, hDevice, hMixV, hMixG,
        hMixD⟩
  · intro before call after hCalls hStores hAfter
    have hSame :
        ∀ group ∈ featureGroups,
          lastStored? group calls = some call.record := by
      intro group hGroup
      rw [hCalls]
      exact
        lastStored_of_split before (hStores group hGroup)
          (fun c hMem => hAfter c hMem group hGroup)
    cases hVelocity.symm.trans (hSame _ hV)
    cases hGeo.symm.trans (hSame _ hG)
    cases hDevice.symm.trans (hSame _ hD)
    exact FeatureVector.ext_groups hOwn hMixV hMixG hMixD

end FraudStream

------------------------------------------------------------
-- A Refused Push Of The Velocity Group
------------------------------------------------------------

namespace FraudStream

open FeatureMaterializer FeatureServingClient

/- The first call stores all groups of a record; the push of
   the velocity group fails in the second. -/
def mixedCalls : List MaterializeCall :=
  [⟨fun _ => true, Job.sampleRecord⟩,
    ⟨fun push => push.sourceName ≠ "velocity_push_source",
      secondRecord⟩]

theorem produced_mixedCalls :
    ∀ call ∈ mixedCalls,
      ∃ config, Job.Produced config call.record := by
  simp only [mixedCalls, List.forall_mem_cons]
  exact
    ⟨⟨_, Job.produced_sampleRecord⟩,
      ⟨_, produced_secondRecord⟩, List.forall_mem_nil _⟩

theorem account_mixedCalls :
    ∀ call ∈ mixedCalls,
      call.record.get "account_id" = .str "acc-001" := by
  simp only [mixedCalls, List.forall_mem_cons]
  exact
    ⟨by decide +kernel, by decide +kernel,
      List.forall_mem_nil _⟩

theorem lastStored_mixedCalls :
    lastStored? velocityGroup mixedCalls =
        some Job.sampleRecord ∧
      lastStored? geoGroup mixedCalls = some secondRecord ∧
      lastStored? deviceGroup mixedCalls =
        some secondRecord := by
  let first : MaterializeCall :=
    ⟨fun _ => true, Job.sampleRecord⟩
  let second : MaterializeCall :=
    ⟨fun push => push.sourceName ≠ "velocity_push_source",
      secondRecord⟩
  have hPushed :
      second.pushes.map (·.sourceName) =
        ["geo_push_source", "device_push_source"] := by
    decide +kernel
  have hStores :
      ∀ group,
        second.stores group =
          ["geo_push_source", "device_push_source"].any
            (fun name => name = group.1) := by
    intro group
    rw [← hPushed, List.any_map]
    rfl
  refine ⟨?_, ?_, ?_⟩
  · refine lastStored_of_split [] (by decide +kernel) ?_
    intro call hMem
    rw [List.mem_singleton.1 hMem]
    exact (hStores velocityGroup).trans (by decide +kernel)
  · exact
      lastStored_of_split [first]
        ((hStores geoGroup).trans (by decide +kernel))
        (by simp)
  · exact
      lastStored_of_split [first]
        ((hStores deviceGroup).trans (by decide +kernel))
        (by simp)

theorem getFeatures_mixedCalls
    (textOf : Scalar → String) :
    (getFeatures textOf true
        (.features
          ((storeAfter mixedCalls).getOnlineFeatures
            featureRefs "acc-001"))
        "acc-001").1 =
      vectorOf
        (mix Job.sampleRecord secondRecord secondRecord) := by
  rcases groups_mem_featureGroups with ⟨hV, hG, hD⟩
  rcases lastStored_mixedCalls with
    ⟨hVelocity, hGeo, hDevice⟩
  have hFirst :=
    Job.featureTyped_of_produced Job.produced_sampleRecord
  have hSecond :=
    Job.featureTyped_of_produced produced_secondRecord
  rw [getFeatures_of_lastStored
    (lastStored_of_calls hV account_mixedCalls hVelocity)
    (lastStored_of_calls hG account_mixedCalls hGeo)
    (lastStored_of_calls hD account_mixedCalls hDevice)
    hFirst hSecond hSecond]
  apply if_pos
  constructor <;> decide +kernel

/- The mixed vector has the velocity of the first record and
   the device fields of the second, which both differ. -/
theorem groups_of_mixedRecords :
    (vectorOf Job.sampleRecord).velocity ≠
        (vectorOf secondRecord).velocity ∧
      (vectorOf secondRecord).device ≠
        (vectorOf Job.sampleRecord).device ∧
      (vectorOf Job.sampleRecord).velocity ≠
        (zeroFor "acc-001").velocity := by
  decide +kernel

theorem served_mixedCalls_ne_zero
    (textOf : Scalar → String) :
    (getFeatures textOf true
        (.features
          ((storeAfter mixedCalls).getOnlineFeatures
            featureRefs "acc-001"))
        "acc-001").1 ≠ zeroFor "acc-001" := by
  rw [getFeatures_mixedCalls]
  intro hZero
  apply groups_of_mixedRecords.2.2
  rw [← hZero]
  exact (vectorOf_mix _ _ _).2.1.symm

/- The velocity and the device fields of the vector come from
   two records, and it has the groups of no one record. -/
theorem served_vector_is_mixed :
    (∀ call ∈ mixedCalls,
      (∃ config, Job.Produced config call.record) ∧
        call.record.get "account_id" = .str "acc-001") ∧
      ∀ textOf,
        let v :=
          (getFeatures textOf true
            (.features
              ((storeAfter mixedCalls).getOnlineFeatures
                featureRefs "acc-001"))
            "acc-001").1
        v ≠ zeroFor "acc-001" ∧
          v.velocity =
            (vectorOf Job.sampleRecord).velocity ∧
          v.device = (vectorOf secondRecord).device ∧
          ∀ call ∈ mixedCalls,
            ¬ (v.velocity =
                (vectorOf call.record).velocity ∧
              v.geo = (vectorOf call.record).geo ∧
              v.device = (vectorOf call.record).device) := by
  constructor
  · intro call hMem
    exact
      ⟨produced_mixedCalls call hMem,
        account_mixedCalls call hMem⟩
  intro textOf v
  have hVector : v = _ := getFeatures_mixedCalls textOf
  rcases vectorOf_mix Job.sampleRecord secondRecord
    secondRecord with ⟨-, hVelocity, -, hDevice⟩
  rw [← hVector] at hVelocity hDevice
  refine
    ⟨served_mixedCalls_ne_zero textOf, hVelocity, hDevice,
      ?_⟩
  simp only [mixedCalls, List.forall_mem_cons]
  refine ⟨?_, ?_, List.forall_mem_nil _⟩
  · intro hOf
    exact
      groups_of_mixedRecords.2.1
        (hDevice.symm.trans hOf.2.2)
  · intro hOf
    exact
      groups_of_mixedRecords.1 (hVelocity.symm.trans hOf.1)

theorem served_groups_of_mixedCalls :
    let v :=
      (getFeatures (fun _ => "") true
        (.features
          ((storeAfter mixedCalls).getOnlineFeatures
            featureRefs "acc-001"))
        "acc-001").1
    ∃ rv rg rd,
      lastStored? velocityGroup mixedCalls = some rv ∧
        lastStored? geoGroup mixedCalls = some rg ∧
        lastStored? deviceGroup mixedCalls = some rd ∧
        v.velocity = (vectorOf rv).velocity ∧
        v.geo = (vectorOf rg).geo ∧
        v.device = (vectorOf rd).device :=
  (served_groups_of_calls produced_mixedCalls
    account_mixedCalls (fun _ => "") true (.features _) rfl
    (served_mixedCalls_ne_zero _)).1

end FraudStream
