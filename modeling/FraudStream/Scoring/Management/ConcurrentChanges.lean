import FraudStream.Library.CriticalSection
import FraudStream.Scoring.Management.PersistFailures

/-
  Mode changes requested by many clients at once.

  A handler checks the rule, flips its mode, writes the file
  and puts the mode back when the write failed. These are
  four steps on two copies of the modes, between which any
  other client may step in; the lock of the handlers makes
  every run a sequence of changes.

  Main declarations:
    * `ManagementApi.modeSection`
    * `ManagementApi.runs_modeSection_iff`
    * `ManagementApi.Effect`
    * `ManagementApi.Alternating`
    * `ManagementApi.changes_linearizable`
-/

------------------------------------------------------------
-- The Handlers Step By Step
------------------------------------------------------------

namespace FraudStream

namespace ManagementApi

/- Where a handler is inside the lock. -/
inductive Point where
| checking : Point
| flipping : RuleDefinition → Point
| persisting : RuleDefinition → Point
| rollingBack : RuleDefinition → Point

/- The body of both handlers, one step at a time. -/
def modeSection
    (codec : Codec) :
    CriticalSection ModeRequest (ModeRequest × Point)
      RuleStore Answer where
  enter request := (request, .checking)
  step place store :=
    let request := place.1
    match place.2 with
    | .checking =>
        match Dict.get? store.rulesDict request.ruleId with
        | none => (.inr (notFound request.ruleId), store)
        | some rule =>
            if rule.mode = request.newMode then
              (.inr (alreadyInMode request.ruleId
                request.newMode), store)
            else
              (.inl (request, .flipping rule), store)
    | .flipping rule =>
        (.inl (request, .persisting rule),
          store.setRule request.ruleId
            { rule with mode := request.newMode })
    | .persisting rule =>
        match writeRulesToYaml codec request.fault store with
        | (none, file) =>
            (.inr (.ok
                { ruleId := request.ruleId
                  previousMode := rule.mode
                  newMode := request.newMode
                  configEventPublished := false }),
              { store with file := file })
        | (some .osError, file) =>
            (.inl (request, .rollingBack rule),
              { store with file := file })
        | (some (.other _), file) =>
            (.inr unhandled, { store with file := file })
    | .rollingBack rule =>
        (.inr writeFailed,
          store.setRule request.ruleId rule)

/- The steps of a handler come to what its body does. -/
theorem runs_modeSection_iff
    (codec : Codec)
    (request : ModeRequest)
    (store store' : RuleStore)
    (answer : Answer) :
    (modeSection codec).Runs
        ((modeSection codec).enter request) store answer
        store' ↔
      changeMode codec request.newMode request.ruleId
        request.fault store = (answer, store') := by
  rw [CriticalSection.runs_iff]
  unfold changeMode
  simp only [modeSection]
  cases hRule : Dict.get? store.rulesDict request.ruleId with
  | none => simp
  | some rule =>
      by_cases hMode : rule.mode = request.newMode
      · simp [hMode]
      · simp only [hMode, if_false]
        rw [CriticalSection.runs_iff]
        simp only
        rw [CriticalSection.runs_iff]
        simp only
        rcases writeRulesToYaml codec request.fault
          (store.setRule request.ruleId
            { rule with mode := request.newMode }) with
          ⟨_ | (_ | name), file⟩
        · simp
        · simp only
          rw [CriticalSection.runs_iff]
          simp [RuleStore.setRule]
        · simp

end ManagementApi

end FraudStream

------------------------------------------------------------
-- The Modes In Memory And On Disk
------------------------------------------------------------

namespace FraudStream

namespace ManagementApi

/- The modes of the rules in memory. -/
def memoryModes
    (rules : RulesDict) : List (String × RuleMode) :=
  rules.entries.map (fun e => (e.1, e.2.mode))

/- The modes of the rules in a file, if it is valid. -/
def fileModes
    (codec : Codec)
    (file : String) : Option (List (String × RuleMode)) :=
  match codec.safeLoad file with
  | .ok (.list items) =>
      match RuleLoader.validateFrom 0 items with
      | .ok all =>
          some (all.map (fun rule => (rule.ruleId, rule.mode)))
      | .error _ => none
  | _ => none

/- The modes in memory are those in the file. -/
def SameModes
    (codec : Codec)
    (store : RuleStore) : Prop :=
  fileModes codec store.file =
    some (memoryModes store.rulesDict)

/- Persisting fails, if it does, with an OSError before the
   file is touched. -/
def BeforeFile : Option PersistFault → Prop
| none => True
| some (.serialising e) => e = .osError
| some (.opening e) => e = .osError
| some (.writing _ _) => False
| some (.chmod _) => False

/- Every rule can be serialised. -/
def Serialisable
    (texts : JsonTexts)
    (rules : RulesDict) : Prop :=
  ∀ rule ∈ RulesDict.values rules,
    (rule.fields.throughJson texts).isSome

/- Rules that are alike up to their modes have the same
   identifiers and conditions. -/
theorem exists_of_modeless_eq
    {rules rules' : RulesDict}
    (hModeless :
      RulesDict.modeless rules' = RulesDict.modeless rules)
    {rule' : RuleDefinition}
    (hMem : rule' ∈ RulesDict.values rules') :
    ∃ rule ∈ RulesDict.values rules,
      rule'.ruleId = rule.ruleId ∧
        rule'.conditionsValue = rule.conditionsValue := by
  rcases List.mem_map.1 hMem with ⟨e', hEntry, rfl⟩
  have hMapped :
      (e'.1, { e'.2 with mode := RuleMode.active }) ∈
        RulesDict.modeless rules := by
    rw [← hModeless]
    exact List.mem_map_of_mem hEntry
  rcases List.mem_map.1 hMapped with ⟨e, hEntry', hSame⟩
  have hRule := (Prod.mk.inj hSame).2.symm
  have hId := congrArg RuleDefinition.ruleId hRule
  have hConditions :=
    congrArg RuleDefinition.conditionsValue hRule
  exact
    ⟨e.2, List.mem_map_of_mem hEntry', hId, hConditions⟩

/- Whether a rule can be serialised is a matter of its
   conditions. -/
theorem isSome_fields_iff
    (texts : JsonTexts)
    (rule : RuleDefinition) :
    (rule.fields.throughJson texts).isSome ↔
      (rule.conditionsValue.throughJson texts).isSome := by
  simp only [Option.isSome_iff_exists,
    RuleDefinition.throughJson_fields_eq_some_iff]
  constructor
  · rintro ⟨data, w, hThrough, -⟩
    exact ⟨w, hThrough⟩
  · rintro ⟨w, hThrough⟩
    exact ⟨_, w, hThrough, rfl⟩

theorem rulesData_isSome
    {texts : JsonTexts}
    {rules rules' : RulesDict}
    (hSerialisable : Serialisable texts rules)
    (hModeless :
      RulesDict.modeless rules' = RulesDict.modeless rules) :
    (rulesData texts rules').isSome := by
  have hAll :
      ∀ rule' ∈ RulesDict.values rules',
        (rule'.fields.throughJson texts).isSome := by
    intro rule' hMem
    rcases exists_of_modeless_eq hModeless hMem with
      ⟨rule, hRule, -, hConditions⟩
    rw [isSome_fields_iff, hConditions, ← isSome_fields_iff]
    exact hSerialisable rule hRule
  rcases FallibleList.exists_mapM_of_isSome hAll with
    ⟨datas, hDatas⟩
  rw [rulesData, hDatas]
  rfl

theorem valid_of_modeless_eq
    {rules rules' : RulesDict}
    (hValid : RulesDict.Valid rules)
    (hModeless :
      RulesDict.modeless rules' = RulesDict.modeless rules) :
    RulesDict.Valid rules' := by
  intro rule' hMem
  rcases exists_of_modeless_eq hModeless hMem with
    ⟨rule, hRule, hId, -⟩
  rw [hId]
  exact hValid rule hRule

/- The file that is written of keyed rules has their
   modes. -/
theorem sameModes_of_rulesData
    {codec : Codec}
    {rules rules' : RulesDict}
    {data : PyVal}
    (hYaml : ReadsBack codec rules)
    (hModeless :
      RulesDict.modeless rules' = RulesDict.modeless rules)
    (hValid : RulesDict.Valid rules')
    (hKeyed : RulesDict.Keyed rules')
    (hData : rulesData codec.texts rules' = some data) :
    SameModes codec
      { rulesDict := rules', file := codec.dump data } := by
  rcases reloaded_of_rulesData hValid hData with
    ⟨items, all, hItems, hAll, hReloaded⟩
  have hRead := hYaml rules' data hModeless hData
  rw [hItems] at hRead
  rw [← RuleLoader.validateFrom_ok_iff 0] at hAll
  have hModes :
      all.map (fun rule => (rule.ruleId, rule.mode)) =
        (RulesDict.values rules').map
          (fun rule => (rule.ruleId, rule.mode)) :=
    FallibleList.map_eq_of_forall₂
      (fun _ _ h => by rw [h.1]) hReloaded
  have hMemory :
      memoryModes rules' =
        (RulesDict.values rules').map
          (fun rule => (rule.ruleId, rule.mode)) := by
    rw [memoryModes, RulesDict.values, List.map_map]
    apply List.map_congr_left
    intro e hMem
    rw [Function.comp_apply, hKeyed e hMem]
  simp only [SameModes, fileModes, hRead, hAll, hModes,
    hMemory]

end ManagementApi

end FraudStream

------------------------------------------------------------
-- One Change
------------------------------------------------------------

namespace FraudStream

namespace ManagementApi

variable {ι : Type}

/- A request that completed, with the store it left. -/
abbrev Served (ι : Type) :=
  CriticalSection.Completion ι ModeRequest RuleStore Answer

/- A 200 answer flips the mode of the rule it names from the
   one stated mode to the other, and no other rule; any
   other answer changes nothing. -/
def Effect
    (before : RuleStore)
    (e : Served ι) : Prop :=
  match e.answer with
  | .ok response =>
      response.ruleId = e.request.ruleId ∧
        response.newMode = e.request.newMode ∧
        response.previousMode ≠ response.newMode ∧
        (∃ rule,
          Dict.get? before.rulesDict response.ruleId =
            some rule ∧
          rule.mode = response.previousMode ∧
          Dict.get? e.shared.rulesDict response.ruleId =
            some { rule with mode := response.newMode }) ∧
        (∀ other, other ≠ response.ruleId →
          Dict.get? e.shared.rulesDict other =
            Dict.get? before.rulesDict other) ∧
        Dict.keys e.shared.rulesDict =
          Dict.keys before.rulesDict
  | .error _ _ => e.shared = before

/- What every change keeps: the rules up to their modes, and
   the agreement of memory and file. -/
structure Consistent
    (codec : Codec)
    (rules : RulesDict)
    (store : RuleStore) : Prop where
  keyed : RulesDict.Keyed store.rulesDict
  modeless :
    RulesDict.modeless store.rulesDict =
      RulesDict.modeless rules
  sameModes : SameModes codec store

/- A change that fails before the file is touched is
   undone. -/
theorem atomic_of_beforeFile
    {codec : Codec}
    {rules : RulesDict}
    (hSerialisable : Serialisable codec.texts rules)
    {store : RuleStore}
    {request : ModeRequest}
    (hStore : Consistent codec rules store)
    (hFault : BeforeFile request.fault) :
    Atomic store
      (changeMode codec request.newMode request.ruleId
        request.fault store) := by
  cases hRule : Dict.get? store.rulesDict request.ruleId with
  | none => simp [Atomic, changeMode, hRule]
  | some rule =>
      by_cases hMode : rule.mode = request.newMode
      · simp [Atomic, changeMode, hRule, hMode]
      · rw [atomic_changeMode_iff request.fault hRule hMode]
        have hWritten :=
          rulesData_isSome hSerialisable
            ((modeless_put_newMode hStore.keyed hRule).trans
              hStore.modeless)
        rcases hCase : request.fault with
          _ | (e | e | ⟨written, e⟩ | e)
        all_goals
          rw [hCase] at hFault
          simp_all [BeforeFile, RestoredBy,
            RuleStore.setRule]

section OneRequest

variable
  {codec : Codec}
  {rules : RulesDict}
  (hYaml : ReadsBack codec rules)
  (hValid : RulesDict.Valid rules)
  (hSerialisable : Serialisable codec.texts rules)

include hYaml hValid hSerialisable

/- A request keeps the store consistent and has its
   effect. -/
theorem effect_of_changeMode
    {store : RuleStore}
    {e : Served ι}
    (hStore : Consistent codec rules store)
    (hFault : BeforeFile e.request.fault)
    (hChange :
      changeMode codec e.request.newMode e.request.ruleId
        e.request.fault store = (e.answer, e.shared)) :
    Effect store e ∧ Consistent codec rules e.shared := by
  have hAtomic :=
    atomic_of_beforeFile hSerialisable hStore hFault
  rw [hChange] at hAtomic
  by_cases hStatus : e.answer.status = 200
  · have hOk :
        (changeMode codec e.request.newMode e.request.ruleId
          e.request.fault store).1.status = 200 := by
      rw [hChange]
      exact hStatus
    rcases changeMode_status_eq_ok hOk with
      ⟨rule, data, hRule, hMode, hData, hResult⟩
    rw [hChange] at hResult
    rcases Prod.mk.inj hResult with ⟨hAnswer, hShared⟩
    have hModeless :=
      (modeless_put_newMode hStore.keyed hRule).trans
        hStore.modeless
    have hKeyed := keyed_put_newMode hStore.keyed hRule
    refine ⟨?_, ?_⟩
    · simp only [Effect, hAnswer, hShared]
      refine
        ⟨trivial, trivial, hMode,
          ⟨rule, hRule, rfl, ?_⟩, ?_, ?_⟩
      · rw [Dict.get?_put, if_pos rfl]
      · intro other hOther
        rw [Dict.get?_put, if_neg hOther]
      · exact Dict.keys_put_of_get? _ hRule
    · rw [hShared]
      exact
        { keyed := hKeyed
          modeless := hModeless
          sameModes :=
            sameModes_of_rulesData hYaml hModeless
              (valid_of_modeless_eq hValid hModeless) hKeyed
              hData }
  · have hShared := hAtomic hStatus
    simp only at hShared
    rw [hShared]
    refine ⟨?_, hStore⟩
    cases hAnswer : e.answer with
    | ok response =>
        rw [hAnswer] at hStatus
        exact absurd rfl hStatus
    | error status detail =>
        simp only [Effect, hAnswer, hShared]

end OneRequest

end ManagementApi

end FraudStream

------------------------------------------------------------
-- Every Interleaving
------------------------------------------------------------

namespace FraudStream

namespace ManagementApi

variable {ι : Type}

/- The rule and the mode of a successful change. -/
def Answer.change? : Answer → Option (String × RuleMode)
| .ok response => some (response.ruleId, response.newMode)
| .error _ _ => none

/- Between two changes of a rule to a mode there is a change
   of it to another mode. -/
def Alternating (done : List (Served ι)) : Prop :=
  ∀ before between after e e' ruleId mode,
    done = before ++ e :: (between ++ e' :: after) →
    e.answer.change? = some (ruleId, mode) →
    e'.answer.change? = some (ruleId, mode) →
    ∃ e'' ∈ between, ∃ mode' ≠ mode,
      e''.answer.change? = some (ruleId, mode')

/- The mode of a rule in memory. -/
def modeOf
    (store : RuleStore)
    (ruleId : String) : Option RuleMode :=
  (Dict.get? store.rulesDict ruleId).map (·.mode)

/- After a change the rule has the new mode, and before it
   another one. -/
theorem modeOf_of_change
    {before : RuleStore}
    {e : Served ι}
    {ruleId : String}
    {mode : RuleMode}
    (hEffect : Effect before e)
    (hChange : e.answer.change? = some (ruleId, mode)) :
    modeOf e.shared ruleId = some mode ∧
      modeOf before ruleId ≠ some mode := by
  cases hAnswer : e.answer with
  | error status detail =>
      rw [hAnswer] at hChange
      cases hChange
  | ok response =>
      rw [hAnswer] at hChange
      cases hChange
      simp only [Effect, hAnswer] at hEffect
      rcases hEffect with
        ⟨-, -, hModes, ⟨rule, hBefore, hMode, hAfter⟩, -, -⟩
      simp [modeOf, hBefore, hAfter, hMode, hModes]

/- Without a change of the rule its mode stays. -/
theorem modeOf_of_not_change
    {before : RuleStore}
    {e : Served ι}
    {ruleId : String}
    (hEffect : Effect before e)
    (hOther :
      ∀ mode, e.answer.change? ≠ some (ruleId, mode)) :
    modeOf e.shared ruleId = modeOf before ruleId := by
  cases hAnswer : e.answer with
  | error status detail =>
      simp only [Effect, hAnswer] at hEffect
      rw [hEffect]
  | ok response =>
      simp only [Effect, hAnswer] at hEffect
      rcases hEffect with ⟨-, -, -, -, hUnchanged, -⟩
      have hNotThis : ruleId ≠ response.ruleId := by
        rintro rfl
        exact hOther response.newMode (by rw [hAnswer]; rfl)
      rw [modeOf, hUnchanged ruleId hNotThis, modeOf]

/- A rule in a mode is changed to it again only after a
   change to another mode. -/
theorem exists_other_change
    {store : RuleStore}
    {between after : List (Served ι)}
    {e : Served ι}
    {ruleId : String}
    {mode : RuleMode}
    (hChained :
      CriticalSection.Chained Effect store
        (between ++ e :: after))
    (hMode : modeOf store ruleId = some mode)
    (hChange : e.answer.change? = some (ruleId, mode)) :
    ∃ e' ∈ between, ∃ mode' ≠ mode,
      e'.answer.change? = some (ruleId, mode') := by
  induction between generalizing store with
  | nil =>
      exact
        absurd hMode
          (modeOf_of_change hChained.1 hChange).2
  | cons e' between ih =>
      rcases hChained with ⟨hHere, hLater⟩
      have hLift :
          modeOf e'.shared ruleId = some mode →
            ∃ e'' ∈ e' :: between, ∃ mode' ≠ mode,
              e''.answer.change? = some (ruleId, mode') := by
        intro hMode'
        rcases ih hLater hMode' with ⟨e'', hMem, hFound⟩
        exact ⟨e'', List.mem_cons_of_mem _ hMem, hFound⟩
      by_cases hThis :
          ∃ mode', e'.answer.change? = some (ruleId, mode')
      · rcases hThis with ⟨mode', hChange'⟩
        by_cases hSame : mode' = mode
        · rw [hSame] at hChange'
          exact hLift (modeOf_of_change hHere hChange').1
        · exact
            ⟨e', List.mem_cons_self, mode', hSame, hChange'⟩
      · rw [not_exists] at hThis
        apply hLift
        rw [modeOf_of_not_change hHere hThis, hMode]

theorem alternating_of_chained
    {store : RuleStore}
    {done : List (Served ι)}
    (hChained :
      CriticalSection.Chained Effect store done) :
    Alternating done := by
  rintro before between after e e' ruleId mode rfl hChange
    hChange'
  rcases CriticalSection.chained_append_cons hChained with
    ⟨⟨store', hHere⟩, hLater⟩
  exact
    exists_other_change hLater
      (modeOf_of_change hHere hChange).1 hChange'

/- Of any number of requests for the same change at most one
   succeeds. -/
def OnceEach
    (requests : ι → ModeRequest)
    (done : List (Served ι)) : Prop :=
  ∀ ruleId mode,
    (∀ i, (requests i).ruleId = ruleId ∧
      (requests i).newMode = mode) →
    (done.filter (·.answer.change?.isSome)).length ≤ 1

private theorem pairwise_of_split
    {α : Type}
    {R : α → α → Prop}
    {xs : List α}
    (hSplit :
      ∀ before between after x y,
        xs = before ++ x :: (between ++ y :: after) →
          R x y) :
    xs.Pairwise R := by
  induction xs with
  | nil => exact .nil
  | cons x xs ih =>
      refine .cons ?_ (ih ?_)
      · intro y hMem
        rcases List.append_of_mem hMem with
          ⟨between, after, rfl⟩
        exact hSplit [] between after x y rfl
      · rintro before between after y z rfl
        exact hSplit (x :: before) between after y z rfl

/- A successful change is the one that was requested. -/
theorem change?_of_effect
    {before : RuleStore}
    {e : Served ι}
    (hEffect : Effect before e)
    (hChange : e.answer.change?.isSome) :
    e.answer.change? =
      some (e.request.ruleId, e.request.newMode) := by
  cases hAnswer : e.answer with
  | error status detail =>
      rw [hAnswer] at hChange
      cases hChange
  | ok response =>
      simp only [Effect, hAnswer] at hEffect
      rw [← hEffect.1, ← hEffect.2.1]
      rfl

theorem exists_effect_of_mem
    {store : RuleStore}
    {done : List (Served ι)}
    (hChained : CriticalSection.Chained Effect store done)
    {e : Served ι}
    (hMem : e ∈ done) :
    ∃ before, Effect before e := by
  rcases List.append_of_mem hMem with ⟨earlier, later, rfl⟩
  exact (CriticalSection.chained_append_cons hChained).1

theorem onceEach_of_alternating
    {requests : ι → ModeRequest}
    {done : List (Served ι)}
    (hRequested :
      ∀ e ∈ done, e.request = requests e.client)
    (hEffects : ∀ e ∈ done, ∃ before, Effect before e)
    (hAlternating : Alternating done) :
    OnceEach requests done := by
  intro ruleId mode hIdentical
  have hChange :
      ∀ e ∈ done, e.answer.change?.isSome →
        e.answer.change? = some (ruleId, mode) := by
    intro e hMem hSome
    rcases hEffects e hMem with ⟨before, hEffect⟩
    rw [change?_of_effect hEffect hSome, hRequested e hMem,
      (hIdentical e.client).1, (hIdentical e.client).2]
  have hPairs :
      done.Pairwise (fun e e' =>
        ¬ (e.answer.change?.isSome ∧
          e'.answer.change?.isSome)) := by
    apply pairwise_of_split
    rintro before between after e e' hSplit ⟨hHere, hLater⟩
    have hMem : e ∈ done := by simp [hSplit]
    have hMem' : e' ∈ done := by simp [hSplit]
    rcases hAlternating before between after e e' ruleId mode
      hSplit (hChange e hMem hHere)
      (hChange e' hMem' hLater) with
      ⟨e'', hBetween, mode', hOther, hChange'⟩
    have hMem'' : e'' ∈ done := by simp [hSplit, hBetween]
    rw [hChange e'' hMem'' (by rw [hChange']; rfl)]
      at hChange'
    exact hOther (by cases hChange'; rfl)
  have hKept := hPairs.filter (·.answer.change?.isSome)
  have hSome :
      ∀ e ∈ done.filter (·.answer.change?.isSome),
        e.answer.change?.isSome := by
    intro e hMem
    exact (List.mem_filter.1 hMem).2
  rcases hFiltered :
    done.filter (·.answer.change?.isSome) with
    _ | ⟨e, _ | ⟨e', rest⟩⟩
  · rw [hFiltered]
    exact Nat.zero_le 1
  · rw [hFiltered]
    exact Nat.le_refl 1
  · rw [hFiltered] at hKept hSome
    have hNot := (List.pairwise_cons.1 hKept).1 e' (by simp)
    exact
      absurd ⟨hSome e (by simp), hSome e' (by simp)⟩ hNot

/- The rules of a file have distinct identifiers. -/
def DistinctIds
    (codec : Codec)
    (file : String) : Prop :=
  ∀ items all,
    codec.safeLoad file = .ok (.list items) →
    RuleLoader.validateFrom 0 items = .ok all →
    (all.map (·.ruleId)).Nodup

/-
  A run is a sequence of changes: every completed request had
  its effect on the store that the one before it left, and
  left a store whose modes are those of the file. The
  answered clients are those whose requests completed, and
  while nobody is inside the lock the store is the one that
  the last of them left.
-/
structure Linearizable
    (codec : Codec)
    (requests : ι → ModeRequest)
    (store : RuleStore)
    (c :
      CriticalSection.Config ι ModeRequest
        (ModeRequest × Point) RuleStore Answer)
    (done : List (Served ι)) : Prop where
  requested : ∀ e ∈ done, e.request = requests e.client
  effects : CriticalSection.Chained Effect store done
  alternating : Alternating done
  onceEach : OnceEach requests done
  sameModes : ∀ e ∈ done, SameModes codec e.shared
  answered :
    ∀ i request answer,
      c.phase i = .answered request answer ↔
        ∃ shared, ({ client := i
                     request := request
                     answer := answer
                     shared := shared } : Served ι) ∈ done
  quiescent :
    c.holder = none →
      c.shared = CriticalSection.lastShared store done

/- The loaded rules are consistent with their file. -/
theorem consistent_loaded
    {codec : Codec}
    {file path : String}
    {rules : RulesDict}
    (hLoad :
      loadRulesFromYaml (fun _ => some file) codec.safeLoad
        path = .ok rules)
    (hDistinct : DistinctIds codec file) :
    RulesDict.Valid rules ∧
      Consistent codec rules
        { rulesDict := rules, file := file } := by
  rcases keyedRules_of_loadRulesFromYaml hLoad with
    ⟨content, items, all, hFile, hItems, hAll, rfl⟩
  cases hFile
  have hIds :
      ∀ rule ∈ all,
        RuleDefinition.ruleIdMatches rule.ruleId := by
    intro rule hMem
    rcases FallibleList.forall₂_mem_right hAll hMem with
      ⟨item, -, hValid⟩
    exact
      RuleDefinition.ruleIdMatches_of_modelValidate hValid
  rw [← RuleLoader.validateFrom_ok_iff 0] at hAll
  have hNodup :
      ((all.map (fun rule => (rule.ruleId, rule))).map
        Prod.fst).Nodup := by
    rw [List.map_map]
    exact hDistinct items all hItems hAll
  refine
    ⟨fun rule hMem => hIds rule (mem_of_mem_keyedRules hMem),
      { keyed := keyed_keyedRules all
        modeless := rfl
        sameModes := ?_ }⟩
  simp only [SameModes, fileModes, hItems, hAll, memoryModes,
    keyedRules, Dict.entries_ofList hNodup, List.map_map,
    Function.comp_def]

/-
  Every interleaving of mode changes is linearizable, for
  rules that can be serialised and writes that complete or
  fail with an OSError before the file is touched.
-/
theorem changes_linearizable
    [DecidableEq ι]
    {codec : Codec}
    {file path : String}
    {rules : RulesDict}
    {requests : ι → ModeRequest}
    {c :
      CriticalSection.Config ι ModeRequest
        (ModeRequest × Point) RuleStore Answer}
    {done : List (Served ι)}
    (hLoad :
      loadRulesFromYaml (fun _ => some file) codec.safeLoad
        path = .ok rules)
    (hDistinct : DistinctIds codec file)
    (hYaml : ReadsBack codec rules)
    (hSerialisable : Serialisable codec.texts rules)
    (hFaults : ∀ i, BeforeFile (requests i).fault)
    (hRun :
      CriticalSection.Reachable (modeSection codec)
        (.start requests { rulesDict := rules, file := file })
        c done) :
    Linearizable codec requests
      { rulesDict := rules, file := file } c done := by
  rcases consistent_loaded hLoad hDistinct with
    ⟨hValid, hStart⟩
  have hRequested := fun e hMem =>
    CriticalSection.request_of_mem (e := e) hRun hMem
  have hStep :
      ∀ e ∈ done, ∀ s, Consistent codec rules s →
        (modeSection codec).Runs
            ((modeSection codec).enter e.request) s e.answer
            e.shared →
          Effect s e ∧ Consistent codec rules e.shared := by
    intro e hMem s hConsistent hRuns
    rw [runs_modeSection_iff] at hRuns
    refine
      effect_of_changeMode hYaml hValid hSerialisable
        hConsistent ?_ hRuns
    rw [hRequested e hMem]
    exact hFaults e.client
  rcases CriticalSection.reachable_completed hRun with
    ⟨s, hSequential⟩
  rcases CriticalSection.chained_of_sequential hStart hStep
    hSequential with ⟨hChained, hAll, -, -⟩
  exact
    { requested := hRequested
      effects := hChained
      alternating := alternating_of_chained hChained
      onceEach :=
        onceEach_of_alternating hRequested
          (fun e hMem => exists_effect_of_mem hChained hMem)
          (alternating_of_chained hChained)
      sameModes := fun e hMem => (hAll e hMem).sameModes
      answered := CriticalSection.answered_iff hRun
      quiescent := by
        intro hFree
        have hShared :=
          CriticalSection.reachable_sequential hRun hFree
        exact
          (CriticalSection.chained_of_sequential hStart hStep
            hShared).2.2.1.symm }

/- Of two clients that demote a rule the first one succeeds
   and the second one is told that it is demoted. -/
theorem two_demotions_linearizable :
    ∃ c done,
      CriticalSection.Reachable (modeSection sampleCodec)
        (.start (fun _ : Nat => sampleRequest .shadow)
          { rulesDict := keyedRules [sampleRule .active]
            file := sampleText .active })
        c done ∧
      done.map (fun e => (e.client, e.answer.status)) =
        [(0, 200), (1, 409)] ∧
      Linearizable sampleCodec
        (fun _ : Nat => sampleRequest .shadow)
        { rulesDict := keyedRules [sampleRule .active]
          file := sampleText .active }
        c done := by
  have hWrite :
      writeRulesToYaml sampleCodec none
          { rulesDict := keyedRules [sampleRule .shadow]
            file := sampleText .active } =
        (none, sampleText .shadow) := by
    rw [writeRulesToYaml_completes_iff]
    exact ⟨rfl, _, rulesData_sample .shadow, rfl⟩
  have hPersist :
      (modeSection sampleCodec).step
          (sampleRequest .shadow,
            .persisting (sampleRule .active))
          { rulesDict := keyedRules [sampleRule .shadow]
            file := sampleText .active } =
        (.inr (.ok
            { ruleId := "VEL-001"
              previousMode := .active
              newMode := .shadow
              configEventPublished := false }),
          { rulesDict := keyedRules [sampleRule .shadow]
            file := sampleText .shadow }) := by
    simp only [modeSection, sampleRequest, hWrite]
    rfl
  obtain ⟨c, hPersisting, hShared, hPhase, hWaiting⟩ :
      ∃ c,
        CriticalSection.Reachable (modeSection sampleCodec)
          (.start (fun _ : Nat => sampleRequest .shadow)
            { rulesDict := keyedRules [sampleRule .active]
              file := sampleText .active })
          c [] ∧
        c.shared =
          { rulesDict := keyedRules [sampleRule .shadow]
            file := sampleText .active } ∧
        c.phase 0 =
          .inside (sampleRequest .shadow)
            (sampleRequest .shadow,
              .persisting (sampleRule .active)) ∧
        c.phase 1 = .waiting (sampleRequest .shadow) :=
    ⟨_, .advance 0 (sampleRequest .shadow) _ _ _
        (.advance 0 (sampleRequest .shadow) _ _ _
          (.acquire 0 (sampleRequest .shadow) .start rfl rfl)
          rfl rfl)
        rfl rfl,
      rfl, rfl, rfl⟩
  rw [← hShared] at hPersist
  have hFirst :=
    CriticalSection.Reachable.release 0
      (sampleRequest .shadow) _ _ _ hPersisting hPhase
      hPersist
  have hSecond :=
    CriticalSection.Reachable.release 1
      (sampleRequest .shadow) _
      (alreadyInMode "VEL-001" .shadow) _
      (.acquire 1 (sampleRequest .shadow) hFirst
        hWaiting rfl)
      rfl rfl
  refine ⟨_, _, hSecond, rfl, ?_⟩
  refine
    changes_linearizable (loadRulesFromYaml_sample .active)
      ?_ (readsBack_sample .active) ?_ (fun _ => trivial)
      hSecond
  · intro items all hItems hAll
    cases hItems
    cases hAll
    decide
  · intro rule hMem
    have hThrough :=
      PyVal.throughJson_of_isJson sampleCodec.texts
        (isJson_sampleRule .active)
    rw [List.mem_singleton.1 hMem, isSome_fields_iff,
      hThrough]
    rfl

end ManagementApi

end FraudStream
