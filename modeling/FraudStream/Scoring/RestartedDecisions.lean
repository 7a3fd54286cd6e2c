import FraudStream.Scoring.DecisionTable
import FraudStream.Scoring.Management.ModeRewrites

/-
  Decisions of a job that is started again after mode
  changes.

  The job reads its rules once, when it starts. A rewritten
  rules file holds the conditions of each rule in another
  order, which no evaluation function can tell. So a job that
  starts from it decides as the requests asked for, and a
  rule that was demoted last has no part in its decisions.

  Main results:
    * `RuleDefinition.evaluate_same`
    * `evaluateRecord_same`
    * `Job.restarted_job_decides_as_requested`
-/

------------------------------------------------------------
-- Operations On Sorted Values
------------------------------------------------------------

namespace PyVal

/- No operation sees the order of the keys of a value. -/
theorem order_sortKeys
    (op : OrderOp)
    (x : Scalar)
    (v : PyVal) :
    order op x v.sortKeys = order op x v := by
  cases v <;> simp [sortKeys, order]

theorem toDecimal_sortKeys (v : PyVal) :
    v.sortKeys.toDecimal = v.toDecimal := by
  cases v with
  | scalar x => simp only [sortKeys]
  | bytes bs => simp only [sortKeys]
  | timestamp t => simp only [sortKeys]
  | list xs => rfl
  | dict es => rfl
  | set xs => simp only [sortKeys]

theorem hashable_sortKeys (v : PyVal) :
    v.sortKeys.hashable = v.hashable := by
  cases v <;> simp [sortKeys, hashable]

theorem isNone_sortKeys (v : PyVal) :
    v.sortKeys.isNone = v.isNone := by
  cases v <;> simp [sortKeys, isNone]

theorem equalScalar_sortKeys
    (x : Scalar)
    (v : PyVal) :
    equalScalar x v.sortKeys = equalScalar x v := by
  cases v <;> simp [sortKeys, equalScalar]

end PyVal

namespace FraudStream

theorem Record.named_sortKeys
    (txn : Record)
    (v : PyVal) :
    txn.named v.sortKeys = txn.named v := by
  cases v <;> simp [PyVal.sortKeys, Record.named]

end FraudStream

------------------------------------------------------------
-- Conditions In Another Order
------------------------------------------------------------

namespace FraudStream

namespace Conditions

open Dict

/- Under every name there are the same values, but for the
   order of keys inside of them. -/
def Alike (conditions conditions' : Conditions) : Prop :=
  ∀ name,
    (conditions'.get? name).map PyVal.sortKeys =
      (conditions.get? name).map PyVal.sortKeys

variable {conditions conditions' : Conditions}

/- The entries with their values sorted. -/
def sortedEntries
    (conditions : Conditions) : List (String × PyVal) :=
  conditions.entries.map (fun e => (e.1, e.2.sortKeys))

theorem lookup_sortedEntries
    (conditions : Conditions)
    (name : String) :
    lookupEntries name (sortedEntries conditions) =
      (conditions.get? name).map PyVal.sortKeys :=
  lookupEntries_map (fun _ v => PyVal.sortKeys v) name
    conditions.entries

theorem nodup_sortedEntries (conditions : Conditions) :
    ((sortedEntries conditions).map Prod.fst).Nodup := by
  rw [sortedEntries, List.map_map]
  exact conditions.nodupKeys

theorem sortKeys_ofNamed (conditions : Conditions) :
    (PyVal.dict (PyVal.ofNamed conditions.entries)).sortKeys =
      .dict
        ((PyVal.ofNamed
          (sortedEntries conditions)).insertionSort
            PyVal.KeyLe) := by
  rw [PyVal.sortKeys_dict]
  congr 2
  simp [PyVal.ofNamed, sortedEntries, Function.comp_def]

theorem alike_of_sortKeys_eq
    (hSame :
      (PyVal.dict
        (PyVal.ofNamed conditions'.entries)).sortKeys =
      (PyVal.dict
        (PyVal.ofNamed conditions.entries)).sortKeys) :
    Alike conditions conditions' := by
  rw [sortKeys_ofNamed, sortKeys_ofNamed,
    PyVal.dict.injEq] at hSame
  have hPerm :
      (PyVal.ofNamed (sortedEntries conditions')).Perm
        (PyVal.ofNamed (sortedEntries conditions)) :=
    (List.perm_insertionSort PyVal.KeyLe _).symm.trans
      (hSame ▸ List.perm_insertionSort PyVal.KeyLe _)
  have hEntries :
      (sortedEntries conditions').Perm
        (sortedEntries conditions) := by
    refine (List.map_perm_map_iff ?_).1 hPerm
    intro e e' hEq
    simp only [Prod.mk.injEq, PyVal.scalar.injEq,
      Scalar.str.injEq] at hEq
    exact Prod.ext hEq.1 hEq.2
  intro name
  rw [← lookup_sortedEntries, ← lookup_sortedEntries]
  exact
    lookupEntries_perm (nodup_sortedEntries conditions')
      hEntries name

end Conditions

end FraudStream

------------------------------------------------------------
-- Evaluation
------------------------------------------------------------

namespace FraudStream

namespace Conditions

variable {conditions conditions' : Conditions}

/- Either both conditions have a value of a name, or none
   has. -/
theorem Alike.get?_cases
    (hAlike : Alike conditions conditions')
    (name : String) :
    (conditions'.get? name = none ∧
        conditions.get? name = none) ∨
      ∃ v' v,
        conditions'.get? name = some v' ∧
          conditions.get? name = some v ∧
          v'.sortKeys = v.sortKeys := by
  have hName := hAlike name
  cases hFound' : conditions'.get? name with
  | none =>
      rw [hFound', Option.map_none] at hName
      left
      exact ⟨rfl, Option.map_eq_none_iff.1 hName.symm⟩
  | some v' =>
      rw [hFound', Option.map_some] at hName
      obtain ⟨v, hFound, hSort⟩ :=
        Option.map_eq_some_iff.1 hName.symm
      exact Or.inr ⟨v', v, rfl, hFound, hSort.symm⟩

theorem Alike.get
    (hAlike : Alike conditions conditions')
    (name : String) :
    (conditions'.get name).sortKeys =
      (conditions.get name).sortKeys := by
  unfold Conditions.get
  rcases hAlike.get?_cases name with
    ⟨hNone', hNone⟩ | ⟨v', v, hSome', hSome, hSort⟩
  · rw [hNone', hNone]
  · rw [hSome', hSome]
    exact hSort

theorem Alike.contains
    (hAlike : Alike conditions conditions')
    (name : String) :
    conditions'.contains name = conditions.contains name := by
  unfold Dict.contains
  rcases hAlike.get?_cases name with
    ⟨hNone', hNone⟩ | ⟨v', v, hSome', hSome, -⟩
  · rw [hNone', hNone]
  · rw [hSome', hSome]
    rfl

theorem order_of_sortKeys_eq
    {v v' : PyVal}
    (hSort : v'.sortKeys = v.sortKeys)
    (op : OrderOp)
    (x : Scalar) :
    PyVal.order op x v' = PyVal.order op x v := by
  rw [← PyVal.order_sortKeys, hSort, PyVal.order_sortKeys]

theorem exceedsAmount_of_sortKeys_eq
    {v v' : PyVal}
    (hSort : v'.sortKeys = v.sortKeys)
    (x : Scalar) :
    exceedsAmount x v' = exceedsAmount x v := by
  unfold exceedsAmount
  rw [← PyVal.toDecimal_sortKeys, hSort,
    PyVal.toDecimal_sortKeys]

theorem getValue_of_sortKeys_eq
    {v v' : PyVal}
    (hSort : v'.sortKeys = v.sortKeys)
    (txn : Record) :
    txn.getValue v' = txn.getValue v := by
  unfold Record.getValue
  rw [← PyVal.hashable_sortKeys, ← Record.named_sortKeys,
    hSort, PyVal.hashable_sortKeys, Record.named_sortKeys]

theorem Alike.exceedsThreshold
    (hAlike : Alike conditions conditions')
    (value : Scalar) :
    FraudStream.exceedsThreshold value conditions' =
      FraudStream.exceedsThreshold value conditions := by
  unfold FraudStream.exceedsThreshold
  rcases hAlike.get?_cases "count" with
    ⟨hNone', hNone⟩ | ⟨v', v, hSome', hSome, hSort⟩
  · rw [hNone', hNone]
    rcases hAlike.get?_cases "amount" with
      ⟨hNone', hNone⟩ | ⟨v', v, hSome', hSome, hSort⟩
    · rw [hNone', hNone]
    · rw [hSome', hSome]
      exact exceedsAmount_of_sortKeys_eq hSort value
  · rw [hSome', hSome]
    exact order_of_sortKeys_eq hSort .gt value

theorem Alike.evaluateVelocity
    (hAlike : Alike conditions conditions')
    (txn : Record) :
    FraudStream.evaluateVelocity txn conditions' =
      FraudStream.evaluateVelocity txn conditions := by
  have hField := hAlike.get "field"
  have hNone :
      (conditions'.get "field").isNone =
        (conditions.get "field").isNone := by
    rw [← PyVal.isNone_sortKeys, hField,
      PyVal.isNone_sortKeys]
  simp only [FraudStream.evaluateVelocity, hNone,
    getValue_of_sortKeys_eq hField, hAlike.exceedsThreshold]

theorem Alike.evaluateImpossibleTravel
    (hAlike : Alike conditions conditions')
    (txn : Record) :
    FraudStream.evaluateImpossibleTravel txn conditions' =
      FraudStream.evaluateImpossibleTravel txn
        conditions := by
  unfold FraudStream.evaluateImpossibleTravel
  rcases hAlike.get?_cases "window_ms" with
    ⟨hNone', hNone⟩ | ⟨v', v, hSome', hSome, hSort⟩
  · rw [hNone', hNone]
  · rw [hSome', hSome]
    have hWindow :
        ∀ current previous,
          withinWindow current previous v' =
            withinWindow current previous v := by
      intro current previous
      simp only [withinWindow, order_of_sortKeys_eq hSort]
    simp only [hWindow]

theorem Alike.evaluateNewDevice
    (hAlike : Alike conditions conditions')
    (txn : Record) :
    FraudStream.evaluateNewDevice txn conditions' =
      FraudStream.evaluateNewDevice txn conditions := by
  have hNd001 :
      evaluateNd001 txn conditions' =
        evaluateNd001 txn conditions := by
    simp only [evaluateNd001,
      exceedsAmount_of_sortKeys_eq (hAlike.get "amount")]
  have hNd002 :
      evaluateNd002 txn conditions' =
        evaluateNd002 txn conditions := by
    unfold evaluateNd002
    simp only [order_of_sortKeys_eq
      (hAlike.get "device_count")]
    rcases hAlike.get?_cases "vel_count" with
      ⟨hNone', hNone⟩ | ⟨v', v, hSome', hSome, hSort⟩
    · rw [hNone', hNone]
    · rw [hSome', hSome]
      simp only [order_of_sortKeys_eq hSort]
  have hNd004 :
      evaluateNd004 txn conditions' =
        evaluateNd004 txn conditions := by
    have hClass :
        ∀ x,
          PyVal.equalScalar x
              (conditions'.get "network_class") =
            PyVal.equalScalar x
              (conditions.get "network_class") := by
      intro x
      rw [← PyVal.equalScalar_sortKeys,
        hAlike.get "network_class",
        PyVal.equalScalar_sortKeys]
    simp only [evaluateNd004, hClass]
  simp only [FraudStream.evaluateNewDevice, hAlike.contains,
    hNd001, hNd002, hNd004]

end Conditions

namespace RuleDefinition

/- A rule with its conditions in another order matches the
   same records, and raises on the same. -/
theorem evaluate_same
    {rule rule' : RuleDefinition}
    (hSame : rule.Same rule')
    (txn : Record) :
    rule'.evaluate txn = rule.evaluate txn := by
  have hAlike :
      Conditions.Alike rule.conditions rule'.conditions :=
    Conditions.alike_of_sortKeys_eq hSame.2
  have hFamily : rule'.family = rule.family := by
    rw [hSame.1]
  unfold evaluate
  rw [hFamily]
  cases rule.family with
  | velocity => exact hAlike.evaluateVelocity txn
  | impossibleTravel =>
      exact hAlike.evaluateImpossibleTravel txn
  | newDevice => exact hAlike.evaluateNewDevice txn

end RuleDefinition

end FraudStream

------------------------------------------------------------
-- Records Evaluated By The Same Rules
------------------------------------------------------------

namespace FraudStream

open RuleEvaluator

/- The loop records what the rules say of themselves, which is
   the same for both. -/
theorem evaluateRules_same
    {rules rules' : List RuleDefinition}
    (hSame : List.Forall₂ RuleDefinition.Same rules rules')
    (txn : Record)
    (s : LoopState) :
    evaluateRules txn rules' s = evaluateRules txn rules s := by
  induction hSame generalizing s with
  | nil => rfl
  | @cons rule rule' rules rules' hHead hTail ih =>
      have hEvaluated : s.evaluated rule' = s.evaluated rule := by
        rw [hHead.1]
        rfl
      have hMatched :
          ∀ s : LoopState, s.matched rule' = s.matched rule := by
        intro s
        rw [hHead.1]
        rfl
      rw [evaluateRules, evaluateRules,
        RuleDefinition.evaluate_same hHead txn, hEvaluated,
        hMatched]
      split
      · rfl
      · exact ih _
      · exact ih _

theorem keptRules_same
    {rules rules' : List RuleDefinition}
    (hSame : List.Forall₂ RuleDefinition.Same rules rules') :
    List.Forall₂ RuleDefinition.Same (keptRules rules)
      (keptRules rules') := by
  refine List.rel_filter ?_ hSame
  intro rule rule' hRule
  rw [hRule.1]

theorem evaluateRecord_same
    {rules rules' : List RuleDefinition}
    (hSame : List.Forall₂ RuleDefinition.Same rules rules')
    (evaluationTimestamp : Int)
    (txn : Record) :
    evaluateRecord rules' evaluationTimestamp txn =
      evaluateRecord rules evaluationTimestamp txn := by
  simp only [evaluateRecord, dispatch,
    evaluateRules_same (keptRules_same hSame)]

/- Without a rule in shadow mode the active matches are the
   same. -/
theorem activeMatches_without_shadow
    {txn : Record}
    {rules : List RuleDefinition}
    {keep : RuleDefinition → Bool}
    (hShadow :
      ∀ rule ∈ rules,
        keep rule = false → rule.mode = .shadow) :
    activeMatches txn (rules.filter keep) =
      activeMatches txn rules := by
  unfold activeMatches
  rw [List.filter_filter]
  apply List.filter_congr
  intro rule hMem
  cases hKeep : keep rule with
  | true => simp
  | false =>
      have hMode := hShadow rule hMem hKeep
      simp [RuleDefinition.ActiveMatch, hMode]

end FraudStream

------------------------------------------------------------
-- A Job Started Again
------------------------------------------------------------

namespace FraudStream

namespace Job

open ManagementApi RuleEvaluator

variable
  {codec : Codec}
  {path file : String}
  {rules : List RuleDefinition}
  {dict : RulesDict}
  {requests : List ModeRequest}

/- The rewritten file loads, and every record is evaluated as
   the requested modes ask for. -/
theorem reloaded_evaluates_requested
    (hLoad :
      RuleLoader.load (fun _ => some file) codec.safeLoad
        path = .ok rules)
    (hService :
      loadRulesFromYaml (fun _ => some file) codec.safeLoad
        path = .ok dict)
    (hYaml : ReadsBack codec dict)
    (hOk :
      ∀ answer ∈
        (serve codec requests
          { rulesDict := dict, file := file }).1,
        answer.status = 200)
    (hKept :
      (RulesDict.values dict).filter (·.enabled) = rules)
    (hJson : ∀ rule ∈ rules, rule.conditionsValue.isJson) :
    ∃ reloaded,
      RuleLoader.load
        (fun _ => some
          (serve codec requests
            { rulesDict := dict, file := file }).2.file)
        codec.safeLoad path = .ok reloaded ∧
      List.Forall₂ RuleDefinition.Same
        (rules.map (requested requests)) reloaded := by
  by_cases hSome : requests = []
  · rw [hSome]
    refine ⟨rules, hLoad, ?_⟩
    rw [List.forall₂_map_left_iff, List.forall₂_same]
    intro rule _
    exact RuleDefinition.Same.refl rule
  · obtain ⟨reloaded, hReload, hReloaded⟩ :=
      load_served hLoad hService hYaml hOk hSome
    refine ⟨reloaded, hReload, ?_⟩
    rw [hKept] at hReloaded
    have hStep :
        ∀ rule rule',
          RuleDefinition.Reloaded codec.texts rule rule' →
            (rule.Same rule' ↔
              rule.conditionsValue.isJson) :=
      fun _ _ h => h.same_iff
    rw [FallibleList.forall₂_iff_forall_mem hReloaded hStep,
      List.forall_mem_map]
    simp only [conditionsValue_requested]
    exact hJson

/- A job that is started after mode changes evaluates every
   record as the requests ask for. A rule that was demoted
   last has no part in what it decides. -/
theorem restarted_job_decides_as_requested
    (hLoad :
      RuleLoader.load (fun _ => some file) codec.safeLoad
        path = .ok rules)
    (hService :
      loadRulesFromYaml (fun _ => some file) codec.safeLoad
        path = .ok dict)
    (hYaml : ReadsBack codec dict)
    (hOk :
      ∀ answer ∈
        (serve codec requests
          { rulesDict := dict, file := file }).1,
        answer.status = 200)
    (hKept :
      (RulesDict.values dict).filter (·.enabled) = rules)
    (hJson : ∀ rule ∈ rules, rule.conditionsValue.isJson) :
    ∃ reloaded,
      RuleLoader.load
        (fun _ => some
          (serve codec requests
            { rulesDict := dict, file := file }).2.file)
        codec.safeLoad path = .ok reloaded ∧
      ∀ (evaluationTimestamp : Int) (txn : Record),
        evaluateRecord reloaded evaluationTimestamp txn =
            evaluateRecord (rules.map (requested requests))
              evaluationTimestamp txn ∧
          ∀ ruleId,
            (∀ rule ∈ rules, rule.ruleId = ruleId →
              (requested requests rule).mode = .shadow) →
            NoneRaises txn (rules.map (requested requests)) →
            outcome reloaded evaluationTimestamp txn =
              outcome
                ((rules.filter (·.ruleId ≠ ruleId)).map
                  (requested requests))
                evaluationTimestamp txn := by
  obtain ⟨reloaded, hReload, hSame⟩ :=
    reloaded_evaluates_requested hLoad hService hYaml hOk
      hKept hJson
  refine ⟨reloaded, hReload, ?_⟩
  intro evaluationTimestamp txn
  have hRecord :=
    evaluateRecord_same hSame evaluationTimestamp txn
  refine ⟨hRecord, ?_⟩
  intro ruleId hDemoted hNone
  have hOutcome :
      outcome reloaded evaluationTimestamp txn =
        outcome (rules.map (requested requests))
          evaluationTimestamp txn := by
    simp only [outcome, hRecord]
  have hMoved :
      (rules.filter (·.ruleId ≠ ruleId)).map
          (requested requests) =
        (rules.map (requested requests)).filter
          (·.ruleId ≠ ruleId) := by
    rw [List.filter_map]
    congr 1
    apply List.filter_congr
    intro rule _
    simp [ruleId_requested]
  have hNoneKept :
      NoneRaises txn
        (keptRules (rules.map (requested requests))) := by
    intro rule hMem
    exact hNone rule (List.mem_of_mem_filter hMem)
  have hNoneWithout :
      NoneRaises txn
        (keptRules
          ((rules.map (requested requests)).filter
            (·.ruleId ≠ ruleId))) := by
    intro rule hMem
    exact hNone rule
      (List.mem_of_mem_filter (List.mem_of_mem_filter hMem))
  have hMatches :
      activeMatches txn
          (keptRules
            ((rules.map (requested requests)).filter
              (·.ruleId ≠ ruleId))) =
        activeMatches txn
          (keptRules (rules.map (requested requests))) := by
    have hSwap :
        keptRules
            ((rules.map (requested requests)).filter
              (·.ruleId ≠ ruleId)) =
          (keptRules (rules.map (requested requests))).filter
            (·.ruleId ≠ ruleId) := by
      unfold keptRules
      rw [List.filter_filter, List.filter_filter]
      apply List.filter_congr
      intro rule _
      exact Bool.and_comm _ _
    rw [hSwap]
    apply activeMatches_without_shadow
    intro rule hMem hDropped
    obtain ⟨rule', hRule, rfl⟩ :=
      List.mem_map.1 (List.mem_of_mem_filter hMem)
    rw [ruleId_requested] at hDropped
    exact hDemoted rule' hRule (by simpa using hDropped)
  rw [hOutcome, hMoved, outcome_of_noneRaises hNoneKept,
    outcome_of_noneRaises hNoneWithout, hMatches]

theorem demoted_rule_has_no_part :
    ∃ reloaded,
      RuleLoader.load
        (fun _ => some
          (serve sampleCodec [sampleRequest .shadow]
            { rulesDict := keyedRules [sampleRule .active]
              file := sampleText .active }).2.file)
        sampleCodec.safeLoad "rules.yaml" = .ok reloaded ∧
      ∀ (evaluationTimestamp : Int) (txn : Record),
        evaluateRecord reloaded evaluationTimestamp txn =
            evaluateRecord
              ([sampleRule .active].map
                (requested [sampleRequest .shadow]))
              evaluationTimestamp txn ∧
          ∀ ruleId,
            (∀ rule ∈ [sampleRule .active],
              rule.ruleId = ruleId →
                (requested [sampleRequest .shadow]
                  rule).mode = .shadow) →
            NoneRaises txn
              ([sampleRule .active].map
                (requested [sampleRequest .shadow])) →
            outcome reloaded evaluationTimestamp txn =
              outcome
                (([sampleRule .active].filter
                  (·.ruleId ≠ ruleId)).map
                    (requested [sampleRequest .shadow]))
                evaluationTimestamp txn := by
  have hOk :
      ∀ answer ∈
        (serve sampleCodec [sampleRequest .shadow]
          { rulesDict := keyedRules [sampleRule .active]
            file := sampleText .active }).1,
        answer.status = 200 := by
    simp only [serve]
    rw [changeMode_sample (by decide)]
    decide
  refine
    restarted_job_decides_as_requested (load_sample .active)
      (loadRulesFromYaml_sample .active)
      (readsBack_sample .active) hOk rfl ?_
  rw [List.forall_mem_singleton]
  exact isJson_sampleRule .active

end Job

end FraudStream
