import Mathlib.Data.List.Count
import FraudStream.Scoring.Suppression

/-
  The result and the counter increments of one dispatch, in
  terms of the rules that match.

  The loop evaluates the kept rules up to the first that
  raises, and counts that one too. Each evaluated rule adds
  increments of its own.

  Main declarations:
    * `shadowMatches`
    * `RuleEvaluator.evaluatedRules`
    * `RuleEvaluator.ruleMetrics`
    * `RuleEvaluator.evaluateRules_fst`
    * `RuleEvaluator.dispatch_of_isOk`
    * `RuleEvaluator.dispatch_of_raises`
    * `RuleEvaluator.count_dispatch_ruleFlags`
    * `RuleEvaluator.count_dispatch_ruleEvaluations`
    * `RuleEvaluator.count_shadowTriggers`
-/

------------------------------------------------------------
-- Evaluated Rules
------------------------------------------------------------

namespace FraudStream

/- A shadow rule matches a record. -/
def RuleDefinition.ShadowMatch
    (rule : RuleDefinition)
    (txn : Record) : Prop :=
  rule.mode = .shadow ∧ rule.evaluate txn = .ok true

instance
    (rule : RuleDefinition)
    (txn : Record) :
    Decidable (rule.ShadowMatch txn) := by
  unfold RuleDefinition.ShadowMatch
  infer_instance

/- The shadow rules that match, in order. -/
def shadowMatches
    (txn : Record)
    (rules : List RuleDefinition) : List RuleDefinition :=
  rules.filter (·.ShadowMatch txn)

namespace RuleEvaluator

variable (txn : Record)

/- The rules up to the first that raises. -/
def evaluatedRules :
    List RuleDefinition → List RuleDefinition
| [] => []
| rule :: rules =>
    match rule.evaluate txn with
    | .error _ => [rule]
    | .ok _ => rule :: evaluatedRules rules

/- What an evaluated rule counts. -/
def ruleMetrics (rule : RuleDefinition) : List Metric :=
  .ruleEvaluations rule.ruleId rule.family.value ::
    if rule.ActiveMatch txn then
      [.ruleFlags rule.ruleId rule.family.value
          rule.severity.name,
        .ruleTriggers rule.ruleId]
    else if rule.ShadowMatch txn then
      [.shadowTriggers rule.ruleId]
    else
      []

/- No rule of the list raises. -/
def NoneRaises (rules : List RuleDefinition) : Prop :=
  ∀ rule ∈ rules, ∃ b, rule.evaluate txn = .ok b

theorem evaluatedRules_of_noneRaises
    {rules : List RuleDefinition}
    (hOk : NoneRaises txn rules) :
    evaluatedRules txn rules = rules := by
  induction rules with
  | nil => rfl
  | cons rule rules ih =>
      rcases List.forall_mem_cons.1 hOk with
        ⟨⟨b, hRule⟩, hRules⟩
      simp only [evaluatedRules, hRule, ih hRules]

end RuleEvaluator

end FraudStream

------------------------------------------------------------
-- The Loop
------------------------------------------------------------

namespace FraudStream

namespace RuleEvaluator

variable (txn : Record)

/- The lists after some more rules have been evaluated. -/
def LoopState.extend
    (s : LoopState)
    (rules : List RuleDefinition) : LoopState where
  activeMatched :=
    s.activeMatched ++
      (activeMatches txn rules).map (·.ruleId)
  shadowMatched :=
    s.shadowMatched ++
      (shadowMatches txn rules).map (·.ruleId)
  triggeredSeverities :=
    s.triggeredSeverities ++
      (activeMatches txn rules).map (·.severity)
  metrics := s.metrics ++ rules.flatMap (ruleMetrics txn)

theorem LoopState.extend_nil
    (s : LoopState) :
    s.extend txn [] = s := by
  simp [extend, activeMatches, shadowMatches]

theorem LoopState.extend_cons
    (s : LoopState)
    (rule : RuleDefinition)
    (rules : List RuleDefinition) :
    s.extend txn (rule :: rules) =
      (s.extend txn [rule]).extend txn rules := by
  have hActive :
      activeMatches txn (rule :: rules) =
        activeMatches txn [rule] ++ activeMatches txn rules :=
    List.filter_append [rule] rules
  have hShadow :
      shadowMatches txn (rule :: rules) =
        shadowMatches txn [rule] ++ shadowMatches txn rules :=
    List.filter_append [rule] rules
  simp [extend, hActive, hShadow]

/- A rule that raises or does not match is only counted. -/
theorem LoopState.extend_unmatched
    (s : LoopState)
    {rule : RuleDefinition}
    (hRule : rule.evaluate txn ≠ .ok true) :
    s.extend txn [rule] = s.evaluated rule := by
  simp [extend, evaluated, activeMatches, shadowMatches,
    ruleMetrics, RuleDefinition.ActiveMatch,
    RuleDefinition.ShadowMatch, hRule]

theorem LoopState.extend_matched
    (s : LoopState)
    {rule : RuleDefinition}
    (hRule : rule.evaluate txn = .ok true) :
    s.extend txn [rule] = (s.evaluated rule).matched rule := by
  cases hMode : rule.mode with
  | active =>
      simp [extend, evaluated, matched, activeMatches,
        shadowMatches, ruleMetrics,
        RuleDefinition.ActiveMatch,
        RuleDefinition.ShadowMatch, hRule, hMode]
  | shadow =>
      simp [extend, evaluated, matched, activeMatches,
        shadowMatches, ruleMetrics,
        RuleDefinition.ActiveMatch,
        RuleDefinition.ShadowMatch, hRule, hMode]

/- The loop leaves what the evaluated rules leave. -/
theorem evaluateRules_fst
    (rules : List RuleDefinition)
    (s : LoopState) :
    (evaluateRules txn rules s).1 =
      s.extend txn (evaluatedRules txn rules) := by
  induction rules generalizing s with
  | nil => exact (LoopState.extend_nil txn s).symm
  | cons rule rules ih =>
      cases hRule : rule.evaluate txn with
      | error e =>
          have hUnmatched :
              rule.evaluate txn ≠ .ok true := by
            simp [hRule]
          simp only [evaluateRules, evaluatedRules, hRule]
          rw [LoopState.extend_unmatched txn s hUnmatched]
      | ok b =>
          cases b with
          | true =>
              simp only [evaluateRules, evaluatedRules,
                hRule]
              rw [ih, LoopState.extend_cons txn s,
                LoopState.extend_matched txn s hRule]
          | false =>
              have hUnmatched :
                  rule.evaluate txn ≠ .ok true := by
                simp [hRule]
              simp only [evaluateRules, evaluatedRules,
                hRule]
              rw [ih, LoopState.extend_cons txn s,
                LoopState.extend_unmatched txn s hUnmatched]

end RuleEvaluator

end FraudStream

------------------------------------------------------------
-- One Dispatch
------------------------------------------------------------

namespace FraudStream

namespace RuleEvaluator

variable
  (rules : List RuleDefinition)
  (evaluationTimestamp : Int)
  (txn : Record)

/- The result when no kept rule raises. -/
def resultOfMatches : EvaluationResult where
  determination :=
    if activeMatches txn (keptRules rules) = [] then
      .clean
    else
      .suspicious
  matchedRules :=
    (activeMatches txn (keptRules rules)).map (·.ruleId) ++
      (shadowMatches txn (keptRules rules)).map
        (·.ruleId ++ ":shadow")
  highestSeverity :=
    maxSeverity
      ((activeMatches txn (keptRules rules)).map
        (·.severity))
  evaluationTimestamp := evaluationTimestamp
  missingFields := []

/- The false positives counted after a loop that ended. -/
def falsePositives : List Metric :=
  if activeMatches txn (keptRules rules) = [] then
    (shadowMatches txn (keptRules rules)).map
      (fun rule => .shadowFalsePositives rule.ruleId)
  else
    []

theorem dispatch_of_isOk
    (hOk : NoneRaises txn (keptRules rules)) :
    dispatch rules evaluationTimestamp txn =
      (.ok (resultOfMatches rules evaluationTimestamp txn),
        (keptRules rules).flatMap (ruleMetrics txn) ++
          falsePositives rules txn) := by
  have hEnds :=
    (evaluateRules_isOk_iff txn (keptRules rules)
      .start).2 hOk
  have hState :=
    evaluateRules_fst txn (keptRules rules) .start
  rw [evaluatedRules_of_noneRaises txn hOk] at hState
  unfold dispatch
  rcases hEnd : evaluateRules txn (keptRules rules) .start
    with ⟨s, e⟩
  rw [hEnd] at hEnds hState
  cases hEnds
  cases hState
  simp [resultOf, resultOfMatches, shadowFalsePositives,
    falsePositives, LoopState.start, Function.comp_def]

theorem dispatch_of_raises
    (hRaises : ¬ NoneRaises txn (keptRules rules)) :
    ∃ e,
      dispatch rules evaluationTimestamp txn =
        (.error e,
          (evaluatedRules txn (keptRules rules)).flatMap
            (ruleMetrics txn)) := by
  have hEnds :=
    (evaluateRules_isOk_iff txn (keptRules rules)
      .start).not.2 hRaises
  have hState :=
    evaluateRules_fst txn (keptRules rules) .start
  unfold dispatch
  rcases hEnd : evaluateRules txn (keptRules rules) .start
    with ⟨s, e⟩
  rw [hEnd] at hEnds hState
  cases e with
  | none => exact absurd rfl hEnds
  | some e =>
      cases hState
      exact ⟨e, by simp [LoopState.start]⟩

/- An alert is the alert on a suspicious result. -/
theorem alert_eq_some_iff
    (alert : FraudAlert) :
    (evaluateRecord rules evaluationTimestamp txn).1.1 =
        some alert ↔
      NoneRaises txn (keptRules rules) ∧
        activeMatches txn (keptRules rules) ≠ [] ∧
        alert =
          { transactionId := txn.getOrEmpty "transaction_id"
            accountId := txn.getOrEmpty "account_id"
            matchedRuleNames :=
              (resultOfMatches rules evaluationTimestamp
                txn).matchedRules
            severity :=
              (resultOfMatches rules evaluationTimestamp
                txn).highestSeverity.getD .low
            evaluationTimestamp := evaluationTimestamp } := by
  unfold evaluateRecord
  by_cases hOk : NoneRaises txn (keptRules rules)
  · rw [dispatch_of_isOk rules evaluationTimestamp txn hOk]
    by_cases hNone :
        activeMatches txn (keptRules rules) = []
    · simp [buildFraudAlert, resultOfMatches, hNone]
    · simp [buildFraudAlert, resultOfMatches, hNone, hOk,
        eq_comm]
  · rcases dispatch_of_raises rules evaluationTimestamp txn
      hOk with ⟨e, hError⟩
    simp [hError, hOk]

end RuleEvaluator

end FraudStream

------------------------------------------------------------
-- Totals Of A Counter
------------------------------------------------------------

namespace FraudStream

namespace RuleEvaluator

variable (txn : Record)

/- The flags of the active rules that match. -/
def flagMetrics (rules : List RuleDefinition) : List Metric :=
  (activeMatches txn rules).map
    (fun rule =>
      .ruleFlags rule.ruleId rule.family.value
        rule.severity.name)

/- The evaluations of some rules. -/
def evaluationMetrics
    (rules : List RuleDefinition) : List Metric :=
  rules.map
    (fun rule =>
      .ruleEvaluations rule.ruleId rule.family.value)

/- Equal counts item by item are equal in total. -/
theorem count_flatMap_congr
    {α β : Type}
    [BEq β]
    {l : List α}
    {f g : α → List β}
    {b : β}
    (hItems : ∀ a ∈ l, (f a).count b = (g a).count b) :
    (l.flatMap f).count b = (l.flatMap g).count b := by
  rw [List.count_flatMap, List.count_flatMap]
  congr 1
  apply List.map_congr_left
  exact hItems

/- One item for each element that is kept. -/
theorem map_filter_eq_flatMap
    {α β : Type}
    (keep : α → Bool)
    (f : α → β)
    (l : List α) :
    (l.filter keep).map f =
      l.flatMap (fun a => if keep a then [f a] else []) := by
  induction l with
  | nil => rfl
  | cons a l ih =>
      by_cases hKeep : keep a
      · simp [hKeep, ih]
      · simp [hKeep, ih]

theorem count_ruleFlags
    (rules : List RuleDefinition)
    (ruleId family severity : String) :
    (rules.flatMap (ruleMetrics txn)).count
        (.ruleFlags ruleId family severity) =
      (flagMetrics txn rules).count
        (.ruleFlags ruleId family severity) := by
  rw [flagMetrics, activeMatches, map_filter_eq_flatMap]
  apply count_flatMap_congr
  intro rule _
  by_cases hActive : rule.ActiveMatch txn
  · simp [ruleMetrics, hActive, List.count_cons]
  · by_cases hShadow : rule.ShadowMatch txn
    · simp [ruleMetrics, hActive, hShadow]
    · simp [ruleMetrics, hActive, hShadow]

theorem count_ruleEvaluations
    (rules : List RuleDefinition)
    (ruleId family : String) :
    (rules.flatMap (ruleMetrics txn)).count
        (.ruleEvaluations ruleId family) =
      (evaluationMetrics rules).count
        (.ruleEvaluations ruleId family) := by
  rw [evaluationMetrics, List.map_eq_flatMap]
  apply count_flatMap_congr
  intro rule _
  by_cases hActive : rule.ActiveMatch txn
  · simp [ruleMetrics, hActive, List.count_cons]
  · by_cases hShadow : rule.ShadowMatch txn
    · simp [ruleMetrics, hActive, hShadow, List.count_cons]
    · simp [ruleMetrics, hActive, hShadow]

theorem not_activeMatch
    {rule : RuleDefinition}
    (hShadow : rule.ShadowMatch txn) :
    ¬ rule.ActiveMatch txn := by
  intro hActive
  have hModes := hShadow.1.symm.trans hActive.1
  exact absurd hModes (by decide)

/- The triggers of shadow rules, one for each match. -/
theorem count_shadowTriggers
    (rules : List RuleDefinition)
    (ruleId : String) :
    (rules.flatMap (ruleMetrics txn)).count
        (.shadowTriggers ruleId) =
      ((shadowMatches txn rules).map (·.ruleId)).count
        ruleId := by
  have hInjective :
      Function.Injective Metric.shadowTriggers := by
    intro a b hEq
    simpa using hEq
  rw [← List.count_map_of_injective _ _ hInjective,
    List.map_map, shadowMatches, map_filter_eq_flatMap]
  apply count_flatMap_congr
  intro rule _
  by_cases hShadow : rule.ShadowMatch txn
  · have hActive := not_activeMatch txn hShadow
    simp [ruleMetrics, hActive, hShadow]
  · by_cases hActive : rule.ActiveMatch txn
    · simp [ruleMetrics, hActive, hShadow]
    · simp [ruleMetrics, hActive, hShadow]

/- The loop counts no false positives. -/
theorem count_shadowFalsePositives
    (rules : List RuleDefinition)
    (ruleId : String) :
    (rules.flatMap (ruleMetrics txn)).count
        (.shadowFalsePositives ruleId) = 0 := by
  apply List.count_eq_zero_of_not_mem
  intro hMem
  rcases List.mem_flatMap.1 hMem with ⟨rule, -, hRule⟩
  unfold ruleMetrics at hRule
  split at hRule
  · simp at hRule
  · split at hRule
    · simp at hRule
    · simp at hRule

/- A counter that is no false positive is counted in the
   loop. -/
theorem count_dispatch
    (rules : List RuleDefinition)
    (evaluationTimestamp : Int)
    {metric : Metric}
    (hOther :
      ∀ ruleId, metric ≠ .shadowFalsePositives ruleId) :
    (dispatch rules evaluationTimestamp txn).2.count metric =
      ((evaluatedRules txn (keptRules rules)).flatMap
        (ruleMetrics txn)).count metric := by
  have hNone : metric ∉ falsePositives rules txn := by
    unfold falsePositives
    split
    · intro hMem
      rcases List.mem_map.1 hMem with ⟨rule, -, hEq⟩
      exact hOther rule.ruleId hEq.symm
    · exact List.not_mem_nil
  by_cases hOk : NoneRaises txn (keptRules rules)
  · rw [dispatch_of_isOk rules evaluationTimestamp txn hOk,
      evaluatedRules_of_noneRaises txn hOk,
      List.count_append, List.count_eq_zero_of_not_mem hNone,
      Nat.add_zero]
  · rcases dispatch_of_raises rules evaluationTimestamp txn
      hOk with ⟨e, hError⟩
    rw [hError]

theorem count_dispatch_ruleFlags
    (rules : List RuleDefinition)
    (evaluationTimestamp : Int)
    (ruleId family severity : String) :
    (dispatch rules evaluationTimestamp txn).2.count
        (.ruleFlags ruleId family severity) =
      (flagMetrics txn
          (evaluatedRules txn (keptRules rules))).count
        (.ruleFlags ruleId family severity) := by
  rw [count_dispatch txn rules evaluationTimestamp,
    count_ruleFlags]
  simp

theorem count_dispatch_ruleEvaluations
    (rules : List RuleDefinition)
    (evaluationTimestamp : Int)
    (ruleId family : String) :
    (dispatch rules evaluationTimestamp txn).2.count
        (.ruleEvaluations ruleId family) =
      (evaluationMetrics
          (evaluatedRules txn (keptRules rules))).count
        (.ruleEvaluations ruleId family) := by
  rw [count_dispatch txn rules evaluationTimestamp,
    count_ruleEvaluations]
  simp

end RuleEvaluator

end FraudStream

------------------------------------------------------------
-- Rules On The Count At Given Severities
------------------------------------------------------------

namespace FraudStream

namespace Job

open RuleEvaluator

/- The active rule on the count, at a severity. -/
def countRuleAt
    (spec : String × Severity) : RuleDefinition :=
  { countRule spec.1 .active (.int 0) with
    severity := spec.2 }

theorem evaluate_countRuleAt
    (spec : String × Severity) :
    (countRuleAt spec).evaluate sampleRecord = .ok true :=
  evaluate_countRule spec.1 .active (.int 0)

/- All such rules match the sample record. -/
theorem matches_countRulesAt
    (specs : List (String × Severity)) :
    keptRules (specs.map countRuleAt) =
        specs.map countRuleAt ∧
      NoneRaises sampleRecord (specs.map countRuleAt) ∧
      activeMatches sampleRecord (specs.map countRuleAt) =
        specs.map countRuleAt ∧
      shadowMatches sampleRecord (specs.map countRuleAt) =
        [] := by
  refine ⟨?_, ?_, ?_, ?_⟩
  · apply List.filter_eq_self.2
    intro rule hMem
    rcases List.mem_map.1 hMem with ⟨spec, -, rfl⟩
    rfl
  · intro rule hMem
    rcases List.mem_map.1 hMem with ⟨spec, -, rfl⟩
    exact ⟨true, evaluate_countRuleAt spec⟩
  · apply List.filter_eq_self.2
    intro rule hMem
    rcases List.mem_map.1 hMem with ⟨spec, -, rfl⟩
    simp only [RuleDefinition.ActiveMatch,
      evaluate_countRuleAt]
    rfl
  · apply List.filter_eq_nil_iff.2
    intro rule hMem
    rcases List.mem_map.1 hMem with ⟨spec, -, rfl⟩
    simp [RuleDefinition.ShadowMatch, countRuleAt,
      countRule]

/- The alert of such rules on the sample record. -/
def countAlert
    (time : Int)
    (specs : List (String × Severity)) : FraudAlert where
  transactionId := .str "txn-1"
  accountId := .str "acc-001"
  matchedRuleNames := specs.map Prod.fst
  severity := (maxSeverity (specs.map Prod.snd)).getD .low
  evaluationTimestamp := time

theorem evaluateRecord_countRulesAt
    (time : Int)
    (specs : List (String × Severity))
    (hSome : specs ≠ []) :
    (evaluateRecord (specs.map countRuleAt) time
        sampleRecord).1.1 =
      some (countAlert time specs) := by
  rcases matches_countRulesAt specs with
    ⟨hKept, hOk, hActive, hShadow⟩
  have hIds :
      sampleRecord.getOrEmpty "transaction_id" =
          .str "txn-1" ∧
        sampleRecord.getOrEmpty "account_id" =
          .str "acc-001" := by
    simp [Record.getOrEmpty, sampleRecord, get?_assemble,
      recordEntries, Dict.lookupEntries, sampleEnriched,
      sampleTransaction]
  rw [alert_eq_some_iff, hKept]
  refine ⟨hOk, by simpa [hActive] using hSome, ?_⟩
  simp only [resultOfMatches, hKept, hActive, hShadow, hIds,
    countAlert, List.map_map, List.map_nil, List.append_nil]
  rfl

end Job

end FraudStream
