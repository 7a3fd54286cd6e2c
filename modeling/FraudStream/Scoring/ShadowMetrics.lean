import Mathlib.Algebra.Order.Field.Rat
import Mathlib.Tactic.Positivity
import FraudStream.Scoring.Rules.ShadowEvaluator

/-
  The two counters of the shadow rules over a run in which
  both evaluators of a rule list are called.

  The evaluator of all rules counts a false positive only
  for a match. The evaluator of the shadow rules counts them
  when nothing matched, so there the rule has no match to
  go with it.

  Main declarations:
    * `ShadowMetrics.Step`
    * `ShadowMetrics.Step.MatchesOrRaises`
    * `ShadowMetrics.estimatedFpRate`
    * `ShadowMetrics.fp_le_triggers_step_iff`
    * `ShadowMetrics.fp_le_triggers_run_iff`
-/

------------------------------------------------------------
-- Counted False Positives
------------------------------------------------------------

namespace FraudStream

namespace ShadowRuleEvaluator

theorem count_falsePositivesOf
    (rules : List RuleDefinition)
    (ruleId : String) :
    (falsePositivesOf rules).count
        (.shadowFalsePositives ruleId) =
      (rules.map (·.ruleId)).count ruleId := by
  have hMap :
      falsePositivesOf rules =
        (rules.map (·.ruleId)).map
          Metric.shadowFalsePositives := by
    simp [falsePositivesOf]
  have hInjective :
      Function.Injective Metric.shadowFalsePositives := by
    intro a b hEq
    simpa using hEq
  rw [hMap, List.count_map_of_injective _ _ hInjective]

end ShadowRuleEvaluator

end FraudStream

------------------------------------------------------------
-- Runs
------------------------------------------------------------

namespace FraudStream

namespace ShadowMetrics

open RuleEvaluator (NoneRaises)

variable (rules : List RuleDefinition)

/- A dispatch on one of the two evaluators. -/
inductive Step where
| production :
    (evaluationTimestamp : Int) → (txn : Record) → Step
| shadow :
    (evaluationTimestamp : Int) → (txn : Record) → Step

/- The counter increments of a dispatch. -/
def Step.metrics : Step → List Metric
| .production time txn =>
    (RuleEvaluator.dispatch rules time txn).2
| .shadow time txn =>
    (ShadowRuleEvaluator.dispatch rules time txn).2

/- `rule_shadow_triggers_total` over some dispatches. -/
def shadowTriggersTotal
    (steps : List Step)
    (ruleId : String) : Nat :=
  (steps.flatMap (·.metrics rules)).count
    (.shadowTriggers ruleId)

/- `rule_shadow_fp_total` over some dispatches. -/
def shadowFpTotal
    (steps : List Step)
    (ruleId : String) : Nat :=
  (steps.flatMap (·.metrics rules)).count
    (.shadowFalsePositives ruleId)

/- The rate that the shadow rules page shows for a rule. -/
def estimatedFpRate (triggerCount fpCount : Nat) : ℚ :=
  if 0 < triggerCount then fpCount / triggerCount else 0

/- A call of the shadow evaluator has a rule that matches
   or raises, or has no rule at all. -/
def Step.MatchesOrRaises : Step → Prop
| .production _ _ => True
| .shadow _ txn =>
    NoneRaises txn (ShadowRuleEvaluator.keptRules rules) →
      shadowMatches txn
            (ShadowRuleEvaluator.keptRules rules) ≠ [] ∨
        ShadowRuleEvaluator.keptRules rules = []

theorem shadowTriggersTotal_cons
    (step : Step)
    (steps : List Step)
    (ruleId : String) :
    shadowTriggersTotal rules (step :: steps) ruleId =
      shadowTriggersTotal rules [step] ruleId +
        shadowTriggersTotal rules steps ruleId := by
  simp [shadowTriggersTotal]

theorem shadowFpTotal_cons
    (step : Step)
    (steps : List Step)
    (ruleId : String) :
    shadowFpTotal rules (step :: steps) ruleId =
      shadowFpTotal rules [step] ruleId +
        shadowFpTotal rules steps ruleId := by
  simp [shadowFpTotal]

theorem estimatedFpRate_mem
    {triggerCount fpCount : Nat}
    (hLe : fpCount ≤ triggerCount) :
    0 ≤ estimatedFpRate triggerCount fpCount ∧
      estimatedFpRate triggerCount fpCount ≤ 1 := by
  unfold estimatedFpRate
  split
  · rename_i hPos
    have hPosRat : (0 : ℚ) < triggerCount := by
      exact_mod_cast hPos
    have hLeRat : (fpCount : ℚ) ≤ triggerCount := by
      exact_mod_cast hLe
    constructor
    · positivity
    · exact (div_le_one hPosRat).2 hLeRat
  · exact ⟨le_refl 0, zero_le_one⟩

end ShadowMetrics

end FraudStream

------------------------------------------------------------
-- One Step
------------------------------------------------------------

namespace FraudStream

namespace ShadowMetrics

open RuleEvaluator (NoneRaises)

variable
  (rules : List RuleDefinition)
  (time : Int)
  (txn : Record)
  (ruleId : String)

/- Every false positive of the evaluator of all rules goes
   with a trigger. -/
theorem fp_le_triggers_production :
    shadowFpTotal rules [.production time txn] ruleId ≤
      shadowTriggersTotal rules [.production time txn]
        ruleId := by
  simp only [shadowFpTotal, shadowTriggersTotal,
    List.flatMap_singleton, Step.metrics]
  by_cases hOk :
      NoneRaises txn (RuleEvaluator.keptRules rules)
  · rw [RuleEvaluator.dispatch_of_isOk rules time txn hOk,
      List.count_append, List.count_append,
      RuleEvaluator.count_shadowFalsePositives,
      RuleEvaluator.count_shadowTriggers, Nat.zero_add]
    apply Nat.le_add_right_of_le
    rw [RuleEvaluator.falsePositives]
    split
    · exact
        (ShadowRuleEvaluator.count_falsePositivesOf _ _).le
    · exact Nat.zero_le _
  · rcases RuleEvaluator.dispatch_of_raises rules time txn
      hOk with ⟨e, hError⟩
    rw [hError, RuleEvaluator.count_shadowFalsePositives]
    exact Nat.zero_le _

/- A match, an exception and an empty list of rules all
   keep the shadow evaluator from counting any. -/
theorem shadowFpTotal_of_matchesOrRaises
    (hStep : (Step.shadow time txn).MatchesOrRaises rules) :
    shadowFpTotal rules [.shadow time txn] ruleId = 0 := by
  simp only [shadowFpTotal, List.flatMap_singleton,
    Step.metrics]
  by_cases hOk :
      NoneRaises txn (ShadowRuleEvaluator.keptRules rules)
  · rw [ShadowRuleEvaluator.metrics_dispatch_of_isOk rules
      time txn hOk, List.count_append,
      RuleEvaluator.count_shadowFalsePositives,
      Nat.zero_add]
    split
    · rename_i hNone
      have hEmpty := (hStep hOk).resolve_left (· hNone)
      rw [hEmpty]
      rfl
    · rfl
  · rw [ShadowRuleEvaluator.metrics_dispatch_of_raises rules
      time txn hOk, RuleEvaluator.count_shadowFalsePositives]

/- Otherwise a kept rule gets a false positive and no
   trigger. -/
theorem exists_triggers_lt_fp
    (hStep :
      ¬ (Step.shadow time txn).MatchesOrRaises rules) :
    ∃ ruleId,
      shadowTriggersTotal rules [.shadow time txn] ruleId <
        shadowFpTotal rules [.shadow time txn] ruleId := by
  simp only [Step.MatchesOrRaises, Classical.not_imp,
    not_or, not_not] at hStep
  rcases hStep with ⟨hOk, hNone, hSome⟩
  rcases List.exists_mem_of_ne_nil _ hSome with
    ⟨rule, hRule⟩
  refine ⟨rule.ruleId, ?_⟩
  have hPos :
      0 < ((ShadowRuleEvaluator.keptRules rules).map
        (·.ruleId)).count rule.ruleId :=
    List.count_pos_iff.2 (List.mem_map_of_mem hRule)
  have hTriggers :
      shadowTriggersTotal rules [.shadow time txn]
        rule.ruleId = 0 := by
    simp only [shadowTriggersTotal, List.flatMap_singleton,
      Step.metrics]
    rw [ShadowRuleEvaluator.metrics_dispatch_of_isOk rules
      time txn hOk, if_pos hNone, List.count_append,
      RuleEvaluator.count_shadowTriggers, hNone]
    simp [ShadowRuleEvaluator.falsePositivesOf,
      List.count_eq_zero]
  have hFp :
      shadowFpTotal rules [.shadow time txn] rule.ruleId =
        ((ShadowRuleEvaluator.keptRules rules).map
          (·.ruleId)).count rule.ruleId := by
    simp only [shadowFpTotal, List.flatMap_singleton,
      Step.metrics]
    rw [ShadowRuleEvaluator.metrics_dispatch_of_isOk rules
      time txn hOk, if_pos hNone, List.count_append,
      RuleEvaluator.count_shadowFalsePositives,
      ShadowRuleEvaluator.count_falsePositivesOf,
      Nat.zero_add]
  rw [hTriggers, hFp]
  exact hPos

/- One step keeps the counters apart exactly under the
   condition. -/
theorem fp_le_triggers_step_iff
    (step : Step) :
    (∀ ruleId,
        shadowFpTotal rules [step] ruleId ≤
          shadowTriggersTotal rules [step] ruleId) ↔
      step.MatchesOrRaises rules := by
  cases step with
  | production time txn =>
      constructor
      · intro _
        trivial
      · intro _ ruleId
        exact fp_le_triggers_production rules time txn ruleId
  | shadow time txn =>
      constructor
      · intro hLe
        by_contra hStep
        rcases exists_triggers_lt_fp rules time txn hStep
          with ⟨ruleId, hLt⟩
        exact absurd (hLe ruleId) (Nat.not_le.2 hLt)
      · intro hStep ruleId
        rw [shadowFpTotal_of_matchesOrRaises rules time txn
          ruleId hStep]
        exact Nat.zero_le _

end ShadowMetrics

end FraudStream

------------------------------------------------------------
-- The Whole Run
------------------------------------------------------------

namespace FraudStream

namespace ShadowMetrics

variable (rules : List RuleDefinition)

theorem fp_le_triggers_run
    {steps : List Step}
    (hSteps : ∀ step ∈ steps, step.MatchesOrRaises rules)
    (ruleId : String) :
    shadowFpTotal rules steps ruleId ≤
      shadowTriggersTotal rules steps ruleId := by
  induction steps with
  | nil => exact Nat.le_refl 0
  | cons step steps ih =>
      rcases List.forall_mem_cons.1 hSteps with
        ⟨hStep, hRest⟩
      have hHead :=
        (fp_le_triggers_step_iff rules step).2 hStep ruleId
      rw [shadowFpTotal_cons, shadowTriggersTotal_cons]
      exact Nat.add_le_add hHead (ih hRest)

/- The false positives of a rule are among its triggers,
   and the rate is between zero and one, over every stretch
   of a run: from its start to any state, or over a window
   of time. -/
def FpAmongTriggers (steps : List Step) : Prop :=
  ∀ stretch, stretch <:+: steps → ∀ ruleId,
    shadowFpTotal rules stretch ruleId ≤
        shadowTriggersTotal rules stretch ruleId ∧
      0 ≤ estimatedFpRate
          (shadowTriggersTotal rules stretch ruleId)
          (shadowFpTotal rules stretch ruleId) ∧
      estimatedFpRate
          (shadowTriggersTotal rules stretch ruleId)
          (shadowFpTotal rules stretch ruleId) ≤ 1

/- So it is exactly when every call of the shadow evaluator
   has a rule that matches or raises, or no rule at all. -/
theorem fp_le_triggers_run_iff
    (steps : List Step) :
    FpAmongTriggers rules steps ↔
      ∀ step ∈ steps, step.MatchesOrRaises rules := by
  constructor
  · intro hRun step hMem
    rw [← fp_le_triggers_step_iff]
    intro ruleId
    rcases List.append_of_mem hMem with
      ⟨before, after, rfl⟩
    have hInfix :
        [step] <:+: before ++ step :: after :=
      ⟨before, after, by simp⟩
    exact (hRun [step] hInfix ruleId).1
  · intro hSteps stretch hStretch ruleId
    have hLe :
        shadowFpTotal rules stretch ruleId ≤
          shadowTriggersTotal rules stretch ruleId := by
      apply fp_le_triggers_run
      intro step hMem
      exact hSteps step (hStretch.subset hMem)
    exact ⟨hLe, estimatedFpRate_mem hLe⟩

/- A record with a count of transactions. -/
def countRecord (count : Int) : Record :=
  .ofList [("vel_count_1m", .int count)]

/- A record that matches a rule on the count, and two that
   do not. -/
def countRun : List Step :=
  [.shadow 1000 (countRecord 6),
    .shadow 2000 (countRecord 3),
    .shadow 3000 (countRecord 2)]

/- The rule has one trigger and two false positives. -/
theorem fp_exceeds_triggers :
    shadowTriggersTotal
        [countRule "VEL-001" .shadow (.int 5)] countRun
        "VEL-001" = 1 ∧
      shadowFpTotal
        [countRule "VEL-001" .shadow (.int 5)] countRun
        "VEL-001" = 2 ∧
      estimatedFpRate 1 2 = 2 ∧
      ¬ FpAmongTriggers
        [countRule "VEL-001" .shadow (.int 5)] countRun := by
  have hTriggers :
      shadowTriggersTotal
          [countRule "VEL-001" .shadow (.int 5)] countRun
          "VEL-001" = 1 := by
    decide
  have hFp :
      shadowFpTotal
          [countRule "VEL-001" .shadow (.int 5)] countRun
          "VEL-001" = 2 := by
    decide
  have hRate : estimatedFpRate 1 2 = 2 := by
    norm_num [estimatedFpRate]
  refine ⟨hTriggers, hFp, hRate, ?_⟩
  intro hRun
  have hLe := (hRun countRun List.infix_rfl "VEL-001").1
  rw [hTriggers, hFp] at hLe
  exact absurd hLe (by decide)

end ShadowMetrics

end FraudStream
