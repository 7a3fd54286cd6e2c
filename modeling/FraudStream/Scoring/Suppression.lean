import Mathlib.Data.List.MinMax
import FraudStream.Scoring.JobExtension
import FraudStream.Scoring.Rules.Evaluable

/-
  Whether a rule can suppress another.

  The outcome of a rule set on a record depends on the
  severities of its active matches, unless a rule raises:
  then the record is allowed. More severities never lower
  the decision, so only a rule that raises can suppress a
  match of the others.

  Main declarations:
    * `Outcome`
    * `activeMatches`
    * `outcome_of_isOk`
    * `outcome_of_raises`
    * `Job.not_suppressed_iff`
-/

------------------------------------------------------------
-- The Highest Severity
------------------------------------------------------------

namespace FraudStream

namespace RuleEvaluator

/- The fold of the loop is the fold of the maximum. -/
private theorem foldl_argAux_severity
    (s : Severity)
    (ss : List Severity) :
    ss.foldl
        (List.argAux
          (fun b c => c.value < b.value)) (some s) =
      some (ss.foldl
        (fun m x => if m.value < x.value then x else m)
        s) := by
  induction ss generalizing s with
  | nil => rfl
  | cons x ss ih =>
      simp only [List.foldl_cons, List.argAux]
      split <;> exact ih _

theorem maxSeverity_eq_argmax
    (l : List Severity) :
    maxSeverity l = l.argmax Severity.value := by
  cases l with
  | nil => rfl
  | cons s ss => exact (foldl_argAux_severity s ss).symm

theorem maxSeverity_eq_none_iff
    (l : List Severity) :
    maxSeverity l = none ↔ l = [] := by
  rw [maxSeverity_eq_argmax, List.argmax_eq_none]

/- The highest severity grows with the list. -/
theorem maxSeverity_mono
    {l l' : List Severity}
    {s s' : Severity}
    (hSubset : l ⊆ l')
    (hMax : maxSeverity l = some s)
    (hMax' : maxSeverity l' = some s') :
    s.value ≤ s'.value := by
  rw [maxSeverity_eq_argmax] at hMax hMax'
  have hMem : s ∈ l' := hSubset (List.argmax_mem hMax)
  exact List.le_of_mem_argmax hMem hMax'

end RuleEvaluator

/- A higher severity has no lower decision. -/
theorem decisionOfSeverity_mono
    {s s' : Severity}
    (hLe : s.value ≤ s'.value) :
    (decisionOfSeverity s).rank ≤
      (decisionOfSeverity s').rank := by
  cases s <;> cases s' <;>
    simp_all [Severity.value, decisionOfSeverity,
      Decision.rank]

theorem decisionOfSeverity_ne_allow
    (s : Severity) :
    decisionOfSeverity s ≠ .allow := by
  cases s <;> simp [decisionOfSeverity]

end FraudStream

------------------------------------------------------------
-- Outcomes
------------------------------------------------------------

namespace FraudStream

/- What a rule set makes of a record. -/
structure Outcome where
  alerted : Bool
  decision : Decision
  fraudScore : PyFloat
  severity : Option Severity
deriving DecidableEq

/- The outcome of evaluating a record. -/
def outcome
    (rules : List RuleDefinition)
    (evaluationTimestamp : Int)
    (txn : Record) : Outcome :=
  let result := (evaluateRecord rules evaluationTimestamp txn).1
  { alerted := result.1.isSome
    decision := result.2.decision
    fraudScore := result.2.fraudScore
    severity := result.1.map (·.severity) }

/- The outcome that some active severities lead to. -/
def Outcome.ofSeverities (l : List Severity) : Outcome :=
  match RuleEvaluator.maxSeverity l with
  | none =>
      { alerted := false
        decision := .allow
        fraudScore := .finite 0
        severity := none }
  | some s =>
      { alerted := true
        decision := decisionOfSeverity s
        fraudScore :=
          if decisionOfSeverity s = .flag then
            .ofRat (3 / 10)
          else
            .ofRat (8 / 10)
        severity := some s }

theorem Outcome.ofSeverities_decision_eq_allow_iff
    (l : List Severity) :
    (ofSeverities l).decision = .allow ↔ l = [] := by
  unfold ofSeverities
  cases hMax : RuleEvaluator.maxSeverity l with
  | none =>
      simpa using
        (RuleEvaluator.maxSeverity_eq_none_iff l).1 hMax
  | some s =>
      have hSome : l ≠ [] := by
        rintro rfl
        cases hMax
      simp [decisionOfSeverity_ne_allow, hSome]

/- More severities do not lower the decision. -/
theorem Outcome.ofSeverities_mono
    {l l' : List Severity}
    (hSubset : l ⊆ l') :
    (ofSeverities l).decision.rank ≤
      (ofSeverities l').decision.rank := by
  unfold ofSeverities
  cases hMax : RuleEvaluator.maxSeverity l with
  | none => exact Nat.zero_le _
  | some s =>
      cases hMax' : RuleEvaluator.maxSeverity l' with
      | none =>
          have hNil :=
            (RuleEvaluator.maxSeverity_eq_none_iff l').1 hMax'
          rw [hNil, List.subset_nil] at hSubset
          rw [hSubset] at hMax
          cases hMax
      | some s' =>
          apply decisionOfSeverity_mono
          exact
            RuleEvaluator.maxSeverity_mono hSubset hMax hMax'

end FraudStream

------------------------------------------------------------
-- The Outcome Of A Rule Set
------------------------------------------------------------

namespace FraudStream

/- An active rule matches a record. -/
def RuleDefinition.ActiveMatch
    (rule : RuleDefinition)
    (txn : Record) : Prop :=
  rule.mode = .active ∧ rule.evaluate txn = .ok true

instance
    (rule : RuleDefinition)
    (txn : Record) :
    Decidable (rule.ActiveMatch txn) := by
  unfold RuleDefinition.ActiveMatch
  infer_instance

/- The active rules that match, in order. -/
def activeMatches
    (txn : Record)
    (rules : List RuleDefinition) : List RuleDefinition :=
  rules.filter (·.ActiveMatch txn)

namespace RuleEvaluator

/- A loop that ends has recorded the active matches. -/
theorem evaluateRules_of_isOk
    {txn : Record}
    {rules : List RuleDefinition}
    (s : LoopState)
    (hOk :
      ∀ rule ∈ rules, ∃ b, rule.evaluate txn = .ok b) :
    (evaluateRules txn rules s).1.activeMatched =
        s.activeMatched ++
          (activeMatches txn rules).map (·.ruleId) ∧
      (evaluateRules txn rules s).1.triggeredSeverities =
        s.triggeredSeverities ++
          (activeMatches txn rules).map (·.severity) := by
  induction rules generalizing s with
  | nil => simp [evaluateRules, activeMatches]
  | cons rule rules ih =>
      rcases List.forall_mem_cons.1 hOk with
        ⟨⟨b, hRule⟩, hRules⟩
      have hRest := fun s => ih s hRules
      simp only [evaluateRules, hRule]
      cases b with
      | false =>
          -- Nothing is recorded for a rule that does not match.
          have hSkip :
              activeMatches txn (rule :: rules) =
                activeMatches txn rules := by
            apply List.filter_cons_of_neg
            simp [RuleDefinition.ActiveMatch, hRule]
          simpa [hSkip, LoopState.evaluated] using
            hRest (s.evaluated rule)
      | true =>
          cases hMode : rule.mode with
          | shadow =>
              have hSkip :
                  activeMatches txn (rule :: rules) =
                    activeMatches txn rules := by
                apply List.filter_cons_of_neg
                simp [RuleDefinition.ActiveMatch, hMode]
              simpa [hSkip, LoopState.evaluated,
                LoopState.matched, hMode] using
                hRest ((s.evaluated rule).matched rule)
          | active =>
              have hKeep :
                  activeMatches txn (rule :: rules) =
                    rule :: activeMatches txn rules := by
                apply List.filter_cons_of_pos
                simp [RuleDefinition.ActiveMatch, hMode,
                  hRule]
              simpa [hKeep, LoopState.evaluated,
                LoopState.matched, hMode] using
                hRest ((s.evaluated rule).matched rule)

end RuleEvaluator

section Outcomes

variable
  {txn : Record}
  {rules : List RuleDefinition}
  (hEnabled : ∀ rule ∈ rules, rule.enabled)

include hEnabled

/- When no rule raises, the active matches decide. -/
theorem outcome_of_isOk
    (evaluationTimestamp : Int)
    (hOk :
      ∀ rule ∈ rules, ∃ b, rule.evaluate txn = .ok b) :
    outcome rules evaluationTimestamp txn =
      .ofSeverities
        ((activeMatches txn rules).map (·.severity)) := by
  have hNone :=
    (RuleEvaluator.evaluateRules_isOk_iff txn rules
      .start).2 hOk
  have hLists :=
    RuleEvaluator.evaluateRules_of_isOk .start hOk
  have hKept := RuleEvaluator.keptRules_of_enabled hEnabled
  unfold outcome evaluateRecord RuleEvaluator.dispatch
  rw [hKept]
  rcases hEnd : RuleEvaluator.evaluateRules txn rules .start
    with ⟨s, e⟩
  rw [hEnd] at hNone hLists
  cases hNone
  rcases hLists with ⟨hIds, hSeverities⟩
  simp only [RuleEvaluator.LoopState.start,
    List.nil_append] at hIds hSeverities
  simp only [RuleEvaluator.resultOf, buildFraudAlert,
    buildFraudDecision, hIds, hSeverities]
  cases activeMatches txn rules with
  | nil => rfl
  | cons rule matching =>
      cases hMax :
          RuleEvaluator.maxSeverity
            (rule.severity :: matching.map (·.severity)) with
      | none =>
          simp [RuleEvaluator.maxSeverity_eq_none_iff]
            at hMax
      | some s => simp [Outcome.ofSeverities, hMax]

/- When a rule raises, the record is allowed. -/
theorem outcome_of_raises
    (evaluationTimestamp : Int)
    (hRaises :
      ¬ ∀ rule ∈ rules,
        ∃ b, rule.evaluate txn = .ok b) :
    outcome rules evaluationTimestamp txn =
      .ofSeverities [] := by
  have hSome :=
    (RuleEvaluator.evaluateRules_isOk_iff txn rules
      .start).not.2 hRaises
  have hKept := RuleEvaluator.keptRules_of_enabled hEnabled
  unfold outcome evaluateRecord RuleEvaluator.dispatch
  rw [hKept]
  rcases hEnd : RuleEvaluator.evaluateRules txn rules .start
    with ⟨s, e⟩
  rw [hEnd] at hSome
  cases e with
  | none => exact absurd rfl hSome
  | some e => rfl

end Outcomes

end FraudStream

------------------------------------------------------------
-- One More Rule
------------------------------------------------------------

namespace FraudStream

/- A rule comes out of some rules file. -/
def RuleAccepted (rule : RuleDefinition) : Prop :=
  ∃ rules, LoaderAccepts rules ∧ rule ∈ rules

/- A rule of a mode does not suppress the others: a shadow
   rule changes nothing, and an active rule does not lower
   the decision. -/
def NotSuppressed
    (mode : RuleMode)
    (without within : Outcome) : Prop :=
  match mode with
  | .shadow => within = without
  | .active => without.decision.rank ≤ within.decision.rank

/- The active matches of a list with one more rule. -/
theorem activeMatches_insert
    (txn : Record)
    (before after : List RuleDefinition)
    (rule : RuleDefinition) :
    activeMatches txn (before ++ rule :: after) =
      activeMatches txn before ++
        activeMatches txn [rule] ++
        activeMatches txn after := by
  rw [activeMatches, List.append_cons, List.filter_append,
    List.filter_append]
  rfl

theorem activeMatches_eq_nil_iff
    (txn : Record)
    (rules : List RuleDefinition) :
    activeMatches txn rules = [] ↔
      ∀ rule ∈ rules, ¬ rule.ActiveMatch txn := by
  simp [activeMatches, List.filter_eq_nil_iff]

/- Inserting severities suppresses nothing; a shadow rule
   inserts none. -/
theorem notSuppressed_of_insert
    (txn : Record)
    (before after : List RuleDefinition)
    (rule : RuleDefinition) :
    NotSuppressed rule.mode
      (.ofSeverities
        ((activeMatches txn (before ++ after)).map
          (·.severity)))
      (.ofSeverities
        ((activeMatches txn (before ++ rule :: after)).map
          (·.severity))) := by
  have hAppend :
      activeMatches txn (before ++ after) =
        activeMatches txn before ++ activeMatches txn after :=
    List.filter_append ..
  cases hMode : rule.mode with
  | shadow =>
      have hNone : activeMatches txn [rule] = [] := by
        simp [activeMatches, RuleDefinition.ActiveMatch,
          hMode]
      simp [NotSuppressed, activeMatches_insert, hNone,
        hAppend]
  | active =>
      apply Outcome.ofSeverities_mono
      apply List.map_subset
      rw [activeMatches_insert, hAppend]
      intro match' hMem
      simp only [List.mem_append] at hMem ⊢
      rcases hMem with hBefore | hAfter
      · exact .inl (.inl hBefore)
      · exact .inr hAfter

/- Allowing a record suppresses every match on it. -/
theorem notSuppressed_nil_iff
    (mode : RuleMode)
    (l : List Severity) :
    NotSuppressed mode (.ofSeverities l)
        (.ofSeverities []) ↔ l = [] := by
  have hAllow :
      (Outcome.ofSeverities l).decision.rank ≤ 0 ↔ l = [] := by
    rw [← Outcome.ofSeverities_decision_eq_allow_iff]
    cases (Outcome.ofSeverities l).decision <;>
      simp [Decision.rank]
  cases mode with
  | active => exact hAllow
  | shadow =>
      constructor
      · intro hEq
        apply hAllow.1
        rw [← (show _ = Outcome.ofSeverities l from hEq)]
        exact Nat.le_refl _
      · rintro rfl
        rfl

/- Accepted rules with one more accepted rule are enabled. -/
private theorem enabled_insert
    {before after : List RuleDefinition}
    {rule : RuleDefinition}
    (hEnabled : ∀ other ∈ before ++ after, other.enabled)
    (hRule : RuleAccepted rule) :
    ∀ other ∈ before ++ rule :: after, other.enabled := by
  rcases hRule with ⟨rules, hLoaded, hMem⟩
  have hHere := enabled_of_loaderAccepts hLoaded rule hMem
  rw [List.forall_mem_append] at hEnabled
  rw [List.forall_mem_append, List.forall_mem_cons]
  exact ⟨hEnabled.1, hHere, hEnabled.2⟩

/- One more rule raises, or else the others decide. -/
private theorem forall_insert_iff
    {P : RuleDefinition → Prop}
    (before after : List RuleDefinition)
    (rule : RuleDefinition) :
    (∀ other ∈ before ++ rule :: after, P other) ↔
      P rule ∧ ∀ other ∈ before ++ after, P other := by
  simp only [List.forall_mem_append, List.forall_mem_cons]
  constructor
  · rintro ⟨hBefore, hRule, hAfter⟩
    exact ⟨hRule, hBefore, hAfter⟩
  · rintro ⟨hRule, hBefore, hAfter⟩
    exact ⟨hBefore, hRule, hAfter⟩

namespace Job

/- No rule raises on a produced record exactly when none has
   values that cannot be compared. -/
private theorem forall_isOk_iff
    {config : JobConfig}
    {record : Record}
    (hProduced : Produced config record)
    (rules : List RuleDefinition) :
    (∀ rule ∈ rules, ∃ b, rule.evaluate record = .ok b) ↔
      ¬ ∃ rule ∈ rules, ¬ rule.Evaluable record := by
  rw [not_exists]
  apply forall_congr'
  intro rule
  rw [evaluate_isOk_iff hProduced, not_and_not_right]

/-
  One more accepted rule does not suppress the others
  exactly when it does not raise on the record, or another
  rule does, or no active rule matches.
-/
theorem not_suppressed_iff
    {config : JobConfig}
    {record : Record}
    {rule : RuleDefinition}
    (before after : List RuleDefinition)
    (hProduced : Produced config record)
    (hRules : LoaderAccepts (before ++ after))
    (hRule : RuleAccepted rule)
    (timeWithout timeWithin : Int) :
    NotSuppressed rule.mode
        (outcome (before ++ after) timeWithout record)
        (outcome (before ++ rule :: after) timeWithin
          record) ↔
      rule.Evaluable record ∨
        (∃ other ∈ before ++ after,
          ¬ other.Evaluable record) ∨
        ∀ other ∈ before ++ after,
          ¬ other.ActiveMatch record := by
  have hEnabled := enabled_of_loaderAccepts hRules
  have hEnabled' := enabled_insert hEnabled hRule
  have hInsert :=
    forall_insert_iff
      (P := fun r => ∃ b, r.evaluate record = .ok b)
      before after rule
  by_cases hOthers :
      ∀ other ∈ before ++ after,
        ∃ b, other.evaluate record = .ok b
  · have hNone := (forall_isOk_iff hProduced _).1 hOthers
    rw [outcome_of_isOk hEnabled timeWithout hOthers]
    by_cases hHere : ∃ b, rule.evaluate record = .ok b
    · -- Neither list raises: the longer one matches more.
      have hAll := hInsert.2 ⟨hHere, hOthers⟩
      have hEval :=
        (evaluate_isOk_iff hProduced rule).1 hHere
      rw [outcome_of_isOk hEnabled' timeWithin hAll]
      simp only [hEval, true_or, iff_true]
      exact
        notSuppressed_of_insert record before after rule
    · -- Only the longer list raises: it allows the record.
      have hAll := hInsert.not.2 (fun h => hHere h.1)
      have hEval :=
        (evaluate_isOk_iff hProduced rule).not.1 hHere
      rw [outcome_of_raises hEnabled' timeWithin hAll,
        notSuppressed_nil_iff, List.map_eq_nil_iff,
        activeMatches_eq_nil_iff]
      simp only [hEval, hNone, false_or]
  · -- Both lists raise: both allow the record.
    have hAll := hInsert.not.2 (fun h => hOthers h.2)
    have hSome :=
      not_not.1 ((forall_isOk_iff hProduced _).not.1 hOthers)
    rw [outcome_of_raises hEnabled timeWithout hOthers,
      outcome_of_raises hEnabled' timeWithin hAll,
      notSuppressed_nil_iff]
    simp only [hSome, true_or, or_true]

/- One rule on the count comes out of a file. -/
private theorem loaderAccepts_one
    (mode : RuleMode)
    (count : Scalar) :
    LoaderAccepts [countRule "VEL-001" mode count] := by
  apply
    loaderAccepts_countRules [("VEL-001", mode, count)]
  rw [List.forall_mem_singleton]
  change RuleDefinition.ruleIdMatches "VEL-001" = true
  decide

/- A loaded rule whose count is a string turns a block into
   an allow, as an active and as a shadow rule. -/
theorem raising_rule_suppresses :
    LoaderAccepts [countRule "VEL-001" .active (.int 0)] ∧
      Produced sampleConfig sampleRecord ∧
      ∀ mode,
        RuleAccepted (countRule "VEL-001" mode (.str "5")) ∧
          (outcome [countRule "VEL-001" .active (.int 0)]
            1000 sampleRecord).decision = .block ∧
          (outcome
            [countRule "VEL-001" .active (.int 0),
              countRule "VEL-001" mode (.str "5")]
            1000 sampleRecord).decision = .allow ∧
          ¬ NotSuppressed mode
            (outcome [countRule "VEL-001" .active (.int 0)]
              1000 sampleRecord)
            (outcome
              [countRule "VEL-001" .active (.int 0),
                countRule "VEL-001" mode (.str "5")]
              1000 sampleRecord) := by
  refine
    ⟨loaderAccepts_one _ _, produced_sampleRecord, ?_⟩
  intro mode
  have hMatch :
      (countRule "VEL-001" .active (.int 0)).evaluate
          sampleRecord = .ok true := by
    rw [evaluate_countRule]
    rfl
  have hRaises :
      (countRule "VEL-001" mode (.str "5")).evaluate
          sampleRecord = .error .typeError := by
    rw [evaluate_countRule]
    rfl
  have hMatches :
      activeMatches sampleRecord
          [countRule "VEL-001" .active (.int 0)] =
        [countRule "VEL-001" .active (.int 0)] := by
    apply List.filter_cons_of_pos
    simp only [RuleDefinition.ActiveMatch, hMatch]
    rfl
  have hWithout :
      outcome [countRule "VEL-001" .active (.int 0)] 1000
          sampleRecord =
        .ofSeverities [.high] := by
    rw [outcome_of_isOk, hMatches]
    · rfl
    · simp [countRule]
    · simp [hMatch]
  have hWithin :
      outcome
          [countRule "VEL-001" .active (.int 0),
            countRule "VEL-001" mode (.str "5")] 1000
          sampleRecord =
        .ofSeverities [] := by
    apply outcome_of_raises
    · simp [countRule]
    · simp [hRaises]
  rw [hWithout, hWithin]
  refine
    ⟨⟨_, loaderAccepts_one _ _, List.mem_singleton_self _⟩,
      rfl, rfl, ?_⟩
  rw [notSuppressed_nil_iff]
  simp

/- A rule whose count is a number suppresses nothing. -/
theorem not_suppressed_number :
    NotSuppressed .active
      (outcome [countRule "VEL-001" .active (.int 0)] 1000
        sampleRecord)
      (outcome
        [countRule "VEL-001" .active (.int 0),
          countRule "VEL-001" .active (.int 5)] 1000
        sampleRecord) := by
  have hRule :
      RuleAccepted (countRule "VEL-001" .active (.int 5)) :=
    ⟨_, loaderAccepts_one _ _, List.mem_singleton_self _⟩
  have hEvaluable :
      (countRule "VEL-001" .active (.int 5)).Evaluable
        sampleRecord := by
    rw [evaluable_countRule_iff]
    decide
  exact
    (not_suppressed_iff
      [countRule "VEL-001" .active (.int 0)] []
      produced_sampleRecord (loaderAccepts_one _ _) hRule
      1000 1000).2 (.inl hEvaluable)

end Job

end FraudStream
