import FraudStream.Processing.MetricsBridge
import FraudStream.Scoring.Rules.ShadowEvaluator

/-
  What the rules decide on a record, without the loop.

  When no rule raises, the decision, the score and the alert
  depend on the severities at which enabled active rules
  match, whatever their order and number. The matched rules
  list the active ids, then the shadow ids with a suffix
  that no accepted id has, so that the matches of the shadow
  evaluator can be read back from them.

  Main declarations:
    * `DecidesBy`
    * `Flagged`
    * `matchingIds`
    * `shadowEntries`
    * `outcome_of_noneRaises`
    * `shadowEntries_matchedRules`
    * `decision_characterised`
-/

------------------------------------------------------------
-- The Highest Severity
------------------------------------------------------------

namespace FraudStream

theorem Severity.value_injective :
    Function.Injective Severity.value := by
  intro s t hEq
  cases s <;> cases t <;> simp_all [Severity.value]

namespace RuleEvaluator

/- The maximum is the member that no member exceeds. -/
theorem maxSeverity_eq_some_iff
    (l : List Severity)
    (s : Severity) :
    maxSeverity l = some s ↔
      s ∈ l ∧ ∀ t ∈ l, t.value ≤ s.value := by
  rw [maxSeverity_eq_argmax]
  constructor
  · intro hMax
    refine ⟨List.argmax_mem hMax, ?_⟩
    intro t hMem
    exact List.le_of_mem_argmax hMem hMax
  · rintro ⟨hMem, hAbove⟩
    cases hMax : l.argmax Severity.value with
    | none =>
        rw [List.argmax_eq_none] at hMax
        rw [hMax] at hMem
        cases hMem
    | some m =>
        have hLe := hAbove m (List.argmax_mem hMax)
        have hGe := List.le_of_mem_argmax hMem hMax
        rw [Severity.value_injective (Nat.le_antisymm hLe hGe)]

/- Lists with the same members have the same maximum. -/
theorem maxSeverity_congr
    {l l' : List Severity}
    (hMembers : ∀ s, s ∈ l ↔ s ∈ l') :
    maxSeverity l = maxSeverity l' := by
  apply Option.ext
  intro s
  simp only [maxSeverity_eq_some_iff, hMembers]

end RuleEvaluator

end FraudStream

------------------------------------------------------------
-- Decisions By Severity
------------------------------------------------------------

namespace FraudStream

/- A severity at which a transaction is blocked. -/
def Severity.IsSevere (s : Severity) : Prop :=
  s = .high ∨ s = .critical

/- What the flagged severities decide. -/
structure DecidesBy
    (flagged : Severity → Prop)
    (o : Outcome) : Prop where
  block :
    o.decision = .block ↔ ∃ s, flagged s ∧ s.IsSevere
  flag :
    o.decision = .flag ↔
      (∃ s, flagged s) ∧ ∀ s, flagged s → ¬ s.IsSevere
  allow : o.decision = .allow ↔ ∀ s, ¬ flagged s
  alert : o.alerted ↔ o.decision ≠ .allow
  alertSeverity : o.severity.isSome ↔ o.alerted
  severity :
    ∀ s, o.severity = some s →
      flagged s ∧ ∀ t, flagged t → t.value ≤ s.value

theorem Severity.isSevere_iff
    (s : Severity) :
    s.IsSevere ↔ decisionOfSeverity s = .block := by
  cases s <;> simp [IsSevere, decisionOfSeverity]

theorem Severity.isSevere_of_le
    {s t : Severity}
    (hSevere : s.IsSevere)
    (hLe : s.value ≤ t.value) :
    t.IsSevere := by
  cases t <;> rcases hSevere with rfl | rfl <;>
    simp_all [IsSevere, value]

/- The outcome of some severities is decided by those in the
   list. -/
theorem decidesBy_ofSeverities
    (l : List Severity) :
    DecidesBy (· ∈ l) (.ofSeverities l) := by
  unfold Outcome.ofSeverities
  cases hMax : RuleEvaluator.maxSeverity l with
  | none =>
      have hNil :=
        (RuleEvaluator.maxSeverity_eq_none_iff l).1 hMax
      subst hNil
      constructor <;> simp
  | some s =>
      rcases (RuleEvaluator.maxSeverity_eq_some_iff l s).1
        hMax with ⟨hMem, hAbove⟩
      have hBlock :
          decisionOfSeverity s = .block ↔
            ∃ t, t ∈ l ∧ t.IsSevere := by
        rw [← Severity.isSevere_iff]
        constructor
        · intro hSevere
          exact ⟨s, hMem, hSevere⟩
        · rintro ⟨t, hOther, hSevere⟩
          exact
            Severity.isSevere_of_le hSevere
              (hAbove t hOther)
      have hSome : decisionOfSeverity s ≠ .allow :=
        decisionOfSeverity_ne_allow s
      have hFlag :
          decisionOfSeverity s = .flag ↔
            ¬ decisionOfSeverity s = .block := by
        cases s <;> simp [decisionOfSeverity]
      constructor
      · exact hBlock
      · rw [hFlag, hBlock]
        constructor
        · intro hNone
          refine ⟨⟨s, hMem⟩, ?_⟩
          intro t hOther hSevere
          exact hNone ⟨t, hOther, hSevere⟩
        · rintro ⟨-, hMild⟩ ⟨t, hOther, hSevere⟩
          exact hMild t hOther hSevere
      · constructor
        · intro hAllow
          exact absurd hAllow hSome
        · intro hNone
          exact absurd hMem (hNone s)
      · simp [hSome]
      · simp
      · intro s' hHighest
        cases hHighest
        exact ⟨hMem, hAbove⟩

end FraudStream

------------------------------------------------------------
-- The Rules That Match
------------------------------------------------------------

namespace FraudStream

/- Some enabled active rule of a severity matches. -/
def Flagged
    (rules : List RuleDefinition)
    (txn : Record)
    (s : Severity) : Prop :=
  ∃ rule ∈ rules,
    rule.enabled ∧ rule.ActiveMatch txn ∧ rule.severity = s

/- The ids of the enabled rules of a mode that match, in
   rule order. -/
def matchingIds
    (mode : RuleMode)
    (txn : Record)
    (rules : List RuleDefinition) : List String :=
  (rules.filter (fun rule =>
    rule.enabled ∧ rule.mode = mode ∧
      rule.evaluate txn = .ok true)).map (·.ruleId)

theorem flagged_iff
    (rules : List RuleDefinition)
    (txn : Record)
    (s : Severity) :
    Flagged rules txn s ↔
      s ∈ (activeMatches txn
        (RuleEvaluator.keptRules rules)).map
          (·.severity) := by
  simp only [Flagged, activeMatches,
    RuleEvaluator.keptRules, List.filter_filter,
    List.mem_map, List.mem_filter, Bool.and_eq_true,
    decide_eq_true_eq]
  apply exists_congr
  intro rule
  tauto

theorem Flagged.perm
    {rules rules' : List RuleDefinition}
    (hPerm : rules'.Perm rules)
    (txn : Record)
    (s : Severity) :
    Flagged rules' txn s ↔ Flagged rules txn s := by
  simp only [Flagged, hPerm.mem_iff]

theorem matchingIds_perm
    {rules rules' : List RuleDefinition}
    (hPerm : rules'.Perm rules)
    (mode : RuleMode)
    (txn : Record) :
    (matchingIds mode txn rules').Perm
      (matchingIds mode txn rules) :=
  (hPerm.filter _).map _

/- The ids that a filter keeps, if it keeps the enabled
   matching rules of a mode. -/
theorem map_filter_eq_matchingIds
    {mode : RuleMode}
    {txn : Record}
    {keep : RuleDefinition → Bool}
    (hKeep :
      ∀ rule, keep rule ↔
        rule.enabled ∧ rule.mode = mode ∧
          rule.evaluate txn = .ok true)
    (rules : List RuleDefinition) :
    (rules.filter keep).map (·.ruleId) =
      matchingIds mode txn rules := by
  unfold matchingIds
  congr 2
  funext rule
  rw [Bool.eq_iff_iff, decide_eq_true_iff]
  exact hKeep rule

theorem matchingIds_active
    (txn : Record)
    (rules : List RuleDefinition) :
    (activeMatches txn (RuleEvaluator.keptRules rules)).map
        (·.ruleId) =
      matchingIds .active txn rules := by
  rw [activeMatches, RuleEvaluator.keptRules,
    List.filter_filter]
  apply map_filter_eq_matchingIds
  intro rule
  rw [Bool.and_eq_true, decide_eq_true_iff]
  unfold RuleDefinition.ActiveMatch
  tauto

theorem matchingIds_shadow
    (txn : Record)
    (rules : List RuleDefinition) :
    (shadowMatches txn (RuleEvaluator.keptRules rules)).map
        (·.ruleId) =
      matchingIds .shadow txn rules := by
  rw [shadowMatches, RuleEvaluator.keptRules,
    List.filter_filter]
  apply map_filter_eq_matchingIds
  intro rule
  rw [Bool.and_eq_true, decide_eq_true_iff]
  unfold RuleDefinition.ShadowMatch
  tauto

theorem matchingIds_shadow_of_kept
    (txn : Record)
    (rules : List RuleDefinition) :
    (shadowMatches txn
        (ShadowRuleEvaluator.keptRules rules)).map
        (·.ruleId) =
      matchingIds .shadow txn rules := by
  rw [shadowMatches, ShadowRuleEvaluator.keptRules,
    List.filter_filter]
  apply map_filter_eq_matchingIds
  intro rule
  rw [Bool.and_eq_true, decide_eq_true_iff,
    decide_eq_true_iff]
  unfold RuleDefinition.ShadowMatch
  tauto

theorem mem_of_mem_matchingIds
    {mode : RuleMode}
    {txn : Record}
    {rules : List RuleDefinition}
    {ruleId : String}
    (hMem : ruleId ∈ matchingIds mode txn rules) :
    ∃ rule ∈ rules, rule.ruleId = ruleId := by
  rcases List.mem_map.1 hMem with ⟨rule, hRule, rfl⟩
  exact ⟨rule, (List.mem_filter.1 hRule).1, rfl⟩

end FraudStream

------------------------------------------------------------
-- Shadow Entries
------------------------------------------------------------

namespace FraudStream

open MetricsBridge

/- `entry.removesuffix(":shadow")` of an entry that has the
   suffix -/
def removeShadow (entry : String) : String :=
  String.ofList
    (entry.toList.take
      (entry.toList.length - ":shadow".toList.length))

/- The ids of the entries with the suffix. -/
def shadowEntries (entries : List String) : List String :=
  (entries.filter endsWithShadow).map removeShadow

theorem removeShadow_append (ruleId : String) :
    removeShadow (ruleId ++ ":shadow") = ruleId := by
  simp [removeShadow]

/- The tagged entries can be told from accepted ids. -/
theorem shadowEntries_append_tagged
    {active : List String}
    (hIds :
      ∀ ruleId ∈ active,
        RuleDefinition.ruleIdMatches ruleId)
    (shadow : List String) :
    shadowEntries (active ++ shadow.map (· ++ ":shadow")) =
      shadow := by
  have hDrop : active.filter endsWithShadow = [] := by
    apply List.filter_eq_nil_iff.2
    intro ruleId hMem
    rw [endsWithShadow_of_ruleIdMatches (hIds ruleId hMem)]
    decide
  have hKeep :
      (shadow.map (· ++ ":shadow")).filter endsWithShadow =
        shadow.map (· ++ ":shadow") := by
    apply List.filter_eq_self.2
    intro entry hMem
    rcases List.mem_map.1 hMem with ⟨ruleId, -, rfl⟩
    exact endsWithShadow_append ruleId
  rw [shadowEntries, List.filter_append, hDrop, hKeep,
    List.nil_append, List.map_map]
  calc
    shadow.map (removeShadow ∘ (· ++ ":shadow")) =
        shadow.map id := by
      apply List.map_congr_left
      intro ruleId _
      exact removeShadow_append ruleId
    _ = shadow := List.map_id shadow

end FraudStream

------------------------------------------------------------
-- One Record
------------------------------------------------------------

namespace FraudStream

open RuleEvaluator

/- No enabled rule raises, so no enabled shadow rule does. -/
theorem noneRaises_shadow
    {txn : Record}
    {rules : List RuleDefinition}
    (hOk : NoneRaises txn (keptRules rules)) :
    NoneRaises txn (ShadowRuleEvaluator.keptRules rules) := by
  intro rule hMem
  rcases
    (ShadowRuleEvaluator.mem_keptRules_iff rules rule).1
      hMem with ⟨hRule, hEnabled, -⟩
  exact hOk rule (List.mem_filter.2 ⟨hRule, hEnabled⟩)

/- The evaluator ignores the rules that are not enabled. -/
theorem dispatch_keptRules
    (rules : List RuleDefinition)
    (time : Int)
    (txn : Record) :
    dispatch (keptRules rules) time txn =
      dispatch rules time txn := by
  simp [dispatch, keptRules]

/- The enabled active matches decide when no rule raises. -/
theorem outcome_of_noneRaises
    {rules : List RuleDefinition}
    {txn : Record}
    (hOk : NoneRaises txn (keptRules rules))
    (time : Int) :
    outcome rules time txn =
      .ofSeverities
        ((activeMatches txn (keptRules rules)).map
          (·.severity)) := by
  have hKept :
      outcome (keptRules rules) time txn =
        outcome rules time txn := by
    simp only [outcome, evaluateRecord, dispatch_keptRules]
  rw [← hKept]
  apply outcome_of_isOk _ time hOk
  intro rule hMem
  exact (List.mem_filter.1 hMem).2

/- The matched rules are the ids of the enabled matches,
   those of shadow rules with the suffix. -/
theorem matchedRules_resultOfMatches
    (rules : List RuleDefinition)
    (txn : Record)
    (time : Int) :
    (resultOfMatches rules time txn).matchedRules =
      matchingIds .active txn rules ++
        (matchingIds .shadow txn rules).map
          (· ++ ":shadow") := by
  rw [resultOfMatches, matchingIds_active,
    ← matchingIds_shadow, List.map_map]
  rfl

/- The matches of the shadow evaluator have no suffix. -/
theorem shadowDispatch_of_noneRaises
    {rules : List RuleDefinition}
    {txn : Record}
    (hOk : NoneRaises txn (keptRules rules))
    (time : Int) :
    ∃ shadowResult,
      (ShadowRuleEvaluator.dispatch rules time txn).1 =
          .ok shadowResult ∧
        shadowResult.matchedRules =
          matchingIds .shadow txn rules := by
  have hShadow := noneRaises_shadow hOk
  rcases ShadowRuleEvaluator.loop_spec rules txn with
    ⟨⟨hMatched, -⟩, hEnds⟩
  rw [evaluatedRules_of_noneRaises txn hShadow,
    matchingIds_shadow_of_kept] at hMatched
  have hNone := hEnds.2 hShadow
  unfold ShadowRuleEvaluator.dispatch
  rcases hEnd :
    ShadowRuleEvaluator.evaluateRules txn
      (ShadowRuleEvaluator.keptRules rules) .start with
    ⟨s, e⟩
  rw [hEnd] at hMatched hNone
  cases hNone
  exact ⟨_, rfl, hMatched⟩

/- The entries with the suffix are the matches of the shadow
   evaluator. -/
theorem shadowEntries_matchedRules
    {rules : List RuleDefinition}
    (hIds :
      ∀ rule ∈ rules,
        RuleDefinition.ruleIdMatches rule.ruleId)
    (txn : Record)
    (time : Int) :
    shadowEntries
        (resultOfMatches rules time txn).matchedRules =
      matchingIds .shadow txn rules := by
  rw [matchedRules_resultOfMatches]
  apply shadowEntries_append_tagged
  intro ruleId hMem
  rcases mem_of_mem_matchingIds hMem with
    ⟨rule, hRule, rfl⟩
  exact hIds rule hRule

end FraudStream

------------------------------------------------------------
-- Rule Lists In Any Order
------------------------------------------------------------

namespace FraudStream

open RuleEvaluator

section Permutations

variable
  {rules rules' : List RuleDefinition}
  (hPerm : rules'.Perm rules)
  {txn : Record}

include hPerm

theorem noneRaises_perm
    (hOk : NoneRaises txn (keptRules rules)) :
    NoneRaises txn (keptRules rules') := by
  intro rule hMem
  exact hOk rule ((hPerm.filter _).mem_iff.1 hMem)

/- The outcome does not depend on the order of the rules. -/
theorem outcome_perm
    (hOk : NoneRaises txn (keptRules rules))
    (time time' : Int) :
    outcome rules' time' txn = outcome rules time txn := by
  have hMembers :
      ∀ s,
        s ∈ (activeMatches txn (keptRules rules')).map
            (·.severity) ↔
          s ∈ (activeMatches txn (keptRules rules)).map
            (·.severity) := by
    intro s
    rw [← flagged_iff, ← flagged_iff]
    exact Flagged.perm hPerm txn s
  rw [outcome_of_noneRaises (noneRaises_perm hPerm hOk),
    outcome_of_noneRaises hOk, Outcome.ofSeverities,
    Outcome.ofSeverities, maxSeverity_congr hMembers]

theorem matchedRules_perm
    (time time' : Int) :
    ((resultOfMatches rules' time' txn).matchedRules).Perm
      (resultOfMatches rules time txn).matchedRules := by
  rw [matchedRules_resultOfMatches,
    matchedRules_resultOfMatches]
  exact
    (matchingIds_perm hPerm .active txn).append
      ((matchingIds_perm hPerm .shadow txn).map _)

end Permutations

end FraudStream

------------------------------------------------------------
-- The Whole Decision
------------------------------------------------------------

namespace FraudStream

open RuleEvaluator

/-
  For rules with accepted ids on a record on which none
  raises: the flagged severities decide; the matched rules
  are the active ids and then the shadow ids with their
  suffix, from which the matches of the shadow evaluator are
  read back; and another order of the rules gives the same
  outcome and the same matched rules in another order.
-/
theorem decision_characterised
    (rules : List RuleDefinition)
    (txn : Record)
    (hIds :
      ∀ rule ∈ rules,
        RuleDefinition.ruleIdMatches rule.ruleId)
    (hOk : NoneRaises txn (keptRules rules))
    (time shadowTime : Int) :
    ∃ result shadowResult,
      (dispatch rules time txn).1 = .ok result ∧
        (ShadowRuleEvaluator.dispatch rules shadowTime
            txn).1 = .ok shadowResult ∧
        DecidesBy (Flagged rules txn)
          (outcome rules time txn) ∧
        result.matchedRules =
          matchingIds .active txn rules ++
            (matchingIds .shadow txn rules).map
              (· ++ ":shadow") ∧
        (∀ alert,
          (evaluateRecord rules time txn).1.1 = some alert →
          alert.matchedRuleNames = result.matchedRules) ∧
        shadowEntries result.matchedRules =
          shadowResult.matchedRules ∧
        ∀ rules' time',
          rules'.Perm rules →
          outcome rules' time' txn =
              outcome rules time txn ∧
            ∃ result',
              (dispatch rules' time' txn).1 = .ok result' ∧
                result'.matchedRules.Perm
                  result.matchedRules := by
  have hResult := dispatch_of_isOk rules time txn hOk
  rcases shadowDispatch_of_noneRaises hOk shadowTime with
    ⟨shadowResult, hShadow, hMatches⟩
  have hDecides :
      DecidesBy (Flagged rules txn)
        (outcome rules time txn) := by
    have hFlagged :
        Flagged rules txn =
          (· ∈ (activeMatches txn (keptRules rules)).map
            (·.severity)) := by
      funext s
      exact propext (flagged_iff rules txn s)
    rw [outcome_of_noneRaises hOk, hFlagged]
    exact decidesBy_ofSeverities _
  refine
    ⟨resultOfMatches rules time txn, shadowResult,
      by rw [hResult], hShadow, hDecides,
      matchedRules_resultOfMatches rules txn time, ?_, ?_,
      ?_⟩
  · intro alert hAlert
    rcases (alert_eq_some_iff rules time txn alert).1 hAlert
      with ⟨-, -, rfl⟩
    rfl
  · rw [shadowEntries_matchedRules hIds, hMatches]
  · intro rules' time' hPerm
    have hOk' := noneRaises_perm hPerm hOk
    refine ⟨outcome_perm hPerm hOk time time', ?_⟩
    refine
      ⟨resultOfMatches rules' time' txn, ?_,
        matchedRules_perm hPerm time time'⟩
    rw [dispatch_of_isOk rules' time' txn hOk']

/- A matching active rule after a matching shadow rule, and
   a rule that is not enabled. -/
def mixedRules : List RuleDefinition :=
  [countRule "VEL-002" .shadow (.int 0),
    countRule "VEL-001" .active (.int 0),
    { countRule "VEL-003" .active (.int 0) with
      enabled := false }]

theorem decision_of_mixedRules :
    ∃ result shadowResult,
      (dispatch mixedRules 1000 Job.sampleRecord).1 =
          .ok result ∧
        (ShadowRuleEvaluator.dispatch mixedRules 1000
            Job.sampleRecord).1 = .ok shadowResult ∧
        shadowEntries result.matchedRules =
          shadowResult.matchedRules := by
  have hIds :
      ∀ rule ∈ mixedRules,
        RuleDefinition.ruleIdMatches rule.ruleId := by
    decide
  have hOk :
      NoneRaises Job.sampleRecord (keptRules mixedRules) := by
    intro rule hMem
    refine ⟨true, ?_⟩
    have hKept :
        keptRules mixedRules =
          [countRule "VEL-002" .shadow (.int 0),
            countRule "VEL-001" .active (.int 0)] := rfl
    rw [hKept] at hMem
    simp only [List.mem_cons, List.not_mem_nil, or_false]
      at hMem
    rcases hMem with rfl | rfl
    · rw [Job.evaluate_countRule]
      rfl
    · rw [Job.evaluate_countRule]
      rfl
  rcases
    decision_characterised mixedRules Job.sampleRecord hIds
      hOk 1000 1000 with
    ⟨result, shadowResult, hResult, hShadow, -, -, -,
      hEntries, -⟩
  exact ⟨result, shadowResult, hResult, hShadow, hEntries⟩

end FraudStream
