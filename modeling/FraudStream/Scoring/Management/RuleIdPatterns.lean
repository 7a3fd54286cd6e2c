import FraudStream.Library.Regex
import FraudStream.Scoring.Management.Api

/-
  The pattern of rule identifiers in two engines.

  A rule is validated with `re.match`, whose `$` also matches
  before a last line break. The path of a request is checked
  by an engine whose `$` matches at the end only.

  Key definitions include:
    * `ruleIdPattern`
    * `IsRuleId`
    * `RuleIdAgrees`

  Main results:
    * `RuleDefinition.ruleIdMatches_iff_matchesStart`
    * `ManagementApi.pathMatches_iff_finds`
    * `ruleIdAgrees_iff`
-/

------------------------------------------------------------
-- The Pattern
------------------------------------------------------------

namespace FraudStream

/- The class `[a-zA-Z0-9\-_]`. -/
def isIdChar (c : Char) : Bool :=
  RuleDefinition.isAsciiAlphanum c || c = '-' || c = '_'

/- `[a-zA-Z0-9][a-zA-Z0-9\-_]{0,62}[a-zA-Z0-9]` -/
def ruleIdBody : Regex Char :=
  .seq (.one RuleDefinition.isAsciiAlphanum)
    (.seq (.between 0 62 isIdChar)
      (.one RuleDefinition.isAsciiAlphanum))

/- The pattern that both validators are given. -/
def ruleIdPattern : Regex Char :=
  ruleIdBody.anchored

/- Python's `$` without flags. -/
def pythonRe : Regex.Engine Char :=
  Regex.beforeNewline '\n'

/- The `$` of the engine behind the path parameters. -/
def rustRegex : Regex.Engine Char :=
  Regex.atEnd

/- Two to 64 letters, digits, hyphens and underscores, with a
   letter or a digit at both ends. -/
def IsRuleId (cs : List Char) : Prop :=
  2 ≤ cs.length ∧ cs.length ≤ 64 ∧
    cs.head?.any RuleDefinition.isAsciiAlphanum = true ∧
    cs.getLast?.any RuleDefinition.isAsciiAlphanum = true ∧
    cs.all isIdChar = true

instance (cs : List Char) : Decidable (IsRuleId cs) :=
  inferInstanceAs (Decidable (_ ∧ _))

/- Both validators accept the identifiers, and no others, and
   a rule that a loader accepts can be addressed. -/
structure RuleIdAgrees (ruleId : String) : Prop where
  definition :
    RuleDefinition.validateRuleId (.scalar (.str ruleId)) =
        some ruleId ↔
      IsRuleId ruleId.toList
  path :
    ManagementApi.pathMatches ruleId = true ↔
      IsRuleId ruleId.toList
  addressable :
    ∀ item rule,
      RuleDefinition.modelValidate item = .ok rule →
        rule.ruleId = ruleId →
          ManagementApi.pathMatches rule.ruleId = true

end FraudStream

------------------------------------------------------------
-- The Two Engines
------------------------------------------------------------

namespace FraudStream

theorem isIdChar_of_isAsciiAlphanum
    {c : Char}
    (hAlnum : RuleDefinition.isAsciiAlphanum c = true) :
    isIdChar c = true := by
  simp [isIdChar, hAlnum]

theorem ruleIdBody_anchorFree : ruleIdBody.AnchorFree :=
  ⟨trivial, trivial, trivial⟩

/- A text of the pattern: its ends, and what is between. -/
theorem ruleIdBody_language_iff (cs : List Char) :
    ruleIdBody.Language cs ↔ IsRuleId cs := by
  simp only [ruleIdBody, Regex.Language]
  constructor
  · rintro ⟨_, _, rfl, ⟨first, rfl, hFirst⟩, hRest⟩
    rcases hRest with ⟨mid, _, rfl, hMid, last, rfl, hLast⟩
    rcases hMid with ⟨_, hLength, hClass⟩
    refine ⟨?_, ?_, ?_, ?_, ?_⟩
    · simp
    · simp only [List.length_append, List.length_singleton]
      omega
    · simpa using hFirst
    · rw [← List.append_assoc, List.getLast?_concat]
      exact hLast
    · rw [List.all_append, List.all_append,
        List.all_eq_true.2 hClass]
      simp [isIdChar_of_isAsciiAlphanum hFirst,
        isIdChar_of_isAsciiAlphanum hLast]
  · rintro ⟨hLow, hHigh, hFirst, hLast, hClass⟩
    cases cs with
    | nil => simp at hLow
    | cons first rest =>
        rcases List.eq_nil_or_concat' rest with
          rfl | ⟨mid, last, rfl⟩
        · simp at hLow
        · rw [← List.cons_append, List.getLast?_concat]
            at hLast
          simp only [List.length_cons, List.length_append,
            List.length_nil] at hHigh
          refine ⟨[first], mid ++ [last], rfl,
            ⟨first, rfl, hFirst⟩, mid, [last], rfl,
            ⟨Nat.zero_le _, by omega, ?_⟩, last, rfl, hLast⟩
          intro c hMem
          exact List.all_eq_true.1 hClass c (by simp [hMem])

/- No identifier ends with a line break. -/
theorem getLast?_ne_newline_of_isRuleId
    {cs : List Char}
    (hId : IsRuleId cs) :
    cs.getLast? ≠ some '\n' := by
  intro hLast
  have hAlnum := hId.2.2.2.1
  rw [hLast] at hAlnum
  cases hAlnum

namespace RuleDefinition

theorem checks_eq_true_iff (cs : List Char) :
    (2 ≤ cs.length && cs.length ≤ 64 &&
        cs.head?.any isAsciiAlphanum &&
        cs.getLast?.any isAsciiAlphanum &&
        cs.all (fun c =>
          isAsciiAlphanum c || c = '-' || c = '_')) = true ↔
      IsRuleId cs := by
  simp only [IsRuleId, Bool.and_eq_true, decide_eq_true_eq,
    and_assoc]
  rfl

/- `ruleIdMatches` is `re.match` of the pattern. -/
theorem ruleIdMatches_iff_matchesStart (v : String) :
    ruleIdMatches v = true ↔
      ruleIdPattern.MatchesStart pythonRe v.toList := by
  rw [ruleIdPattern, pythonRe,
    Regex.matchesStart_beforeNewline_iff
      ruleIdBody_anchorFree]
  simp only [ruleIdBody_language_iff]
  by_cases hNewline : v.toList.getLast? = some '\n'
  · simp only [ruleIdMatches, hNewline, if_true,
      checks_eq_true_iff]
    have hSplit := List.dropLast_append_getLast? '\n' hNewline
    constructor
    · intro hId
      exact .inr ⟨_, hSplit.symm, hId⟩
    · rintro (hId | ⟨part, hEq, hId⟩)
      · exact absurd hNewline
          (getLast?_ne_newline_of_isRuleId hId)
      · rw [hEq, List.dropLast_concat]
        exact hId
  · simp only [ruleIdMatches, hNewline, if_false,
      checks_eq_true_iff]
    constructor
    · exact .inl
    · rintro (hId | ⟨part, hEq, hId⟩)
      · exact hId
      · rw [hEq, List.getLast?_concat] at hNewline
        exact absurd rfl hNewline

/- The validator also accepts an identifier that a line break
   follows. -/
theorem ruleIdMatches_iff (v : String) :
    ruleIdMatches v = true ↔
      IsRuleId v.toList ∨
        ∃ cs, v.toList = cs ++ ['\n'] ∧ IsRuleId cs := by
  rw [ruleIdMatches_iff_matchesStart, ruleIdPattern, pythonRe,
    Regex.matchesStart_beforeNewline_iff
      ruleIdBody_anchorFree]
  simp only [ruleIdBody_language_iff]

end RuleDefinition

namespace ManagementApi

/- The path accepts the identifiers. -/
theorem pathMatches_iff (ruleId : String) :
    pathMatches ruleId = true ↔ IsRuleId ruleId.toList := by
  rw [pathMatches, Bool.and_eq_true, decide_eq_true_eq,
    RuleDefinition.ruleIdMatches_iff]
  constructor
  · rintro ⟨hId | ⟨cs, hEq, _⟩, hLast⟩
    · exact hId
    · rw [hEq, List.getLast?_concat] at hLast
      exact absurd rfl hLast
  · intro hId
    exact ⟨.inl hId, getLast?_ne_newline_of_isRuleId hId⟩

/- `pathMatches` is a search for the pattern. -/
theorem pathMatches_iff_finds (ruleId : String) :
    pathMatches ruleId = true ↔
      ruleIdPattern.Finds rustRegex ruleId.toList := by
  rw [pathMatches_iff, ruleIdPattern, rustRegex,
    Regex.finds_anchored_iff Regex.atEnd
      ruleIdBody_anchorFree,
    Regex.matchesStart_atEnd_iff ruleIdBody_anchorFree,
    ruleIdBody_language_iff]

end ManagementApi

end FraudStream

------------------------------------------------------------
-- Identifiers On Which They Agree
------------------------------------------------------------

namespace FraudStream

/- The validators agree on a text unless it is an identifier
   that a line break follows. -/
theorem ruleIdAgrees_iff (ruleId : String) :
    RuleIdAgrees ruleId ↔
      ¬ ∃ cs, ruleId.toList = cs ++ ['\n'] ∧ IsRuleId cs := by
  constructor
  · rintro hAgrees ⟨cs, hEq, hId⟩
    have hMatches :=
      (RuleDefinition.ruleIdMatches_iff ruleId).2
        (.inr ⟨cs, hEq, hId⟩)
    have hAccepted :=
      (RuleDefinition.validateRuleId_eq_some_iff _ ruleId).2
        ⟨rfl, hMatches⟩
    have hLast :=
      getLast?_ne_newline_of_isRuleId
        (hAgrees.definition.1 hAccepted)
    rw [hEq, List.getLast?_concat] at hLast
    exact hLast rfl
  · intro hNone
    have hDefinition :
        RuleDefinition.ruleIdMatches ruleId = true ↔
          IsRuleId ruleId.toList := by
      rw [RuleDefinition.ruleIdMatches_iff]
      exact or_iff_left hNone
    refine ⟨?_, ManagementApi.pathMatches_iff ruleId, ?_⟩
    · rw [RuleDefinition.validateRuleId_eq_some_iff]
      simpa using hDefinition
    · rintro item rule hValid rfl
      apply (ManagementApi.pathMatches_iff rule.ruleId).2
      apply hDefinition.1
      exact
        RuleDefinition.ruleIdMatches_of_modelValidate hValid

/- A rule whose identifier ends with a line break is loaded
   and cannot be addressed. -/
theorem ruleId_with_newline_disagrees :
    ¬ RuleIdAgrees "VEL-001\n" := by
  intro hAgrees
  have hId := hAgrees.definition.1 (by decide)
  exact absurd hId (by decide)

end FraudStream
