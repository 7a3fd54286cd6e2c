import FraudStream.Scoring.Management.RuleFile

/-
  What a sequence of mode changes does to the rules file.

  A change rewrites every rule. The rules are keyed by their
  identifiers first, so that of the rules of one identifier
  only the last is left, in the place of the first; and
  their conditions go through JSON.

  Main declarations:
    * `ManagementApi.serve`
    * `ManagementApi.requested`
    * `RuleDefinition.Same`
    * `ManagementApi.reloads_requested_iff`
-/

------------------------------------------------------------
-- Successful Requests
------------------------------------------------------------

namespace FraudStream

namespace ManagementApi

/- Serve requests one after the other. -/
def serve
    (codec : Codec) :
    List ModeRequest → RuleStore → List Answer × RuleStore
| [], store => ([], store)
| request :: requests, store =>
    let result := handle codec request store
    let rest := serve codec requests result.2
    (result.1 :: rest.1, rest.2)

/- A rule after a change of the mode of a rule. -/
def changed
    (rule : RuleDefinition)
    (request : ModeRequest) : RuleDefinition :=
  if rule.ruleId = request.ruleId then
    { rule with mode := request.newMode }
  else
    rule

/- A rule with the mode of the last request for it. -/
def requested
    (requests : List ModeRequest)
    (rule : RuleDefinition) : RuleDefinition :=
  requests.foldl changed rule

/- Every rule is under its identifier. -/
def RulesDict.Keyed (rules : RulesDict) : Prop :=
  ∀ e ∈ rules.entries, e.2.ruleId = e.1

theorem keyed_keyedRules
    (all : List RuleDefinition) :
    RulesDict.Keyed (keyedRules all) := by
  intro e hMem
  rcases List.mem_map.1 (Dict.mem_of_mem_ofList hMem) with
    ⟨rule, -, rfl⟩
  rfl

theorem mem_of_mem_keyedRules
    {all : List RuleDefinition}
    {rule : RuleDefinition}
    (hMem : rule ∈ RulesDict.values (keyedRules all)) :
    rule ∈ all := by
  rcases List.mem_map.1 hMem with ⟨e, hEntry, rfl⟩
  rcases List.mem_map.1 (Dict.mem_of_mem_ofList hEntry) with
    ⟨rule, hRule, rfl⟩
  exact hRule

/- The identifiers of keyed rules are distinct. -/
theorem nodup_ids_of_keyed
    {rules : RulesDict}
    (hKeyed : RulesDict.Keyed rules) :
    ((RulesDict.values rules).map (·.ruleId)).Nodup := by
  have hIds :
      (RulesDict.values rules).map (·.ruleId) =
        rules.entries.map Prod.fst := by
    rw [RulesDict.values, List.map_map]
    exact List.map_congr_left hKeyed
  rw [hIds]
  exact rules.nodupKeys

section OneChange

variable
  {rules : RulesDict}
  {request : ModeRequest}
  {rule : RuleDefinition}
  (hKeyed : RulesDict.Keyed rules)
  (hRule : Dict.get? rules request.ruleId = some rule)

include hKeyed hRule

/- A change keeps the entries in their places. -/
theorem entries_put_newMode :
    (Dict.put rules request.ruleId
        { rule with mode := request.newMode }).entries =
      rules.entries.map
        (fun e => (e.1, changed e.2 request)) := by
  rw [Dict.entries_put_of_get?
    (fun r => { r with mode := request.newMode }) hRule]
  apply List.map_congr_left
  intro e hMem
  simp only [changed, hKeyed e hMem]

theorem values_put_newMode :
    RulesDict.values
        (Dict.put rules request.ruleId
          { rule with mode := request.newMode }) =
      (RulesDict.values rules).map
        (fun r => changed r request) := by
  rw [RulesDict.values, entries_put_newMode hKeyed hRule,
    RulesDict.values, List.map_map, List.map_map]
  rfl

theorem keyed_put_newMode :
    RulesDict.Keyed
      (Dict.put rules request.ruleId
        { rule with mode := request.newMode }) := by
  intro e hMem
  rw [entries_put_newMode hKeyed hRule] at hMem
  rcases List.mem_map.1 hMem with ⟨e', hMem', rfl⟩
  rw [← hKeyed e' hMem']
  dsimp only [changed]
  split <;> rfl

theorem modeless_put_newMode :
    RulesDict.modeless
        (Dict.put rules request.ruleId
          { rule with mode := request.newMode }) =
      RulesDict.modeless rules := by
  rw [RulesDict.modeless, entries_put_newMode hKeyed hRule,
    RulesDict.modeless, List.map_map]
  apply List.map_congr_left
  intro e _
  simp only [Function.comp_apply, changed]
  split <;> rfl

end OneChange

/- Successful requests leave the requested rules in memory
   and, unless there is none, their document on disk. -/
theorem serve_of_status_eq_ok
    {codec : Codec}
    {requests : List ModeRequest}
    {store : RuleStore}
    (hKeyed : RulesDict.Keyed store.rulesDict)
    (hOk :
      ∀ answer ∈ (serve codec requests store).1,
        answer.status = 200) :
    RulesDict.values (serve codec requests store).2.rulesDict =
        (RulesDict.values store.rulesDict).map
          (requested requests) ∧
      RulesDict.modeless
          (serve codec requests store).2.rulesDict =
        RulesDict.modeless store.rulesDict ∧
      (requests ≠ [] →
        ∃ data,
          rulesData codec.texts
            (serve codec requests store).2.rulesDict =
              some data ∧
          (serve codec requests store).2.file =
            codec.dump data) := by
  induction requests generalizing store with
  | nil =>
      refine ⟨?_, rfl, fun hNil => absurd rfl hNil⟩
      exact (List.map_id _).symm
  | cons request requests ih =>
      simp only [serve, List.forall_mem_cons] at hOk ⊢
      rcases hOk with ⟨hHere, hLater⟩
      have hAdmitted : request.admitted := by
        by_contra hRefused
        exact (handle_of_not_admitted codec hRefused store).1
          hHere
      rw [handle_of_admitted codec hAdmitted] at hHere hLater ⊢
      rcases changeMode_status_eq_ok hHere with
        ⟨rule, data, hRule, -, hData, hChange⟩
      rw [hChange] at hLater ⊢
      rcases ih (keyed_put_newMode hKeyed hRule) hLater with
        ⟨hValues, hModeless, hFile⟩
      refine ⟨?_, ?_, ?_⟩
      · rw [hValues, values_put_newMode hKeyed hRule,
          List.map_map]
        rfl
      · rw [hModeless, modeless_put_newMode hKeyed hRule]
      · intro _
        by_cases hNil : requests = []
        · rw [hNil]
          exact ⟨data, hData, rfl⟩
        · exact hFile hNil

end ManagementApi

end FraudStream

------------------------------------------------------------
-- Reloaded Rules
------------------------------------------------------------

namespace FraudStream

namespace RuleDefinition

/- Equal rules: equal fields, and conditions that are equal
   in whichever order their keys are. -/
def Same (rule rule' : RuleDefinition) : Prop :=
  rule' = { rule with conditions := rule'.conditions } ∧
    rule'.conditionsValue.sortKeys =
      rule.conditionsValue.sortKeys

theorem Same.refl
    (rule : RuleDefinition) : rule.Same rule :=
  ⟨rfl, rfl⟩

theorem Same.ruleId_eq
    {rule rule' : RuleDefinition}
    (hSame : rule.Same rule') :
    rule'.ruleId = rule.ruleId := by
  rw [hSame.1]

theorem Reloaded.ruleId_eq
    {texts : JsonTexts}
    {rule rule' : RuleDefinition}
    (hReloaded : Reloaded texts rule rule') :
    rule'.ruleId = rule.ruleId := by
  rw [hReloaded.1]

/- A reloaded rule is the same when its conditions are JSON
   values. -/
theorem Reloaded.same_iff
    {texts : JsonTexts}
    {rule rule' : RuleDefinition}
    (hReloaded : Reloaded texts rule rule') :
    rule.Same rule' ↔ rule.conditionsValue.isJson := by
  rcases hReloaded with ⟨hFields, w, hThrough, hConditions⟩
  rw [Same, hConditions, PyVal.sortKeys_sortKeys,
    PyVal.sortKeys_throughJson_eq_iff hThrough]
  exact and_iff_right hFields

end RuleDefinition

namespace ManagementApi

@[simp] theorem ruleId_requested
    (requests : List ModeRequest)
    (rule : RuleDefinition) :
    (requested requests rule).ruleId = rule.ruleId := by
  induction requests generalizing rule with
  | nil => rfl
  | cons request requests ih =>
      rw [requested, List.foldl_cons, ← requested, ih]
      unfold changed
      split <;> rfl

/- Requests only change the mode of a rule. -/
theorem requested_eq
    (requests : List ModeRequest)
    (rule : RuleDefinition) :
    ∃ mode,
      requested requests rule = { rule with mode := mode } := by
  induction requests generalizing rule with
  | nil => exact ⟨rule.mode, rfl⟩
  | cons request requests ih =>
      rcases ih (changed rule request) with ⟨mode, hMode⟩
      refine ⟨mode, hMode.trans ?_⟩
      unfold changed
      split <;> rfl

theorem enabled_requested
    (requests : List ModeRequest)
    (rule : RuleDefinition) :
    (requested requests rule).enabled = rule.enabled := by
  rcases requested_eq requests rule with ⟨mode, hMode⟩
  rw [hMode]

theorem conditionsValue_requested
    (requests : List ModeRequest)
    (rule : RuleDefinition) :
    (requested requests rule).conditionsValue =
      rule.conditionsValue := by
  rcases requested_eq requests rule with ⟨mode, hMode⟩
  rw [hMode]
  rfl

/- Rules whose identifiers are listed alike, with distinct
   identifiers on both sides, are listed alike. -/
theorem eq_of_ids_eq
    {rules rules' : List RuleDefinition}
    (hIds :
      rules.map (·.ruleId) = rules'.map (·.ruleId))
    (hNodup : (rules.map (·.ruleId)).Nodup)
    (hSubset : rules ⊆ rules') :
    rules = rules' := by
  have hInjective :
      ∀ rule ∈ rules', ∀ rule' ∈ rules',
        rule.ruleId = rule'.ruleId → rule = rule' := by
    rw [hIds] at hNodup
    intro rule hMem rule' hMem' hId
    exact List.inj_on_of_nodup_map hNodup hMem hMem' hId
  apply List.ext_getElem
  · simpa using congrArg List.length hIds
  · intro i hBound hBound'
    apply hInjective
    · exact hSubset (List.getElem_mem hBound)
    · exact List.getElem_mem hBound'
    · have hAt :
          (rules.map (·.ruleId))[i]? =
            (rules'.map (·.ruleId))[i]? := by
        rw [hIds]
      simpa [hBound, hBound'] using hAt

section Reloading

variable
  {codec : Codec}
  {path file : String}
  {rules : List RuleDefinition}
  {dict : RulesDict}
  {requests : List ModeRequest}
  (hLoad :
    RuleLoader.load (fun _ => some file) codec.safeLoad
      path = .ok rules)
  (hService :
    loadRulesFromYaml (fun _ => some file) codec.safeLoad
      path = .ok dict)

include hLoad hService

/- Both loaders read the same rules: the service keys them,
   the evaluator keeps the enabled ones. -/
theorem exists_listed :
    ∃ all,
      dict = keyedRules all ∧
      rules = all.filter (·.enabled) ∧
      ∀ rule ∈ all,
        RuleDefinition.ruleIdMatches rule.ruleId := by
  rcases (RuleLoader.load_ok_iff _ _ _ _).1 hLoad with
    ⟨content, items, all, hFile, hItems, hAll, hRules⟩
  rcases keyedRules_of_loadRulesFromYaml hService with
    ⟨content', items', all', hFile', hItems', hAll', hDict⟩
  have hContent := Option.some.inj (hFile.symm.trans hFile')
  rw [← hContent, hItems] at hItems'
  cases hItems'
  have hSame : all' = all := by
    refine List.right_unique_forall₂' ?_ hAll' hAll
    intro item rule rule' hRule hRule'
    exact Except.ok.inj (hRule.symm.trans hRule')
  rw [hSame] at hDict
  refine ⟨all, hDict, hRules, ?_⟩
  intro rule hMem
  rcases FallibleList.forall₂_mem_right hAll hMem with
    ⟨item, -, hValid⟩
  exact
    RuleDefinition.ruleIdMatches_of_modelValidate hValid

variable
  (hYaml : ReadsBack codec dict)
  (hOk :
    ∀ answer ∈
      (serve codec requests
        { rulesDict := dict, file := file }).1,
      answer.status = 200)

include hYaml hOk

/- The rewritten file loads to the enabled rules in memory,
   as JSON brings them back. -/
theorem load_served
    (hSome : requests ≠ []) :
    ∃ reloaded,
      RuleLoader.load
        (fun _ => some
          (serve codec requests
            { rulesDict := dict, file := file }).2.file)
        codec.safeLoad path = .ok reloaded ∧
      List.Forall₂ (RuleDefinition.Reloaded codec.texts)
        (((RulesDict.values dict).filter (·.enabled)).map
          (requested requests))
        reloaded := by
  rcases exists_listed hLoad hService with
    ⟨all, rfl, -, hIds⟩
  rcases serve_of_status_eq_ok (keyed_keyedRules all) hOk with
    ⟨hValues, hModeless, hFile⟩
  rcases hFile hSome with ⟨data, hData, hText⟩
  have hValid :
      RulesDict.Valid
        (serve codec requests
          { rulesDict := keyedRules all
            file := file }).2.rulesDict := by
    unfold RulesDict.Valid
    rw [hValues]
    intro rule hMem
    rcases List.mem_map.1 hMem with ⟨rule', hMem', rfl⟩
    rw [ruleId_requested]
    exact hIds rule' (mem_of_mem_keyedRules hMem')
  rcases reloaded_of_rulesData hValid hData with
    ⟨items, reloaded, hItems, hAll, hReloaded⟩
  have hRead := hYaml _ _ hModeless hData
  rw [hItems] at hRead
  refine
    ⟨reloaded.filter (·.enabled),
      (RuleLoader.load_ok_iff _ _ _ _).2
        ⟨_, items, reloaded, rfl, hText ▸ hRead, hAll, rfl⟩,
      ?_⟩
  have hEnabled :
      (RulesDict.values (keyedRules all)).filter (·.enabled) =
        (RulesDict.values (keyedRules all)).filter
          ((·.enabled) ∘ requested requests) := by
    apply List.filter_congr
    intro rule _
    exact (enabled_requested requests rule).symm
  rw [hEnabled, ← List.filter_map, ← hValues]
  refine List.rel_filter ?_ hReloaded
  rintro rule rule' ⟨hFields, -⟩
  rw [hFields]

/-
  The rewritten file loads to the rules it held, with the
  requested modes, exactly when nothing was requested, or
  keying the rules by their identifiers keeps the enabled
  ones as they are listed and all their conditions are JSON
  values.
-/
theorem reloads_requested_iff :
    (∃ reloaded,
        RuleLoader.load
          (fun _ => some
            (serve codec requests
              { rulesDict := dict, file := file }).2.file)
          codec.safeLoad path = .ok reloaded ∧
        List.Forall₂ RuleDefinition.Same
          (rules.map (requested requests)) reloaded) ↔
      requests = [] ∨
        ((RulesDict.values dict).filter (·.enabled) =
            rules ∧
          ∀ rule ∈ rules, rule.conditionsValue.isJson) := by
  by_cases hSome : requests = []
  · rw [hSome]
    refine iff_of_true ⟨rules, hLoad, ?_⟩ (.inl rfl)
    rw [List.forall₂_map_left_iff, List.forall₂_same]
    intro rule _
    exact RuleDefinition.Same.refl rule
  · rcases load_served hLoad hService hYaml hOk hSome with
      ⟨reloaded, hReload, hReloaded⟩
    have hJson :
        (RulesDict.values dict).filter (·.enabled) = rules →
          (List.Forall₂ RuleDefinition.Same
              (rules.map (requested requests)) reloaded ↔
            ∀ rule ∈ rules, rule.conditionsValue.isJson) := by
      intro hKept
      rw [hKept] at hReloaded
      have hStep : ∀ rule rule',
          RuleDefinition.Reloaded codec.texts rule rule' →
            (rule.Same rule' ↔
              rule.conditionsValue.isJson) :=
        fun _ _ h => h.same_iff
      rw [FallibleList.forall₂_iff_forall_mem hReloaded hStep,
        List.forall_mem_map]
      simp only [conditionsValue_requested]
    constructor
    · rintro ⟨reloaded', hReload', hSame⟩
      rw [hReload] at hReload'
      cases hReload'
      have hKept :
          (RulesDict.values dict).filter (·.enabled) =
            rules := by
        rcases exists_listed hLoad hService with
          ⟨all, rfl, rfl, -⟩
        have hIds :=
          (FallibleList.map_eq_of_forall₂
            (fun _ _ h => RuleDefinition.Reloaded.ruleId_eq h)
            hReloaded).symm.trans
          (FallibleList.map_eq_of_forall₂
            (fun _ _ h => RuleDefinition.Same.ruleId_eq h)
            hSame)
        simp only [List.map_map, Function.comp_def,
          ruleId_requested] at hIds
        apply eq_of_ids_eq hIds
        · exact
            (nodup_ids_of_keyed (keyed_keyedRules all)).sublist
              (List.filter_sublist.map _)
        · intro rule hMem
          rw [List.mem_filter] at hMem ⊢
          exact ⟨mem_of_mem_keyedRules hMem.1, hMem.2⟩
      exact .inr ⟨hKept, (hJson hKept).1 hSame⟩
    · rintro (hNil | ⟨hKept, hAll⟩)
      · exact absurd hNil hSome
      · exact ⟨reloaded, hReload, (hJson hKept).2 hAll⟩

end Reloading

end ManagementApi

end FraudStream

------------------------------------------------------------
-- A Rules File
------------------------------------------------------------

namespace FraudStream

namespace ManagementApi

/- A rule on the number of transactions of a minute. -/
def sampleRule (mode : RuleMode) : RuleDefinition where
  ruleId := "VEL-001"
  name := "Count"
  family := .velocity
  conditions := Dict.ofList [("count", .scalar (.int 5))]
  severity := .high
  enabled := true
  mode := mode

def sampleItem (mode : RuleMode) : PyVal :=
  .dict (PyVal.ofNamed
    [("conditions",
        .dict (PyVal.ofNamed [("count", .scalar (.int 5))])),
      ("enabled", .scalar (.bool true)),
      ("family", .scalar (.str "velocity")),
      ("mode", .scalar (.str mode.value)),
      ("name", .scalar (.str "Count")),
      ("rule_id", .scalar (.str "VEL-001")),
      ("severity", .scalar (.int 2))])

def sampleText (mode : RuleMode) : String :=
  "- conditions:\n    count: 5\n  enabled: true\n" ++
    "  family: velocity\n  mode: " ++ mode.value ++
    "\n  name: Count\n  rule_id: VEL-001\n  severity: 2\n"

/- The documents of the sample rule, once or twice. -/
def sampleCodec : Codec where
  texts :=
    { timestamp := fun _ => ""
      decimal := fun _ => ""
      key := fun _ => none }
  safeLoad text :=
    if text = sampleText .active then
      .ok (.list [sampleItem .active])
    else if text = sampleText .shadow then
      .ok (.list [sampleItem .shadow])
    else if text =
        sampleText .active ++ sampleText .active then
      .ok (.list [sampleItem .active, sampleItem .active])
    else
      .error "while parsing"
  dump
  | .list [.dict es] =>
      match RuleDefinition.lookupField es "mode" with
      | some (.scalar (.str "shadow")) => sampleText .shadow
      | _ => sampleText .active
  | _ => "[]\n"

def sampleRequest (mode : RuleMode) : ModeRequest where
  ruleId := "VEL-001"
  newMode := mode
  authorized := true
  withinLimit := true
  fault := none

theorem modelValidate_sampleItem
    (mode : RuleMode) :
    RuleDefinition.modelValidate (sampleItem mode) =
      .ok (sampleRule mode) := by
  cases mode <;> rfl

theorem load_sample
    (mode : RuleMode) :
    RuleLoader.load (fun _ => some (sampleText mode))
      sampleCodec.safeLoad "rules.yaml" =
      .ok [sampleRule mode] := by
  cases mode <;> rfl

theorem loadRulesFromYaml_sample
    (mode : RuleMode) :
    loadRulesFromYaml (fun _ => some (sampleText mode))
      sampleCodec.safeLoad "rules.yaml" =
      .ok (keyedRules [sampleRule mode]) := by
  cases mode <;> rfl

theorem isJson_sampleRule
    (mode : RuleMode) :
    (sampleRule mode).conditionsValue.isJson := by
  have hBound := ten_le_readableBound
  have hCount : |(5 : Int)| < readableBound := by
    rw [abs_of_pos (by omega)]
    omega
  have hConditions :
      (sampleRule mode).conditionsValue =
        .dict (PyVal.ofNamed [("count", .scalar (.int 5))]) :=
    rfl
  rw [hConditions, PyVal.isJson_dict_iff]
  refine ⟨_, rfl, List.nodup_singleton _, ?_⟩
  rw [List.forall_mem_singleton, PyVal.isJson]
  exact decide_eq_true hCount

/- What is written of the sample rule. -/
theorem rulesData_sample
    (mode : RuleMode) :
    rulesData sampleCodec.texts
        (keyedRules [sampleRule mode]) =
      some (.list
        [.dict (PyVal.ofNamed
          ((sampleRule mode).fieldsWith
            (sampleRule mode).conditionsValue))]) := by
  have hConditions :=
    PyVal.throughJson_of_isJson sampleCodec.texts
      (isJson_sampleRule mode)
  have hFields :=
    (RuleDefinition.throughJson_fields_eq_some_iff
      _ _ _).2 ⟨_, hConditions, rfl⟩
  have hValues :
      RulesDict.values (keyedRules [sampleRule mode]) =
        [sampleRule mode] := rfl
  rw [rulesData, hValues, List.mapM_cons, hFields]
  rfl

theorem get?_sample
    (mode : RuleMode) :
    Dict.get? (keyedRules [sampleRule mode]) "VEL-001" =
      some (sampleRule mode) := rfl

theorem put_sample
    (mode newMode : RuleMode) :
    Dict.put (keyedRules [sampleRule mode]) "VEL-001"
        { sampleRule mode with mode := newMode } =
      keyedRules [sampleRule newMode] := rfl

/- A rule changes its mode and nothing else. -/
theorem changeMode_sample
    {mode newMode : RuleMode}
    (hMode : mode ≠ newMode)
    (file : String) :
    handle sampleCodec (sampleRequest newMode)
        { rulesDict := keyedRules [sampleRule mode]
          file := file } =
      (.ok
          { ruleId := "VEL-001"
            previousMode := mode
            newMode := newMode
            configEventPublished := false },
        { rulesDict := keyedRules [sampleRule newMode]
          file := sampleText newMode }) := by
  have hAdmitted : (sampleRequest newMode).admitted := by
    cases newMode <;> rfl
  have hWrite :
      writeRulesToYaml sampleCodec none
          { rulesDict := keyedRules [sampleRule newMode]
            file := file } =
        (none, sampleText newMode) := by
    rw [writeRulesToYaml_completes_iff]
    refine ⟨rfl, _, rulesData_sample newMode, ?_⟩
    cases newMode <;> rfl
  rw [handle_of_admitted _ hAdmitted, changeMode]
  simp only [sampleRequest, get?_sample, RuleStore.setRule,
    put_sample, hWrite]
  rw [if_neg (show (sampleRule mode).mode ≠ newMode from
    hMode)]
  rfl

/- YAML reads back what it wrote of the sample rule. -/
theorem readsBack_sample
    (mode : RuleMode) :
    ReadsBack sampleCodec (keyedRules [sampleRule mode]) := by
  intro rules data hModeless hData
  have hRules :
      ∃ mode', rules = keyedRules [sampleRule mode'] := by
    rcases rules with ⟨_ | ⟨e, es⟩, hNodup⟩
    · cases hModeless
    · rcases List.cons_eq_cons.1 hModeless with
        ⟨hEntry, hNil⟩
      rcases e with ⟨ruleId, rule⟩
      rcases Prod.mk.inj hEntry with ⟨rfl, hRule⟩
      cases List.map_eq_nil_iff.1 hNil
      refine ⟨rule.mode, Dict.ext ?_⟩
      cases rule
      cases hRule
      rfl
  rcases hRules with ⟨mode', rfl⟩
  rw [rulesData_sample] at hData
  cases hData
  cases mode' <;> rfl

/- Rules of one identifier are not all written back. -/
theorem drops_repeated_rule :
    RuleLoader.load
        (fun _ =>
          some (sampleText .active ++ sampleText .active))
        sampleCodec.safeLoad "rules.yaml" =
        .ok [sampleRule .active, sampleRule .active] ∧
      loadRulesFromYaml
        (fun _ =>
          some (sampleText .active ++ sampleText .active))
        sampleCodec.safeLoad "rules.yaml" =
        .ok (keyedRules
          [sampleRule .active, sampleRule .active]) ∧
      (serve sampleCodec [sampleRequest .shadow]
        { rulesDict :=
            keyedRules
              [sampleRule .active, sampleRule .active]
          file :=
            sampleText .active ++ sampleText .active }).1 =
        [.ok
          { ruleId := "VEL-001"
            previousMode := .active
            newMode := .shadow
            configEventPublished := false }] ∧
      ¬ ∃ reloaded,
        RuleLoader.load
          (fun _ => some
            (serve sampleCodec [sampleRequest .shadow]
              { rulesDict :=
                  keyedRules
                    [sampleRule .active, sampleRule .active]
                file :=
                  sampleText .active ++
                    sampleText .active }).2.file)
          sampleCodec.safeLoad "rules.yaml" = .ok reloaded ∧
        List.Forall₂ RuleDefinition.Same
          ([sampleRule .active, sampleRule .active].map
            (requested [sampleRequest .shadow]))
          reloaded := by
  have hKeyed :
      keyedRules [sampleRule .active, sampleRule .active] =
        keyedRules [sampleRule .active] := rfl
  have hServe :=
    changeMode_sample
      (show RuleMode.active ≠ .shadow by decide)
      (sampleText .active ++ sampleText .active)
  have hItems :
      sampleCodec.safeLoad
          (sampleText .active ++ sampleText .active) =
        .ok (.list [sampleItem .active, sampleItem .active])
      := by
    have hNotOnce : ∀ mode,
        sampleText .active ++ sampleText .active ≠
          sampleText mode := by
      intro mode
      cases mode <;> decide +kernel
    simp only [sampleCodec, hNotOnce, if_false, if_true]
  have hAll :
      List.Forall₂
        (fun item rule =>
          RuleDefinition.modelValidate item = .ok rule)
        [sampleItem .active, sampleItem .active]
        [sampleRule .active, sampleRule .active] :=
    .cons (modelValidate_sampleItem _)
      (.cons (modelValidate_sampleItem _) .nil)
  refine ⟨?_, ?_, ?_, ?_⟩
  · exact
      (RuleLoader.load_ok_iff _ _ _ _).2
        ⟨_, _, _, rfl, hItems, hAll, rfl⟩
  · simp only [loadRulesFromYaml, hItems, keyRules,
      modelValidate_sampleItem]
    rfl
  · rw [hKeyed, serve, hServe]
    rfl
  · rintro ⟨reloaded, hLoad, hSame⟩
    rw [hKeyed, serve, hServe] at hLoad
    have hOne :=
      hLoad.symm.trans (load_sample .shadow)
    cases hOne
    have hLength := hSame.length_eq
    simp at hLength

/- Demoting and promoting the sample rule leaves its file. -/
theorem reloads_sample :
    ∃ reloaded,
      RuleLoader.load
        (fun _ => some
          (serve sampleCodec
            [sampleRequest .shadow, sampleRequest .active]
            { rulesDict := keyedRules [sampleRule .active]
              file := sampleText .active }).2.file)
        sampleCodec.safeLoad "rules.yaml" = .ok reloaded ∧
      List.Forall₂ RuleDefinition.Same
        ([sampleRule .active].map
          (requested
            [sampleRequest .shadow, sampleRequest .active]))
        reloaded := by
  have hOk :
      ∀ answer ∈
        (serve sampleCodec
          [sampleRequest .shadow, sampleRequest .active]
          { rulesDict := keyedRules [sampleRule .active]
            file := sampleText .active }).1,
        answer.status = 200 := by
    simp only [serve]
    rw [changeMode_sample (by decide),
      changeMode_sample (by decide)]
    decide
  refine
    (reloads_requested_iff (load_sample .active)
      (loadRulesFromYaml_sample .active)
      (readsBack_sample .active) hOk).2 (.inr ⟨rfl, ?_⟩)
  rw [List.forall_mem_singleton]
  exact isJson_sampleRule .active

end ManagementApi

end FraudStream
