import Mathlib.Data.List.Sort
import Mathlib.Data.String.Basic
import FraudStream.Library.Dict
import FraudStream.Library.FallibleList
import FraudStream.Library.PyValue

/-
  What is left of a value that is written as JSON text and
  read back.

  JSON has neither bytes nor timestamps nor sets, no NaN and
  no infinity, and names only its keys by strings. A value
  comes back the same, up to the order of its keys, exactly
  when it has none of these.

  Key definitions include:
    * `PyVal.throughJson`
    * `PyVal.sortKeys`
    * `PyVal.isJson`

  Main results:
    * `PyVal.sortKeys_sortKeys`
    * `PyVal.throughJson_of_isJson`
    * `PyVal.sortKeys_throughJson_eq_iff`
-/

------------------------------------------------------------
-- Induction Over Values
------------------------------------------------------------

namespace PyVal

/- Induction with a hypothesis for every part of a value. -/
@[elab_as_elim]
theorem inductionOnParts
    {P : PyVal → Prop}
    (scalar : ∀ x, P (.scalar x))
    (bytes : ∀ bs, P (.bytes bs))
    (timestamp : ∀ t, P (.timestamp t))
    (list : ∀ xs, (∀ x ∈ xs, P x) → P (.list xs))
    (dict : ∀ es : List (PyVal × PyVal),
      (∀ e ∈ es, P e.2) → P (.dict es))
    (set : ∀ xs, (∀ x ∈ xs, P x) → P (.set xs))
    (v : PyVal) : P v := by
  refine
    @PyVal.rec P (fun xs => ∀ x ∈ xs, P x)
      (fun es => ∀ e ∈ es, P e.2) (fun e => P e.2)
      scalar bytes timestamp list dict set
      ?_ ?_ ?_ ?_ ?_ v
  · exact List.forall_mem_nil _
  · intro x xs hHead hTail
    exact List.forall_mem_cons.2 ⟨hHead, hTail⟩
  · exact List.forall_mem_nil _
  · intro e es hHead hTail
    exact List.forall_mem_cons.2 ⟨hHead, hTail⟩
  · intro k v hKey hValue
    exact hValue

end PyVal

------------------------------------------------------------
-- JSON Texts
------------------------------------------------------------

/- The texts that stand for what JSON has no form for. -/
structure JsonTexts where
  timestamp : Int → String
  decimal : Decimal → String
  key : PyVal → Option String

/- The digits of the longest integers that are read. -/
def readableDigits : Nat := 4300

def readableBound : Int :=
  ((10 ^ readableDigits : Nat) : Int)

theorem readableDigits_ne_zero :
    readableDigits ≠ 0 :=
  Nat.succ_ne_zero 4299

theorem ten_le_readableBound :
    10 ≤ readableBound :=
  Int.ofNat_le.2 (Nat.le_self_pow readableDigits_ne_zero 10)

/- What a scalar reads back as. A NaN and the infinities are
   written as null, and an integer of more than 4300 digits
   is not read. -/
def Scalar.throughJson
    (texts : JsonTexts) : Scalar → Option Scalar
| .int n => if |n| < readableBound then some (.int n) else none
| .float (.finite v) => some (.float (.finite v))
| .float _ => some .none
| .decimal d => some (.str (texts.decimal d))
| x => some x

namespace PyVal

/- The string that a value is. -/
def string? : PyVal → Option String
| .scalar (.str s) => some s
| _ => none

/- The name that a key is written as. -/
def jsonKey
    (texts : JsonTexts)
    (k : PyVal) : Option String :=
  k.string?.or (texts.key k)

/- Entries that are named by strings. -/
def ofNamed
    (named : List (String × PyVal)) :
    List (PyVal × PyVal) :=
  named.map (fun e => (.scalar (.str e.1), e.2))

mutual

/- `json.loads` of the text a value is written as. -/
def throughJson (texts : JsonTexts) :
    PyVal → Option PyVal
| .scalar x => (x.throughJson texts).map .scalar
| .bytes bs =>
    (String.fromUTF8? ⟨bs.toArray⟩).map
      (fun s => .scalar (.str s))
| .timestamp t => some (.scalar (.str (texts.timestamp t)))
| .list xs => (throughJsonItems texts xs).map .list
| .dict es =>
    -- Of keys that are written alike the last one is read.
    (throughJsonEntries texts es).map
      (fun named => .dict (ofNamed (Dict.ofList named).entries))
| .set xs => (throughJsonItems texts xs).map .list

def throughJsonItems (texts : JsonTexts) :
    List PyVal → Option (List PyVal)
| [] => some []
| x :: xs =>
    (throughJson texts x).bind (fun y =>
      (throughJsonItems texts xs).map (fun ys => y :: ys))

def throughJsonEntries (texts : JsonTexts) :
    List (PyVal × PyVal) → Option (List (String × PyVal))
| [] => some []
| (k, v) :: es =>
    (jsonKey texts k).bind (fun name =>
      (throughJson texts v).bind (fun w =>
        (throughJsonEntries texts es).map
          (fun named => (name, w) :: named)))

end

mutual

/- A value that JSON has a form for. -/
def isJson : PyVal → Bool
| .scalar (.int n) => |n| < readableBound
| .scalar (.float (.finite _)) => true
| .scalar (.float _) => false
| .scalar (.decimal _) => false
| .scalar _ => true
| .list xs => isJsonItems xs
| .dict es =>
    es.all (fun e => e.1.string?.isSome) &&
      (es.map (fun e => e.1.string?.getD "")).Nodup &&
      isJsonEntries es
| _ => false

def isJsonItems : List PyVal → Bool
| [] => true
| x :: xs => isJson x && isJsonItems xs

def isJsonEntries : List (PyVal × PyVal) → Bool
| [] => true
| (_, v) :: es => isJson v && isJsonEntries es

end

/- Entries are ordered by their names. -/
def KeyLe (e e' : PyVal × PyVal) : Prop :=
  e.1.string?.getD "" ≤ e'.1.string?.getD ""

instance : DecidableRel KeyLe := by
  intro e e'
  unfold KeyLe
  infer_instance

mutual

/- The value with the entries of every mapping in the order
   of their keys: values with equal mappings are alike. -/
def sortKeys : PyVal → PyVal
| .list xs => .list (sortKeysItems xs)
| .dict es => .dict ((sortKeysEntries es).insertionSort KeyLe)
| v => v

def sortKeysItems : List PyVal → List PyVal
| [] => []
| x :: xs => sortKeys x :: sortKeysItems xs

def sortKeysEntries :
    List (PyVal × PyVal) → List (PyVal × PyVal)
| [] => []
| (k, v) :: es => (k, sortKeys v) :: sortKeysEntries es

end

end PyVal

------------------------------------------------------------
-- Lists Of Parts
------------------------------------------------------------

namespace PyVal

theorem sortKeysItems_eq_map
    (xs : List PyVal) :
    sortKeysItems xs = xs.map sortKeys := by
  induction xs with
  | nil => rfl
  | cons x xs ih => rw [sortKeysItems, ih, List.map_cons]

theorem sortKeysEntries_eq_map
    (es : List (PyVal × PyVal)) :
    sortKeysEntries es =
      es.map (fun e => (e.1, sortKeys e.2)) := by
  induction es with
  | nil => rfl
  | cons e es ih => rw [sortKeysEntries, ih, List.map_cons]

theorem isJsonItems_iff
    (xs : List PyVal) :
    isJsonItems xs ↔ ∀ x ∈ xs, x.isJson := by
  induction xs with
  | nil => simp [isJsonItems]
  | cons x xs ih => simp [isJsonItems, ih]

theorem isJsonEntries_iff
    (es : List (PyVal × PyVal)) :
    isJsonEntries es ↔ ∀ e ∈ es, e.2.isJson := by
  induction es with
  | nil => simp [isJsonEntries]
  | cons e es ih => simp [isJsonEntries, ih]

theorem throughJsonItems_eq_some_iff
    (texts : JsonTexts)
    (xs ys : List PyVal) :
    throughJsonItems texts xs = some ys ↔
      List.Forall₂ (fun x y => throughJson texts x = some y)
        xs ys := by
  induction xs generalizing ys with
  | nil => simp [throughJsonItems, eq_comm]
  | cons x xs ih =>
      simp only [throughJsonItems, Option.bind_eq_some_iff,
        Option.map_eq_some_iff, List.forall₂_cons_left_iff,
        ih]
      constructor
      · rintro ⟨y, hHead, ys', hTail, rfl⟩
        exact ⟨y, ys', hHead, hTail, rfl⟩
      · rintro ⟨y, ys', hHead, hTail, rfl⟩
        exact ⟨y, hHead, ys', hTail, rfl⟩

theorem throughJsonEntries_eq_some_iff
    (texts : JsonTexts)
    (es : List (PyVal × PyVal))
    (named : List (String × PyVal)) :
    throughJsonEntries texts es = some named ↔
      List.Forall₂
        (fun e e' => jsonKey texts e.1 = some e'.1 ∧
          throughJson texts e.2 = some e'.2)
        es named := by
  induction es generalizing named with
  | nil => simp [throughJsonEntries, eq_comm]
  | cons e es ih =>
      simp only [throughJsonEntries,
        Option.bind_eq_some_iff, Option.map_eq_some_iff,
        List.forall₂_cons_left_iff, ih]
      constructor
      · rintro ⟨name, hName, w, hValue, named', hTail, rfl⟩
        exact ⟨_, named', ⟨hName, hValue⟩, hTail, rfl⟩
      · rintro ⟨e', named', ⟨hName, hValue⟩, hTail, rfl⟩
        exact ⟨_, hName, _, hValue, named', hTail, rfl⟩

theorem string?_eq_some_iff
    (v : PyVal)
    (s : String) :
    v.string? = some s ↔ v = .scalar (.str s) := by
  rcases v with (- | - | - | - | - | -) | - | - | - | - | -
    <;> simp [string?]

/- A mapping is a JSON value when its keys are distinct
   strings and its values are JSON values. -/
theorem isJson_dict_iff
    (es : List (PyVal × PyVal)) :
    isJson (.dict es) ↔
      ∃ named, es = ofNamed named ∧
        (named.map Prod.fst).Nodup ∧
        ∀ e ∈ named, e.2.isJson := by
  simp only [isJson, Bool.and_eq_true, decide_eq_true_eq,
    List.all_eq_true, isJsonEntries_iff]
  constructor
  · rintro ⟨⟨hStrings, hNodup⟩, hValues⟩
    refine
      ⟨es.map (fun e => (e.1.string?.getD "", e.2)), ?_, ?_,
        ?_⟩
    · have hSame :
          ∀ e ∈ es,
            ((.scalar (.str (e.1.string?.getD "")), e.2) :
              PyVal × PyVal) = e := by
        intro e hMem
        rcases Option.isSome_iff_exists.1 (hStrings e hMem)
          with ⟨s, hString⟩
        rw [hString, Option.getD_some,
          ← (string?_eq_some_iff e.1 s).1 hString]
      rw [ofNamed, List.map_map]
      exact ((List.map_congr_left hSame).trans
        (List.map_id es)).symm
    · rwa [List.map_map]
    · intro e hMem
      rcases List.mem_map.1 hMem with ⟨e', hMem', rfl⟩
      exact hValues e' hMem'
  · rintro ⟨named, rfl, hNodup, hValues⟩
    refine ⟨⟨?_, ?_⟩, ?_⟩
    · exact List.forall_mem_map.2 (fun e hMem => rfl)
    · rw [ofNamed, List.map_map]
      exact hNodup
    · exact List.forall_mem_map.2 hValues

end PyVal

------------------------------------------------------------
-- Sorted Keys
------------------------------------------------------------

namespace PyVal

instance : Std.Total KeyLe where
  total _ _ := le_total (α := String) _ _

instance : IsTrans (PyVal × PyVal) KeyLe where
  trans _ _ _ hFirst hSecond := le_trans hFirst hSecond

/- Sorting commutes with a change of the values. -/
theorem insertionSort_map_values
    (f : PyVal → PyVal)
    (es : List (PyVal × PyVal)) :
    (es.map (fun e => (e.1, f e.2))).insertionSort KeyLe =
      (es.insertionSort KeyLe).map
        (fun e => (e.1, f e.2)) :=
  (List.map_insertionSort KeyLe KeyLe
    (fun e => (e.1, f e.2)) es
    (fun _ _ _ _ => Iff.rfl)).symm

theorem sortKeys_list
    (xs : List PyVal) :
    sortKeys (.list xs) = .list (xs.map sortKeys) := by
  rw [sortKeys, sortKeysItems_eq_map]

theorem sortKeys_dict
    (es : List (PyVal × PyVal)) :
    sortKeys (.dict es) =
      .dict ((es.map (fun e => (e.1, sortKeys e.2))).insertionSort
        KeyLe) := by
  rw [sortKeys, sortKeysEntries_eq_map]

/- Sorting twice is sorting once. -/
theorem sortKeys_sortKeys
    (v : PyVal) :
    v.sortKeys.sortKeys = v.sortKeys := by
  induction v using inductionOnParts with
  | scalar x => simp [sortKeys]
  | bytes bs => simp [sortKeys]
  | timestamp t => simp [sortKeys]
  | set xs ih => simp [sortKeys]
  | list xs ih =>
      rw [sortKeys_list, sortKeys_list, List.map_map]
      congr 1
      exact List.map_congr_left ih
  | dict es ih =>
      rw [sortKeys_dict, sortKeys_dict,
        ← insertionSort_map_values, List.map_map,
        (List.pairwise_insertionSort KeyLe _).insertionSort_eq]
      congr 2
      apply List.map_congr_left
      intro e hMem
      simp only [Function.comp_apply, ih e hMem]

end PyVal

------------------------------------------------------------
-- Values That Come Back
------------------------------------------------------------

namespace PyVal

/- A JSON value comes back as it is. -/
theorem throughJson_of_isJson
    (texts : JsonTexts)
    {v : PyVal}
    (hJson : v.isJson) :
    throughJson texts v = some v := by
  induction v using inductionOnParts with
  | scalar x =>
      rcases x with _ | b | n | (q | _ | _) | d | s
      all_goals
        simp_all [isJson, throughJson, Scalar.throughJson]
  | bytes bs => simp [isJson] at hJson
  | timestamp t => simp [isJson] at hJson
  | set xs ih => simp [isJson] at hJson
  | list xs ih =>
      rw [isJson, isJsonItems_iff] at hJson
      rw [throughJson, (throughJsonItems_eq_some_iff texts
        xs xs).2, Option.map_some]
      rw [List.forall₂_same]
      intro x hMem
      exact ih x hMem (hJson x hMem)
  | dict es ih =>
      rcases (isJson_dict_iff es).1 hJson with
        ⟨named, rfl, hNodup, hValues⟩
      have hEntries :
          throughJsonEntries texts (ofNamed named) =
            some named := by
        rw [throughJsonEntries_eq_some_iff, ofNamed,
          List.forall₂_map_left_iff, List.forall₂_same]
        intro e hMem
        refine ⟨rfl, ?_⟩
        have hMem' :
            ((.scalar (.str e.1), e.2) : PyVal × PyVal) ∈
              ofNamed named :=
          List.mem_map_of_mem hMem
        exact ih _ hMem' (hValues e hMem)
      rw [throughJson, hEntries, Option.map_some,
        Dict.entries_ofList hNodup]

/- Names are distinct as keys. -/
theorem nodup_keys_ofNamed_iff
    (named : List (String × PyVal)) :
    ((ofNamed named).map Prod.fst).Nodup ↔
      (named.map Prod.fst).Nodup := by
  have hKeys :
      (ofNamed named).map Prod.fst =
        (named.map Prod.fst).map
          (fun s => .scalar (.str s)) := by
    simp [ofNamed]
  rw [hKeys]
  apply List.nodup_map_iff
  intro s s' hEq
  cases hEq
  rfl

/- Entries with the keys of named entries are those of a
   JSON value when their values are. -/
private theorem isJson_dict_of_keys
    {es : List (PyVal × PyVal)}
    {named : List (String × PyVal)}
    (hKeys :
      es.map Prod.fst = (ofNamed named).map Prod.fst)
    (hNodup : (named.map Prod.fst).Nodup)
    (hValues : ∀ e ∈ es, e.2.isJson) :
    isJson (.dict es) := by
  have hStrings :
      ∀ k ∈ es.map Prod.fst, k.string?.isSome := by
    rw [hKeys, ofNamed, List.map_map]
    exact List.forall_mem_map.2 (fun e hMem => rfl)
  have hNames :
      es.map (fun e => e.1.string?.getD "") =
        named.map Prod.fst := by
    have hMapped :=
      congrArg (List.map (fun k => k.string?.getD "")) hKeys
    rw [ofNamed, List.map_map, List.map_map,
      List.map_map] at hMapped
    exact hMapped
  simp only [isJson, Bool.and_eq_true, decide_eq_true_eq,
    List.all_eq_true, isJsonEntries_iff, hNames]
  exact ⟨⟨List.forall_mem_map.1 hStrings, hNodup⟩, hValues⟩

/- Entries that come back in some order have distinct
   strings as keys and come back in their own order. -/
private theorem named_of_perm
    {texts : JsonTexts}
    {es : List (PyVal × PyVal)}
    {named : List (String × PyVal)}
    (hNamed :
      List.Forall₂
        (fun e e' => jsonKey texts e.1 = some e'.1 ∧
          throughJson texts e.2 = some e'.2)
        es named)
    (hPerm :
      ((ofNamed (Dict.ofList named).entries).map
        Prod.fst).Perm (es.map Prod.fst)) :
    es.map Prod.fst = (ofNamed named).map Prod.fst ∧
      (named.map Prod.fst).Nodup := by
  have hStrings :
      ∀ e ∈ es, ∃ s, e.1 = .scalar (.str s) := by
    intro e hMem
    have hKey : e.1 ∈ es.map Prod.fst :=
      List.mem_map_of_mem hMem
    rw [← hPerm.mem_iff, ofNamed, List.map_map] at hKey
    rcases List.mem_map.1 hKey with ⟨e', -, hEq⟩
    exact ⟨e'.1, hEq.symm⟩
  have hKeys :
      es.map Prod.fst = (ofNamed named).map Prod.fst := by
    clear hPerm
    induction hNamed with
    | nil => rfl
    | cons hHead hTail ih =>
        rw [List.forall_mem_cons] at hStrings
        rcases hStrings.1 with ⟨s, hString⟩
        have hName := hHead.1
        rw [hString] at hName
        cases hName
        simp only [ofNamed, List.map_cons, hString] at ih ⊢
        rw [ih hStrings.2]
  refine ⟨hKeys, ?_⟩
  rw [← nodup_keys_ofNamed_iff, ← hKeys,
    ← hPerm.nodup_iff, nodup_keys_ofNamed_iff]
  exact (Dict.ofList named).nodupKeys

/- A value that comes back the same is a JSON value. -/
theorem isJson_of_sortKeys_eq
    {texts : JsonTexts}
    {v w : PyVal}
    (hThrough : throughJson texts v = some w)
    (hSame : w.sortKeys = v.sortKeys) :
    v.isJson := by
  induction v using inductionOnParts generalizing w with
  | scalar x =>
      rcases Option.map_eq_some_iff.1 hThrough with
        ⟨y, hScalar, rfl⟩
      cases hSame
      rcases x with _ | b | n | (q | _ | _) | d | s
      all_goals simp_all [isJson, Scalar.throughJson]
  | bytes bs =>
      rcases Option.map_eq_some_iff.1 hThrough with
        ⟨s, -, rfl⟩
      cases hSame
  | timestamp t =>
      cases hThrough
      cases hSame
  | set xs ih =>
      rcases Option.map_eq_some_iff.1 hThrough with
        ⟨ys, -, rfl⟩
      cases hSame
  | list xs ih =>
      rcases Option.map_eq_some_iff.1 hThrough with
        ⟨ys, hItems, rfl⟩
      rw [throughJsonItems_eq_some_iff] at hItems
      rw [sortKeys_list, sortKeys_list,
        PyVal.list.injEq] at hSame
      rw [isJson, isJsonItems_iff]
      refine FallibleList.forall_mem_of_map_eq hItems hSame ?_
      intro x hMem y hItem hEq
      exact ih x hMem hItem hEq
  | dict es ih =>
      rcases Option.map_eq_some_iff.1 hThrough with
        ⟨named, hEntries, rfl⟩
      rw [throughJsonEntries_eq_some_iff] at hEntries
      rw [sortKeys_dict, sortKeys_dict,
        PyVal.dict.injEq] at hSame
      have hPerm :
          ((ofNamed (Dict.ofList named).entries).map
              (fun e => (e.1, sortKeys e.2))).Perm
            (es.map (fun e => (e.1, sortKeys e.2))) := by
        refine (List.perm_insertionSort KeyLe _).symm.trans ?_
        rw [hSame]
        exact List.perm_insertionSort KeyLe _
      have hKeyPerm := hPerm.map Prod.fst
      rw [List.map_map, List.map_map] at hKeyPerm
      rcases named_of_perm hEntries hKeyPerm with
        ⟨hKeys, hNodup⟩
      -- The entries come back in the order of their keys.
      rw [Dict.entries_ofList hNodup] at hPerm
      have hEq :=
        Dict.eq_of_perm_of_keys hPerm
          (by
            rw [List.map_map, List.map_map]
            exact hKeys.symm)
          (by
            rw [List.map_map]
            exact (nodup_keys_ofNamed_iff named).2 hNodup)
      rw [ofNamed, List.map_map] at hEq
      refine isJson_dict_of_keys hKeys hNodup ?_
      refine FallibleList.forall_mem_of_map_eq hEntries hEq ?_
      rintro e hMem e' ⟨-, hValue⟩ hPair
      exact ih e hMem hValue (congrArg Prod.snd hPair)

/- A value comes back the same exactly when it is a JSON
   value. -/
theorem sortKeys_throughJson_eq_iff
    {texts : JsonTexts}
    {v w : PyVal}
    (hThrough : throughJson texts v = some w) :
    w.sortKeys = v.sortKeys ↔ v.isJson := by
  constructor
  · exact isJson_of_sortKeys_eq hThrough
  · intro hJson
    rw [throughJson_of_isJson texts hJson] at hThrough
    cases hThrough
    rfl

end PyVal
