import Mathlib.Algebra.BigOperators.Group.List.Basic
import Mathlib.Data.List.Basic
import Mathlib.Data.List.Induction

/-
  Dictionaries with distinct keys, kept in insertion order.

  Writing a key that is present keeps its position; writing
  a new key appends an entry.

  Key definitions include:
    * `Dict`
    * `Dict.get?`
    * `Dict.put`
    * `Dict.ofList`
    * `Dict.keepKeys`
    * `Dict.sumWhere`

  Lookup, key and sum laws are:
    * `Dict.get?_put`
    * `Dict.get?_ofList`
    * `Dict.lookupEntries_append`
    * `Dict.lookupEntries_map`
    * `Dict.get?_keepKeys`
    * `Dict.sumWhere_upsert`
    * `Dict.sumWhere_keepKeys`
-/

------------------------------------------------------------
-- Entry Lists
------------------------------------------------------------

namespace Dict

variable {κ ν : Type}
variable [DecidableEq κ]

/- The value of the first entry with the given key. -/
def lookupEntries
    (k : κ) :
    List (κ × ν) → Option ν
| [] => none
| (k', v) :: es =>
    if k = k' then some v else lookupEntries k es

/- Overwrite an entry in place, or append a new one. -/
def putEntries
    (k : κ)
    (v : ν) :
    List (κ × ν) → List (κ × ν)
| [] => [(k, v)]
| (k', v') :: es =>
    if k = k' then
      (k, v) :: es
    else
      (k', v') :: putEntries k v es

/- A write adds at most the written key. -/
theorem mem_keys_putEntries_iff
    (k : κ)
    (v : ν)
    (es : List (κ × ν))
    (x : κ) :
    x ∈ (putEntries k v es).map Prod.fst ↔
      x = k ∨ x ∈ es.map Prod.fst := by
  induction es with
  | nil => simp [putEntries]
  | cons e es ih =>
      by_cases hKey : k = e.1
      · simp [putEntries, hKey]
      · simp only [putEntries, hKey, if_false,
          List.map_cons, List.mem_cons]
        rw [ih]
        tauto

/- Writes keep the keys distinct. -/
theorem nodup_keys_putEntries
    (k : κ)
    (v : ν)
    (es : List (κ × ν))
    (hNodup : (es.map Prod.fst).Nodup) :
    ((putEntries k v es).map Prod.fst).Nodup := by
  induction es with
  | nil => simp [putEntries]
  | cons e es ih =>
      rw [List.map_cons, List.nodup_cons] at hNodup
      by_cases hKey : k = e.1
      · simp only [putEntries, hKey, if_true,
          List.map_cons, List.nodup_cons]
        exact hNodup
      · simp only [putEntries, hKey, if_false,
          List.map_cons, List.nodup_cons]
        refine ⟨?_, ih hNodup.2⟩
        rw [mem_keys_putEntries_iff]
        rintro (hEq | hMem)
        · exact hKey hEq.symm
        · exact hNodup.1 hMem

theorem lookupEntries_putEntries
    (k : κ)
    (v : ν)
    (es : List (κ × ν))
    (x : κ) :
    lookupEntries x (putEntries k v es) =
      if x = k then some v else lookupEntries x es := by
  induction es with
  | nil => simp [putEntries, lookupEntries]
  | cons e es ih =>
      by_cases hKey : k = e.1
      · by_cases hx : x = k
        · simp [putEntries, lookupEntries, hKey, hx]
        · have hxHead : x ≠ e.1 := by
            rw [← hKey]
            exact hx
          simp [putEntries, lookupEntries, ← hKey, hx]
      · simp only [putEntries, hKey, if_false,
          lookupEntries, ih]
        by_cases hx : x = k
        · simp [hx, hKey]
        · simp [hx]

end Dict

------------------------------------------------------------
-- Dictionaries
------------------------------------------------------------

/- An insertion-ordered list of entries with distinct keys. -/
structure Dict (κ ν : Type) where
  entries : List (κ × ν)
  nodupKeys : (entries.map Prod.fst).Nodup

namespace Dict

variable {κ ν : Type}

@[ext] theorem ext
    {d e : Dict κ ν}
    (hEntries : d.entries = e.entries) :
    d = e := by
  cases d
  cases e
  cases hEntries
  rfl

/- The dictionary without entries. -/
def empty : Dict κ ν where
  entries := []
  nodupKeys := List.nodup_nil

/- The keys in insertion order. -/
def keys (d : Dict κ ν) : List κ :=
  d.entries.map Prod.fst

@[simp] theorem keys_empty :
    (empty : Dict κ ν).keys = [] := rfl

/- Keep the entries whose key satisfies `p`. -/
def keepKeys
    (d : Dict κ ν)
    (p : κ → Bool) : Dict κ ν where
  entries := d.entries.filter (fun e => p e.1)
  nodupKeys :=
    d.nodupKeys.sublist
      (List.filter_sublist.map Prod.fst)

/- Accumulate the values whose key satisfies `p`. -/
def sumWhere
    [Add ν] [Zero ν]
    (d : Dict κ ν)
    (p : κ → Bool) : ν :=
  d.entries.foldl
    (fun acc e => if p e.1 then acc + e.2 else acc) 0

variable [DecidableEq κ]

/- The value stored under a key. -/
def get?
    (d : Dict κ ν)
    (k : κ) : Option ν :=
  lookupEntries k d.entries

/- Write a value under a key. -/
def put
    (d : Dict κ ν)
    (k : κ)
    (v : ν) : Dict κ ν where
  entries := putEntries k v d.entries
  nodupKeys :=
    nodup_keys_putEntries k v d.entries d.nodupKeys

/- A key is present. -/
def contains
    (d : Dict κ ν)
    (k : κ) : Bool :=
  (d.get? k).isSome

/- A dictionary display: later writes of a key win. -/
def ofList (es : List (κ × ν)) : Dict κ ν :=
  es.foldl (fun d e => d.put e.1 e.2) empty

@[simp] theorem get?_empty
    (k : κ) :
    (empty : Dict κ ν).get? k = none := rfl

/- A written key reads back; other keys are unchanged. -/
theorem get?_put
    (d : Dict κ ν)
    (k : κ)
    (v : ν)
    (x : κ) :
    (d.put k v).get? x =
      if x = k then some v else d.get? x :=
  lookupEntries_putEntries k v d.entries x

/- A new key is appended. -/
theorem putEntries_of_not_mem
    {k : κ}
    {es : List (κ × ν)}
    (v : ν)
    (hNew : k ∉ es.map Prod.fst) :
    putEntries k v es = es ++ [(k, v)] := by
  induction es with
  | nil => rfl
  | cons e es ih =>
      rw [List.map_cons, List.mem_cons, not_or] at hNew
      simp [putEntries, hNew.1, ih hNew.2]

/- A display with distinct keys keeps its entries. -/
theorem entries_ofList
    {es : List (κ × ν)}
    (hNodup : (es.map Prod.fst).Nodup) :
    (ofList es).entries = es := by
  induction es using List.reverseRecOn with
  | nil => rfl
  | append_singleton es e ih =>
      rw [List.map_append, List.nodup_append] at hNodup
      have hNew : e.1 ∉ es.map Prod.fst := by
        intro hMem
        exact hNodup.2.2 e.1 hMem e.1 (by simp) rfl
      have hLast :
          (ofList (es ++ [e])).entries =
            putEntries e.1 e.2 (ofList es).entries := by
        simp [ofList, put]
      rw [hLast, ih hNodup.1, putEntries_of_not_mem _ hNew]

/- The entries of a display are among those written. -/
theorem mem_putEntries
    {k : κ}
    {v : ν}
    {es : List (κ × ν)}
    {e : κ × ν}
    (hMem : e ∈ putEntries k v es) :
    e = (k, v) ∨ e ∈ es := by
  induction es with
  | nil => exact .inl (List.mem_singleton.1 hMem)
  | cons e' es ih =>
      by_cases hKey : k = e'.1
      · simp only [putEntries, hKey, if_true,
          List.mem_cons] at hMem ⊢
        tauto
      · simp only [putEntries, hKey, if_false,
          List.mem_cons] at hMem ⊢
        tauto

theorem mem_of_mem_ofList
    {es : List (κ × ν)}
    {e : κ × ν}
    (hMem : e ∈ (ofList es).entries) :
    e ∈ es := by
  induction es using List.reverseRecOn with
  | nil => cases hMem
  | append_singleton es e' ih =>
      have hLast :
          (ofList (es ++ [e'])).entries =
            putEntries e'.1 e'.2 (ofList es).entries := by
        simp [ofList, put]
      rw [hLast] at hMem
      rw [List.mem_append, List.mem_singleton]
      rcases mem_putEntries hMem with hHere | hBefore
      · exact .inr hHere
      · exact .inl (ih hBefore)

theorem get?_ofList
    {es : List (κ × ν)}
    (hNodup : (es.map Prod.fst).Nodup)
    (k : κ) :
    (ofList es).get? k = lookupEntries k es := by
  rw [get?, entries_ofList hNodup]

/- Overwriting a value in place changes its entry. -/
theorem putEntries_of_lookup
    {k : κ}
    {v : ν}
    {es : List (κ × ν)}
    (f : ν → ν)
    (hNodup : (es.map Prod.fst).Nodup)
    (hValue : lookupEntries k es = some v) :
    putEntries k (f v) es =
      es.map (fun e => (e.1, if e.1 = k then f e.2 else e.2))
      := by
  induction es with
  | nil => cases hValue
  | cons e es ih =>
      rw [List.map_cons, List.nodup_cons] at hNodup
      by_cases hKey : k = e.1
      · -- No later entry has the key.
        have hRest :
            es.map (fun e' =>
              (e'.1, if e'.1 = k then f e'.2 else e'.2)) =
            es := by
          refine (List.map_congr_left ?_).trans
            (List.map_id es)
          intro e' hMem
          have hOther : e'.1 ≠ k := by
            rw [hKey]
            intro hEq
            exact hNodup.1
              (hEq ▸ List.mem_map_of_mem hMem)
          simp [hOther]
        simp only [lookupEntries, hKey, if_true,
          Option.some.injEq] at hValue
        rw [List.map_cons, hRest]
        simp [putEntries, hKey, hValue]
      · simp only [lookupEntries, hKey, if_false] at hValue
        simp [putEntries, hKey, Ne.symm hKey,
          ih hNodup.2 hValue]

theorem entries_put_of_get?
    {d : Dict κ ν}
    {k : κ}
    {v : ν}
    (f : ν → ν)
    (hValue : d.get? k = some v) :
    (d.put k (f v)).entries =
      d.entries.map
        (fun e => (e.1, if e.1 = k then f e.2 else e.2)) :=
  putEntries_of_lookup f d.nodupKeys hValue

theorem keys_put_of_get?
    {d : Dict κ ν}
    {k : κ}
    {v : ν}
    (w : ν)
    (hValue : d.get? k = some v) :
    (d.put k w).keys = d.keys := by
  rw [keys, entries_put_of_get? (fun _ => w) hValue,
    List.map_map]
  rfl

/- Putting a value back undoes an overwrite. -/
theorem putEntries_putEntries_of_lookup
    {k : κ}
    {v : ν}
    {es : List (κ × ν)}
    (w : ν)
    (hValue : lookupEntries k es = some v) :
    putEntries k v (putEntries k w es) = es := by
  induction es with
  | nil => cases hValue
  | cons e es ih =>
      by_cases hKey : k = e.1
      · simp only [lookupEntries, hKey, if_true,
          Option.some.injEq] at hValue
        simp [putEntries, hKey, ← hValue]
      · simp only [lookupEntries, hKey, if_false] at hValue
        simp [putEntries, hKey, ih hValue]

theorem put_put_of_get?
    {d : Dict κ ν}
    {k : κ}
    {v : ν}
    (w : ν)
    (hValue : d.get? k = some v) :
    (d.put k w).put k v = d :=
  ext (putEntries_putEntries_of_lookup w hValue)

/- The entries of the first list hide those of the second. -/
theorem lookupEntries_append
    (k : κ)
    (es es' : List (κ × ν)) :
    lookupEntries k (es ++ es') =
      (lookupEntries k es).or (lookupEntries k es') := by
  induction es with
  | nil => rfl
  | cons e es ih =>
      by_cases hKey : k = e.1
      · simp [lookupEntries, hKey]
      · simp [lookupEntries, hKey, ih]

/- The entries that give each key its value under a
   function. -/
theorem lookupEntries_graph
    (f : κ → ν)
    (k : κ)
    (ks : List κ) :
    lookupEntries k (ks.map (fun k => (k, f k))) =
      if k ∈ ks then some (f k) else none := by
  induction ks with
  | nil => rfl
  | cons k' ks ih =>
      by_cases hKey : k = k'
      · simp [lookupEntries, hKey]
      · simp [lookupEntries, hKey, ih]

theorem lookupEntries_filter
    (p : κ → Bool)
    {k : κ}
    (hKept : p k)
    (es : List (κ × ν)) :
    lookupEntries k (es.filter (fun e => p e.1)) =
      lookupEntries k es := by
  induction es with
  | nil => rfl
  | cons e es ih =>
      by_cases hKey : k = e.1
      · rw [List.filter_cons_of_pos (by rwa [← hKey])]
        simp [lookupEntries, hKey]
      · cases hEntry : p e.1 <;>
          simp [lookupEntries, hEntry, hKey, ih]

/- With distinct keys, an entry is found under its key. -/
theorem lookupEntries_of_mem
    {e : κ × ν}
    {es : List (κ × ν)}
    (hNodup : (es.map Prod.fst).Nodup)
    (hMem : e ∈ es) :
    lookupEntries e.1 es = some e.2 := by
  induction es with
  | nil => cases hMem
  | cons e' es ih =>
      rw [List.map_cons, List.nodup_cons] at hNodup
      rw [lookupEntries]
      rcases List.mem_cons.1 hMem with hHead | hTail
      · rw [hHead, if_pos rfl]
      · have hKey : e.1 ≠ e'.1 := by
          intro hSame
          exact hNodup.1
            (hSame ▸ List.mem_map_of_mem hTail)
        rw [if_neg hKey, ih hNodup.2 hTail]

/- Entries whose values are rewritten under their keys. -/
theorem lookupEntries_map
    {ν' : Type}
    (f : κ → ν → ν')
    (k : κ)
    (es : List (κ × ν)) :
    lookupEntries k (es.map (fun e => (e.1, f e.1 e.2))) =
      (lookupEntries k es).map (f k) := by
  induction es with
  | nil => rfl
  | cons e es ih =>
      by_cases hKey : k = e.1
      · simp [lookupEntries, hKey]
      · simp [lookupEntries, hKey, ih]

/- A kept key reads as before. -/
theorem get?_keepKeys
    (d : Dict κ ν)
    {p : κ → Bool}
    {k : κ}
    (hKept : p k) :
    (d.keepKeys p).get? k = d.get? k :=
  lookupEntries_filter p hKept d.entries

theorem lookupEntries_eq_none_iff
    {k : κ}
    {es : List (κ × ν)} :
    lookupEntries k es = none ↔ k ∉ es.map Prod.fst := by
  induction es with
  | nil => simp [lookupEntries]
  | cons e es ih =>
      by_cases hKey : k = e.1
      · simp [lookupEntries, hKey]
      · simp only [lookupEntries, hKey, if_false, ih,
          List.map_cons, List.mem_cons, false_or]

/- A dropped key is absent. -/
theorem get?_keepKeys_of_not
    (d : Dict κ ν)
    {p : κ → Bool}
    {k : κ}
    (hDropped : ¬ p k) :
    (d.keepKeys p).get? k = none := by
  rw [get?, lookupEntries_eq_none_iff]
  intro hMem
  rcases List.mem_map.1 hMem with ⟨e, hKept, rfl⟩
  exact hDropped (List.mem_filter.1 hKept).2

end Dict

------------------------------------------------------------
-- Orders Of Entries
------------------------------------------------------------

namespace Dict

variable {κ ν : Type}

/- Entries with distinct keys are determined by the entries
   in some order and the order of the keys. -/
theorem eq_of_perm_of_keys
    {es es' : List (κ × ν)}
    (hPerm : es.Perm es')
    (hKeys : es.map Prod.fst = es'.map Prod.fst)
    (hNodup : (es.map Prod.fst).Nodup) :
    es = es' := by
  induction es generalizing es' with
  | nil => exact hPerm.nil_eq
  | cons e es ih =>
      cases es' with
      | nil => cases hKeys
      | cons e' es' =>
          rw [List.map_cons, List.map_cons,
            List.cons.injEq] at hKeys
          rw [List.map_cons, List.nodup_cons] at hNodup
          have hHead : e = e' := by
            have hMem : e ∈ e' :: es' :=
              hPerm.subset List.mem_cons_self
            rcases List.mem_cons.1 hMem with hEq | hLater
            · exact hEq
            · have hKey := List.mem_map_of_mem
                (f := Prod.fst) hLater
              rw [← hKeys.2] at hKey
              exact absurd hKey hNodup.1
          rw [hHead] at hPerm
          rw [hHead, ih hPerm.cons_inv hKeys.2 hNodup.2]

theorem mem_of_lookupEntries
    [DecidableEq κ]
    {k : κ}
    {v : ν}
    {es : List (κ × ν)}
    (hFound : lookupEntries k es = some v) :
    (k, v) ∈ es := by
  induction es with
  | nil => cases hFound
  | cons e es ih =>
      rw [lookupEntries] at hFound
      split at hFound
      · rename_i hKey
        rw [hKey, ← Option.some.inj hFound]
        exact List.mem_cons_self
      · exact List.mem_cons_of_mem _ (ih hFound)

/- Looking up a key does not depend on the order of entries
   with distinct keys. -/
theorem lookupEntries_perm
    [DecidableEq κ]
    {es es' : List (κ × ν)}
    (hNodup : (es.map Prod.fst).Nodup)
    (hPerm : es.Perm es')
    (k : κ) :
    lookupEntries k es = lookupEntries k es' := by
  have hNodup' : (es'.map Prod.fst).Nodup :=
    (hPerm.map Prod.fst).nodup_iff.1 hNodup
  cases hFound : lookupEntries k es with
  | some v =>
      have hMem :=
        hPerm.subset (mem_of_lookupEntries hFound)
      exact (lookupEntries_of_mem hNodup' hMem).symm
  | none =>
      cases hFound' : lookupEntries k es' with
      | none => rfl
      | some v =>
          have hMem :=
            hPerm.symm.subset (mem_of_lookupEntries hFound')
          rw [lookupEntries_of_mem hNodup hMem] at hFound
          cases hFound

end Dict

------------------------------------------------------------
-- Sums Over Selected Keys
------------------------------------------------------------

namespace Dict

variable {κ M : Type}
variable [AddCommMonoid M]

/- The accumulator loop adds the selected values. -/
theorem foldl_selected
    (p : κ → Bool)
    (es : List (κ × M))
    (acc : M) :
    es.foldl
        (fun acc e => if p e.1 then acc + e.2 else acc)
        acc =
      acc + ((es.filter (fun e => p e.1)).map
        Prod.snd).sum := by
  induction es generalizing acc with
  | nil => simp
  | cons e es ih =>
      rw [List.foldl_cons, ih]
      by_cases hp : p e.1
      · simp [hp, add_assoc]
      · simp [hp]

theorem sumWhere_eq_sum
    (d : Dict κ M)
    (p : κ → Bool) :
    d.sumWhere p =
      ((d.entries.filter (fun e => p e.1)).map
        Prod.snd).sum := by
  rw [sumWhere, foldl_selected, zero_add]

@[simp] theorem sumWhere_empty
    (p : κ → Bool) :
    (empty : Dict κ M).sumWhere p = 0 := rfl

/- Dropping entries narrows the selection. -/
theorem sumWhere_keepKeys
    (d : Dict κ M)
    (q p : κ → Bool) :
    (d.keepKeys q).sumWhere p =
      d.sumWhere (fun k => q k && p k) := by
  rw [sumWhere_eq_sum, sumWhere_eq_sum]
  simp only [keepKeys, List.filter_filter]
  simp only [Bool.and_comm]

variable [DecidableEq κ]

/-
  Adding `x` to the entry of `k` adds `x` to the sum of the
  selected values when `k` is selected.
-/
theorem sum_putEntries_add
    (p : κ → Bool)
    (k : κ)
    (x : M)
    (es : List (κ × M)) :
    (((putEntries k
        ((lookupEntries k es).getD 0 + x) es).filter
          (fun e => p e.1)).map Prod.snd).sum =
      ((es.filter (fun e => p e.1)).map Prod.snd).sum +
        if p k then x else 0 := by
  induction es with
  | nil =>
      by_cases hp : p k
      · simp [putEntries, lookupEntries, hp]
      · simp [putEntries, lookupEntries, hp]
  | cons e es ih =>
      by_cases hKey : k = e.1
      · by_cases hp : p e.1
        · simp [putEntries, lookupEntries, hKey, hp,
            add_assoc, add_comm x]
        · simp [putEntries, lookupEntries, hKey, hp]
      · simp only [putEntries, lookupEntries, hKey,
          if_false]
        by_cases hp : p e.1
        · simp only [List.filter_cons, hp, if_true,
            List.map_cons, List.sum_cons, ih, add_assoc]
        · simp only [List.filter_cons, hp,
            Bool.false_eq_true, if_false, ih]

theorem sumWhere_upsert
    (d : Dict κ M)
    (k : κ)
    (x : M)
    (p : κ → Bool) :
    (d.put k ((d.get? k).getD 0 + x)).sumWhere p =
      d.sumWhere p + if p k then x else 0 := by
  rw [sumWhere_eq_sum, sumWhere_eq_sum]
  exact sum_putEntries_add p k x d.entries

end Dict
