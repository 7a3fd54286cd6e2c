import FraudStream.Library.Dict

/-
  Totals kept by bucket, as a summary of a log.

  A log lists weighted entries, each in one bucket. A
  dictionary of totals represents the log when every
  selection of buckets has the same total in both. Adding
  an entry to its bucket appends it to the log, and dropping
  buckets filters the log.

  Key definitions include:
    * `BucketLog.total`
    * `BucketLog.addTo`
    * `BucketLog.Represents`
    * `BucketLog.addAll`

  The representation rules are:
    * `BucketLog.groups_perm`
    * `BucketLog.represents_empty`
    * `BucketLog.Represents.add`
    * `BucketLog.Represents.keep`
    * `BucketLog.get?_addAll_perm`
-/

namespace BucketLog

variable {ε κ M : Type}

/- The entries whose bucket satisfies `p`. -/
def within
    (bucket : ε → κ)
    (p : κ → Bool)
    (log : List ε) : List ε :=
  log.filter (fun e => p (bucket e))

@[simp] theorem mem_within_iff
    {bucket : ε → κ}
    {p : κ → Bool}
    {log : List ε}
    {e : ε} :
    e ∈ within bucket p log ↔ e ∈ log ∧ p (bucket e) :=
  List.mem_filter

@[simp] theorem within_append
    (bucket : ε → κ)
    (p : κ → Bool)
    (log log' : List ε) :
    within bucket p (log ++ log') =
      within bucket p log ++ within bucket p log' :=
  List.filter_append ..

/- Selecting twice selects the common buckets. -/
theorem within_within
    (bucket : ε → κ)
    (p q : κ → Bool)
    (log : List ε) :
    within bucket p (within bucket q log) =
      within bucket (fun k => q k && p k) log := by
  simp only [within, List.filter_filter, Bool.and_comm]

/- A narrower selection does not see what was dropped. -/
theorem within_within_of_imp
    (bucket : ε → κ)
    {p q : κ → Bool}
    (log : List ε)
    (hImp : ∀ k, p k → q k) :
    within bucket p (within bucket q log) =
      within bucket p log := by
  rw [within_within]
  apply List.filter_congr
  intro e _
  specialize hImp (bucket e)
  cases hp : p (bucket e) <;> simp_all

/- The groups of a list of buckets make up the log. -/
theorem groups_perm
    [DecidableEq κ]
    (bucket : ε → κ)
    {keys : List κ}
    {log : List ε}
    (hNodup : keys.Nodup)
    (hKeys : ∀ e ∈ log, bucket e ∈ keys) :
    (keys.map (fun k =>
      within bucket (fun x => decide (x = k))
        log)).flatten.Perm log := by
  induction keys generalizing log with
  | nil =>
      have hNone : log = [] :=
        List.eq_nil_iff_forall_not_mem.2 (fun e hMem =>
          List.not_mem_nil (hKeys e hMem))
      rw [hNone]
      exact List.Perm.refl _
  | cons k keys ih =>
      rw [List.nodup_cons] at hNodup
      -- The later groups are those of the other entries.
      let others :=
        within bucket (fun x => !decide (x = k)) log
      have hOthers :
          ∀ e ∈ others, bucket e ∈ keys := by
        intro e hMem
        have hOther := mem_within_iff.1 hMem
        rcases List.mem_cons.1 (hKeys e hOther.1) with
          hEq | hLater
        · simp [hEq] at hOther
        · exact hLater
      have hGroups :
          keys.map (fun k' =>
              within bucket (fun x => decide (x = k'))
                log) =
            keys.map (fun k' =>
              within bucket (fun x => decide (x = k'))
                others) := by
        apply List.map_congr_left
        intro k' hMem
        apply (within_within_of_imp bucket log _).symm
        intro x hx
        have hNe : k' ≠ k := by
          rintro rfl
          exact hNodup.1 hMem
        simp_all
      rw [List.map_cons, List.flatten_cons, hGroups]
      exact
        ((ih hNodup.2 hOthers).append_left _).trans
          (List.filter_append_perm _ log)

variable [AddCommMonoid M]

/- The combined weight of a list of entries. -/
def total
    (weight : ε → M)
    (log : List ε) : M :=
  (log.map weight).sum

@[simp] theorem total_nil
    (weight : ε → M) :
    total weight [] = 0 := rfl

@[simp] theorem total_append
    (weight : ε → M)
    (log log' : List ε) :
    total weight (log ++ log') =
      total weight log + total weight log' := by
  simp [total]

@[simp] theorem total_singleton
    (weight : ε → M)
    (e : ε) :
    total weight [e] = weight e := by
  simp [total]

variable [DecidableEq κ]

/- Add an amount to the total of a bucket. -/
def addTo
    (d : Dict κ M)
    (k : κ)
    (x : M) : Dict κ M :=
  d.put k ((d.get? k).getD 0 + x)

omit [DecidableEq κ] in
/- Every selection of buckets has the total of the log. -/
def Represents
    (bucket : ε → κ)
    (weight : ε → M)
    (d : Dict κ M)
    (log : List ε) : Prop :=
  ∀ p : κ → Bool,
    d.sumWhere p = total weight (within bucket p log)

omit [DecidableEq κ] in
theorem represents_empty
    (bucket : ε → κ)
    (weight : ε → M) :
    Represents bucket weight Dict.empty [] := by
  intro p
  simp [within]

/- Adding to a bucket records one more entry. -/
theorem Represents.add
    {bucket : ε → κ}
    {weight : ε → M}
    {d : Dict κ M}
    {log : List ε}
    (hLog : Represents bucket weight d log)
    (e : ε) :
    Represents bucket weight
      (addTo d (bucket e) (weight e)) (log ++ [e]) := by
  intro p
  rw [addTo, Dict.sumWhere_upsert, hLog p, within_append,
    total_append]
  by_cases hp : p (bucket e)
  · simp [within, hp]
  · simp [within, hp]

omit [DecidableEq κ] in
/- Dropping buckets forgets their entries. -/
theorem Represents.keep
    {bucket : ε → κ}
    {weight : ε → M}
    {d : Dict κ M}
    {log : List ε}
    (hLog : Represents bucket weight d log)
    (q : κ → Bool) :
    Represents bucket weight
      (d.keepKeys q) (within bucket q log) := by
  intro p
  rw [Dict.sumWhere_keepKeys, hLog, within_within]

/- Add every entry of a log to its bucket. -/
def addAll
    (bucket : ε → κ)
    (weight : ε → M)
    (d : Dict κ M)
    (log : List ε) : Dict κ M :=
  log.foldl (fun d e => addTo d (bucket e) (weight e)) d

theorem addAll_concat
    (bucket : ε → κ)
    (weight : ε → M)
    (d : Dict κ M)
    (log : List ε)
    (e : ε) :
    addAll bucket weight d (log ++ [e]) =
      addTo (addAll bucket weight d log) (bucket e)
        (weight e) := by
  rw [addAll, List.foldl_append]
  rfl

theorem represents_addAll
    (bucket : ε → κ)
    (weight : ε → M)
    (log : List ε) :
    Represents bucket weight
      (addAll bucket weight Dict.empty log) log := by
  induction log using List.reverseRecOn with
  | nil => exact represents_empty bucket weight
  | append_singleton log e ih =>
      rw [addAll_concat]
      exact ih.add e

/- A bucket holds the total of its entries, and is absent
   when it has none. -/
theorem get?_addAll
    (bucket : ε → κ)
    (weight : ε → M)
    (log : List ε)
    (k : κ) :
    (addAll bucket weight Dict.empty log).get? k =
      let es := within bucket (fun x => decide (x = k)) log
      if es = [] then none else some (total weight es) := by
  induction log using List.reverseRecOn with
  | nil => rfl
  | append_singleton log e ih =>
      rw [addAll_concat, addTo, Dict.get?_put]
      by_cases hKey : k = bucket e
      · subst hKey
        have hLast :
            within bucket (fun x => decide (x = bucket e))
              [e] = [e] := by
          simp [within]
        have hTotal :
            ∀ es : List ε,
              (if es = [] then none
                else some (total weight es)).getD 0 =
              total weight es := by
          intro es
          split
          · rename_i hNone
            simp [hNone]
          · rfl
        rw [if_pos rfl, ih]
        simp only [within_append, hLast, hTotal,
          total_append, total_singleton,
          List.append_eq_nil_iff, List.cons_ne_nil,
          and_false, if_false]
      · rw [if_neg hKey, ih]
        simp [within, Ne.symm hKey]

omit [DecidableEq κ] in
theorem within_perm
    {log log' : List ε}
    (hPerm : log.Perm log')
    (bucket : ε → κ)
    (p : κ → Bool) :
    (within bucket p log).Perm (within bucket p log') :=
  hPerm.filter _

theorem total_perm
    {log log' : List ε}
    (hPerm : log.Perm log')
    (weight : ε → M) :
    total weight log = total weight log' :=
  (hPerm.map weight).sum_eq

/- The order of a log does not show in its buckets. -/
theorem get?_addAll_perm
    {log log' : List ε}
    (hPerm : log.Perm log')
    (bucket : ε → κ)
    (weight : ε → M)
    (k : κ) :
    (addAll bucket weight Dict.empty log).get? k =
      (addAll bucket weight Dict.empty log').get? k := by
  have hWithin :=
    within_perm hPerm bucket (fun x => decide (x = k))
  have hNil :
      within bucket (fun x => decide (x = k)) log = [] ↔
        within bucket (fun x => decide (x = k)) log' = [] :=
    ⟨fun hEq => (hEq ▸ hWithin).nil_eq.symm,
      fun hEq => (hEq ▸ hWithin.symm).nil_eq.symm⟩
  rw [get?_addAll, get?_addAll]
  simp only [hNil, total_perm hWithin weight]

end BucketLog
