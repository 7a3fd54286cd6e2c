import FraudStream.Processing.Velocity.RetainedLog

/-
  The order of transactions does not show in their buckets.

  The buckets of the test method hold the totals of the
  transactions fed to it, so that two orders of the same
  transactions give the same buckets, and the same velocity
  for any next transaction.

  Key definitions include:
    * `stateAfter`

  The main results are:
    * `get?_stateAfter`
    * `velocity_state_order_independent`
-/

------------------------------------------------------------
-- Fed Transactions
------------------------------------------------------------

namespace FraudStream

namespace Velocity

open BucketLog

/- The state of a fresh operator after some calls. -/
def stateAfter (calls : List (Int × ℚ)) : Buckets :=
  calls.foldl
    (fun state x => (processElementPure x.1 x.2 state).1)
    Dict.empty

def callBucket (x : Int × ℚ) : Int :=
  bucketKey x.1

def callWeight (x : Int × ℚ) : Aggregate :=
  (1, x.2)

theorem stateAfter_eq_addAll
    (calls : List (Int × ℚ)) :
    stateAfter calls =
      addAll callBucket callWeight Dict.empty calls :=
  rfl

theorem represents_stateAfter
    (calls : List (Int × ℚ)) :
    Represents callBucket callWeight (stateAfter calls)
      calls :=
  represents_addAll callBucket callWeight calls

theorem total_callWeight
    (calls : List (Int × ℚ)) :
    total callWeight calls =
      (calls.length, (calls.map Prod.snd).sum) := by
  induction calls with
  | nil => rfl
  | cons x xs ih =>
      have hSplit :
          total callWeight (x :: xs) =
            callWeight x + total callWeight xs := by
        simp [total]
      rw [hSplit, ih]
      simp [callWeight, add_comm]

/- A bucket holds the number and the amount of the calls in
   it. -/
theorem get?_stateAfter
    (calls : List (Int × ℚ))
    (bk : Int) :
    (stateAfter calls).get? bk =
      let inside :=
        calls.filter (fun x => bucketKey x.1 = bk)
      if inside = [] then
        none
      else
        some
          (inside.length, (inside.map Prod.snd).sum) := by
  rw [stateAfter_eq_addAll, get?_addAll]
  simp only [total_callWeight]
  rfl

theorem sum_pairs
    (xs : List Aggregate) :
    xs.sum = ((xs.map Prod.fst).sum, (xs.map Prod.snd).sum) := by
  induction xs with
  | nil => rfl
  | cons x xs ih =>
      rw [List.sum_cons, ih]
      rfl

/- Nothing is lost or counted twice. -/
theorem sum_stateAfter
    (calls : List (Int × ℚ)) :
    ((stateAfter calls).entries.map Prod.snd).sum =
      (calls.length, (calls.map Prod.snd).sum) := by
  have hAll := represents_stateAfter calls (fun _ => true)
  rw [Dict.sumWhere_eq_sum, List.filter_eq_self.2
    (fun _ _ => rfl)] at hAll
  rw [hAll, ← total_callWeight, within,
    List.filter_eq_self.2 (fun _ _ => rfl)]

/- A velocity is read from the totals of the buckets. -/
theorem computeVelocity_perm
    {calls calls' : List (Int × ℚ)}
    (hPerm : calls.Perm calls')
    (currentBucket : Int) :
    computeVelocity (stateAfter calls) currentBucket =
      computeVelocity (stateAfter calls') currentBucket := by
  funext L
  rw [computeVelocity, computeVelocity,
    represents_stateAfter, represents_stateAfter,
    total_perm (within_perm hPerm _ _)]

/- One more call is fed after the others. -/
theorem processElementPure_stateAfter
    (calls : List (Int × ℚ))
    (t : Int)
    (amount : ℚ) :
    (processElementPure t amount (stateAfter calls)).1 =
      stateAfter (calls ++ [(t, amount)]) := by
  rw [stateAfter, stateAfter, List.foldl_append]
  rfl

/-
  Two orders of the same transactions leave the same
  buckets and give the same velocity for any next
  transaction, and the buckets count each transaction and
  its amount once.
-/
theorem velocity_state_order_independent
    {calls calls' : List (Int × ℚ)}
    (hPerm : calls.Perm calls') :
    (∀ bk,
      (stateAfter calls).get? bk =
        (stateAfter calls').get? bk) ∧
      (∀ t amount,
        (processElementPure t amount (stateAfter calls)).2 =
          (processElementPure t amount
            (stateAfter calls')).2) ∧
      ((stateAfter calls).entries.map
          (fun e => e.2.1)).sum = calls.length ∧
      ((stateAfter calls).entries.map
          (fun e => e.2.2)).sum =
        (calls.map Prod.snd).sum := by
  have hSum := sum_stateAfter calls
  rw [sum_pairs, List.map_map, List.map_map,
    Prod.mk.injEq] at hSum
  refine ⟨?_, ?_, hSum.1, hSum.2⟩
  · intro bk
    exact get?_addAll_perm hPerm callBucket callWeight bk
  · intro t amount
    have hNext := hPerm.append_right [(t, amount)]
    rw [processElementPure, processElementPure]
    simp only
    have hSame := computeVelocity_perm hNext (bucketKey t)
    rw [← processElementPure_stateAfter,
      ← processElementPure_stateAfter] at hSame
    exact hSame

/- Three calls in two orders. -/
theorem velocity_state_order_independent_swap :
    (∀ bk,
      (stateAfter [(0, 5), (60000, 7), (1, 2)]).get? bk =
        (stateAfter [(60000, 7), (1, 2), (0, 5)]).get? bk) ∧
      ((stateAfter [(0, 5), (60000, 7), (1, 2)]).entries.map
        (fun e => e.2.1)).sum = 3 := by
  have hPerm :
      [(0, 5), (60000, 7), (1, 2)].Perm
        [((60000 : Int), (7 : ℚ)), (1, 2), (0, 5)] := by
    decide
  have hSame := velocity_state_order_independent hPerm
  exact ⟨hSame.1, hSame.2.2.1⟩

end Velocity

end FraudStream
