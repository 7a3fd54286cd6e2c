import Mathlib.Tactic.LinearCombination
import FraudStream.Library.DecimalText
import FraudStream.Ingestion.Amounts

/-
  Which amounts are carried exactly.

  An amount of `n` ten-thousandths is given as a plain text
  or as a number. It is read as the nearest double, which is
  off by `floatError n / (10000 * 2 ^ fractionBits n)`; the
  product with ten thousand is rounded to a double and then
  to an integer. Below `2 ^ 52` the product has a bit for
  halves, so an even number is always restored; above it the
  product is itself an integer, a multiple of its unit.

  Key definitions include:
    * `AmountGiven`
    * `floatError`
    * `CarriedExactly`

  The main results are:
    * `scaledInt_eq_iff`
    * `amount_carried_iff`
-/

------------------------------------------------------------
-- Amounts As They Are Given
------------------------------------------------------------

namespace FraudStream

/-
  An amount of so many ten-thousandths: a plain text of at
  most four decimals, an integer, or the double of a number
  with decimals.
-/
inductive AmountGiven (n : Nat) : JsonValue → Prop
| text
    (t : DecimalText)
    (short : t.fraction.length ≤ 4)
    (value : t.value = n / 10000) :
    AmountGiven n (.str t.text)
| integer
    (i : JsonInt)
    (value : 10000 * i.value = n) :
    AmountGiven n (.int i)
| number :
    AmountGiven n (.float (.ofRat (n / 10000)))

/- The greatest amount of eighteen digits. -/
def maxAmount : Nat := 999999999999999999

end FraudStream

------------------------------------------------------------
-- The Double Of An Amount
------------------------------------------------------------

namespace FraudStream

open PyFloat

/- The binade of an amount. -/
def amountBinade (n : Nat) : Int :=
  Int.log 2 ((n : ℚ) / 10000)

/- The bits that the double of an amount has for its
   fraction. -/
def fractionBits (n : Nat) : Nat :=
  (52 - amountBinade n).toNat

/- How far the amount is from its double, in multiples of
   `2 ^ (-fractionBits n)` ten-thousandths. -/
def floatError (n : Nat) : Nat :=
  let rest := n * 2 ^ fractionBits n % 10000
  min rest (10000 - rest)

variable {n : Nat}

theorem amount_inBinade
    (hPos : 0 < n) :
    InBinade (amountBinade n) ((n : ℚ) / 10000) :=
  inBinade_log (by positivity)

theorem amountBinade_bounds
    (hPos : 0 < n)
    (hMax : n ≤ maxAmount) :
    -14 ≤ amountBinade n ∧ amountBinade n < 47 := by
  have hBinade := amount_inBinade hPos
  have hOne : (1 : ℚ) ≤ n := by exact_mod_cast hPos
  have hTop : (n : ℚ) ≤ 999999999999999999 := by
    exact_mod_cast hMax
  constructor
  · apply hBinade.le_of_pow_le
    norm_num
    linarith
  · apply hBinade.lt_of_lt_pow
    norm_num
    linarith

/- The unit of an amount in terms of its fraction bits. -/
theorem unit_amountBinade
    (hPos : 0 < n)
    (hMax : n ≤ maxAmount) :
    unit (amountBinade n) * 2 ^ fractionBits n = 1 := by
  have hBounds := amountBinade_bounds hPos hMax
  unfold unit fractionBits
  rw [← zpow_natCast, ← zpow_add₀ (by norm_num),
    Int.toNat_of_nonneg (by omega)]
  simp

/- The double of an amount. -/
theorem ofRat_amount
    (hPos : 0 < n)
    (hMax : n ≤ maxAmount) :
    ofRat ((n : ℚ) / 10000) =
      finite (nearest (amountBinade n) ((n : ℚ) / 10000)) := by
  have hBounds := amountBinade_bounds hPos hMax
  exact ofRat_of_inBinade (amount_inBinade hPos)
    (by omega) (by omega)

/- The distance of a multiple of ten thousand from a number
   that it is nearest to. -/
theorem abs_sub_of_isNearest
    {m : Nat}
    {r : Int}
    (hNearest : IsNearest ((m : ℚ) / 10000) r) :
    |10000 * r - (m : Int)| =
      (min (m % 10000) (10000 - m % 10000) : Nat) := by
  have hClose := abs_le.1 hNearest.abs_sub_le
  have hLow : (m : ℚ) ≤ 10000 * r + 5000 := by linarith
  have hHigh : (10000 * r : ℚ) ≤ m + 5000 := by linarith
  have hIntLow : (m : Int) ≤ 10000 * r + 5000 := by
    exact_mod_cast hLow
  have hIntHigh : 10000 * r ≤ (m : Int) + 5000 := by
    exact_mod_cast hHigh
  -- The integer is the quotient or the next one.
  have hQuotient :
      r = ((m / 10000 : Nat) : Int) ∨
        r = ((m / 10000 : Nat) : Int) + 1 := by
    omega
  rcases hQuotient with rfl | rfl
  · rw [abs_of_nonpos (by omega), min_eq_left (by omega)]
    omega
  · rw [abs_of_nonneg (by omega), min_eq_right (by omega)]
    omega

/-
  Ten thousand times the double of an amount, as the number
  of ten-thousandths and an error.
-/
theorem exists_product_error
    (hPos : 0 < n)
    (hMax : n ≤ maxAmount) :
    ∃ d : ℚ,
      nearest (amountBinade n) ((n : ℚ) / 10000) * 10000 =
          n + d ∧
        |d| * 2 ^ fractionBits n = floatError n ∧
        |d| ≤ n / 2 ^ 53 := by
  have hUnit := unit_amountBinade hPos hMax
  have hLow := (amount_inBinade hPos).low
  have hUnitPow := unit_mul_pow (amountBinade n)
  have hUnitPos := unit_pos (amountBinade n)
  have hClose :=
    abs_nearest_sub_le (amountBinade n) ((n : ℚ) / 10000)
  let r := roundHalfEven
    ((n : ℚ) / 10000 / unit (amountBinade n))
  -- The amount in units, as a natural number over 10000.
  have hScaled :
      (n : ℚ) / 10000 / unit (amountBinade n) =
        ((n * 2 ^ fractionBits n : Nat) : ℚ) / 10000 := by
    rw [div_eq_iff hUnitPos.ne']
    push_cast
    linear_combination (-(n : ℚ) / 10000) * hUnit
  have hNearest :
      IsNearest
        (((n * 2 ^ fractionBits n : Nat) : ℚ) / 10000) r := by
    rw [← hScaled]
    exact isNearest_roundHalfEven _
  have hError := abs_sub_of_isNearest hNearest
  refine
    ⟨nearest (amountBinade n) ((n : ℚ) / 10000) * 10000 - n,
      by ring, ?_, ?_⟩
  · have hDistance :
        (nearest (amountBinade n) ((n : ℚ) / 10000) * 10000 -
            n) * 2 ^ fractionBits n =
          ((10000 * r -
            ((n * 2 ^ fractionBits n : Nat) : Int) : Int) :
              ℚ) := by
      have hValue :
          nearest (amountBinade n) ((n : ℚ) / 10000) =
            r * unit (amountBinade n) := rfl
      rw [hValue]
      push_cast
      linear_combination (10000 * r : ℚ) * hUnit
    rw [← abs_of_pos (show (0 : ℚ) < 2 ^ fractionBits n by
      positivity), ← abs_mul, hDistance, ← Int.cast_abs,
      hError]
    rfl
  · have hScale :
        nearest (amountBinade n) ((n : ℚ) / 10000) * 10000 -
            n =
          10000 *
            (nearest (amountBinade n) ((n : ℚ) / 10000) -
              (n : ℚ) / 10000) := by
      ring
    rw [hScale, abs_mul, abs_sub_comm]
    norm_num at hClose hLow hUnitPow ⊢
    linarith

end FraudStream

------------------------------------------------------------
-- Rounding The Product Back
------------------------------------------------------------

namespace FraudStream

open PyFloat

variable
  {n : Nat}
  {d : ℚ}

theorem roundFloat_eq_iff
    (v : ℚ)
    (m : Int) :
    roundFloat (finite v) = .ok m ↔ IsNearest v m := by
  rw [← roundHalfEven_eq_iff]
  unfold roundFloat
  rw [Except.ok.injEq]

/- A product with quarters is restored. -/
theorem isNearest_of_quarters
    {e : Int}
    (hBinade : e ≤ 50)
    (hTop : n ≤ 2 ^ 51)
    (hError : |d| ≤ n / 2 ^ 53) :
    IsNearest (nearest e (n + d)) n := by
  left
  have hUnit : unit e ≤ 1 / 4 := by
    have hMono : unit e ≤ unit 50 := by
      unfold unit
      exact zpow_le_zpow_right₀ (by norm_num) (by omega)
    have hQuarter : unit 50 = 1 / 4 := by
      norm_num [unit]
    linarith
  have hClose := abs_le.1 (abs_nearest_sub_le e (n + d))
  have hTopRat : (n : ℚ) ≤ 2 ^ 51 := by exact_mod_cast hTop
  have hSmall : |d| ≤ 1 / 4 := by
    calc |d| ≤ n / 2 ^ 53 := hError
      _ ≤ 2 ^ 51 / 2 ^ 53 := by gcongr
      _ = 1 / 4 := by norm_num
  have hBounds := abs_le.1 hSmall
  rw [Int.cast_natCast, abs_lt]
  constructor <;> linarith

/- A product with halves is restored when the number is even
   or the error is at most a quarter. -/
theorem isNearest_of_halves_iff
    (hError : |d| < 1 / 2) :
    IsNearest (nearest 51 (n + d)) n ↔
      n % 2 = 0 ∨ 4 * |d| ≤ 1 := by
  have hUnit : unit 51 = 1 / 2 := by norm_num [unit]
  by_cases hSmall : 4 * |d| ≤ 1
  · have hExact :
        nearest 51 (n + d) = ((2 * n : Int) : ℚ) * unit 51 := by
      rw [nearest_eq_iff]
      have hDistance :
          |((n : ℚ) + d) / unit 51 - ((2 * n : Int) : ℚ)| =
            2 * |d| := by
        rw [hUnit, show ((n : ℚ) + d) / (1 / 2) -
          ((2 * n : Int) : ℚ) = 2 * d by push_cast; ring,
          abs_mul]
        norm_num
      unfold IsNearest
      rw [hDistance]
      rcases lt_or_eq_of_le hSmall with hLt | hEq
      · exact .inl (by linarith)
      · exact .inr ⟨by linarith, by omega⟩
    have hValue : nearest 51 (n + d) = n := by
      rw [hExact, hUnit]
      push_cast
      ring
    rw [hValue]
    simp [hSmall, IsNearest]
  · -- The product is a half off, on one of two sides.
    have hOdd :
        ∃ m : Int,
          nearest 51 (n + d) = m * unit 51 ∧
            (m = 2 * n + 1 ∨ m = 2 * n - 1) := by
      refine ⟨roundHalfEven ((n + d) / unit 51), rfl, ?_⟩
      have hNearest :=
        isNearest_roundHalfEven ((n + d) / unit 51)
      rw [hUnit] at hNearest ⊢
      generalize roundHalfEven (((n : ℚ) + d) / (1 / 2)) = m
        at hNearest ⊢
      have hClose := abs_le.1 hNearest.abs_sub_le
      have hBounds := abs_lt.1 hError
      have hLow : (2 * n - 2 : ℚ) < m := by linarith
      have hHigh : (m : ℚ) < 2 * n + 2 := by linarith
      have hIntLow : (2 * n - 2 : Int) < m := by
        exact_mod_cast hLow
      have hIntHigh : m < (2 * n + 2 : Int) := by
        exact_mod_cast hHigh
      have hNe : m ≠ 2 * n := by
        rintro rfl
        push_cast at hClose
        apply hSmall
        have hAbs : |d| ≤ 1 / 4 :=
          abs_le.2 ⟨by linarith, by linarith⟩
        linarith
      omega
    rcases hOdd with ⟨m, hValue, hSide⟩
    have hHalf :
        |nearest 51 (n + d) - ((n : Int) : ℚ)| = 1 / 2 := by
      rw [hValue, hUnit]
      rcases hSide with rfl | rfl <;>
        push_cast <;> ring_nf <;> norm_num
    unfold IsNearest
    rw [hHalf]
    simp only [lt_self_iff_false, true_and, false_or, hSmall,
      or_false]
    omega

theorem round_low_iff
    (hPos : 0 < n)
    (hLow : n < 2 ^ 52)
    (hError : |d| ≤ n / 2 ^ 53) :
    roundFloat (ofRat (n + d)) = .ok n ↔
      n % 2 = 0 ∨ 4 * |d| ≤ 1 := by
  have hOne : (1 : ℚ) ≤ n := by exact_mod_cast hPos
  have hTop : (n : ℚ) + 1 ≤ 2 ^ 52 := by exact_mod_cast hLow
  have hSmall : |d| < 1 / 2 := by
    calc |d| ≤ n / 2 ^ 53 := hError
      _ < 2 ^ 52 / 2 ^ 53 := by gcongr; linarith
      _ = 1 / 2 := by norm_num
  have hBounds := abs_lt.1 hSmall
  have hBinade : InBinade (Int.log 2 ((n : ℚ) + d)) (n + d) :=
    inBinade_log (by linarith)
  have hFirst : -1 ≤ Int.log 2 ((n : ℚ) + d) :=
    hBinade.le_of_pow_le (by norm_num; linarith)
  have hLast : Int.log 2 ((n : ℚ) + d) < 52 :=
    hBinade.lt_of_lt_pow (by norm_num at hTop ⊢; linarith)
  rw [ofRat_of_inBinade hBinade (by omega) (by omega),
    roundFloat_eq_iff]
  rcases Int.lt_or_le (Int.log 2 ((n : ℚ) + d)) 51 with
    hBelow | hAbove
  · have hReal : (n : ℚ) < 2 ^ 51 + 1 := by
      have hHigh := hBinade.high
      have hPow :
          (2 : ℚ) ^ (Int.log 2 ((n : ℚ) + d) + 1) ≤ 2 ^ 51 := by
        exact_mod_cast zpow_le_zpow_right₀
          (by norm_num : (1 : ℚ) ≤ 2)
          (show Int.log 2 ((n : ℚ) + d) + 1 ≤ 51 by omega)
      linarith
    have hHalf : n ≤ 2 ^ 51 := by
      have hNat : n < 2 ^ 51 + 1 := by exact_mod_cast hReal
      omega
    have hQuarter : 4 * |d| ≤ 1 := by
      have hReal' : (n : ℚ) ≤ 2 ^ 51 := by
        exact_mod_cast hHalf
      calc 4 * |d| ≤ 4 * (n / 2 ^ 53) := by gcongr
        _ ≤ 4 * (2 ^ 51 / 2 ^ 53) := by gcongr
        _ = 1 := by norm_num
    exact iff_of_true
      (isNearest_of_quarters (by omega) hHalf hError)
      (.inr hQuarter)
  · rw [show Int.log 2 ((n : ℚ) + d) = 51 by omega]
    exact isNearest_of_halves_iff hSmall

/- The unit of a product from `2 ^ 52` on. -/
def productUnit (n : Nat) : Nat :=
  2 ^ (n.log2 - 52)

theorem unit_log2
    (hHigh : 2 ^ 52 ≤ n) :
    unit n.log2 = productUnit n := by
  have hLog : 52 ≤ n.log2 :=
    (Nat.le_log2 (by omega)).2 hHigh
  unfold unit productUnit
  rw [Nat.cast_pow, Nat.cast_ofNat, ← zpow_natCast]
  congr 1
  omega

/- A rounded product of this size is an integer. -/
theorem round_multiple
    {e : Int}
    {m : Int}
    {w : Nat}
    (hUnit : unit e = w) :
    roundFloat (finite (m * unit e)) = .ok (m * w) := by
  rw [roundFloat_eq_iff, hUnit]
  left
  push_cast
  norm_num

theorem log2_bounds
    (hHigh : 2 ^ 52 ≤ n)
    (hMax : n ≤ maxAmount) :
    52 ≤ n.log2 ∧ n.log2 < 60 := by
  have hTop : n < 2 ^ 60 :=
    lt_of_le_of_lt hMax (by decide)
  exact
    ⟨(Nat.le_log2 (by omega)).2 hHigh,
      (Nat.log2_lt (by omega)).2 hTop⟩

/- The number is nearest to the product exactly when the
   error is half a unit at most, and then it is even. -/
theorem isNearest_quotient_iff
    {w c : Nat}
    (hPos : 0 < w) :
    IsNearest ((((w * c : Nat) : ℚ) + d) / w) c ↔
      2 * |d| < w ∨ 2 * |d| = w ∧ 2 * w ∣ w * c := by
  have hReal : (0 : ℚ) < w := by exact_mod_cast hPos
  have hDistance :
      (((w * c : Nat) : ℚ) + d) / w - ((c : Int) : ℚ) =
        d / w := by
    push_cast
    field_simp
    ring
  have hEven : 2 * w ∣ w * c ↔ (c : Int) % 2 = 0 := by
    rw [Nat.mul_comm 2 w, Nat.mul_dvd_mul_iff_left hPos]
    omega
  unfold IsNearest
  rw [hDistance, abs_div, abs_of_pos hReal, hEven,
    div_lt_iff₀ hReal, div_eq_iff hReal.ne']
  constructor
  · rintro (hLt | ⟨hEq, hTie⟩)
    · exact .inl (by linarith)
    · exact .inr ⟨by linarith, hTie⟩
  · rintro (hLt | ⟨hEq, hTie⟩)
    · exact .inl (by linarith)
    · exact .inr ⟨by linarith, hTie⟩

/- In its own binade the product is restored when it is a
   multiple of its unit and half a unit off at most. -/
theorem round_binade_iff
    (hHigh : 2 ^ 52 ≤ n)
    (hMax : n ≤ maxAmount)
    (hBinade : InBinade n.log2 ((n : ℚ) + d)) :
    roundFloat (ofRat (n + d)) = .ok n ↔
      productUnit n ∣ n ∧
        (2 * |d| < productUnit n ∨
          2 * |d| = productUnit n ∧
            2 * productUnit n ∣ n) := by
  have hLog := log2_bounds hHigh hMax
  have hUnit := unit_log2 hHigh
  have hPos : 0 < productUnit n := by
    unfold productUnit
    positivity
  rw [ofRat_of_inBinade hBinade (by omega) (by omega),
    nearest, round_multiple hUnit, Except.ok.injEq, hUnit]
  generalize productUnit n = w at hPos
  constructor
  · intro hRestored
    have hDvd : (w : Int) ∣ n :=
      ⟨_, by rw [← hRestored, mul_comm]⟩
    rcases Int.natCast_dvd_natCast.1 hDvd with ⟨c, rfl⟩
    refine ⟨⟨c, rfl⟩, ?_⟩
    rw [← isNearest_quotient_iff hPos,
      ← roundHalfEven_eq_iff]
    have hInt : (w : Int) ≠ 0 := by omega
    apply mul_right_cancel₀ hInt
    rw [hRestored]
    push_cast
    ring
  · rintro ⟨⟨c, rfl⟩, hClose⟩
    rw [← isNearest_quotient_iff hPos,
      ← roundHalfEven_eq_iff] at hClose
    rw [hClose]
    push_cast
    ring

/- A value that is one away or more is another integer. -/
theorem not_restored_of_far
    {v : ℚ}
    (hFar : 1 ≤ |v - n|) :
    roundFloat (finite v) ≠ .ok n := by
  intro hRestored
  rw [roundFloat_eq_iff] at hRestored
  have hClose := hRestored.abs_sub_le
  rw [Int.cast_natCast] at hClose
  linarith

/- The binade of a number of this size, in rationals. -/
theorem natural_inBinade
    (hPos : 0 < n) :
    (2 : ℚ) ^ n.log2 ≤ n ∧ (n : ℚ) < 2 ^ (n.log2 + 1) := by
  constructor
  · exact_mod_cast Nat.log2_self_le hPos.ne'
  · exact_mod_cast Nat.lt_log2_self

theorem productUnit_dvd_pow
    {k : Nat}
    (hLe : n.log2 - 52 ≤ k) :
    productUnit n ∣ 2 ^ k :=
  pow_dvd_pow 2 hLe

/- An error below a unit. -/
theorem error_lt_unit
    (hHigh : 2 ^ 52 ≤ n)
    (hError : |d| ≤ n / 2 ^ 53) :
    |d| < productUnit n := by
  have hPow := unit_mul_pow (n.log2 : Int)
  rw [unit_log2 hHigh, zpow_natCast] at hPow
  have hTop := (natural_inBinade (n := n) (by omega)).2
  rw [pow_succ, ← hPow] at hTop
  calc |d| ≤ n / 2 ^ 53 := hError
    _ < (2 ^ 52 * (productUnit n : ℚ) * 2) / 2 ^ 53 := by
      gcongr
    _ = productUnit n := by ring

/- A power of two is restored from below when the error is a
   quarter of its unit at most. -/
theorem round_power_below
    (hHigh : 2 ^ 52 ≤ n)
    (hMax : n ≤ maxAmount)
    (hIsPower : n = 2 ^ n.log2)
    (hQuarter : 4 * |d| ≤ productUnit n)
    (hBelow : (n : ℚ) + d < 2 ^ n.log2) :
    roundFloat (ofRat (n + d)) = .ok n := by
  have hLog := log2_bounds hHigh hMax
  have hReal : (n : ℚ) = 2 ^ n.log2 := by
    exact_mod_cast hIsPower
  have hOne : (1 : ℚ) ≤ productUnit n := by
    exact_mod_cast Nat.one_le_two_pow
  have hPow := unit_mul_pow (n.log2 : Int)
  rw [unit_log2 hHigh, zpow_natCast, ← hReal] at hPow
  have hHalfUnit :
      unit (n.log2 - 1) = (productUnit n : ℚ) / 2 := by
    rw [← unit_log2 hHigh]
    unfold unit
    rw [show ((n.log2 : Int) - 1 - 52) =
      (n.log2 - 52) - 1 by ring, zpow_sub_one₀ (by norm_num)]
    ring
  have hSmall : |d| ≤ productUnit n / 4 := by linarith
  have hBounds := abs_le.1 hSmall
  have hPrevious :
      InBinade (n.log2 - 1) ((n : ℚ) + d) := by
    constructor
    · rw [zpow_sub_one₀ (by norm_num), zpow_natCast, ← hReal]
      linarith
    · rw [sub_add_cancel, zpow_natCast]
      exact hBelow
  have hMultiple :
      ((2 ^ 53 : Int) : ℚ) * unit (n.log2 - 1) = n := by
    rw [hHalfUnit, ← hPow]
    push_cast
    ring
  have hNearest :
      IsNearest ((n + d) / unit (n.log2 - 1)) (2 ^ 53) := by
    have hUnitPos := unit_pos ((n.log2 : Int) - 1)
    have hDistance :
        ((n : ℚ) + d) / unit (n.log2 - 1) -
            ((2 ^ 53 : Int) : ℚ) =
          d / unit (n.log2 - 1) := by
      rw [sub_eq_iff_eq_add, div_eq_iff hUnitPos.ne',
        add_mul, hMultiple, div_mul_cancel₀ _ hUnitPos.ne',
        add_comm]
    have hHalf : |d / unit (n.log2 - 1)| ≤ 1 / 2 := by
      rw [abs_div, abs_of_pos hUnitPos, hHalfUnit,
        div_le_iff₀ (by linarith)]
      linarith
    unfold IsNearest
    rw [hDistance]
    rcases lt_or_eq_of_le hHalf with hLt | hEq
    · exact .inl hLt
    · exact .inr ⟨hEq, by norm_num⟩
  rw [ofRat_of_inBinade hPrevious (by omega) (by omega),
    (nearest_eq_iff _ _ _).2 hNearest, hMultiple,
    roundFloat_eq_iff]
  simp [IsNearest]

/- A product below the binade of a number that is no power of
   two: it is lost, and the number is no multiple. -/
theorem lost_below
    (hHigh : 2 ^ 52 ≤ n)
    (hMax : n ≤ maxAmount)
    (hError : |d| ≤ n / 2 ^ 53)
    (hNotPower : n ≠ 2 ^ n.log2)
    (hBelow : (n : ℚ) + d < 2 ^ n.log2) :
    roundFloat (ofRat (n + d)) ≠ .ok n ∧
      ¬ productUnit n ∣ n := by
  have hLog := log2_bounds hHigh hMax
  have hUnitBounds := abs_lt.1 (error_lt_unit hHigh hError)
  have hBounds := abs_le.1 hError
  have hReal : (2 : ℚ) ^ 52 ≤ n := by exact_mod_cast hHigh
  have hLess : 2 ^ n.log2 < n :=
    lt_of_le_of_ne (Nat.log2_self_le (by omega))
      (Ne.symm hNotPower)
  constructor
  · have hBinade :=
      inBinade_log (q := (n : ℚ) + d) (by linarith)
    have hExponent :
        Int.log 2 ((n : ℚ) + d) < n.log2 :=
      hBinade.lt_of_lt_pow (by rwa [zpow_natCast])
    have hFirst : 0 ≤ Int.log 2 ((n : ℚ) + d) :=
      hBinade.le_of_pow_le (by norm_num; linarith)
    have hNearest :
        nearest (Int.log 2 ((n : ℚ) + d)) (n + d) ≤
          2 ^ n.log2 := by
      refine hBinade.nearest_le_pow.trans ?_
      rw [← zpow_natCast]
      exact zpow_le_zpow_right₀ (by norm_num) (by omega)
    have hGap : (2 : ℚ) ^ n.log2 + 1 ≤ n := by
      exact_mod_cast hLess
    rw [ofRat_of_inBinade hBinade (by omega) (by omega)]
    apply not_restored_of_far
    rw [abs_sub_comm]
    exact le_abs.2 (.inl (by linarith))
  · intro hDvd
    have hPow : productUnit n ∣ 2 ^ n.log2 :=
      productUnit_dvd_pow (by omega)
    have hLe : productUnit n ≤ n - 2 ^ n.log2 :=
      Nat.le_of_dvd (by omega) (Nat.dvd_sub hDvd hPow)
    have hSum : productUnit n + 2 ^ n.log2 ≤ n := by omega
    have hCast : (productUnit n : ℚ) + 2 ^ n.log2 ≤ n := by
      exact_mod_cast hSum
    linarith

/- A product above the binade of the number: likewise. -/
theorem lost_above
    (hHigh : 2 ^ 52 ≤ n)
    (hMax : n ≤ maxAmount)
    (hError : |d| ≤ n / 2 ^ 53)
    (hAbove : (2 : ℚ) ^ (n.log2 + 1) ≤ n + d) :
    roundFloat (ofRat (n + d)) ≠ .ok n ∧
      ¬ productUnit n ∣ n := by
  have hLog := log2_bounds hHigh hMax
  have hUnitBounds := abs_lt.1 (error_lt_unit hHigh hError)
  have hBounds := abs_le.1 hError
  have hReal : (2 : ℚ) ^ 52 ≤ n := by exact_mod_cast hHigh
  have hTop : (n : ℚ) ≤ 10 ^ 18 := by
    have hLe : n ≤ 10 ^ 18 := hMax.trans (by decide)
    exact_mod_cast hLe
  have hLess : n + 1 ≤ 2 ^ (n.log2 + 1) :=
    Nat.lt_log2_self
  constructor
  · have hBinade :=
      inBinade_log (q := (n : ℚ) + d) (by linarith)
    have hExponent :
        (n.log2 : Int) + 1 ≤ Int.log 2 ((n : ℚ) + d) :=
      hBinade.le_of_pow_le (by exact_mod_cast hAbove)
    have hLast : Int.log 2 ((n : ℚ) + d) < 62 :=
      hBinade.lt_of_lt_pow (by norm_num; linarith)
    have hNearest :
        (2 : ℚ) ^ (n.log2 + 1) ≤
          nearest (Int.log 2 ((n : ℚ) + d)) (n + d) := by
      refine le_trans ?_ hBinade.pow_le_nearest
      rw [← zpow_natCast]
      exact zpow_le_zpow_right₀ (by norm_num)
        (by push_cast; omega)
    have hGap : (n : ℚ) + 1 ≤ 2 ^ (n.log2 + 1) := by
      exact_mod_cast hLess
    rw [ofRat_of_inBinade hBinade (by omega) (by omega)]
    apply not_restored_of_far
    exact le_abs.2 (.inl (by linarith))
  · intro hDvd
    have hPow : productUnit n ∣ 2 ^ (n.log2 + 1) :=
      productUnit_dvd_pow (by omega)
    have hLe : productUnit n ≤ 2 ^ (n.log2 + 1) - n :=
      Nat.le_of_dvd (by omega) (Nat.dvd_sub hPow hDvd)
    have hSum : productUnit n + n ≤ 2 ^ (n.log2 + 1) := by
      omega
    have hCast :
        (productUnit n : ℚ) + n ≤ 2 ^ (n.log2 + 1) := by
      exact_mod_cast hSum
    linarith

/-
  From `2 ^ 52` on, a product is restored when the number is
  a multiple of its unit and the error is half a unit at
  most. A power of two has a finer unit below it, so its
  error is asked to be smaller.
-/
theorem round_high_iff
    (hHigh : 2 ^ 52 ≤ n)
    (hMax : n ≤ maxAmount)
    (hError : |d| ≤ n / 2 ^ 53)
    (hPower :
      n = 2 ^ n.log2 → 4 * |d| ≤ productUnit n) :
    roundFloat (ofRat (n + d)) = .ok n ↔
      productUnit n ∣ n ∧
        (2 * |d| < productUnit n ∨
          2 * |d| = productUnit n ∧
            2 * productUnit n ∣ n) := by
  have hLog := log2_bounds hHigh hMax
  have hOne : (1 : ℚ) ≤ productUnit n := by
    exact_mod_cast Nat.one_le_two_pow
  rcases lt_or_ge ((n : ℚ) + d) (2 ^ n.log2) with
    hBelow | hFrom
  · by_cases hIsPower : n = 2 ^ n.log2
    · have hQuarter := hPower hIsPower
      have hDvd : productUnit n ∣ 2 ^ n.log2 :=
        productUnit_dvd_pow (by omega)
      rw [← hIsPower] at hDvd
      exact iff_of_true
        (round_power_below hHigh hMax hIsPower hQuarter
          hBelow)
        ⟨hDvd, .inl (by linarith)⟩
    · rcases lost_below hHigh hMax hError hIsPower hBelow with
        ⟨hLost, hNoMultiple⟩
      exact iff_of_false hLost
        (fun hRestored => hNoMultiple hRestored.1)
  · rcases lt_or_ge ((n : ℚ) + d) (2 ^ (n.log2 + 1)) with
      hTo | hAbove
    · apply round_binade_iff hHigh hMax
      constructor
      · rwa [zpow_natCast]
      · exact_mod_cast hTo
    · rcases lost_above hHigh hMax hError hAbove with
        ⟨hLost, hNoMultiple⟩
      exact iff_of_false hLost
        (fun hRestored => hNoMultiple hRestored.1)

end FraudStream

------------------------------------------------------------
-- Exact Amounts
------------------------------------------------------------

namespace FraudStream

open PyFloat TransactionEventBuilder

/-
  An amount that is carried exactly: below `2 ^ 52`, an even
  number or one whose double is a quarter off at most; from
  there on, a multiple of the unit of the product whose
  double is half a unit off at most.
-/
def CarriedExactly (n : Nat) : Prop :=
  if n < 2 ^ 52 then
    n % 2 = 0 ∨ 4 * floatError n ≤ 2 ^ fractionBits n
  else
    productUnit n ∣ n ∧
      (2 * floatError n <
          productUnit n * 2 ^ fractionBits n ∨
        2 * floatError n =
            productUnit n * 2 ^ fractionBits n ∧
          2 * productUnit n ∣ n)

instance (n : Nat) : Decidable (CarriedExactly n) := by
  unfold CarriedExactly
  infer_instance

variable {n : Nat}

/- The double of a power of two is a quarter of a unit off at
   most. -/
theorem floatError_of_power
    (hHigh : 2 ^ 52 ≤ n)
    (hMax : n ≤ maxAmount)
    (hIsPower : n = 2 ^ n.log2) :
    4 * floatError n ≤
      productUnit n * 2 ^ fractionBits n := by
  have hLog := log2_bounds hHigh hMax
  have hReal : (n : ℚ) = 2 ^ n.log2 := by
    exact_mod_cast hIsPower
  have hBinade :
      InBinade (n.log2 - 14) ((n : ℚ) / 10000) := by
    rw [hReal, ← zpow_natCast]
    constructor
    · rw [zpow_sub₀ (by norm_num), div_eq_mul_inv,
        div_eq_mul_inv]
      gcongr
      norm_num
    · rw [show (n.log2 : Int) - 14 + 1 = n.log2 - 13 by ring,
        zpow_sub₀ (by norm_num), div_eq_mul_inv,
        div_eq_mul_inv]
      gcongr
      norm_num
  have hBits : fractionBits n = 66 - n.log2 := by
    unfold fractionBits amountBinade
    rw [hBinade.log_eq]
    omega
  have hShifted : n * 2 ^ fractionBits n = 2 ^ 66 := by
    calc n * 2 ^ fractionBits n
        = 2 ^ n.log2 * 2 ^ (66 - n.log2) := by
          rw [← hIsPower, hBits]
      _ = 2 ^ 66 := by
          rw [← pow_add]
          congr 1
          omega
  have hUnit :
      productUnit n * 2 ^ fractionBits n = 2 ^ 14 := by
    unfold productUnit
    rw [hBits, ← pow_add]
    congr 1
    omega
  rw [hUnit]
  unfold floatError
  rw [hShifted]
  decide

/- A given amount is read as its double. -/
theorem toFloat_of_given
    {rawAmount : JsonValue}
    (hGiven : AmountGiven n rawAmount)
    (hPos : 0 < n)
    (hMax : n ≤ maxAmount) :
    rawAmount.toFloat = .ok (ofRat (n / 10000)) := by
  cases hGiven with
  | text t hShort hValue =>
      rw [← hValue]
      exact t.toFloat_text
  | integer i hValue =>
      have hRat : (i.value : ℚ) = n / 10000 := by
        have hCast : (10000 * i.value : ℚ) = n := by
          exact_mod_cast hValue
        linarith
      simp only [JsonValue.toFloat, JsonValue.scalar?,
        Scalar.toFloat, hRat, ofRat_amount hPos hMax]
  | number => rfl

/- Comparisons of the error, in rationals and in multiples of
   its last bit. -/
theorem scaled_error_iff
    {d : ℚ}
    {s bits : Nat}
    (hScaled : |d| * 2 ^ bits = s)
    (k m : Nat) :
    (k * |d| ≤ m ↔ k * s ≤ m * 2 ^ bits) ∧
      (k * |d| < m ↔ k * s < m * 2 ^ bits) ∧
      (k * |d| = m ↔ k * s = m * 2 ^ bits) := by
  have hPos : (0 : ℚ) < 2 ^ bits := by positivity
  have hLeft :
      ((k * s : Nat) : ℚ) = k * |d| * 2 ^ bits := by
    push_cast
    rw [← hScaled]
    ring
  have hRight :
      ((m * 2 ^ bits : Nat) : ℚ) = m * 2 ^ bits := by
    push_cast
    rfl
  rw [← Nat.cast_le (α := ℚ), ← Nat.cast_lt (α := ℚ),
    ← Nat.cast_inj (R := ℚ), hLeft, hRight]
  exact
    ⟨(mul_le_mul_iff_left₀ hPos).symm,
      (mul_lt_mul_iff_left₀ hPos).symm,
      (mul_left_inj' hPos.ne').symm⟩

/- Scaling a given amount restores its ten-thousandths
   exactly when it is carried exactly. -/
theorem scaledInt_eq_iff
    {rawAmount : JsonValue}
    (hGiven : AmountGiven n rawAmount)
    (hPos : 0 < n)
    (hMax : n ≤ maxAmount) :
    scaledInt rawAmount = .ok n ↔ CarriedExactly n := by
  rcases exists_product_error hPos hMax with
    ⟨d, hProduct, hScaled, hError⟩
  have hScale :
      scaledInt rawAmount = roundFloat (ofRat (n + d)) := by
    unfold scaledInt
    rw [toFloat_of_given hGiven hPos hMax,
      ofRat_amount hPos hMax, ← hProduct]
    rfl
  have hCompare := scaled_error_iff hScaled
  rw [hScale]
  unfold CarriedExactly
  by_cases hLow : n < 2 ^ 52
  · have hQuarter := (hCompare 4 1).1
    rw [Nat.one_mul] at hQuarter
    rw [if_pos hLow, round_low_iff hPos hLow hError,
      ← hQuarter]
    norm_num
  · have hHigh : 2 ^ 52 ≤ n := Nat.le_of_not_lt hLow
    have hHalf := hCompare 2 (productUnit n)
    have hPower (hIsPower : n = 2 ^ n.log2) :
        4 * |d| ≤ productUnit n := by
      have hQuarter := (hCompare 4 (productUnit n)).1
      exact_mod_cast hQuarter.2
        (floatError_of_power hHigh hMax hIsPower)
    rw [if_neg hLow,
      round_high_iff hHigh hMax hError hPower,
      ← hHalf.2.1, ← hHalf.2.2]
    norm_num

/- Every amount below `2 ^ 38` is carried exactly. -/
theorem carriedExactly_of_small
    (hPos : 0 < n)
    (hSmall : n < 2 ^ 38 * 10000) :
    CarriedExactly n := by
  have hLow : n < 2 ^ 52 :=
    hSmall.trans (by norm_num)
  have hReal : (n : ℚ) < 2 ^ 38 * 10000 := by
    exact_mod_cast hSmall
  have hBinade : amountBinade n < 38 := by
    apply (amount_inBinade hPos).lt_of_lt_pow
    rw [div_lt_iff₀ (by norm_num)]
    exact_mod_cast hReal
  have hBits : 2 ^ 15 ≤ 2 ^ fractionBits n := by
    apply Nat.pow_le_pow_right (by norm_num)
    unfold fractionBits
    omega
  unfold CarriedExactly
  rw [if_pos hLow]
  right
  unfold floatError
  dsimp only
  omega

/-
  A built event carries the ten-thousandths of a given
  amount exactly when the amount is one that is carried
  exactly.
-/
theorem amount_carried_iff
    {table : TextTable}
    {cfg : Config}
    {context : BuildContext}
    {payload : JsonObject}
    {rawAmount : JsonValue}
    {event : TransactionEvent}
    (hGiven : AmountGiven n rawAmount)
    (hPos : 0 < n)
    (hMax : n ≤ maxAmount)
    (hAmount : payload.get? "amount" = some rawAmount)
    (hBuild : build table cfg context payload = .ok event) :
    eventAmount event = some (n : Int) ↔
      CarriedExactly n := by
  rcases eventAmount_of_build hBuild with
    ⟨rawAmount', m, hGet, hScaled, hEvent⟩
  cases hAmount.symm.trans hGet
  rw [hEvent, ← scaledInt_eq_iff hGiven hPos hMax, hScaled,
    Option.some.injEq, Except.ok.injEq]

end FraudStream

------------------------------------------------------------
-- A Rounded Amount
------------------------------------------------------------

namespace FraudStream

open TransactionEventBuilder

def roundedAmount : DecimalText where
  whole := [2, 7, 4, 8, 7, 7, 9, 0, 6, 9, 4, 4]
  fraction := [0, 0, 0, 7]
  nonempty := by decide

/- An amount of twelve whole digits loses a
   ten-thousandth. -/
theorem large_amount_is_rounded :
    roundedAmount.text = "274877906944.0007" ∧
      AmountGiven 2748779069440007
        (.str roundedAmount.text) ∧
      2748779069440007 ≤ maxAmount ∧
      ∃ event,
        build asciiTable apiConfig sampleContext
            (amountPayload (.str roundedAmount.text)) =
          .ok event ∧
        eventAmount event = some 2748779069440006 := by
  refine ⟨by decide, .text roundedAmount ?_ ?_, by decide, ?_⟩
  · decide
  · norm_num [DecimalText.value, DecimalText.digits,
      roundedAmount, Decimal.ofDigits]
  · apply exists_event_of_amount
    decide +kernel

def tenUnits : DecimalText where
  whole := [1, 0]
  fraction := [0, 0]
  nonempty := by decide

/- Ten units are carried exactly. -/
theorem ten_units_are_carried :
    ∃ event,
      build asciiTable apiConfig sampleContext
          (amountPayload (.str tenUnits.text)) =
        .ok event ∧
      eventAmount event = some (100000 : Nat) := by
  have hComputed :
      (build asciiTable apiConfig sampleContext
        (amountPayload (.str tenUnits.text))).toOption.bind
          eventAmount = some 100000 := by
    decide +kernel
  have hValue : tenUnits.value = (100000 : Nat) / 10000 := by
    norm_num [DecimalText.value, DecimalText.digits,
      tenUnits, Decimal.ofDigits]
  rcases exists_event_of_amount hComputed with
    ⟨event, hBuild, -⟩
  refine ⟨event, hBuild, ?_⟩
  exact
    (amount_carried_iff
      (.text tenUnits (by decide) hValue)
      (by decide) (by decide) (get?_amountPayload _)
      hBuild).2
      (carriedExactly_of_small (by decide) (by decide))

end FraudStream
