import Mathlib.Tactic.Linarith
import Mathlib.Tactic.NormNum
import Mathlib.Tactic.FieldSimp
import Mathlib.Algebra.Order.Field.Power
import Mathlib.Tactic.Positivity
import FraudStream.Library.Binary64

/-
  What rounding to the nearest double does.

  Rounding to an integer is the nearest one, and the even
  one of two. A double of the binade from `2 ^ e` is the
  nearest multiple of its unit `2 ^ (e - 52)`, so a rounded
  number is off by half a unit at most, and a number closer
  to a multiple than that is rounded to it.

  Key definitions include:
    * `PyFloat.IsNearest`
    * `PyFloat.InBinade`

  Main declarations:
    * `roundHalfEven_eq_iff`
    * `roundHalfEven_mono`
    * `ofRat_of_inBinade`
    * `ofRat_eq_of_close`
    * `abs_nearest_sub_le`
    * `isInt_of_ofRat`
    * `ofRat_intCast`
-/

------------------------------------------------------------
-- The Nearest Integer
------------------------------------------------------------

namespace PyFloat

/- The integer is nearest, and even between two of them. -/
def IsNearest (q : ℚ) (n : Int) : Prop :=
  |q - n| < 1 / 2 ∨ (|q - n| = 1 / 2 ∧ n % 2 = 0)

theorem IsNearest.abs_sub_le
    {q : ℚ}
    {n : Int}
    (hNearest : IsNearest q n) :
    |q - n| ≤ 1 / 2 := by
  rcases hNearest with hClose | ⟨hTie, -⟩
  · exact hClose.le
  · exact hTie.le

theorem isNearest_roundHalfEven
    (q : ℚ) :
    IsNearest q (roundHalfEven q) := by
  have hLow := Int.floor_le q
  have hHigh := Int.lt_floor_add_one q
  unfold IsNearest roundHalfEven
  dsimp only
  by_cases hBelow : q - ⌊q⌋ < 1 / 2
  · rw [if_pos hBelow, abs_of_nonneg (by linarith)]
    exact .inl hBelow
  rw [if_neg hBelow]
  by_cases hAbove : 1 / 2 < q - ⌊q⌋
  · rw [if_pos hAbove]
    left
    push_cast
    rw [abs_of_nonpos (by linarith)]
    linarith
  rw [if_neg hAbove]
  have hTie : q - ⌊q⌋ = 1 / 2 :=
    le_antisymm (not_lt.1 hAbove) (not_lt.1 hBelow)
  right
  by_cases hEven : ⌊q⌋ % 2 = 0
  · rw [if_pos hEven, hTie]
    exact ⟨by norm_num, hEven⟩
  · rw [if_neg hEven]
    refine ⟨?_, by omega⟩
    push_cast
    rw [← sub_sub, hTie]
    norm_num

/- No number has two nearest integers. -/
theorem IsNearest.unique
    {q : ℚ}
    {n m : Int}
    (hn : IsNearest q n)
    (hm : IsNearest q m) :
    n = m := by
  have hnLe := abs_le.1 hn.abs_sub_le
  have hmLe := abs_le.1 hm.abs_sub_le
  by_contra hNe
  have hApart : (1 : ℚ) ≤ |(n : ℚ) - m| := by
    have hInt : (1 : Int) ≤ |n - m| := by
      have := abs_pos.2 (sub_ne_zero.2 hNe)
      omega
    exact_mod_cast hInt
  -- Both are half away, on two sides, so one is odd.
  have hOne : |(n : ℚ) - m| = 1 :=
    le_antisymm (abs_le.2 ⟨by linarith, by linarith⟩)
      hApart
  have hIntOne : n - m = 1 ∨ n - m = -1 :=
    (abs_eq (by norm_num)).1 (by exact_mod_cast hOne)
  have hTies : |q - n| = 1 / 2 ∧ |q - m| = 1 / 2 := by
    have hTriangle : |(n : ℚ) - m| ≤ |q - n| + |q - m| := by
      calc |(n : ℚ) - m| = |(q - m) - (q - n)| := by
            rw [sub_sub_sub_cancel_left]
        _ ≤ |q - m| + |q - n| := abs_sub _ _
        _ = |q - n| + |q - m| := add_comm _ _
    have h1 := hn.abs_sub_le
    have h2 := hm.abs_sub_le
    exact ⟨by linarith, by linarith⟩
  have hnEven : n % 2 = 0 := by
    rcases hn with hClose | ⟨-, hEven⟩
    · exact absurd hTies.1 hClose.ne
    · exact hEven
  have hmEven : m % 2 = 0 := by
    rcases hm with hClose | ⟨-, hEven⟩
    · exact absurd hTies.2 hClose.ne
    · exact hEven
  omega

theorem roundHalfEven_eq_iff
    (q : ℚ)
    (n : Int) :
    roundHalfEven q = n ↔ IsNearest q n := by
  constructor
  · rintro rfl
    exact isNearest_roundHalfEven q
  · exact (isNearest_roundHalfEven q).unique

theorem roundHalfEven_eq_of_close
    {q : ℚ}
    {n : Int}
    (hClose : |q - n| < 1 / 2) :
    roundHalfEven q = n :=
  (roundHalfEven_eq_iff q n).2 (.inl hClose)

@[simp] theorem roundHalfEven_intCast
    (n : Int) :
    roundHalfEven (n : ℚ) = n :=
  roundHalfEven_eq_of_close (by simp)

theorem roundHalfEven_mono
    {q r : ℚ}
    (hLe : q ≤ r) :
    roundHalfEven q ≤ roundHalfEven r := by
  by_contra hLt
  rw [not_le] at hLt
  have hq := abs_le.1 (isNearest_roundHalfEven q).abs_sub_le
  have hr := abs_le.1 (isNearest_roundHalfEven r).abs_sub_le
  have hStep :
      (roundHalfEven r : ℚ) + 1 ≤ roundHalfEven q := by
    exact_mod_cast hLt
  -- The two are the same number, halfway between integers.
  have hSame : q = r := by linarith
  rw [hSame] at hLt
  exact lt_irrefl _ hLt

end PyFloat

------------------------------------------------------------
-- Binades
------------------------------------------------------------

namespace PyFloat

/- Positive numbers of one unit, of doubles that are neither
   subnormal nor infinite. -/
structure InBinade (e : Int) (q : ℚ) : Prop where
  low : 2 ^ e ≤ q
  high : q < 2 ^ (e + 1)

/- The spacing of the doubles of a binade. -/
def unit (e : Int) : ℚ := 2 ^ (e - 52)

theorem unit_pos
    (e : Int) :
    0 < unit e := by
  exact zpow_pos (by norm_num) _

theorem unit_mul_pow
    (e : Int) :
    (2 ^ 52 : ℚ) * unit e = 2 ^ e := by
  unfold unit
  rw [zpow_sub₀ (by norm_num)]
  norm_num
  ring

variable
  {e : Int}
  {q : ℚ}

theorem InBinade.pos
    (hq : InBinade e q) :
    0 < q :=
  lt_of_lt_of_le (zpow_pos (by norm_num) e) hq.low

/- Every positive number has a binade. -/
theorem inBinade_log
    (hPos : 0 < q) :
    InBinade (Int.log 2 q) q := by
  constructor
  · have hLow := Int.zpow_log_le_self
      (b := 2) (by norm_num) hPos
    exact_mod_cast hLow
  · have hHigh := Int.lt_zpow_succ_log_self
      (b := 2) (by norm_num) q
    exact_mod_cast hHigh

theorem InBinade.lt_of_lt_pow
    {k : Int}
    (hq : InBinade e q)
    (hLt : q < 2 ^ k) :
    e < k :=
  (zpow_lt_zpow_iff_right₀ (by norm_num)).1
    (lt_of_le_of_lt hq.low hLt)

theorem InBinade.le_of_pow_le
    {k : Int}
    (hq : InBinade e q)
    (hLe : 2 ^ k ≤ q) :
    k ≤ e :=
  Int.lt_add_one_iff.1
    ((zpow_lt_zpow_iff_right₀ (by norm_num)).1
      (lt_of_le_of_lt hLe hq.high))

theorem InBinade.log_eq
    (hq : InBinade e q) :
    Int.log 2 q = e := by
  have hLog := inBinade_log hq.pos
  apply le_antisymm
  · exact Int.lt_add_one_iff.1 (hLog.lt_of_lt_pow hq.high)
  · exact hLog.le_of_pow_le hq.low

theorem InBinade.lastBit_eq
    (hq : InBinade e q)
    (hNormal : -1022 ≤ e) :
    lastBit q = e - 52 := by
  unfold lastBit
  rw [abs_of_pos hq.pos, hq.log_eq]
  omega

/- The nearest multiple of the unit of a binade. -/
def nearest (e : Int) (q : ℚ) : ℚ :=
  roundHalfEven (q / unit e) * unit e

theorem nearest_eq_iff
    (e : Int)
    (q : ℚ)
    (m : Int) :
    nearest e q = m * unit e ↔ IsNearest (q / unit e) m := by
  have hPos := unit_pos e
  rw [← roundHalfEven_eq_iff, nearest,
    mul_left_inj' hPos.ne']
  exact_mod_cast Iff.rfl

/- A number close to a multiple is rounded to it. -/
theorem nearest_eq_of_close
    {m : Int}
    (hClose : |q - m * unit e| < unit e / 2) :
    nearest e q = m * unit e := by
  have hPos := unit_pos e
  rw [nearest_eq_iff]
  left
  have hScale :
      q / unit e - m = (q - m * unit e) / unit e := by
    field_simp
  rw [hScale, abs_div, abs_of_pos hPos, div_lt_iff₀ hPos]
  linarith

theorem abs_nearest_sub_le
    (e : Int)
    (q : ℚ) :
    |q - nearest e q| ≤ unit e / 2 := by
  have hPos := unit_pos e
  have hNearest :=
    (isNearest_roundHalfEven (q / unit e)).abs_sub_le
  have hScale :
      q - nearest e q =
        (q / unit e - roundHalfEven (q / unit e)) *
          unit e := by
    unfold nearest
    field_simp
  rw [hScale, abs_mul, abs_of_pos hPos]
  calc |q / unit e - roundHalfEven (q / unit e)| * unit e
      ≤ 1 / 2 * unit e := by gcongr
    _ = unit e / 2 := by ring

/- A multiple below a number stays below its rounding. -/
theorem le_nearest
    {m : Int}
    (hLe : m * unit e ≤ q) :
    m * unit e ≤ nearest e q := by
  have hPos := unit_pos e
  have hRound : m ≤ roundHalfEven (q / unit e) := by
    rw [← roundHalfEven_intCast m]
    exact roundHalfEven_mono ((le_div_iff₀ hPos).2 hLe)
  unfold nearest
  gcongr

theorem nearest_le
    {m : Int}
    (hLe : q ≤ m * unit e) :
    nearest e q ≤ m * unit e := by
  have hPos := unit_pos e
  have hRound : roundHalfEven (q / unit e) ≤ m := by
    rw [← roundHalfEven_intCast m]
    exact roundHalfEven_mono ((div_le_iff₀ hPos).2 hLe)
  unfold nearest
  gcongr

theorem InBinade.pow_le_nearest
    (hq : InBinade e q) :
    2 ^ e ≤ nearest e q := by
  have hPow : ((2 ^ 52 : Int) : ℚ) * unit e = 2 ^ e := by
    rw [Int.cast_pow, Int.cast_ofNat, unit_mul_pow]
  rw [← hPow]
  exact le_nearest (hPow.trans_le hq.low)

theorem InBinade.nearest_le_pow
    (hq : InBinade e q) :
    nearest e q ≤ 2 ^ (e + 1) := by
  have hPow :
      ((2 ^ 53 : Int) : ℚ) * unit e = 2 ^ (e + 1) := by
    rw [zpow_add_one₀ (by norm_num), ← unit_mul_pow e,
      Int.cast_pow, Int.cast_ofNat]
    ring
  have hLe : q ≤ ((2 ^ 53 : Int) : ℚ) * unit e := by
    rw [hPow]
    exact hq.high.le
  rw [← hPow]
  exact nearest_le hLe

/- A number of a normal binade is rounded to its nearest
   multiple of the unit. -/
theorem ofRat_of_inBinade
    (hq : InBinade e q)
    (hNormal : -1022 ≤ e)
    (hFinite : e < 1023) :
    ofRat q = finite (nearest e q) := by
  have hLow := hq.pow_le_nearest
  have hHigh := hq.nearest_le_pow
  have hPos : 0 < nearest e q :=
    lt_of_lt_of_le (zpow_pos (by norm_num) e) hLow
  have hBound : nearest e q < 2 ^ 1024 := by
    calc nearest e q ≤ 2 ^ (e + 1) := hHigh
      _ < 2 ^ (1024 : Int) :=
        zpow_lt_zpow_right₀ (by norm_num) (by omega)
      _ = 2 ^ 1024 := zpow_ofNat 2 1024
  unfold ofRat
  rw [if_neg hq.pos.ne', hq.lastBit_eq hNormal]
  have hAbs : |nearest e q| < 2 ^ 1024 := by
    rwa [abs_of_pos hPos]
  exact if_pos hAbs

/- A number within half a unit of a double is rounded to
   that double. -/
theorem ofRat_eq_of_close
    {m : Int}
    (hq : InBinade e q)
    (hNormal : -1022 ≤ e)
    (hFinite : e < 1023)
    (hClose : |q - m * unit e| < unit e / 2) :
    ofRat q = finite (m * unit e) := by
  rw [ofRat_of_inBinade hq hNormal hFinite,
    nearest_eq_of_close hClose]

end PyFloat

------------------------------------------------------------
-- Powers Of Two
------------------------------------------------------------

namespace PyFloat

variable
  {k : Int}
  {q : ℚ}

/- A power of two is a multiple of any finer unit. -/
theorem pow_eq_mul
    {l : Int}
    (hLe : l ≤ k) :
    (2 : ℚ) ^ k = ((2 ^ (k - l).toNat : Int) : ℚ) * 2 ^ l := by
  rw [Int.cast_pow, Int.cast_ofNat, ← zpow_natCast,
    ← zpow_add₀ (by norm_num), Int.toNat_of_nonneg (by omega)]
  congr 1
  omega

theorem ofRat_pos
    (hPos : 0 < q) :
    let unit : ℚ := 2 ^ lastBit q
    let v : ℚ := roundHalfEven (q / unit) * unit
    ofRat q =
      if |v| < 2 ^ 1024 then finite v else inf false := by
  intro unit v
  unfold ofRat
  rw [if_neg hPos.ne']
  simp only [v, unit, not_lt.2 hPos.le, decide_false]

/- Up to a power of two, no more than it is rounded to. -/
theorem ofRat_le_pow
    (hPos : 0 < q)
    (hLe : q ≤ 2 ^ k)
    (hLow : -1074 ≤ k)
    (hHigh : k < 1024) :
    ∃ y, ofRat q = finite y ∧ 0 ≤ y ∧ y ≤ 2 ^ k := by
  have hUnit : (0 : ℚ) < 2 ^ lastBit q := by positivity
  have hLog : Int.log 2 q ≤ k := by
    have hBinade := inBinade_log hPos
    have hLt : q < 2 ^ (k + 1) :=
      lt_of_le_of_lt hLe
        (zpow_lt_zpow_right₀ (by norm_num) (by omega))
    have := hBinade.lt_of_lt_pow hLt
    omega
  have hBit : lastBit q ≤ k := by
    unfold lastBit
    rw [abs_of_pos hPos]
    omega
  have hUpper :
      (roundHalfEven (q / 2 ^ lastBit q) : ℚ) *
          2 ^ lastBit q ≤ 2 ^ k := by
    rw [pow_eq_mul hBit] at hLe ⊢
    have hRound :=
      roundHalfEven_mono ((div_le_iff₀ hUnit).2 hLe)
    rw [roundHalfEven_intCast] at hRound
    gcongr
  have hLower :
      (0 : ℚ) ≤ roundHalfEven (q / 2 ^ lastBit q) *
        2 ^ lastBit q := by
    have hRound :=
      roundHalfEven_mono
        (show ((0 : Int) : ℚ) ≤ q / 2 ^ lastBit q by
          rw [Int.cast_zero]
          positivity)
    rw [roundHalfEven_intCast] at hRound
    have hCast :
        (0 : ℚ) ≤ roundHalfEven (q / 2 ^ lastBit q) := by
      exact_mod_cast hRound
    positivity
  have hBound : (2 : ℚ) ^ k < 2 ^ 1024 := by
    rw [← zpow_ofNat]
    exact zpow_lt_zpow_right₀ (by norm_num) hHigh
  refine ⟨_, ?_, hLower, hUpper⟩
  rw [ofRat_pos hPos]
  apply if_pos
  rw [abs_of_nonneg hLower]
  exact lt_of_le_of_lt hUpper hBound

/- From a power of two on, no less than it. -/
theorem pow_le_of_ofRat
    {y : ℚ}
    (hLe : 2 ^ k ≤ q)
    (hLow : -1074 ≤ k)
    (hFinite : ofRat q = finite y) :
    2 ^ k ≤ y := by
  have hPos : 0 < q := lt_of_lt_of_le (by positivity) hLe
  have hBinade := inBinade_log hPos
  have hLog := hBinade.le_of_pow_le hLe
  have hUnit : (0 : ℚ) < 2 ^ lastBit q := by positivity
  have hBit : lastBit q ≤ Int.log 2 q := by
    unfold lastBit
    rw [abs_of_pos hPos]
    omega
  rw [ofRat_pos hPos] at hFinite
  split at hFinite
  · cases hFinite
    have hPow :=
      zpow_le_zpow_right₀ (by norm_num : (1 : ℚ) ≤ 2) hLog
    refine hPow.trans ?_
    have hFrom := hBinade.low
    rw [pow_eq_mul hBit] at hFrom ⊢
    have hRound :=
      roundHalfEven_mono ((le_div_iff₀ hUnit).2 hFrom)
    rw [roundHalfEven_intCast] at hRound
    gcongr
  · cases hFinite

end PyFloat

------------------------------------------------------------
-- Integers
------------------------------------------------------------

namespace PyFloat

variable {n : Int}

/- An integer is a multiple of any unit below one. -/
theorem roundHalfEven_mul_of_unit
    {k : Int}
    (hUnit : k ≤ 0) :
    (roundHalfEven ((n : ℚ) / 2 ^ k) : ℚ) * 2 ^ k = n := by
  have hPos : (0 : ℚ) < 2 ^ k := by positivity
  have hScaled :
      (n : ℚ) / 2 ^ k = ((n * 2 ^ (-k).toNat : Int) : ℚ) := by
    rw [Int.cast_mul, Int.cast_pow, Int.cast_ofNat,
      ← zpow_natCast, Int.toNat_of_nonneg (by omega),
      zpow_neg, div_eq_mul_inv]
  rw [hScaled, roundHalfEven_intCast, ← hScaled,
    div_mul_cancel₀ _ hPos.ne']

/- The nearest double of an integer is an integer. -/
theorem isInt_of_ofRat
    {v : ℚ}
    (hFinite : ofRat n = finite v) :
    ∃ m : Int, v = m := by
  unfold ofRat at hFinite
  split at hFinite
  · cases hFinite
    exact ⟨0, by simp⟩
  · dsimp only at hFinite
    split at hFinite
    · cases hFinite
      rcases le_total (lastBit n) 0 with hBelow | hAbove
      · exact ⟨n, roundHalfEven_mul_of_unit hBelow⟩
      · refine
          ⟨roundHalfEven ((n : ℚ) / 2 ^ lastBit n) *
            2 ^ (lastBit n).toNat, ?_⟩
        rw [Int.cast_mul, Int.cast_pow, Int.cast_ofNat,
          ← zpow_natCast, Int.toNat_of_nonneg hAbove]
    · cases hFinite

/- An integer of few bits is a double. -/
theorem ofRat_intCast
    (hBits : |n| < 2 ^ 53) :
    ofRat n = finite n := by
  by_cases hZero : (n : ℚ) = 0
  · rw [hZero]
    rfl
  have hLog : Int.log 2 |(n : ℚ)| < 53 := by
    rw [← Int.lt_zpow_iff_log_lt (by norm_num)
      (abs_pos.2 hZero)]
    exact_mod_cast hBits
  have hLast : lastBit n ≤ 0 := by
    unfold lastBit
    omega
  have hSmall : |(n : ℚ)| < 2 ^ 1024 := by
    calc |(n : ℚ)| < 2 ^ 53 := by exact_mod_cast hBits
      _ < 2 ^ 1024 :=
        pow_lt_pow_right₀ (by norm_num) (by norm_num)
  unfold ofRat
  rw [if_neg hZero]
  dsimp only
  rw [roundHalfEven_mul_of_unit hLast, if_pos hSmall]

end PyFloat
