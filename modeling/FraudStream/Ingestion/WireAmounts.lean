import Mathlib.Tactic.NormNum
import FraudStream.Ingestion.Validation

/-
  Which accepted amounts fit the wire type.

  The wire type holds eighteen digits. An accepted amount is
  positive as a float, but it may be infinite or no number,
  its product may need more digits, and its product may
  round to zero. Up to half a unit in the last place of the
  double `1 / 2` the product is rounded to zero, and from
  half a unit below `10 ^ 18` on it is rounded up to it.

  Key definitions include:
    * `FitsWireType`
    * `AmountInRange`

  The main results are:
    * `scaledInt_fits_iff`
    * `validated_amount_fits_iff`
-/

------------------------------------------------------------
-- The Ends Of The Range
------------------------------------------------------------

namespace FraudStream

open PyFloat

variable {q y : ℚ}

/- A product of a half is rounded to zero. -/
theorem roundHalfEven_nonpos
    (hSmall : y ≤ 1 / 2) :
    roundHalfEven y ≤ 0 := by
  have hMono := roundHalfEven_mono hSmall
  have hHalf : roundHalfEven (1 / 2) = 0 := by
    rw [roundHalfEven_eq_iff]
    right
    norm_num
  omega

theorem roundHalfEven_pos
    (hLarge : 1 / 2 < y) :
    0 < roundHalfEven y := by
  have hClose :=
    abs_le.1 (isNearest_roundHalfEven y).abs_sub_le
  have hReal : (0 : ℚ) < roundHalfEven y := by linarith
  exact_mod_cast hReal

/- The nearest double of a small product is a half at most. -/
theorem ofRat_small
    (hPos : 0 < q)
    (hSmall : q ≤ 1 / 2 + 1 / 2 ^ 54) :
    ∃ y, ofRat q = finite y ∧ y ≤ 1 / 2 := by
  rcases le_or_gt q (1 / 2) with hHalf | hAbove
  · rcases ofRat_le_pow (k := -1) hPos
      (by norm_num at hHalf ⊢; exact hHalf)
      (by norm_num) (by norm_num) with
      ⟨y, hFinite, -, hLe⟩
    refine ⟨y, hFinite, ?_⟩
    norm_num at hLe ⊢
    exact hLe
  · have hBinade : InBinade (-1) q := by
      constructor
      · norm_num at hAbove ⊢
        linarith
      · norm_num at hSmall ⊢
        linarith
    refine
      ⟨_, ofRat_of_inBinade hBinade (by norm_num)
        (by norm_num), ?_⟩
    have hUnit : unit (-1) = 1 / 2 ^ 53 := by
      norm_num [unit]
    have hScaled : q / unit (-1) ≤ 2 ^ 52 + 1 / 2 := by
      rw [hUnit]
      norm_num at hSmall ⊢
      linarith
    have hTie :
        roundHalfEven (2 ^ 52 + 1 / 2) = 2 ^ 52 := by
      rw [roundHalfEven_eq_iff]
      right
      norm_num
    have hRound := roundHalfEven_mono hScaled
    rw [hTie] at hRound
    have hCast :
        (roundHalfEven (q / unit (-1)) : ℚ) ≤ 2 ^ 52 := by
      exact_mod_cast hRound
    unfold nearest
    rw [hUnit] at hCast ⊢
    norm_num at hCast ⊢
    linarith

/- Above that, it is more than a half. -/
theorem half_lt_of_ofRat
    (hLarge : 1 / 2 + 1 / 2 ^ 54 < q)
    (hFinite : ofRat q = finite y) :
    1 / 2 < y := by
  rcases lt_or_ge q 1 with hBelow | hOne
  · have hBinade : InBinade (-1) q := by
      constructor
      · norm_num at hLarge ⊢
        linarith
      · norm_num
        exact hBelow
    rw [ofRat_of_inBinade hBinade (by norm_num)
      (by norm_num)] at hFinite
    cases hFinite
    have hUnit : unit (-1) = 1 / 2 ^ 53 := by
      norm_num [unit]
    have hClose :=
      abs_le.1
        (isNearest_roundHalfEven (q / unit (-1))).abs_sub_le
    unfold nearest
    rw [hUnit] at hClose ⊢
    have hReal :
        (2 ^ 52 : ℚ) <
          roundHalfEven (q / (1 / 2 ^ 53)) := by
      norm_num at hLarge hClose ⊢
      linarith
    norm_num at hReal ⊢
    linarith
  · have hPow :=
      pow_le_of_ofRat (k := 0) (by simpa using hOne)
        (by norm_num) hFinite
    norm_num at hPow
    linarith

/- Below half a unit of `10 ^ 18`, the nearest double is one
   below it. -/
theorem ofRat_below_top
    (hPos : 0 < q)
    (hBelow : q < 10 ^ 18 - 64) :
    ∃ y, ofRat q = finite y ∧ y ≤ 10 ^ 18 - 128 := by
  rcases le_or_gt q (2 ^ 59) with hLow | hHigh
  · rcases ofRat_le_pow (k := 59) hPos
      (by exact_mod_cast hLow) (by norm_num)
      (by norm_num) with ⟨y, hFinite, -, hLe⟩
    refine ⟨y, hFinite, ?_⟩
    norm_num at hLe ⊢
    linarith
  · have hBinade : InBinade 59 q := by
      constructor
      · exact_mod_cast hHigh.le
      · norm_num at hBelow ⊢
        linarith
    refine
      ⟨_, ofRat_of_inBinade hBinade (by norm_num)
        (by norm_num), ?_⟩
    have hUnit : unit 59 = 128 := by norm_num [unit]
    have hClose :=
      abs_le.1
        (isNearest_roundHalfEven (q / unit 59)).abs_sub_le
    unfold nearest
    rw [hUnit] at hClose ⊢
    have hReal :
        (roundHalfEven (q / 128) : ℚ) <
          (7812500000000000 : Int) := by
      push_cast
      linarith
    have hInt :
        roundHalfEven (q / 128) + 1 ≤ 7812500000000000 := by
      exact_mod_cast hReal
    have hCast :
        (roundHalfEven (q / 128) : ℚ) + 1 ≤
          7812500000000000 := by
      exact_mod_cast hInt
    linarith

theorem top_le_of_ofRat
    (hAbove : 10 ^ 18 - 64 ≤ q)
    (hFinite : ofRat q = finite y) :
    10 ^ 18 ≤ y := by
  rcases lt_or_ge q (2 ^ 60) with hBelow | hHigh
  · have hBinade : InBinade 59 q := by
      constructor
      · norm_num at hAbove ⊢
        linarith
      · exact_mod_cast hBelow
    rw [ofRat_of_inBinade hBinade (by norm_num)
      (by norm_num)] at hFinite
    cases hFinite
    have hUnit : unit 59 = 128 := by norm_num [unit]
    have hScaled :
        7812500000000000 - 1 / 2 ≤ q / unit 59 := by
      rw [hUnit]
      linarith
    have hTie :
        roundHalfEven (7812500000000000 - 1 / 2) =
          7812500000000000 := by
      rw [roundHalfEven_eq_iff]
      right
      norm_num
    have hRound := roundHalfEven_mono hScaled
    rw [hTie] at hRound
    have hCast :
        (7812500000000000 : ℚ) ≤
          roundHalfEven (q / unit 59) := by
      exact_mod_cast hRound
    unfold nearest
    rw [hUnit] at hCast ⊢
    linarith
  · have hPow :=
      pow_le_of_ofRat (k := 60) (by exact_mod_cast hHigh)
        (by norm_num) hFinite
    norm_num at hPow
    linarith

end FraudStream

------------------------------------------------------------
-- Accepted Amounts
------------------------------------------------------------

namespace FraudStream

open PyFloat FallibleList TransactionEventBuilder

/- The amount of an event is one of the wire type. -/
def FitsWireType (event : TransactionEvent) : Prop :=
  ∃ n, eventAmount event = some n ∧ 0 < n ∧ n < 10 ^ 18

/-
  The amount is a finite float, and ten thousand times it is
  between half a unit above the double `1 / 2` and half a
  unit below `10 ^ 18`.
-/
def AmountInRange (payload : JsonObject) : Prop :=
  ∃ v,
    (getOrNull payload "amount").toFloat =
        .ok (.finite v) ∧
      1 / 2 + 1 / 2 ^ 54 < v * 10000 ∧
      v * 10000 < 10 ^ 18 - 64

/- A positive finite amount is scaled into the range exactly
   when its product is between the two ends. -/
theorem round_product_iff
    {v : ℚ}
    (hPos : 0 < v) :
    (∃ n,
        roundFloat (scaleAmount (.finite v)) = .ok n ∧
          0 < n ∧ n < 10 ^ 18) ↔
      1 / 2 + 1 / 2 ^ 54 < v * 10000 ∧
        v * 10000 < 10 ^ 18 - 64 := by
  have hProduct : 0 < v * 10000 := by positivity
  have hScale :
      scaleAmount (.finite v) = ofRat (v * 10000) := rfl
  rw [hScale]
  constructor
  · rintro ⟨n, hRound, hLow, hHigh⟩
    constructor
    · by_contra hSmall
      rcases ofRat_small hProduct (not_lt.1 hSmall) with
        ⟨y, hFinite, hHalf⟩
      rw [hFinite] at hRound
      cases hRound
      have := roundHalfEven_nonpos hHalf
      omega
    · by_contra hLarge
      cases hFloat : ofRat (v * 10000) with
      | finite y =>
          have hTop :=
            top_le_of_ofRat (not_lt.1 hLarge) hFloat
          have hMono :=
            roundHalfEven_mono
              (show ((10 ^ 18 : Int) : ℚ) ≤ y by
                exact_mod_cast hTop)
          rw [roundHalfEven_intCast] at hMono
          rw [hFloat] at hRound
          cases hRound
          omega
      | inf negative =>
          rw [hFloat] at hRound
          cases hRound
      | nan =>
          rw [hFloat] at hRound
          cases hRound
  · rintro ⟨hLow, hHigh⟩
    rcases ofRat_below_top hProduct hHigh with
      ⟨y, hFinite, hTop⟩
    have hHalf := half_lt_of_ofRat hLow hFinite
    have hMono :=
      roundHalfEven_mono
        (show y ≤ ((10 ^ 18 - 128 : Int) : ℚ) by
          exact_mod_cast hTop)
    rw [roundHalfEven_intCast] at hMono
    rw [hFinite]
    exact
      ⟨_, rfl, roundHalfEven_pos hHalf, by omega⟩

/- An accepted amount is a float that is not nonpositive. -/
theorem toFloat_of_validated
    {payload : JsonObject}
    (hValid : Validated payload) :
    ∃ f,
      (getOrNull payload "amount").toFloat = .ok f ∧
        isNonPositive f = false := by
  have hAmount := hValid.amount
  unfold amountErrors at hAmount
  split at hAmount
  next f hFloat =>
    refine ⟨f, hFloat, ?_⟩
    cases hSign : isNonPositive f with
    | false => rfl
    | true =>
        rw [hSign] at hAmount
        cases hAmount
  next => cases hAmount
  next => cases hAmount
  next => cases hAmount

theorem scaledInt_fits_iff
    {payload : JsonObject}
    (hValid : Validated payload) :
    (∃ n,
        scaledInt (getOrNull payload "amount") = .ok n ∧
          0 < n ∧ n < 10 ^ 18) ↔
      AmountInRange payload := by
  rcases toFloat_of_validated hValid with
    ⟨f, hFloat, hSign⟩
  have hScaled :
      scaledInt (getOrNull payload "amount") =
        roundFloat (scaleAmount f) := by
    unfold scaledInt
    rw [hFloat]
    rfl
  unfold AmountInRange
  rw [hScaled, hFloat]
  cases f with
  | finite v =>
      have hPos : 0 < v := by
        simpa [isNonPositive] using hSign
      rw [round_product_iff hPos]
      simp
  | inf negative => simp [scaleAmount, roundFloat]
  | nan => simp [scaleAmount, roundFloat]

/-
  An accepted payload whose secret fields are masked gives an
  event with an amount of the wire type exactly when its
  amount is in the range.
-/
theorem validated_amount_fits_iff
    {table : TextTable}
    {nowMs : Int}
    {cfg : Config}
    {context : BuildContext}
    {payload : JsonObject}
    {masked : MaskedPAN}
    {subnet : String}
    (hOk : validate table nowMs payload = .ok ())
    (hPan : maskPan table payload = .ok masked)
    (hIp : maskIp table cfg.masking payload = .ok subnet) :
    (∃ event,
        build table cfg context payload = .ok event ∧
          FitsWireType event) ↔
      AmountInRange payload := by
  have hValid := validated_of_ok hOk
  have hField :=
    get?_of_truthy (hValid.required "amount" (by decide))
  rw [← scaledInt_fits_iff hValid]
  constructor
  · rintro ⟨event, hBuild, n, hEvent, hRange⟩
    rcases eventAmount_of_build hBuild with
      ⟨rawAmount, m, hGet, hScaled, hAmount⟩
    cases hField.symm.trans hGet
    cases hEvent.symm.trans hAmount
    exact ⟨n, hScaled, hRange⟩
  · rintro ⟨n, hScaled, hRange⟩
    rcases encodeAmount_of_round hScaled with
      ⟨bytes, hBytes, hRead⟩
    rcases publicFields_of_validated hValid hBytes with
      ⟨fields, hFields, hAmount⟩
    refine
      ⟨.ofList (eventEntries cfg context fields masked
        subnet), ?_, n, ?_, hRange⟩
    · unfold build
      rw [hPan, hIp, hFields]
      rfl
    · rw [eventAmount_ofList, hAmount, hRead]

end FraudStream

------------------------------------------------------------
-- Accepted Amounts That Do Not Fit
------------------------------------------------------------

namespace FraudStream

open TransactionEventBuilder

/- An amount that is no number makes the builder raise, one
   of fifteen digits is too large, and one below a half of a
   ten-thousandth is written as zero. -/
theorem accepted_amounts_do_not_fit :
    (∀ amount ∈ ["nan", "100000000000000", "0.00004"],
        validate asciiTable 1700000000500
            (amountPayload (.str amount)) = .ok () ∧
          (maskPan asciiTable
            (amountPayload (.str amount))).isOk ∧
          (maskIp asciiTable apiConfig.masking
            (amountPayload (.str amount))).isOk) ∧
      (build asciiTable apiConfig sampleContext
        (amountPayload (.str "nan"))).isOk = false ∧
      (build asciiTable apiConfig sampleContext
          (amountPayload
            (.str "100000000000000"))).toOption.bind
        eventAmount = some (10 ^ 18) ∧
      (build asciiTable apiConfig sampleContext
          (amountPayload (.str "0.00004"))).toOption.bind
        eventAmount = some 0 := by
  decide +kernel

theorem exists_ok_of_isOk
    {ε α : Type}
    {x : Except ε α}
    (hOk : x.isOk = true) :
    ∃ a, x = .ok a := by
  cases x with
  | error e => cases hOk
  | ok a => exact ⟨a, rfl⟩

/- Ten units fit. -/
theorem ten_units_fit :
    ∃ event,
      build asciiTable apiConfig sampleContext
          (amountPayload (.str "10.00")) =
        .ok event ∧
      FitsWireType event := by
  have hOk :
      validate asciiTable 1700000000500
        (amountPayload (.str "10.00")) = .ok () := by
    decide +kernel
  have hPan :
      (maskPan asciiTable
        (amountPayload (.str "10.00"))).isOk = true := by
    decide +kernel
  have hIp :
      (maskIp asciiTable apiConfig.masking
        (amountPayload (.str "10.00"))).isOk = true := by
    decide +kernel
  have hFloat :
      (getOrNull (amountPayload (.str "10.00"))
        "amount").toFloat = .ok (.finite 10) := by
    decide +kernel
  rcases exists_ok_of_isOk hPan with ⟨masked, hMasked⟩
  rcases exists_ok_of_isOk hIp with ⟨subnet, hSubnet⟩
  exact
    (validated_amount_fits_iff hOk hMasked hSubnet).2
      ⟨10, hFloat, by norm_num, by norm_num⟩

end FraudStream
