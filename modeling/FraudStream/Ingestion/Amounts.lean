import FraudStream.Library.Rounding
import FraudStream.Ingestion.EventContents

/-
  The integer that an event carries for an amount.

  An amount is scaled by ten thousand as a float, rounded to
  an integer and written as signed bytes, one bit more than
  the integer has. Reading the bytes back gives the integer,
  so a built event carries the rounded product.

  Key definitions include:
    * `fromBytes`
    * `eventAmount`

  The main results are:
    * `fromBytes_toBytes`
    * `encodeAmount_of_round`
    * `eventAmount_of_build`
-/

------------------------------------------------------------
-- Signed Bytes
------------------------------------------------------------

namespace FraudStream

/- `int.from_bytes(bytes, "big", signed=True)` -/
def fromBytes (bytes : List UInt8) : Int :=
  let m : Nat :=
    bytes.foldl (fun n b => 256 * n + b.toNat) 0
  if 2 * m < 256 ^ bytes.length then
    m
  else
    m - (256 ^ bytes.length : Nat)

/- The digits of a number in base 256, the highest first. -/
theorem foldl_bytes
    (m length start : Nat) :
    ((List.range length).reverse.map (fun i =>
        UInt8.ofNat (m / 256 ^ i))).foldl
        (fun n b => 256 * n + b.toNat) start =
      256 ^ length * start + m % 256 ^ length := by
  induction length generalizing start with
  | zero => simp [Nat.mod_one]
  | succ length ih =>
      rw [List.range_succ, List.reverse_append,
        List.reverse_singleton, List.singleton_append,
        List.map_cons, List.foldl_cons, ih]
      have hDigit :
          (UInt8.ofNat (m / 256 ^ length)).toNat =
            m / 256 ^ length % 256 := by
        simp
      have hSplit :
          m % 256 ^ (length + 1) =
            m % 256 ^ length +
              256 ^ length * (m / 256 ^ length % 256) :=
        Nat.mod_pow_succ
      rw [hDigit, hSplit, pow_succ]
      ring

/- A residue of half the range on each side of zero. -/
theorem emod_of_signed
    {n half : Int}
    (hLow : -half ≤ n)
    (hHigh : n < half) :
    n % (2 * half) = if 0 ≤ n then n else n + 2 * half := by
  by_cases hSign : 0 ≤ n
  · rw [if_pos hSign]
    exact Int.emod_eq_of_lt hSign (by omega)
  · rw [if_neg hSign, ← Int.add_emod_right]
    exact Int.emod_eq_of_lt (by omega) (by omega)

/- Bytes that are written are read back. -/
theorem fromBytes_toBytes
    {n : Int}
    {length : Nat}
    {bytes : List UInt8}
    (hLength : 0 < length)
    (hBytes : toBytes n length = .ok bytes) :
    fromBytes bytes = n := by
  have hHalf :
      (2 : Int) ^ (8 * length) =
        2 * 2 ^ (8 * length - 1) := by
    rw [← pow_succ']
    congr 1
    omega
  have hRange :
      ((256 ^ length : Nat) : Int) =
        2 * 2 ^ (8 * length - 1) := by
    rw [← hHalf, pow_mul]
    norm_num
  unfold toBytes at hBytes
  dsimp only at hBytes
  split at hBytes
  next hBounds =>
    cases hBytes
    have hResidue := emod_of_signed hBounds.1 hBounds.2
    rw [← hHalf] at hResidue
    have hSmall :
        (n % 2 ^ (8 * length)).toNat < 256 ^ length := by
      have hLt := Int.emod_lt_of_pos n
        (show (0 : Int) < 2 ^ (8 * length) by positivity)
      omega
    unfold fromBytes
    simp only [foldl_bytes, Nat.mul_zero, Nat.zero_add,
      List.length_map, List.length_reverse,
      List.length_range]
    rw [show n.emod (2 ^ (8 * length)) =
        n % 2 ^ (8 * length) from rfl,
      Nat.mod_eq_of_lt hSmall]
    split <;> split at hResidue <;> omega
  next => cases hBytes

/- One bit more than an integer has holds its sign. -/
theorem exists_toBytes
    (n : Int) :
    ∃ bytes,
      toBytes n ((bitLength n + 8) / 8) = .ok bytes := by
  have hSize : n.natAbs < 2 ^ bitLength n :=
    Nat.lt_size_self _
  have hPow :
      2 ^ bitLength n ≤
        2 ^ (8 * ((bitLength n + 8) / 8) - 1) :=
    Nat.pow_le_pow_right (by norm_num) (by omega)
  have hBound :
      (n.natAbs : Int) <
        2 ^ (8 * ((bitLength n + 8) / 8) - 1) := by
    exact_mod_cast lt_of_lt_of_le hSize hPow
  unfold toBytes
  dsimp only
  rw [if_pos (by omega)]
  exact ⟨_, rfl⟩

end FraudStream

------------------------------------------------------------
-- Encoded Amounts
------------------------------------------------------------

namespace FraudStream

open FallibleList TransactionEventBuilder

/- The rounded product of an amount. -/
def scaledInt (rawAmount : JsonValue) : Except PyError Int := do
  let amount ← rawAmount.toFloat
  roundFloat (scaleAmount amount)

/- Writing an amount fails only where rounding it does, and
   its bytes are those of the rounded product. -/
theorem encodeAmount_of_round
    {rawAmount : JsonValue}
    {n : Int}
    (hRound : scaledInt rawAmount = .ok n) :
    ∃ bytes,
      encodeAmount rawAmount = .ok bytes ∧
        fromBytes bytes = n := by
  rcases (bind_ok_iff _ _ _).1 hRound with
    ⟨amount, hFloat, hInt⟩
  rcases exists_toBytes n with ⟨bytes, hBytes⟩
  refine ⟨bytes, ?_, fromBytes_toBytes (by omega) hBytes⟩
  unfold encodeAmount
  rw [hFloat]
  simp only [bind, Except.bind, hInt, hBytes]

theorem round_of_encodeAmount
    {rawAmount : JsonValue}
    {bytes : List UInt8}
    (hBytes : encodeAmount rawAmount = .ok bytes) :
    scaledInt rawAmount = .ok (fromBytes bytes) := by
  unfold encodeAmount at hBytes
  simp only [bind_ok_iff] at hBytes
  rcases hBytes with ⟨amount, hFloat, n, hInt, hBytes⟩
  rw [fromBytes_toBytes (by omega) hBytes]
  exact (bind_ok_iff _ _ _).2 ⟨amount, hFloat, hInt⟩

/- The integer that the amount bytes of an event write. -/
def eventAmount (event : TransactionEvent) : Option Int :=
  match event.get? "amount" with
  | some (.bytes bytes) => some (fromBytes bytes)
  | _ => none

theorem eventAmount_ofList
    (cfg : Config)
    (context : BuildContext)
    (fields : PublicFields)
    (masked : MaskedPAN)
    (subnet : String) :
    eventAmount
        (.ofList
          (eventEntries cfg context fields masked subnet)) =
      some (fromBytes fields.amount) := by
  unfold eventAmount
  rw [Dict.get?_ofList (nodup_eventEntries ..)]
  simp [eventEntries, Dict.lookupEntries]

/- The amount of a built event is the rounded product of the
   amount of the payload. -/
theorem eventAmount_of_build
    {table : TextTable}
    {cfg : Config}
    {context : BuildContext}
    {payload : JsonObject}
    {event : TransactionEvent}
    (hBuild : build table cfg context payload = .ok event) :
    ∃ rawAmount n,
      payload.get? "amount" = some rawAmount ∧
        scaledInt rawAmount = .ok n ∧
        eventAmount event = some n := by
  rcases build_ok hBuild with
    ⟨masked, addr, fields, -, -, -, hFields, rfl⟩
  unfold publicFields at hFields
  simp only [bind_ok_iff] at hFields
  rcases hFields with
    ⟨rawAmount, hAmount, bytes, hBytes, _, -, _, -, _, -, _,
      -, _, -, _, -, _, -, hEq⟩
  cases hEq
  refine ⟨rawAmount, fromBytes bytes, ?_,
    round_of_encodeAmount hBytes, eventAmount_ofList ..⟩
  unfold getItem at hAmount
  split at hAmount
  next v hGet =>
    cases hAmount
    exact hGet
  next => cases hAmount

end FraudStream

------------------------------------------------------------
-- A Payload With An Amount
------------------------------------------------------------

namespace FraudStream

open TransactionEventBuilder

/- A payload with an amount. -/
def amountPayload (amount : JsonValue) : JsonObject :=
  (paymentPayload "4111 1111 1111 1111" "203.0.113.7").put
    "amount" amount

theorem get?_amountPayload
    (amount : JsonValue) :
    (amountPayload amount).get? "amount" = some amount := by
  rw [amountPayload, Dict.get?_put]
  simp

/- The event of a payload whose amount is computed. -/
theorem exists_event_of_amount
    {payload : JsonObject}
    {n : Int}
    (hAmount :
      (build asciiTable apiConfig sampleContext
        payload).toOption.bind eventAmount = some n) :
    ∃ event,
      build asciiTable apiConfig sampleContext payload =
          .ok event ∧
        eventAmount event = some n := by
  cases hBuild :
      build asciiTable apiConfig sampleContext payload with
  | error e =>
      rw [hBuild] at hAmount
      cases hAmount
  | ok event =>
      rw [hBuild] at hAmount
      exact ⟨event, rfl, hAmount⟩

end FraudStream
