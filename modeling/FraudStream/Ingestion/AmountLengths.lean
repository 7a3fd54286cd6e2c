import FraudStream.Ingestion.Amounts

/-
  The number of bytes of an amount.

  An integer is written with one bit more than its magnitude
  has, rounded up to bytes. This is enough for either sign,
  and no positive integer can do with less.

  Key definitions include:
    * `byteLength`
    * `LengthSuffices`

  The main result is `lengthSuffices_amount`.
-/

------------------------------------------------------------
-- The Values Of Short Encodings
------------------------------------------------------------

namespace FraudStream

/- A digit in base 256 is below 256. -/
theorem foldl_bytes_lt
    (bytes : List UInt8)
    (start : Nat) :
    bytes.foldl (fun n b => 256 * n + b.toNat) start <
      256 ^ bytes.length * (start + 1) := by
  induction bytes generalizing start with
  | nil => simp
  | cons b bytes ih =>
      have hDigit : b.toNat < 256 := UInt8.toNat_lt b
      have hStart :
          256 * start + b.toNat + 1 ≤ 256 * (start + 1) := by
        omega
      calc (b :: bytes).foldl
              (fun n b => 256 * n + b.toNat) start
          < 256 ^ bytes.length *
              (256 * start + b.toNat + 1) := ih _
        _ ≤ 256 ^ bytes.length * (256 * (start + 1)) :=
            Nat.mul_le_mul_left _ hStart
        _ = 256 ^ (b :: bytes).length * (start + 1) := by
            rw [List.length_cons, pow_succ, mul_assoc]

/- The first bit of the bytes is a sign. -/
theorem fromBytes_lt
    (bytes : List UInt8) :
    fromBytes bytes < 2 ^ (8 * bytes.length - 1) := by
  have hValue :
      bytes.foldl (fun n b => 256 * n + b.toNat) 0 <
        256 ^ bytes.length := by
    simpa using foldl_bytes_lt bytes 0
  have hHalf :
      256 ^ bytes.length ≤
        2 * 2 ^ (8 * bytes.length - 1) := by
    rw [show 256 = 2 ^ 8 from rfl, ← pow_mul, ← pow_succ']
    exact Nat.pow_le_pow_right (by norm_num) (by omega)
  unfold fromBytes
  dsimp only
  split
  next hSmall =>
    have hBelow :
        bytes.foldl (fun n b => 256 * n + b.toNat) 0 <
          2 ^ (8 * bytes.length - 1) := by
      omega
    exact_mod_cast hBelow
  next =>
    have hBound : (0 : Int) < 2 ^ (8 * bytes.length - 1) := by
      positivity
    omega

end FraudStream

------------------------------------------------------------
-- Amount Lengths
------------------------------------------------------------

namespace FraudStream

/- `(amount_int.bit_length() + 8) // 8` -/
def byteLength (amountInt : Int) : Nat :=
  (bitLength amountInt + 8) / 8

/- The builder writes the rounded product at this length. -/
theorem encodeAmount_eq
    (rawAmount : JsonValue) :
    encodeAmount rawAmount =
      (do
        let amountInt ← scaledInt rawAmount
        toBytes amountInt (byteLength amountInt)) := by
  unfold encodeAmount scaledInt
  rw [bind_assoc]
  rfl

/- The bytes that are written are as many as asked for. -/
theorem length_of_toBytes
    {n : Int}
    {length : Nat}
    {bytes : List UInt8}
    (hBytes : toBytes n length = .ok bytes) :
    bytes.length = length := by
  unfold toBytes at hBytes
  dsimp only at hBytes
  split at hBytes
  next =>
    cases hBytes
    simp
  next => cases hBytes

/- A positive integer is out of the range of fewer bytes. -/
theorem bound_le_of_short
    {n : Int}
    {length : Nat}
    (hPos : 0 < n)
    (hShort : length < byteLength n) :
    2 ^ (8 * length - 1) ≤ n := by
  have hBits : 8 * length ≤ bitLength n := by
    unfold byteLength at hShort
    omega
  have hSize : 0 < bitLength n :=
    Nat.size_pos.2 (by omega)
  have hMagnitude : 2 ^ (8 * length - 1) ≤ n.natAbs :=
    Nat.lt_size.1 (show _ < bitLength n by omega)
  have hCast :
      ((2 ^ (8 * length - 1) : Nat) : Int) ≤ n.natAbs := by
    exact_mod_cast hMagnitude
  rw [Int.natAbs_of_nonneg hPos.le] at hCast
  exact_mod_cast hCast

/- An integer can be written in its length and is read back.
   A positive one can be written in no smaller length, and
   no fewer bytes are read as it. -/
structure LengthSuffices (n : Int) : Prop where
  written :
    ∃ bytes,
      toBytes n (byteLength n) = .ok bytes ∧
        bytes.length = byteLength n ∧
        fromBytes bytes = n
  overflows :
    0 < n → ∀ length < byteLength n,
      toBytes n length = .error .overflowError
  notRead :
    0 < n → ∀ bytes : List UInt8,
      bytes.length < byteLength n → fromBytes bytes ≠ n

/-
  The length of an amount suffices for every integer, and is
  the least one for every positive integer.
-/
theorem lengthSuffices_amount
    (amountInt : Int) :
    LengthSuffices amountInt := by
  constructor
  case written =>
    rcases exists_toBytes amountInt with ⟨bytes, hBytes⟩
    have hLength : 0 < (bitLength amountInt + 8) / 8 := by
      omega
    exact
      ⟨bytes, hBytes, length_of_toBytes hBytes,
        fromBytes_toBytes hLength hBytes⟩
  case overflows =>
    intro hPos length hShort
    have hBound := bound_le_of_short hPos hShort
    unfold toBytes
    dsimp only
    rw [if_neg]
    intro hRange
    exact absurd hRange.2 hBound.not_gt
  case notRead =>
    intro hPos bytes hShort hRead
    have hBound := bound_le_of_short hPos hShort
    have hBelow := fromBytes_lt bytes
    rw [hRead] at hBelow
    exact absurd hBelow hBound.not_gt

/- A negative power needs no second byte, but is given one. -/
example :
    byteLength (-128) = 2 ∧ fromBytes [128] = -128 := by
  decide

end FraudStream
