import Mathlib.Data.List.Basic

/-
  The Avro binary encoding of longs, strings, enumerations,
  and arrays.

  A codec writes a value and reads it back from the front of
  any longer input, which its last field states. A long is a
  zigzag integer in base 128; strings and arrays come after
  their lengths.

  Key definitions include:
    * `Avro.Codec`
    * `Avro.Codec.pair`
    * `Avro.Codec.via`
    * `Avro.long`
    * `Avro.string`
    * `Avro.enumeration`
    * `Avro.array`
-/

------------------------------------------------------------
-- Codecs
------------------------------------------------------------

namespace Avro

/- A writer, and a reader that returns what follows. -/
structure Codec (α : Type) where
  write : α → List UInt8
  read : List UInt8 → Option (α × List UInt8)
  read_write :
    ∀ value rest,
      read (write value ++ rest) = some (value, rest)

namespace Codec

variable {α β : Type}

/- The fields of a record, one after the other. -/
def pair
    (first : Codec α)
    (second : Codec β) : Codec (α × β) where
  write := fun value =>
    first.write value.1 ++ second.write value.2
  read := fun bytes => do
    let (a, rest) ← first.read bytes
    let (b, rest) ← second.read rest
    some ((a, b), rest)
  read_write := by
    intro value rest
    simp [first.read_write, second.read_write]

/- The values that are written as values of another type. -/
def via
    (codec : Codec α)
    (toRep : β → α)
    (ofRep? : α → Option β)
    (hInverse : ∀ b, ofRep? (toRep b) = some b) :
    Codec β where
  write := fun value => codec.write (toRep value)
  read := fun bytes => do
    let (a, rest) ← codec.read bytes
    let b ← ofRep? a
    some (b, rest)
  read_write := by
    intro value rest
    simp [codec.read_write, hInverse]

end Codec

end Avro

------------------------------------------------------------
-- Integers
------------------------------------------------------------

namespace Avro

/- Base 128, the lowest digit first, and a high bit on all
   digits but the last. -/
def writeVarint (n : Nat) : List UInt8 :=
  if n < 128 then
    [UInt8.ofNat n]
  else
    UInt8.ofNat (n % 128 + 128) :: writeVarint (n / 128)

def readVarint : List UInt8 → Option (Nat × List UInt8)
| [] => none
| b :: bytes =>
    if b.toNat < 128 then
      some (b.toNat, bytes)
    else do
      let (n, rest) ← readVarint bytes
      some (b.toNat - 128 + 128 * n, rest)

theorem readVarint_writeVarint
    (n : Nat)
    (rest : List UInt8) :
    readVarint (writeVarint n ++ rest) = some (n, rest) := by
  induction n using writeVarint.induct with
  | case1 n hSmall =>
      have hByte : (UInt8.ofNat n).toNat = n := by
        rw [UInt8.toNat_ofNat']
        omega
      rw [writeVarint, if_pos hSmall]
      simp [readVarint, hByte, hSmall]
  | case2 n hLarge ih =>
      have hByte :
          (UInt8.ofNat (n % 128 + 128)).toNat =
            n % 128 + 128 := by
        rw [UInt8.toNat_ofNat']
        omega
      have hDigits :
          n % 128 + 128 - 128 + 128 * (n / 128) = n := by
        omega
      rw [writeVarint, if_neg hLarge, List.cons_append,
        readVarint, hByte, if_neg (by omega), ih]
      simp only [Option.bind_eq_bind, Option.bind_some,
        hDigits]

/- Non-negative numbers are even, negative ones are odd. -/
def zigzag : Int → Nat
| .ofNat n => 2 * n
| .negSucc n => 2 * n + 1

def unzigzag (n : Nat) : Int :=
  if n % 2 = 0 then .ofNat (n / 2) else .negSucc (n / 2)

theorem unzigzag_zigzag (n : Int) :
    unzigzag (zigzag n) = n := by
  cases n with
  | ofNat n => simp [zigzag, unzigzag]
  | negSucc n =>
      have hOdd : (2 * n + 1) % 2 = 1 := by omega
      have hHalf : (2 * n + 1) / 2 = n := by omega
      simp [zigzag, unzigzag, hOdd, hHalf]

/- An integer. Its range is for the writer of a schema. -/
def long : Codec Int where
  write := fun n => writeVarint (zigzag n)
  read := fun bytes => do
    let (n, rest) ← readVarint bytes
    some (unzigzag n, rest)
  read_write := by
    intro n rest
    simp [readVarint_writeVarint, unzigzag_zigzag]

end Avro

------------------------------------------------------------
-- Strings And Enumerations
------------------------------------------------------------

namespace Avro

def readString
    (bytes : List UInt8) : Option (String × List UInt8) := do
  let (length, rest) ← long.read bytes
  if length < 0 ∨ rest.length < length.toNat then
    none
  else do
    let s ←
      String.fromUTF8?
        ⟨(rest.take length.toNat).toArray⟩
    some (s, rest.drop length.toNat)

def writeString (s : String) : List UInt8 :=
  long.write s.toUTF8.data.toList.length ++
    s.toUTF8.data.toList

theorem fromUTF8?_toUTF8 (s : String) :
    String.fromUTF8? ⟨s.toUTF8.data.toList.toArray⟩ =
      some s := by
  have hBytes :
      (⟨s.toUTF8.data.toList.toArray⟩ : ByteArray) =
        s.toUTF8 := by
    rw [Array.toArray_toList]
  have hValid : s.toUTF8.IsValidUTF8 := s.isValidUTF8
  rw [hBytes, String.fromUTF8?, dif_pos hValid]
  rfl

/- The length of the UTF-8 bytes, then the bytes. -/
def string : Codec String where
  write := writeString
  read := readString
  read_write := by
    intro s rest
    have hUtf8 := fromUTF8?_toUTF8 s
    generalize hBytes : s.toUTF8.data.toList = bytes
      at hUtf8
    have hFits :
        ¬ ((bytes.length : Int) < 0 ∨
          (bytes ++ rest).length < bytes.length) := by
      rw [List.length_append]
      omega
    rw [writeString, hBytes, List.append_assoc, readString,
      long.read_write]
    simp only [Option.bind_eq_bind, Option.bind_some,
      Int.toNat_natCast, if_neg hFits, List.take_left,
      List.drop_left, hUtf8]

/- A symbol by its index. -/
def enumeration
    {α : Type}
    [DecidableEq α]
    (symbols : List α)
    (hAll : ∀ a, a ∈ symbols) : Codec α :=
  long.via
    (fun a => ((symbols.idxOf a : Nat) : Int))
    (fun i => if i < 0 then none else symbols[i.toNat]?)
    (by
      intro a
      have hIndex :=
        List.getElem?_idxOf (hAll a)
      simp [hIndex])

end Avro

------------------------------------------------------------
-- Arrays
------------------------------------------------------------

namespace Avro

variable {α : Type} (item : Codec α)

/- A given number of items. -/
def readItems :
    Nat → List UInt8 → Option (List α × List UInt8)
| 0, bytes => some ([], bytes)
| n + 1, bytes => do
    let (a, rest) ← item.read bytes
    let (as, rest) ← readItems n rest
    some (a :: as, rest)

theorem readItems_flatMap
    (as : List α)
    (rest : List UInt8) :
    readItems item as.length
        (as.flatMap item.write ++ rest) =
      some (as, rest) := by
  induction as with
  | nil => rfl
  | cons a as ih =>
      simp [readItems, item.read_write, ih]

/- The blocks of an array up to the empty one. A negative
   count is followed by the size of the block. -/
def readBlocks :
    Nat → List UInt8 → Option (List α × List UInt8)
| 0, _ => none
| fuel + 1, bytes => do
    let (count, rest) ← long.read bytes
    if count = 0 then
      some ([], rest)
    else do
      let (_, rest) ←
        if count < 0 then long.read rest
        else some (0, rest)
      let (as, rest) ← readItems item count.natAbs rest
      let (more, rest) ← readBlocks fuel rest
      some (as ++ more, rest)

/- One block with all items, and the empty block. -/
def writeArray (as : List α) : List UInt8 :=
  (if as = [] then []
    else long.write as.length ++ as.flatMap item.write) ++
    long.write 0

theorem readBlocks_writeArray
    (fuel : Nat)
    (as : List α)
    (rest : List UInt8) :
    readBlocks item (fuel + 2)
        (writeArray item as ++ rest) =
      some (as, rest) := by
  have hEnd :
      ∀ n, readBlocks item (n + 1)
          (long.write 0 ++ rest) = some ([], rest) := by
    intro n
    simp [readBlocks, long.read_write]
  by_cases hNil : as = []
  · simp [writeArray, hNil, hEnd]
  · have hCount : (as.length : Int) ≠ 0 := by
      simpa using hNil
    have hPositive : ¬ (as.length : Int) < 0 := by omega
    rw [writeArray, if_neg hNil, List.append_assoc,
      List.append_assoc, readBlocks, long.read_write]
    simp only [Option.bind_eq_bind, Option.bind_some,
      if_neg hCount, if_neg hPositive, Int.natAbs_natCast,
      readItems_flatMap, hEnd, List.append_nil]

/- Every block takes at least one byte for its count. -/
def array : Codec (List α) where
  write := writeArray item
  read := fun bytes =>
    readBlocks item (bytes.length + 2) bytes
  read_write := by
    intro as rest
    exact readBlocks_writeArray item _ as rest

end Avro
