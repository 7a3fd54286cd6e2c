import FraudStream.Library.Avro
import FraudStream.Library.Dict
import FraudStream.Library.FallibleList
import Mathlib.Data.List.Basic

/-
  Avro records whose fields are written from one kind of
  value and read as another.

  A wire writes the values it has a form for and states what
  a reader makes of what was written, which need not be the
  value itself. A record is written field by field from a
  dictionary, and read without names: a reader that knows
  only the first fields gets their values and leaves the rest
  of the bytes.

  Key definitions include:
    * `Avro.bytes`
    * `Avro.fixed32`
    * `Avro.Wire`
    * `Avro.Field`
    * `Avro.writeRecord`
    * `Avro.readRecord`

  Main results:
    * `Avro.readRecord_writeRecord`
    * `Avro.readRecord_of_prefix`
    * `Avro.writeRecord_isSome_iff`
    * `Avro.record_of_tells`
-/

------------------------------------------------------------
-- Bytes And Words
------------------------------------------------------------

namespace Avro

def readBytes
    (input : List UInt8) :
    Option (List UInt8 × List UInt8) := do
  let (length, rest) ← long.read input
  if length < 0 ∨ rest.length < length.toNat then
    none
  else
    some (rest.take length.toNat, rest.drop length.toNat)

/- The length of the bytes, then the bytes. -/
def bytes : Codec (List UInt8) where
  write := fun value => long.write value.length ++ value
  read := readBytes
  read_write := by
    intro value rest
    have hFits :
        ¬ ((value.length : Int) < 0 ∨
          (value ++ rest).length < value.length) := by
      rw [List.length_append]
      omega
    rw [List.append_assoc, readBytes, long.read_write]
    simp only [Option.bind_eq_bind, Option.bind_some,
      Int.toNat_natCast, if_neg hFits, List.take_left,
      List.drop_left]

/- Four bytes, the lowest first. -/
def writeFixed32 (n : UInt32) : List UInt8 :=
  [.ofNat n.toNat, .ofNat (n.toNat / 256),
    .ofNat (n.toNat / 65536), .ofNat (n.toNat / 16777216)]

def readFixed32 :
    List UInt8 → Option (UInt32 × List UInt8)
| a :: b :: c :: d :: rest =>
    some
      (.ofNat
        (a.toNat + 256 * b.toNat + 65536 * c.toNat +
          16777216 * d.toNat),
        rest)
| _ => none

theorem readFixed32_writeFixed32
    (n : UInt32)
    (rest : List UInt8) :
    readFixed32 (writeFixed32 n ++ rest) =
      some (n, rest) := by
  have hBound : n.toNat < 4294967296 := n.toNat_lt
  have hDigits :
      n.toNat % 256 + 256 * (n.toNat / 256 % 256) +
          65536 * (n.toNat / 65536 % 256) +
          16777216 * (n.toNat / 16777216 % 256) =
        n.toNat := by
    omega
  simp only [writeFixed32, List.cons_append, List.nil_append,
    readFixed32, UInt8.toNat_ofNat', hDigits,
    UInt32.ofNat_toNat]

def fixed32 : Codec UInt32 where
  write := writeFixed32
  read := readFixed32
  read_write := readFixed32_writeFixed32

end Avro

------------------------------------------------------------
-- Wires
------------------------------------------------------------

namespace Avro

/- A form for some values of a type, and what a reader makes
   of what was written, if it accepts it. -/
structure Wire (α β : Type) where
  write : α → Option (List UInt8)
  read : List UInt8 → Option (β × List UInt8)
  image : α → Option β
  read_write :
    ∀ value written rest,
      write value = some written →
        read (written ++ rest) =
          (image value).map (fun b => (b, rest))

namespace Wire

variable {α β γ : Type}

/- Values that have a representation in a codec. -/
def ofCodec
    (codec : Codec γ)
    (toRep? : α → Option γ)
    (ofRep? : γ → Option β) : Wire α β where
  write := fun value => (toRep? value).map codec.write
  read := fun input => do
    let (rep, rest) ← codec.read input
    let b ← ofRep? rep
    some (b, rest)
  image := fun value => do
    let rep ← toRep? value
    ofRep? rep
  read_write := by
    intro value written rest hWrite
    rcases Option.map_eq_some_iff.1 hWrite with
      ⟨rep, hRep, rfl⟩
    simp only [Option.bind_eq_bind, codec.read_write,
      Option.bind_some, hRep]
    cases ofRep? rep <;> rfl

/- A union with null: an index before the value. -/
def optional
    (isNull : α → Bool)
    (null : β)
    (wire : Wire α β) : Wire α β where
  write := fun value =>
    if isNull value then
      some (long.write 0)
    else
      (wire.write value).map (fun bs => long.write 1 ++ bs)
  read := fun input => do
    let (index, rest) ← long.read input
    if index = 0 then
      some (null, rest)
    else if index = 1 then
      wire.read rest
    else
      none
  image := fun value =>
    if isNull value then some null else wire.image value
  read_write := by
    intro value written rest hWrite
    cases hNull : isNull value with
    | true =>
        rw [hNull, if_pos rfl, Option.some.injEq] at hWrite
        subst hWrite
        simp [long.read_write]
    | false =>
        rw [hNull, if_neg Bool.false_ne_true] at hWrite
        rcases Option.map_eq_some_iff.1 hWrite with
          ⟨bs, hBytes, rfl⟩
        have hRead := wire.read_write value bs rest hBytes
        simp [long.read_write, hRead]

end Wire

end Avro

------------------------------------------------------------
-- Records
------------------------------------------------------------

namespace Avro

variable {α β : Type}

/- A field of a schema, with its default. -/
structure Field (α β : Type) where
  name : String
  wire : Wire α β
  default? : Option α

/- The value of a field: that of its name, or the default. -/
def Field.value?
    (field : Field α β)
    (record : Dict String α) : Option α :=
  (record.get? field.name).or field.default?

def Field.write
    (field : Field α β)
    (record : Dict String α) : Option (List UInt8) :=
  (field.value? record).bind field.wire.write

def Field.image
    (field : Field α β)
    (record : Dict String α) : Option (String × β) :=
  ((field.value? record).bind field.wire.image).map
    (fun b => (field.name, b))

/- The fields in the order of the schema. -/
def writeRecord
    (record : Dict String α) :
    List (Field α β) → Option (List UInt8)
| [] => some []
| field :: fields => do
    let written ← field.write record
    let more ← writeRecord record fields
    some (written ++ more)

def readRecord :
    List (Field α β) → List UInt8 →
      Option (List (String × β) × List UInt8)
| [], input => some ([], input)
| field :: fields, input => do
    let (b, rest) ← field.wire.read input
    let (more, rest) ← readRecord fields rest
    some ((field.name, b) :: more, rest)

/- What a reader makes of a written record. -/
def imageRecord
    (record : Dict String α)
    (fields : List (Field α β)) :
    Option (List (String × β)) :=
  fields.mapM (fun field => field.image record)

variable {record : Dict String α}

theorem Field.read_write
    {field : Field α β}
    {written : List UInt8}
    (hWrite : field.write record = some written)
    (rest : List UInt8) :
    field.wire.read (written ++ rest) =
      ((field.value? record).bind field.wire.image).map
        (fun b => (b, rest)) := by
  rcases Option.bind_eq_some_iff.1 hWrite with
    ⟨value, hValue, hWritten⟩
  rw [hValue, Option.bind_some]
  exact field.wire.read_write value written rest hWritten

/- A record is read back as its image, with anything behind
   it. -/
theorem readRecord_writeRecord
    {fields : List (Field α β)}
    {written : List UInt8}
    (hWrite : writeRecord record fields = some written)
    (rest : List UInt8) :
    readRecord fields (written ++ rest) =
      (imageRecord record fields).map
        (fun entries => (entries, rest)) := by
  induction fields generalizing written with
  | nil =>
      cases hWrite
      rfl
  | cons field fields ih =>
      rw [writeRecord] at hWrite
      simp only [Option.bind_eq_bind,
        Option.bind_eq_some_iff, Option.some.injEq] at hWrite
      rcases hWrite with ⟨first, hFirst, more, hMore, rfl⟩
      have hRead := Field.read_write hFirst (more ++ rest)
      rw [readRecord, List.append_assoc, hRead, imageRecord,
        List.mapM_cons, Field.image]
      cases (field.value? record).bind field.wire.image with
      | none => rfl
      | some b =>
          simp only [Option.map_some, Option.bind_eq_bind,
            Option.bind_some, ih hMore, imageRecord]
          cases fields.mapM
            (fun field => field.image record) <;> rfl

theorem writeRecord_append
    (first second : List (Field α β)) :
    writeRecord record (first ++ second) =
      (do
        let written ← writeRecord record first
        let more ← writeRecord record second
        some (written ++ more)) := by
  induction first with
  | nil =>
      rw [List.nil_append, writeRecord]
      cases writeRecord record second <;> rfl
  | cons field fields ih =>
      rw [List.cons_append, writeRecord, writeRecord, ih]
      cases field.write record with
      | none => rfl
      | some written =>
          cases writeRecord record fields with
          | none => rfl
          | some more =>
              cases writeRecord record second with
              | none => rfl
              | some last =>
                  simp only [Option.bind_eq_bind,
                    Option.bind_some, List.append_assoc]

/- Fields are read one list after the other. -/
theorem readRecord_append
    (first second : List (Field α β))
    (input : List UInt8) :
    readRecord (first ++ second) input =
      (readRecord first input).bind (fun known =>
        (readRecord second known.2).map (fun more =>
          (known.1 ++ more.1, more.2))) := by
  induction first generalizing input with
  | nil =>
      rw [List.nil_append, readRecord, Option.bind_some]
      cases readRecord second input <;> rfl
  | cons field fields ih =>
      rw [List.cons_append, readRecord, readRecord]
      cases field.wire.read input with
      | none => rfl
      | some b =>
          simp only [Option.bind_eq_bind, Option.bind_some,
            ih]
          cases readRecord fields b.2 with
          | none => rfl
          | some known =>
              simp only [Option.bind_some]
              cases readRecord second known.2 <;> rfl

/- A reader with fewer fields leaves those it does not
   know. -/
theorem readRecord_of_prefix
    {first second : List (Field α β)}
    {written : List UInt8}
    (hWrite :
      writeRecord record (first ++ second) = some written) :
    ∃ rest,
      writeRecord record second = some rest ∧
        readRecord first written =
          (imageRecord record first).map
            (fun entries => (entries, rest)) := by
  rw [writeRecord_append] at hWrite
  simp only [Option.bind_eq_bind, Option.bind_eq_some_iff,
    Option.some.injEq] at hWrite
  rcases hWrite with ⟨known, hKnown, rest, hRest, rfl⟩
  exact ⟨rest, hRest, readRecord_writeRecord hKnown rest⟩

/- A record is written if each of its fields is. -/
theorem writeRecord_isSome_iff
    (fields : List (Field α β)) :
    (writeRecord record fields).isSome ↔
      ∀ field ∈ fields, (field.write record).isSome := by
  induction fields with
  | nil => simp [writeRecord]
  | cons field fields ih =>
      rw [List.forall_mem_cons, ← ih, writeRecord]
      cases field.write record with
      | none => simp
      | some written =>
          cases writeRecord record fields <;> simp

/- The field is written, and read as the entry. -/
def Field.Tells
    (record : Dict String α)
    (field : Field α β)
    (e : String × β) : Prop :=
  (field.write record).isSome ∧ field.image record = some e

/- A record is written and read as its entries if each of
   its fields is. -/
theorem record_of_tells
    {fields : List (Field α β)}
    {entries : List (String × β)}
    (hTells :
      List.Forall₂ (Field.Tells record) fields entries) :
    (writeRecord record fields).isSome ∧
      imageRecord record fields = some entries := by
  constructor
  · rw [writeRecord_isSome_iff]
    induction hTells with
    | nil => exact List.forall_mem_nil _
    | cons hHead _ ih =>
        exact List.forall_mem_cons.2 ⟨hHead.1, ih⟩
  · rw [imageRecord, FallibleList.mapM_some_iff]
    exact hTells.imp (fun _ _ hField => hField.2)

end Avro
