import FraudStream.Library.BatchBuffer
import FraudStream.Library.KeyedStream

/-
  The first element of each key of a stream.

  Key definitions include:
    * `EventStream.firstOfKey`
    * `EventStream.keys`

  The rules are:
    * `EventStream.firstOfKey_firstOfKey`
    * `EventStream.nodup_keys_firstOfKey`
    * `EventStream.elements_firstOfKey`
-/

------------------------------------------------------------
-- First Occurrences In A List
------------------------------------------------------------

namespace BatchBuffer

variable {ρ κ : Type}
variable [DecidableEq κ]

/- No kept record has a key that was seen before. -/
theorem not_mem_seen_of_mem
    (key : ρ → κ)
    {seen : List κ}
    {rs : List ρ}
    {r : ρ}
    (hMem : r ∈ firstOccurrences key seen rs) :
    key r ∉ seen := by
  intro hSeen
  have hKept :
      r ∈ (firstOccurrences key seen rs).filter
        (key · = key r) :=
    List.mem_filter.2 ⟨hMem, by simp⟩
  rw [filter_firstOccurrences, if_pos hSeen] at hKept
  exact List.not_mem_nil hKept

/- No two kept records have the same key. -/
theorem nodup_map_firstOccurrences
    (key : ρ → κ)
    (seen : List κ)
    (rs : List ρ) :
    ((firstOccurrences key seen rs).map key).Nodup := by
  induction rs generalizing seen with
  | nil => exact List.nodup_nil
  | cons r rs ih =>
      unfold firstOccurrences
      split
      · exact ih seen
      · rw [List.map_cons, List.nodup_cons]
        refine ⟨?_, ih (key r :: seen)⟩
        intro hAgain
        rcases List.mem_map.1 hAgain with ⟨r', hMem, hKey⟩
        have hNew := not_mem_seen_of_mem key hMem
        rw [hKey] at hNew
        exact hNew List.mem_cons_self

end BatchBuffer

------------------------------------------------------------
-- First Occurrences In A Stream
------------------------------------------------------------

namespace EventStream

variable {α κ : Type}
variable [DecidableEq κ]

/- Keep the elements whose key is new, and all watermarks. -/
def firstOfKey
    (key : α → κ) :
    List κ → List (Item α) → List (Item α)
| _, [] => []
| seen, .element t x :: items =>
    if key x ∈ seen then
      firstOfKey key seen items
    else
      .element t x :: firstOfKey key (key x :: seen) items
| seen, .watermark w :: items =>
    .watermark w :: firstOfKey key seen items

/- The keys of the elements, in order. -/
def keys
    (key : α → κ)
    (items : List (Item α)) : List κ :=
  (elements items).map (fun e => key e.2)

theorem elements_firstOfKey
    (key : α → κ)
    (seen : List κ)
    (items : List (Item α)) :
    elements (firstOfKey key seen items) =
      BatchBuffer.firstOccurrences (fun e => key e.2) seen
        (elements items) := by
  induction items generalizing seen with
  | nil => rfl
  | cons item items ih =>
      cases item with
      | element t x =>
          rw [firstOfKey, elements,
            BatchBuffer.firstOccurrences]
          split
          · exact ih seen
          · rw [elements, ih]
      | watermark w => exact ih seen

/- Each key is kept once. -/
theorem nodup_keys_firstOfKey
    (key : α → κ)
    (items : List (Item α)) :
    (keys key (firstOfKey key [] items)).Nodup := by
  rw [keys, elements_firstOfKey]
  exact
    BatchBuffer.nodup_map_firstOccurrences
      (fun e => key e.2) [] (elements items)

theorem mem_of_mem_firstOfKey
    (key : α → κ)
    {items : List (Item α)}
    {e : Int × α}
    (hMem : e ∈ elements (firstOfKey key [] items)) :
    e ∈ elements items := by
  rw [elements_firstOfKey] at hMem
  exact
    (BatchBuffer.firstOccurrences_sublist _ _ _).subset hMem

/- What is kept once is kept again. -/
theorem firstOfKey_firstOfKey
    (key : α → κ)
    (seen : List κ)
    (items : List (Item α)) :
    firstOfKey key seen (firstOfKey key seen items) =
      firstOfKey key seen items := by
  induction items generalizing seen with
  | nil => rfl
  | cons item items ih =>
      cases item with
      | element t x =>
          by_cases hSeen : key x ∈ seen
          · rw [firstOfKey, if_pos hSeen, ih]
          · rw [firstOfKey, if_neg hSeen, firstOfKey,
              if_neg hSeen, ih]
      | watermark w => rw [firstOfKey, firstOfKey, ih]

end EventStream
