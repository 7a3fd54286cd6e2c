import Mathlib.Data.List.Dedup
import Mathlib.Data.List.Induction
import Mathlib.Data.List.Nodup
import Mathlib.Data.List.Perm.Subperm

/-
  A cache that forgets the least recently used key.

  The entries stand from the most to the least recently used
  key. An access finds its key and moves it to the front, or
  puts the value it is given there; what does not fit any
  more falls off the end.

  Key definitions include:
    * `LruCache`
    * `LruCache.access`
    * `LruCache.after`
    * `LruCache.recency`

  The rules are:
    * `LruCache.keys_after`
    * `LruCache.get?_after`
    * `LruCache.get?_after_of_few`
-/

------------------------------------------------------------
-- The Cache
------------------------------------------------------------

/- No key comes twice, and there are at most `maxsize`
   entries. -/
structure LruCache (κ α : Type) (maxsize : Nat) where
  entries : List (κ × α)
  distinct : (entries.map Prod.fst).Nodup
  bounded : entries.length ≤ maxsize

namespace LruCache

variable {κ α : Type}
variable [DecidableEq κ]
variable {maxsize : Nat}

def keys (cache : LruCache κ α maxsize) : List κ :=
  cache.entries.map Prod.fst

def empty : LruCache κ α maxsize where
  entries := []
  distinct := List.nodup_nil
  bounded := Nat.zero_le maxsize

def get?
    (cache : LruCache κ α maxsize)
    (key : κ) : Option α :=
  cache.entries.lookup key

/- The entries of the other keys. -/
def others
    (entries : List (κ × α))
    (key : κ) : List (κ × α) :=
  entries.filter (fun entry => entry.1 ≠ key)

theorem keys_others
    (entries : List (κ × α))
    (key : κ) :
    (others entries key).map Prod.fst =
      (entries.map Prod.fst).filter (fun k => k ≠ key) := by
  rw [others, List.filter_map]
  rfl

theorem not_mem_keys_others
    (entries : List (κ × α))
    (key : κ) :
    key ∉ (others entries key).map Prod.fst := by
  rw [keys_others, List.mem_filter]
  rintro ⟨-, hOther⟩
  simp at hOther

theorem mem_of_lookup
    {entries : List (κ × α)}
    {key : κ}
    {value : α}
    (hFound : entries.lookup key = some value) :
    (key, value) ∈ entries := by
  induction entries with
  | nil => cases hFound
  | cons entry entries ih =>
      rw [List.lookup_cons] at hFound
      split at hFound
      · rename_i hKey
        have hSame : key = entry.1 := by simpa using hKey
        rw [Option.some.injEq] at hFound
        rw [hSame, ← hFound]
        exact List.mem_cons_self
      · exact List.mem_cons_of_mem _ (ih hFound)

theorem lookup_eq_none_iff
    {entries : List (κ × α)}
    {key : κ} :
    entries.lookup key = none ↔
      key ∉ entries.map Prod.fst := by
  rw [List.lookup_eq_none_iff]
  constructor
  · intro hOther hMem
    obtain ⟨entry, hEntry, hKey⟩ := List.mem_map.1 hMem
    have hDiffers := hOther entry hEntry
    simp [hKey] at hDiffers
  · intro hAbsent entry hEntry
    have hDiffers : key ≠ entry.1 := by
      rintro rfl
      exact hAbsent (List.mem_map_of_mem hEntry)
    simpa using hDiffers

end LruCache

------------------------------------------------------------
-- An Access
------------------------------------------------------------

namespace LruCache

variable {κ α : Type}
variable [DecidableEq κ]
variable {maxsize : Nat}

theorem nodup_front
    (entries : List (κ × α))
    (hDistinct : (entries.map Prod.fst).Nodup)
    (key : κ)
    (value : α) :
    (((key, value) :: others entries key).map
      Prod.fst).Nodup := by
  rw [List.map_cons, List.nodup_cons]
  refine ⟨not_mem_keys_others entries key, ?_⟩
  rw [keys_others]
  exact hDistinct.filter _

omit [DecidableEq κ] in
theorem nodup_take
    (entries : List (κ × α))
    (hDistinct : (entries.map Prod.fst).Nodup)
    (n : Nat) :
    ((entries.take n).map Prod.fst).Nodup := by
  rw [List.map_take]
  exact hDistinct.sublist (List.take_sublist n _)

/- An entry that is used comes to the front. An entry that
   is new pushes out the last one of a full cache. -/
def touch
    (cache : LruCache κ α maxsize)
    (key : κ)
    (value : α) : LruCache κ α maxsize where
  entries :=
    ((key, value) :: others cache.entries key).take maxsize
  distinct :=
    nodup_take _
      (nodup_front cache.entries cache.distinct key value)
      maxsize
  bounded := List.length_take_le maxsize _

/- The held value, or else the given one. -/
def answer
    (cache : LruCache κ α maxsize)
    (key : κ)
    (value : α) : α :=
  (cache.get? key).getD value

def access
    (cache : LruCache κ α maxsize)
    (key : κ)
    (value : α) : LruCache κ α maxsize :=
  cache.touch key (cache.answer key value)

end LruCache

------------------------------------------------------------
-- Recency
------------------------------------------------------------

namespace LruCache

variable {κ : Type}
variable [DecidableEq κ]

/- The keys after one more use, the latest first. -/
def use (recent : List κ) (key : κ) : List κ :=
  key :: recent.filter (fun k => k ≠ key)

/- The distinct keys of a history, the latest first. -/
def recency (history : List κ) : List κ :=
  history.foldl use []

theorem nodup_use
    {recent : List κ}
    (hNodup : recent.Nodup)
    (key : κ) :
    (use recent key).Nodup := by
  rw [use, List.nodup_cons]
  refine ⟨?_, hNodup.filter _⟩
  rw [List.mem_filter]
  rintro ⟨-, hOther⟩
  simp at hOther

theorem nodup_foldl_use
    {recent : List κ}
    (hNodup : recent.Nodup)
    (history : List κ) :
    (history.foldl use recent).Nodup := by
  induction history generalizing recent with
  | nil => exact hNodup
  | cons key history ih => exact ih (nodup_use hNodup key)

/- Whether the other keys are cut before or after a use, the
   same ones are kept. -/
theorem take_use
    {recent : List κ}
    (hNodup : recent.Nodup)
    (n : Nat)
    (key : κ) :
    (use (recent.take n) key).take n =
      (use recent key).take n := by
  cases n with
  | zero => rfl
  | succ n =>
      rw [use, use, List.take_succ_cons,
        List.take_succ_cons]
      congr 1
      induction recent generalizing n with
      | nil => rfl
      | cons k recent ih =>
          rw [List.nodup_cons] at hNodup
          rw [List.take_succ_cons]
          by_cases hKey : k = key
          · have hAbsent :
                ∀ other ∈ recent, other ≠ key := by
              intro other hMem hSame
              rw [hSame, ← hKey] at hMem
              exact hNodup.1 hMem
            have hAll :
                recent.filter (fun k => k ≠ key) = recent := by
              rw [List.filter_eq_self]
              intro other hMem
              simpa using hAbsent other hMem
            have hCut :
                (recent.take n).filter (fun k => k ≠ key) =
                  recent.take n := by
              rw [List.filter_eq_self]
              intro other hMem
              have hOther :=
                hAbsent other (List.mem_of_mem_take hMem)
              simpa using hOther
            rw [List.filter_cons_of_neg (by simpa using hKey),
              List.filter_cons_of_neg (by simpa using hKey),
              hAll, hCut, List.take_take, Nat.min_self]
          · rw [List.filter_cons_of_pos (by simpa using hKey),
              List.filter_cons_of_pos (by simpa using hKey)]
            cases n with
            | zero => rfl
            | succ n =>
                rw [List.take_succ_cons, List.take_succ_cons,
                  ih hNodup.2 n]

/- The keys in front of one that was used before a history
   all occur in it. -/
theorem foldl_use_split
    (key : κ)
    (recent : List κ)
    (history : List κ) :
    ∃ before behind,
      history.foldl use (use recent key) =
          before ++ key :: behind ∧
        before ⊆ history ∧
        key ∉ before := by
  induction history using List.reverseRecOn with
  | nil =>
      exact ⟨[], _, rfl, List.nil_subset _, List.not_mem_nil⟩
  | append_singleton history last ih =>
      obtain ⟨before, behind, hSplit, hSubset, hKey⟩ := ih
      rw [List.foldl_append, List.foldl_cons, List.foldl_nil,
        hSplit, use, List.filter_append]
      by_cases hSame : key = last
      · refine
          ⟨[], (before ++ key :: behind).filter
            (fun k => k ≠ last), ?_, List.nil_subset _,
            List.not_mem_nil⟩
        rw [List.filter_append, hSame, List.nil_append]
      · refine
          ⟨last :: before.filter (fun k => k ≠ last),
            behind.filter (fun k => k ≠ last), ?_, ?_, ?_⟩
        · rw [List.filter_cons_of_pos (by simpa using hSame),
            List.cons_append]
        · intro k hMem
          rcases List.mem_cons.1 hMem with hLast | hBefore
          · rw [hLast]
            exact List.mem_append_right _
              List.mem_cons_self
          · exact List.mem_append_left _
              (hSubset (List.mem_of_mem_filter hBefore))
        · intro hMem
          rcases List.mem_cons.1 hMem with hLast | hBefore
          · exact hSame hLast
          · exact hKey (List.mem_of_mem_filter hBefore)

/- A key stays among the first `n` while fewer than `n` others
   are used. -/
theorem mem_take_foldl_use
    (key : κ)
    {recent : List κ}
    (hNodup : recent.Nodup)
    {n : Nat}
    {history : List κ}
    (hFew :
      (history.filter (fun k => k ≠ key)).dedup.length < n) :
    key ∈ (history.foldl use (use recent key)).take n := by
  obtain ⟨before, behind, hSplit, hSubset, hKey⟩ :=
    foldl_use_split key recent history
  have hDistinct :=
    nodup_foldl_use (nodup_use hNodup key) history
  rw [hSplit] at hDistinct ⊢
  have hBefore : before.Nodup :=
    (List.nodup_append.1 hDistinct).1
  have hOthers :
      before ⊆
        (history.filter (fun k => k ≠ key)).dedup := by
    intro k hMem
    have hOther : k ≠ key := by
      rintro rfl
      exact hKey hMem
    rw [List.mem_dedup, List.mem_filter]
    exact ⟨hSubset hMem, by simpa using hOther⟩
  have hLength : before.length < n :=
    Nat.lt_of_le_of_lt
      (hBefore.subperm hOthers).length_le hFew
  obtain ⟨room, rfl⟩ :
      ∃ room, n = before.length + (room + 1) :=
    ⟨n - before.length - 1, by omega⟩
  rw [List.take_length_add_append, List.take_succ_cons]
  exact List.mem_append_right _ List.mem_cons_self

end LruCache

------------------------------------------------------------
-- A History Of Accesses
------------------------------------------------------------

namespace LruCache

variable {κ α : Type}
variable [DecidableEq κ]
variable {maxsize : Nat}

/- The cache after accesses, each with what the function
   returns at that moment. -/
def after
    (cache : LruCache κ α maxsize)
    (history : List (κ × α)) : LruCache κ α maxsize :=
  history.foldl
    (fun cache entry => cache.access entry.1 entry.2) cache

theorem keys_access
    (cache : LruCache κ α maxsize)
    (key : κ)
    (value : α) :
    (cache.access key value).keys =
      (use cache.keys key).take maxsize := by
  rw [keys, access, touch, List.map_take, List.map_cons,
    keys_others]
  rfl

/- The keys held are those used last. -/
theorem keys_after_of_keys
    {cache : LruCache κ α maxsize}
    {recent : List κ}
    (hNodup : recent.Nodup)
    (hKeys : cache.keys = recent.take maxsize)
    (history : List (κ × α)) :
    (cache.after history).keys =
      ((history.map Prod.fst).foldl use recent).take
        maxsize := by
  induction history generalizing cache recent with
  | nil => exact hKeys
  | cons entry history ih =>
      apply ih (nodup_use hNodup entry.1)
      rw [keys_access, hKeys, take_use hNodup]

theorem keys_after
    (history : List (κ × α)) :
    ((empty : LruCache κ α maxsize).after history).keys =
      (recency (history.map Prod.fst)).take maxsize :=
  keys_after_of_keys List.nodup_nil (by simp [empty, keys])
    history

theorem get?_eq_none_iff
    {cache : LruCache κ α maxsize}
    {key : κ} :
    cache.get? key = none ↔ key ∉ cache.keys :=
  lookup_eq_none_iff

/- A lookup finds nothing of a key that was not among the
   last ones used. -/
theorem get?_after
    (history : List (κ × α))
    (key : κ) :
    ((empty : LruCache κ α maxsize).after history).get? key =
        none ↔
      key ∉
        (recency (history.map Prod.fst)).take maxsize := by
  rw [get?_eq_none_iff, keys_after]

end LruCache

------------------------------------------------------------
-- The Values Held
------------------------------------------------------------

namespace LruCache

variable {κ α : Type}
variable [DecidableEq κ]
variable {maxsize : Nat}

theorem lookup_of_mem
    {entries : List (κ × α)}
    (hDistinct : (entries.map Prod.fst).Nodup)
    {key : κ}
    {value : α}
    (hMem : (key, value) ∈ entries) :
    entries.lookup key = some value := by
  induction entries with
  | nil => cases hMem
  | cons entry entries ih =>
      rw [List.map_cons, List.nodup_cons] at hDistinct
      rcases List.mem_cons.1 hMem with hHead | hTail
      · rw [← hHead, List.lookup_cons_self]
      · have hOther : (key == entry.1) = false := by
          rw [beq_eq_false_iff_ne]
          intro hSame
          apply hDistinct.1
          rw [← hSame]
          exact List.mem_map.2 ⟨(key, value), hTail, rfl⟩
        rw [List.lookup_cons, hOther]
        exact ih hDistinct.2 hTail

/- What the cache holds of a key, it held before, unless it
   is the answer of the access. -/
theorem get?_access
    {cache : LruCache κ α maxsize}
    {key other : κ}
    {value held : α}
    (hHeld : (cache.access key value).get? other =
      some held) :
    (other = key ∧ held = cache.answer key value) ∨
      (other ≠ key ∧ cache.get? other = some held) := by
  have hMem := mem_of_lookup hHeld
  have hFront := List.mem_of_mem_take hMem
  rcases List.mem_cons.1 hFront with hHead | hTail
  · rw [Prod.mk.injEq] at hHead
    exact Or.inl hHead
  · rw [others, List.mem_filter] at hTail
    right
    refine ⟨by simpa using hTail.2, ?_⟩
    exact lookup_of_mem cache.distinct hTail.1

/- What every value in the cache has, the values given to the
   accesses have. -/
theorem get?_after_of_given
    {P : κ → α → Prop}
    {history : List (κ × α)}
    (hGiven : ∀ entry ∈ history, P entry.1 entry.2)
    {key : κ}
    {held : α}
    (hHeld :
      ((empty : LruCache κ α maxsize).after history).get?
        key = some held) :
    P key held := by
  induction history using List.reverseRecOn
    generalizing key held with
  | nil => simp [after, empty, get?] at hHeld
  | append_singleton history last ih =>
      have hBefore :
          ∀ entry ∈ history, P entry.1 entry.2 := by
        intro entry hMem
        exact hGiven entry (List.mem_append_left _ hMem)
      rw [after, List.foldl_append, List.foldl_cons,
        List.foldl_nil, ← after] at hHeld
      rcases get?_access hHeld with
        ⟨rfl, hAnswer⟩ | ⟨-, hOld⟩
      · have hLast : P last.1 last.2 :=
          hGiven last
            (List.mem_append_right _ List.mem_cons_self)
        rw [answer] at hAnswer
        cases hFound :
            ((empty : LruCache κ α maxsize).after
              history).get? last.1 with
        | none => simpa [hAnswer, hFound] using hLast
        | some old =>
            simpa [hAnswer, hFound] using ih hBefore hFound
      · exact ih hBefore hOld

/- What all values given have, an answer has. -/
theorem answer_of_given
    {P : κ → α → Prop}
    {history : List (κ × α)}
    (hGiven : ∀ entry ∈ history, P entry.1 entry.2)
    {key : κ}
    {value : α}
    (hValue : P key value) :
    P key
      (((empty : LruCache κ α maxsize).after history).answer
        key value) := by
  rw [answer]
  cases hFound :
      ((empty : LruCache κ α maxsize).after history).get?
        key with
  | none =>
      rw [Option.getD_none]
      exact hValue
  | some held =>
      rw [Option.getD_some]
      exact get?_after_of_given hGiven hFound

theorem length_dedup_le
    {xs ys : List κ}
    (hSubset : xs ⊆ ys) :
    xs.dedup.length ≤ ys.dedup.length := by
  apply List.Subperm.length_le
  apply List.subperm_of_subset (List.nodup_dedup xs)
  intro x hMem
  rw [List.mem_dedup] at hMem ⊢
  exact hSubset hMem

/- An answer is held while fewer than `maxsize` other keys
   are used. -/
theorem get?_after_of_few
    (cache : LruCache κ α maxsize)
    (key : κ)
    (value : α)
    {history : List (κ × α)}
    (hFew :
      ((history.map Prod.fst).filter
        (fun k => k ≠ key)).dedup.length < maxsize) :
    ((cache.access key value).after history).get? key =
      some (cache.answer key value) := by
  induction history using List.reverseRecOn with
  | nil =>
      obtain ⟨room, rfl⟩ : ∃ room, maxsize = room + 1 :=
        ⟨maxsize - 1, by omega⟩
      exact List.lookup_cons_self
  | append_singleton history last ih =>
      have hBefore :
          ((history.map Prod.fst).filter
            (fun k => k ≠ key)).dedup.length < maxsize := by
        refine Nat.lt_of_le_of_lt (length_dedup_le ?_) hFew
        intro k hMem
        rw [List.map_append, List.filter_append]
        exact List.mem_append_left _ hMem
      have hFirst :
          (cache.access key value).keys =
            (use cache.keys key).take maxsize :=
        keys_access cache key value
      have hKeys :=
        keys_after_of_keys (nodup_use cache.distinct key)
          hFirst (history ++ [last])
      have hFound :
          ((cache.access key value).after
            (history ++ [last])).get? key ≠ none := by
        rw [Ne, get?_eq_none_iff, not_not, hKeys]
        exact mem_take_foldl_use key cache.distinct hFew
      obtain ⟨held, hHeld⟩ := Option.ne_none_iff_exists'.1 hFound
      rw [hHeld]
      rw [after, List.foldl_append, List.foldl_cons,
        List.foldl_nil, ← after] at hHeld
      rcases get?_access hHeld with
        ⟨rfl, hAnswer⟩ | ⟨-, hOld⟩
      · rw [hAnswer, answer, ih hBefore, Option.getD_some]
      · rw [← hOld, ih hBefore]

end LruCache
