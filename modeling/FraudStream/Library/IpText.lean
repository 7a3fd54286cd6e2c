import FraudStream.Library.IpAddress
import Mathlib.Tactic.Ring

/-
  Addresses are read back from their texts.

  Key definitions include:
    * `IpAddress.ScopeIsPlain`

  The main results are:
    * `IpAddress.ofText?_text`
    * `IpAddress.scopeIsPlain_of_ofText?`
-/

------------------------------------------------------------
-- Octets
------------------------------------------------------------

namespace IpAddress

theorem octet?_toDigits
    {n : Nat}
    (hByte : n < 256) :
    octet? (Nat.toDigits 10 n) = some n := by
  have hAll :
      ∀ n < 256, octet? (Nat.toDigits 10 n) = some n := by
    decide +kernel
  exact hAll n hByte

/- Texts without the separator are split off again. -/
theorem splitOn_toList_intercalate
    {c : Char}
    {ts : List String}
    (hPlain : ∀ t ∈ ts, c ∉ t.toList)
    (hNonempty : ts ≠ []) :
    ((String.singleton c).intercalate ts).toList.splitOn c =
      ts.map String.toList := by
  rw [String.toList_intercalate, String.toList_singleton]
  apply List.splitOn_intercalate
  · intro l hMem
    rcases List.mem_map.1 hMem with ⟨t, hText, rfl⟩
    exact hPlain t hText
  · simpa using hNonempty

theorem v4Bits?_v4Text
    (bits : BitVec 32) :
    v4Bits? (v4Text bits).toList = some bits := by
  have hParts :
      (v4Text bits).toList.splitOn '.' =
        [24, 16, 8, 0].map (fun shift =>
          Nat.toDigits 10
            ((bits >>> shift).toNat % 256)) := by
    unfold v4Text
    refine
      (splitOn_toList_intercalate (c := '.') ?_
        (by simp)).trans ?_
    · intro t hMem hDot
      rcases List.mem_map.1 hMem with ⟨shift, -, rfl⟩
      have hDigit :=
        Nat.isDigit_of_mem_toDigits (by omega) (by omega)
          (Nat.toList_repr ▸ hDot)
      exact absurd hDigit (by decide)
    · simp only [List.map_map]
      exact List.map_congr_left (fun _ _ => Nat.toList_repr)
  unfold v4Bits?
  rw [hParts]
  simp only [List.map_cons, List.map_nil, List.mapM_cons,
    List.mapM_nil,
    octet?_toDigits (Nat.mod_lt _ (by omega : 256 > 0)),
    Option.pure_def, Option.bind_eq_bind,
    Option.bind_some]
  rw [Option.some.injEq]
  apply BitVec.eq_of_toNat_eq
  have hFits := bits.isLt
  simp only [BitVec.toNat_ofNat, BitVec.toNat_ushiftRight,
    Nat.shiftRight_eq_div_pow]
  omega

end IpAddress

------------------------------------------------------------
-- Hextets
------------------------------------------------------------

namespace IpAddress

theorem isHexDigit_digitChar
    {n : Nat}
    (hDigit : n < 16) :
    isHexDigit (Nat.digitChar n) ∧
      hexDigitValue (Nat.digitChar n) = n := by
  have hAll :
      ∀ n < 16, isHexDigit (Nat.digitChar n) ∧
        hexDigitValue (Nat.digitChar n) = n := by
    decide
  exact hAll n hDigit

theorem isHexDigit_of_mem_toDigits
    {n : Nat}
    {c : Char}
    (hMem : c ∈ Nat.toDigits 16 n) :
    isHexDigit c := by
  induction n using Nat.strongRecOn with
  | ind n ih =>
      rw [Nat.toDigits_eq_if (by omega)] at hMem
      split at hMem
      · rename_i hSmall
        rw [List.mem_singleton.1 hMem]
        exact (isHexDigit_digitChar hSmall).1
      · rcases List.mem_append.1 hMem with hHigh | hLow
        · exact ih (n / 16) (by omega) hHigh
        · rw [List.mem_singleton.1 hLow]
          exact
            (isHexDigit_digitChar
              (Nat.mod_lt n (by omega))).1

theorem ofDigitChars_toDigits
    (n : Nat) :
    ofDigitChars 16 hexDigitValue (Nat.toDigits 16 n) =
      n := by
  induction n using Nat.strongRecOn with
  | ind n ih =>
      rw [Nat.toDigits_eq_if (by omega)]
      split
      · rename_i hSmall
        simp [ofDigitChars, (isHexDigit_digitChar hSmall).2]
      · have hHigh := ih (n / 16) (by omega)
        have hLow :=
          (isHexDigit_digitChar (n.mod_lt (by omega))).2
        unfold ofDigitChars at hHigh ⊢
        rw [List.foldl_append, hHigh, List.foldl_cons,
          List.foldl_nil, hLow]
        omega

theorem hextet?_toDigits
    {h : Nat}
    (hFits : h < 65536) :
    hextet? (Nat.toDigits 16 h) = some h := by
  have hLength : (Nat.toDigits 16 h).length ≤ 4 :=
    (Nat.length_toDigits_le_iff (by omega) (by omega)).2
      (by omega)
  have hHex : (Nat.toDigits 16 h).all isHexDigit :=
    List.all_eq_true.2
      (fun _ => isHexDigit_of_mem_toDigits)
  unfold hextet?
  rw [if_pos ⟨Nat.toDigits_ne_nil, hHex, hLength⟩,
    ofDigitChars_toDigits]

/- The texts of hextets. -/
def hextetTexts (hextets : List Nat) : List (List Char) :=
  hextets.map (Nat.toDigits 16)

theorem mapM_hextet?
    {hextets : List Nat}
    (hFits : ∀ h ∈ hextets, h < 65536) :
    (hextetTexts hextets).mapM hextet? = some hextets := by
  unfold hextetTexts
  induction hextets with
  | nil => rfl
  | cons h hs ih =>
      rw [List.map_cons, List.mapM_cons,
        hextet?_toDigits (hFits h (by simp)),
        ih (fun x hMem => hFits x (by simp [hMem]))]
      rfl

theorem ne_nil_of_mem_hextetTexts
    {hextets : List Nat}
    {t : List Char}
    (hMem : t ∈ hextetTexts hextets) :
    t ≠ [] := by
  rcases List.mem_map.1 hMem with ⟨h, -, rfl⟩
  exact Nat.toDigits_ne_nil

theorem hextetsOf_lt
    (bits : BitVec 128) :
    ∀ h ∈ hextetsOf bits, h < 65536 := by
  intro h hMem
  rcases List.mem_map.1 hMem with ⟨shift, -, rfl⟩
  exact Nat.mod_lt _ (by omega)

theorem length_hextetsOf
    (bits : BitVec 128) :
    (hextetsOf bits).length = 8 := by
  simp [hextetsOf]

/- The hextets down to a place, and the next one. -/
theorem div_two_pow_step
    (n shift : Nat) :
    65536 * (n / 2 ^ (shift + 16)) + n / 2 ^ shift % 65536 =
      n / 2 ^ shift := by
  rw [pow_add, ← Nat.div_div_eq_div_mul]
  exact Nat.div_add_mod (n / 2 ^ shift) (2 ^ 16)

/- The hextets determine the bits. -/
theorem ofNat_hextetsOf
    (bits : BitVec 128) :
    BitVec.ofNat 128
        ((hextetsOf bits).foldl
          (fun n h => 65536 * n + h) 0) =
      bits := by
  apply BitVec.eq_of_toNat_eq
  have hFits := bits.isLt
  have hFirst :
      bits.toNat / 2 ^ 112 % 65536 = bits.toNat / 2 ^ 112 :=
    Nat.mod_eq_of_lt (by omega)
  have hStep := div_two_pow_step bits.toNat
  simp only [hextetsOf, List.map_cons, List.map_nil,
    List.foldl_cons, List.foldl_nil, BitVec.toNat_ofNat,
    BitVec.toNat_ushiftRight, Nat.shiftRight_eq_div_pow]
  rw [Nat.mul_zero, Nat.zero_add, hFirst, hStep 96,
    hStep 80, hStep 64, hStep 48, hStep 32, hStep 16,
    hStep 0, Nat.pow_zero, Nat.div_one,
    Nat.mod_eq_of_lt hFits]

end IpAddress

------------------------------------------------------------
-- Runs Of Zeros
------------------------------------------------------------

namespace IpAddress

/- The runs are of zeros that have been read. -/
structure ZeroRun.Reads
    (run : ZeroRun)
    (read : List Nat) : Prop where
  best_le : run.bestStart + run.bestLen ≤ read.length
  best_zero :
    ∀ i, run.bestStart ≤ i →
      i < run.bestStart + run.bestLen → read[i]? = some 0
  end_eq : run.len ≠ 0 → run.start + run.len = read.length
  zero :
    ∀ i, run.start ≤ i → i < run.start + run.len →
      read[i]? = some 0

theorem ZeroRun.Reads.step
    {run : ZeroRun}
    {read : List Nat}
    (hReads : run.Reads read)
    (h : Nat) :
    (run.step (h, read.length)).Reads (read ++ [h]) := by
  have hOld :
      ∀ i : Nat, read[i]? = some 0 →
        (read ++ [h])[i]? = some 0 := by
    intro i hZero
    rw [List.getElem?_append_left
      (List.getElem?_eq_some_iff.1 hZero).1]
    exact hZero
  have hBest :=
    fun i hLow hHigh => hOld i (hReads.best_zero i hLow hHigh)
  have hLength : (read ++ [h]).length = read.length + 1 := by
    simp
  have hBestLe :
      run.bestStart + run.bestLen ≤ (read ++ [h]).length :=
    hReads.best_le.trans (by omega)
  unfold ZeroRun.step
  simp only
  split
  · rename_i hZero
    -- The run that ends with this zero.
    have hRun :
        ∀ start,
          start = (if run.len = 0 then read.length
            else run.start) →
          start + (run.len + 1) = (read ++ [h]).length ∧
            ∀ i, start ≤ i → i < start + (run.len + 1) →
              (read ++ [h])[i]? = some 0 := by
      rintro start rfl
      have hLast : (read ++ [h])[read.length]? = some 0 := by
        simp [hZero]
      split
      · rename_i hEmpty
        refine ⟨by omega, ?_⟩
        intro i hLow hHigh
        have hHere : i = read.length := by
          omega
        rw [hHere]
        exact hLast
      · rename_i hSome
        have hEnd := hReads.end_eq hSome
        refine ⟨by omega, ?_⟩
        intro i hLow hHigh
        by_cases hHere : i = read.length
        · rw [hHere]
          exact hLast
        · exact hOld i (hReads.zero i hLow (by omega))
    rcases hRun _ rfl with ⟨hEnd, hZeros⟩
    split
    · exact ⟨hEnd.le, hZeros, fun _ => hEnd, hZeros⟩
    · exact ⟨hBestLe, hBest, fun _ => hEnd, hZeros⟩
  · refine ⟨hBestLe, hBest, fun hSome => ?_, ?_⟩
    · exact absurd rfl hSome
    · intro i hLow hHigh
      exact absurd hLow (Nat.not_le.2 hHigh)

theorem ZeroRun.Reads.foldl
    {run : ZeroRun}
    {read : List Nat}
    (hReads : run.Reads read)
    (rest : List Nat) :
    ((rest.zipIdx read.length).foldl ZeroRun.step run).Reads
      (read ++ rest) := by
  induction rest generalizing run read with
  | nil => simpa using hReads
  | cons h hs ih =>
      have hNext := ih (hReads.step h)
      rw [List.length_append, List.length_singleton,
        List.append_assoc, List.singleton_append] at hNext
      exact hNext

/- The best run of some hextets. -/
def zeroRun (hextets : List Nat) : ZeroRun :=
  hextets.zipIdx.foldl ZeroRun.step ⟨0, 0, 0, 0⟩

theorem reads_zeroRun
    (hextets : List Nat) :
    (zeroRun hextets).Reads hextets := by
  have hStart : ZeroRun.Reads ⟨0, 0, 0, 0⟩ [] :=
    ⟨by simp, by simp, by simp, by simp⟩
  exact hStart.foldl hextets

/- Only zeros are left out around the best run. -/
theorem zeros_of_zeroRun
    (hextets : List Nat) :
    hextets.take (zeroRun hextets).bestStart ++
        List.replicate (zeroRun hextets).bestLen 0 ++
        hextets.drop
          ((zeroRun hextets).bestStart +
            (zeroRun hextets).bestLen) =
      hextets := by
  have hReads := reads_zeroRun hextets
  generalize zeroRun hextets = run at hReads ⊢
  have hZeros :
      (hextets.drop run.bestStart).take run.bestLen =
        List.replicate run.bestLen 0 := by
    apply List.ext_getElem?
    intro i
    rw [List.getElem?_take, List.getElem?_drop,
      List.getElem?_replicate]
    split
    · rename_i hInside
      exact
        hReads.best_zero _ (by omega) (by omega)
    · rfl
  rw [← hZeros, ← List.drop_drop, List.append_assoc,
    List.take_append_drop, List.take_append_drop]

end IpAddress

------------------------------------------------------------
-- Parts Between Colons
------------------------------------------------------------

namespace IpAddress

/- What is written for one side of the skipped hextets: an
   empty part for no hextets. -/
def sideParts (side : List (List Char)) : List (List Char) :=
  if side = [] then [[]] else side

theorem sideParts_ne_nil
    (side : List (List Char)) :
    sideParts side ≠ [] := by
  unfold sideParts
  split
  · simp
  · assumption

section Sides

variable {side : List (List Char)}
variable (hFull : ∀ t ∈ side, t ≠ [])

include hFull

theorem sideOf_head
    (rest : List (List Char)) :
    sideOf (sideParts side ++ rest).head? (sideParts side) =
      some side := by
  unfold sideParts
  split
  · rename_i hEmpty
    simp [sideOf, hEmpty]
  · rename_i hSome
    rcases List.exists_cons_of_ne_nil hSome with
      ⟨t, ts, rfl⟩
    simp [sideOf, hFull t (by simp)]

theorem sideOf_getLast
    (before : List (List Char)) :
    sideOf (before ++ sideParts side).getLast?
        (sideParts side) =
      some side := by
  rw [List.getLast?_append_of_ne_nil _
    (sideParts_ne_nil side)]
  unfold sideParts
  split
  · rename_i hEmpty
    simp [sideOf, hEmpty]
  · rename_i hSome
    have hLast :=
      hFull (side.getLast hSome) (List.getLast_mem hSome)
    rw [List.getLast?_eq_some_getLast hSome, sideOf,
      if_neg (by simpa using hLast)]

/- An empty part on a side is its only one. -/
theorem getElem?_sideParts_of_empty
    {i : Nat}
    (hEmpty : (sideParts side)[i]? = some []) :
    i = 0 ∧ (sideParts side).length = 1 := by
  unfold sideParts at hEmpty ⊢
  split at hEmpty
  · rename_i hNil
    have hInside := (List.getElem?_eq_some_iff.1 hEmpty).1
    rw [List.length_singleton] at hInside
    exact ⟨by omega, by simp [hNil]⟩
  · exact absurd rfl (hFull [] (List.mem_of_getElem? hEmpty))

end Sides

theorem filter_range_eq_singleton
    {p : Nat → Bool}
    {n k : Nat}
    (hInside : k < n)
    (hHolds : p k)
    (hOnly : ∀ i < n, p i → i = k) :
    (List.range n).filter p = [k] := by
  apply List.perm_singleton.1
  refine
    (List.perm_ext_iff_of_nodup
      (List.nodup_range.filter p)
      (by simp : [k].Nodup)).2 ?_
  intro i
  rw [List.mem_filter, List.mem_range, List.mem_singleton]
  constructor
  · exact fun hBoth => hOnly i hBoth.1 hBoth.2
  · rintro rfl
    exact ⟨hInside, hHolds⟩

/- Between its sides, the empty part is the only skip. -/
theorem skips_sideParts
    {before after : List (List Char)}
    (hBefore : ∀ t ∈ before, t ≠ [])
    (hAfter : ∀ t ∈ after, t ≠ []) :
    skips (sideParts before ++ [] :: sideParts after) =
      [(sideParts before).length] := by
  have hLeft :=
    List.length_pos_of_ne_nil (sideParts_ne_nil before)
  have hRight :=
    List.length_pos_of_ne_nil (sideParts_ne_nil after)
  have hLength :
      (sideParts before ++ [] :: sideParts after).length =
        (sideParts before).length +
          ((sideParts after).length + 1) := by
    simp
  unfold skips
  apply filter_range_eq_singleton
  · omega
  · simp only [hLength, Bool.and_eq_true,
      decide_eq_true_eq]
    exact ⟨⟨hLeft, by omega⟩, by simp⟩
  · intro i hInside hSkip
    rw [hLength] at hInside
    simp only [hLength, Bool.and_eq_true,
      decide_eq_true_eq] at hSkip
    rcases hSkip with ⟨⟨hFirst, hLast⟩, hEmpty⟩
    by_contra hOther
    rcases Nat.lt_or_gt_of_ne hOther with hLow | hHigh
    · rw [List.getElem?_append_left hLow] at hEmpty
      have hZero :=
        (getElem?_sideParts_of_empty hBefore hEmpty).1
      omega
    · have hBehind :
          (sideParts after)[
              i - (sideParts before).length - 1]? =
            some [] := by
        rw [List.getElem?_append_right hHigh.le,
          List.getElem?_cons, if_neg (by omega)] at hEmpty
        exact hEmpty
      have hOne := getElem?_sideParts_of_empty hAfter hBehind
      omega

/- The hextets around an empty part are read back. -/
theorem hextets?_sideParts
    {before after : List Nat}
    (hBefore : ∀ h ∈ before, h < 65536)
    (hAfter : ∀ h ∈ after, h < 65536)
    (hRoom : before.length + after.length < 7) :
    hextets?
        (sideParts (hextetTexts before) ++
          [] :: sideParts (hextetTexts after)) =
      some
        (before ++
          List.replicate
            (8 - (before.length + after.length)) 0 ++
          after) := by
  have hFullBefore :
      ∀ t ∈ hextetTexts before, t ≠ [] :=
    fun _ => ne_nil_of_mem_hextetTexts
  have hFullAfter :
      ∀ t ∈ hextetTexts after, t ≠ [] :=
    fun _ => ne_nil_of_mem_hextetTexts
  have hSide :
      ∀ hs : List Nat,
        (sideParts (hextetTexts hs)).length ≤
          hs.length + (if hs = [] then 1 else 0) := by
    intro hs
    cases hs with
    | nil => simp [sideParts, hextetTexts]
    | cons h hs => simp [sideParts, hextetTexts]
  have hTexts :
      ∀ hs : List Nat, (hextetTexts hs).length = hs.length :=
    fun hs => List.length_map _
  have hShort :
      ¬ 9 <
        (sideParts (hextetTexts before) ++
          [] :: sideParts (hextetTexts after)).length := by
    have hLeft := hSide before
    have hRight := hSide after
    rw [List.length_append, List.length_cons]
    split at hLeft <;> split at hRight <;> simp_all <;> omega
  have hHead :=
    sideOf_head hFullBefore
      ([] :: sideParts (hextetTexts after))
  have hLast :=
    sideOf_getLast hFullAfter
      (sideParts (hextetTexts before) ++ [[]])
  rw [List.append_assoc, List.singleton_append] at hLast
  have hDrop :
      (sideParts (hextetTexts before) ++
          [] :: sideParts (hextetTexts after)).drop
          ((sideParts (hextetTexts before)).length + 1) =
        sideParts (hextetTexts after) := by
    rw [List.drop_append, List.drop_eq_nil_of_le (by omega)]
    simp
  have hSome :
      ¬ 8 - (before.length + after.length) < 1 := by
    omega
  unfold hextets?
  rw [if_neg hShort,
    skips_sideParts hFullBefore hFullAfter]
  simp only [List.take_left', hDrop, hHead, hLast, hTexts,
    Option.bind_eq_bind, Option.bind_some, if_neg hSome,
    mapM_hextet? hBefore, mapM_hextet? hAfter]

theorem hextets?_hextetTexts
    {hextets : List Nat}
    (hEight : hextets.length = 8)
    (hFits : ∀ h ∈ hextets, h < 65536) :
    hextets? (hextetTexts hextets) = some hextets := by
  have hLength : (hextetTexts hextets).length = 8 :=
    (List.length_map _).trans hEight
  have hSkips : skips (hextetTexts hextets) = [] := by
    apply List.filter_eq_nil_iff.2
    intro i _ hSkip
    simp only [Bool.and_eq_true, decide_eq_true_eq] at hSkip
    exact
      ne_nil_of_mem_hextetTexts
        (List.mem_of_getElem? hSkip.2) rfl
  unfold hextets?
  rw [if_neg (by omega), hSkips]
  simp only [if_pos hLength, mapM_hextet? hFits]

end IpAddress

------------------------------------------------------------
-- Texts Of Version 6
------------------------------------------------------------

namespace IpAddress

/- A skipped run stands between two sides. -/
theorem map_toList_compressHextets
    {hextets : List Nat}
    (hNonempty : hextets ≠ []) :
    (compressHextets hextets).map String.toList =
      let run := zeroRun hextets
      if 1 < run.bestLen then
        sideParts
            (hextetTexts (hextets.take run.bestStart)) ++
          [] :: sideParts
            (hextetTexts
              (hextets.drop (run.bestStart + run.bestLen)))
      else
        hextetTexts hextets := by
  have hBest := (reads_zeroRun hextets).best_le
  have hTexts :
      (hextets.map (fun h =>
          String.ofList (Nat.toDigits 16 h))).map
            String.toList =
        hextetTexts hextets := by
    simp only [List.map_map, hextetTexts]
    exact
      List.map_congr_left (fun _ _ => String.toList_ofList)
  have hRun :
      hextets.zipIdx.foldl ZeroRun.step ⟨0, 0, 0, 0⟩ =
        zeroRun hextets :=
    rfl
  unfold compressHextets
  simp only [hRun]
  clear hRun
  generalize zeroRun hextets = run at hBest ⊢
  have hLeft :
      (if run.bestStart = 0 then [[]] else []) ++
          (hextetTexts hextets).take run.bestStart =
        sideParts
          (hextetTexts (hextets.take run.bestStart)) := by
    unfold sideParts hextetTexts
    by_cases hStart : run.bestStart = 0
    · simp [hStart]
    · simp [hStart, hNonempty]
  have hRight :
      (hextetTexts hextets).drop
            (run.bestStart + run.bestLen) ++
          (if run.bestStart + run.bestLen =
              (hextetTexts hextets).length then
            [[]]
          else
            []) =
        sideParts
          (hextetTexts
            (hextets.drop
              (run.bestStart + run.bestLen))) := by
    unfold sideParts hextetTexts
    by_cases hEnd :
        run.bestStart + run.bestLen = hextets.length
    · simp [hEnd]
    · have hRest :
          ¬ hextets.length ≤ run.bestStart + run.bestLen := by
        omega
      simp [hEnd, hRest]
  rw [← hLeft, ← hRight, ← hTexts]
  split
  · simp only [List.map_append, List.map_take,
      List.map_drop, List.map_cons, List.map_nil,
      apply_ite (List.map String.toList), List.length_map,
      String.toList_empty, List.append_assoc,
      List.cons_append, List.nil_append]
  · rfl

section Hextets

variable {hextets : List Nat}
variable (hEight : hextets.length = 8)

include hEight

theorem ne_nil_of_eight : hextets ≠ [] :=
  List.ne_nil_of_length_pos (by omega)

/- The hextets are read back from their parts. -/
theorem hextets?_compressHextets
    (hFits : ∀ h ∈ hextets, h < 65536) :
    hextets? ((compressHextets hextets).map String.toList) =
      some hextets := by
  have hBest := (reads_zeroRun hextets).best_le
  have hZeros := zeros_of_zeroRun hextets
  rw [map_toList_compressHextets (ne_nil_of_eight hEight)]
  simp only
  split
  · rename_i hSkip
    generalize zeroRun hextets = run at *
    have hTake :
        (hextets.take run.bestStart).length =
          run.bestStart :=
      List.length_take_of_le (by omega)
    have hDrop :
        (hextets.drop
            (run.bestStart + run.bestLen)).length =
          8 - (run.bestStart + run.bestLen) := by
      rw [List.length_drop, hEight]
    rw [hextets?_sideParts
      (fun h hMem => hFits h (List.mem_of_mem_take hMem))
      (fun h hMem => hFits h (List.mem_of_mem_drop hMem))
      (by omega)]
    have hSkipped :
        8 - ((hextets.take run.bestStart).length +
            (hextets.drop
              (run.bestStart + run.bestLen)).length) =
          run.bestLen := by
      omega
    rw [hSkipped, hZeros]
  · exact hextets?_hextetTexts hEight hFits

theorem three_le_length_compressHextets :
    3 ≤ (compressHextets hextets).length := by
  rw [← List.length_map (f := String.toList),
    map_toList_compressHextets (ne_nil_of_eight hEight)]
  simp only
  split
  · have hLeft :=
      List.length_pos_of_ne_nil
        (sideParts_ne_nil
          (hextetTexts
            (hextets.take (zeroRun hextets).bestStart)))
    have hRight :=
      List.length_pos_of_ne_nil
        (sideParts_ne_nil
          (hextetTexts
            (hextets.drop
              ((zeroRun hextets).bestStart +
                (zeroRun hextets).bestLen))))
    rw [List.length_append, List.length_cons]
    omega
  · rw [hextetTexts, List.length_map]
    omega

/- Only hexadecimal digits stand between colons. -/
theorem isHexDigit_of_mem_compressHextets
    {t : String}
    (hPart : t ∈ compressHextets hextets)
    {c : Char}
    (hMem : c ∈ t.toList) :
    isHexDigit c := by
  have hSide :
      ∀ hs : List Nat, ∀ p ∈ sideParts (hextetTexts hs),
        ∀ c ∈ p, isHexDigit c := by
    intro hs p hSides c hChar
    unfold sideParts at hSides
    split at hSides
    · rw [List.mem_singleton.1 hSides] at hChar
      cases hChar
    · rcases List.mem_map.1 hSides with ⟨h, -, rfl⟩
      exact isHexDigit_of_mem_toDigits hChar
  have hParts :=
    List.mem_map_of_mem (f := String.toList) hPart
  rw [map_toList_compressHextets (ne_nil_of_eight hEight)]
    at hParts
  simp only at hParts
  split at hParts
  · rcases List.mem_append.1 hParts with hLeft | hRest
    · exact hSide _ _ hLeft c hMem
    · rcases List.mem_cons.1 hRest with hEmpty | hRight
      · rw [hEmpty] at hMem
        cases hMem
      · exact hSide _ _ hRight c hMem
  · rcases List.mem_map.1 hParts with ⟨h, -, hText⟩
    exact isHexDigit_of_mem_toDigits (hText ▸ hMem)

end Hextets

/- A separator or a sign is no hexadecimal digit. -/
theorem not_mem_part
    {bits : BitVec 128}
    {t : String}
    {c : Char}
    (hSign : isHexDigit c = false)
    (hPart : t ∈ compressHextets (hextetsOf bits)) :
    c ∉ t.toList := by
  intro hMem
  have hHex :=
    isHexDigit_of_mem_compressHextets
      (length_hextetsOf bits) hPart hMem
  rw [hSign] at hHex
  cases hHex

theorem mem_intercalate_singleton
    {c x : Char}
    {ps : List (List Char)}
    (hMem : c ∈ [x].intercalate ps) :
    c = x ∨ ∃ p ∈ ps, c ∈ p := by
  induction ps with
  | nil => cases hMem
  | cons p ps ih =>
      cases ps with
      | nil =>
          rw [List.intercalate_singleton] at hMem
          exact .inr ⟨p, by simp, hMem⟩
      | cons q qs =>
          rw [List.intercalate_cons_cons] at hMem
          simp only [List.mem_append, List.mem_singleton]
            at hMem
          rcases hMem with (hHead | hSeparator) | hTail
          · exact .inr ⟨p, by simp, hHead⟩
          · exact .inl hSeparator
          · rcases ih hTail with hSeparator | ⟨r, hRest, hIn⟩
            · exact .inl hSeparator
            · exact
                .inr
                  ⟨r, List.mem_cons_of_mem p hRest, hIn⟩

theorem mem_v6Text
    {bits : BitVec 128}
    {c : Char}
    (hMem : c ∈ (v6Text bits).toList) :
    c = ':' ∨ isHexDigit c := by
  unfold v6Text at hMem
  rw [String.toList_intercalate] at hMem
  rcases mem_intercalate_singleton hMem with
    hColon | ⟨p, hPart, hIn⟩
  · exact .inl hColon
  · rcases List.mem_map.1 hPart with ⟨t, hText, rfl⟩
    exact
      .inr
        (isHexDigit_of_mem_compressHextets
          (length_hextetsOf bits) hText hIn)

theorem not_mem_v6Text
    {c : Char}
    (hColon : c ≠ ':')
    (hSign : isHexDigit c = false)
    (bits : BitVec 128) :
    c ∉ (v6Text bits).toList := by
  intro hMem
  rcases mem_v6Text hMem with hEq | hHex
  · exact hColon hEq
  · rw [hSign] at hHex
    cases hHex

theorem v6Bits?_v6Text
    (bits : BitVec 128) :
    v6Bits? (v6Text bits).toList = some bits := by
  have hEight := length_hextetsOf bits
  have hThree := three_le_length_compressHextets hEight
  have hNonempty : compressHextets (hextetsOf bits) ≠ [] :=
    List.ne_nil_of_length_pos (by omega)
  have hSplit :
      (v6Text bits).toList.splitOn ':' =
        (compressHextets (hextetsOf bits)).map
          String.toList :=
    splitOn_toList_intercalate (c := ':')
      (fun _ => not_mem_part (by decide)) hNonempty
  have hLast :=
    List.getLast?_eq_some_getLast (l :=
      (compressHextets (hextetsOf bits)).map String.toList)
      (by simpa using hNonempty)
  have hDot :
      '.' ∉
        ((compressHextets (hextetsOf bits)).map
          String.toList).getLast
            (by simpa using hNonempty) := by
    rw [List.getLast_map]
    exact
      not_mem_part (by decide) (List.getLast_mem hNonempty)
  have hParts :
      v6Parts? (v6Text bits).toList =
        some
          ((compressHextets (hextetsOf bits)).map
            String.toList) := by
    unfold v6Parts?
    rw [hSplit]
    simp only [List.length_map, hLast, if_neg hDot]
    exact if_neg (by omega)
  rw [v6Bits?, hParts, Option.bind_some,
    hextets?_compressHextets hEight (hextetsOf_lt bits),
    Option.map_some, ofNat_hextetsOf]

end IpAddress

------------------------------------------------------------
-- Round Trips
------------------------------------------------------------

namespace IpAddress

/- The name of the zone has no sign of another part. -/
def ScopeIsPlain : IpAddress → Prop
| .v4 _ => True
| .v6 _ none => True
| .v6 _ (some scope) =>
    '%' ∉ scope.name.toList ∧ '/' ∉ scope.name.toList

theorem mapM_eq_none
    {α β : Type}
    {f : α → Option β}
    {xs : List α}
    {x : α}
    (hMem : x ∈ xs)
    (hNone : f x = none) :
    xs.mapM f = none := by
  induction xs with
  | nil => cases hMem
  | cons y ys ih =>
      rw [List.mapM_cons]
      rcases List.mem_cons.1 hMem with rfl | hRest
      · rw [hNone]
        rfl
      · rw [ih hRest]
        cases f y <;> rfl

theorem v4Bits?_of_colon
    {cs : List Char}
    (hColon : ':' ∈ cs) :
    v4Bits? cs = none := by
  have hJoined : ['.'].intercalate (cs.splitOn '.') = cs :=
    List.intercalate_splitOn '.'
  rw [← hJoined] at hColon
  rcases mem_intercalate_singleton hColon with
    hDot | ⟨p, hMem, hIn⟩
  · exact absurd hDot (by decide)
  · have hOctet : octet? p = none := by
      unfold octet?
      apply if_neg
      intro hBoth
      have hDigit := List.all_eq_true.1 hBoth.2.1 ':' hIn
      exact absurd hDigit (by decide)
    rw [v4Bits?, mapM_eq_none hMem hOctet]

theorem scope?_name
    {scope : IpScope}
    (hPercent : '%' ∉ scope.name.toList) :
    scope? ('%' :: scope.name.toList) = some (some scope) := by
  cases scope with
  | mk name hNonempty =>
      cases hName : name.toList with
      | nil =>
          exact
            absurd (String.toList_eq_nil_iff.1 hName) hNonempty
      | cons c cs =>
          simp only at hPercent
          simp only [scope?, ← hName, if_neg hPercent,
            String.ofList_toList]

/- The sign of a zone ends the text of the bits. -/
theorem v6?_append
    {bits : BitVec 128}
    {zone : List Char}
    {scope : Option IpScope}
    (hSign : zone = [] ∨ zone.head? = some '%')
    (hSlash : '/' ∉ zone)
    (hScope : scope? zone = some scope) :
    v6? ((v6Text bits).toList ++ zone) =
      some (.v6 bits scope) := by
  have hBits :
      ∀ c ∈ (v6Text bits).toList, decide (c ≠ '%') := by
    intro c hMem
    rw [decide_eq_true_iff]
    rintro rfl
    exact
      not_mem_v6Text (by decide) (by decide) bits hMem
  have hZone :
      zone.takeWhile (· ≠ '%') = [] ∧
        zone.dropWhile (· ≠ '%') = zone := by
    cases zone with
    | nil => exact ⟨rfl, rfl⟩
    | cons c cs =>
        have hHead : c = '%' := by
          simpa using hSign
        rw [hHead]
        exact ⟨rfl, rfl⟩
  have hNoSlash :
      '/' ∉ (v6Text bits).toList ++ zone := by
    rw [List.mem_append, not_or]
    exact
      ⟨not_mem_v6Text (by decide) (by decide) bits, hSlash⟩
  unfold v6?
  rw [if_neg hNoSlash, List.dropWhile_append_of_pos hBits,
    List.takeWhile_append_of_pos hBits, hZone.1, hZone.2,
    List.append_nil, hScope, v6Bits?_v6Text]
  rfl

/- An address is read back from its text. -/
theorem ofText?_text
    {a : IpAddress}
    (hPlain : a.ScopeIsPlain) :
    ofText? a.text = some a := by
  unfold ofText?
  cases a with
  | v4 bits => rw [text, v4Bits?_v4Text]
  | v6 bits scope =>
      have hColon :
          ':' ∈ (v6 bits scope).text.toList := by
        rw [text, String.toList_append]
        exact List.mem_append_left _ (colon_mem_v6Text bits)
      rw [v4Bits?_of_colon hColon]
      simp only [text, String.toList_append]
      cases scope with
      | none =>
          exact v6?_append (.inl rfl) (by simp [scopeText]) rfl
      | some scope =>
          rcases hPlain with ⟨hPercent, hSlash⟩
          have hZone :
              (scopeText (some scope)).toList =
                '%' :: scope.name.toList := by
            rw [scopeText, String.toList_append]
            rfl
          rw [hZone]
          apply v6?_append (.inr rfl)
          · simpa using hSlash
          · exact scope?_name hPercent

/- Equal texts are of equal addresses. -/
theorem text_inj
    {a b : IpAddress}
    (hLeft : a.ScopeIsPlain)
    (hRight : b.ScopeIsPlain) :
    a.text = b.text ↔ a = b := by
  constructor
  · intro hEq
    have hRead := ofText?_text hLeft
    rw [hEq, ofText?_text hRight] at hRead
    exact (Option.some.inj hRead).symm
  · intro hEq
    rw [hEq]

theorem plain_of_scope?
    {cs : List Char}
    {scope : IpScope}
    (hSlash : '/' ∉ cs)
    (hScope : scope? cs = some (some scope)) :
    '%' ∉ scope.name.toList ∧ '/' ∉ scope.name.toList := by
  unfold scope? at hScope
  split at hScope
  · cases hScope
  · cases hScope
  · split at hScope
    · cases hScope
    · rename_i hPercent
      cases hScope
      rw [String.toList_ofList]
      exact
        ⟨hPercent,
          fun hMem =>
            hSlash (List.mem_cons_of_mem _ hMem)⟩

/- The zone that is read has a plain name. -/
theorem scopeIsPlain_of_ofText?
    {s : String}
    {a : IpAddress}
    (hRead : ofText? s = some a) :
    a.ScopeIsPlain := by
  unfold ofText? at hRead
  split at hRead
  · cases hRead
    trivial
  · unfold v6? at hRead
    split at hRead
    · cases hRead
    · rename_i hSlash
      cases hScope :
          scope? (s.toList.dropWhile (· ≠ '%')) with
      | none =>
          rw [hScope] at hRead
          cases hRead
      | some scope =>
          rw [hScope] at hRead
          cases hBits :
              v6Bits? (s.toList.takeWhile (· ≠ '%')) with
          | none =>
              rw [hBits] at hRead
              cases hRead
          | some bits =>
              rw [hBits] at hRead
              cases hRead
              cases scope with
              | none => trivial
              | some scope =>
                  refine plain_of_scope? ?_ hScope
                  exact
                    fun hMem =>
                      hSlash
                        ((List.dropWhile_sublist _).subset
                          hMem)

theorem scopeIsPlain_networkAddress
    {a : IpAddress}
    (hPlain : a.ScopeIsPlain)
    (len : Nat) :
    (a.networkAddress len).ScopeIsPlain := by
  cases a with
  | v4 bits => trivial
  | v6 bits scope =>
      unfold networkAddress
      simp only
      split
      · exact hPlain
      · trivial

end IpAddress
