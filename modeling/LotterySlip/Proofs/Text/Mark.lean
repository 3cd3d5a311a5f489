import LotterySlip.Proofs.Text.Fold

/-! Marks fold to nothing: a mark that decomposes comes to marks. -/
namespace LotterySlip.Text

theorem exists_of_runValue?_eq_some {α : Type} {rows : List (Nat × List α)} {n : Nat} {v : α}
    (h : runValue? rows n = some v) :
    ∃ row ∈ rows, v ∈ row.2 ∧ row.1 ≤ n ∧ n < row.1 + row.2.length := by
  obtain ⟨row, hrow, hv⟩ := List.exists_of_findSome?_eq_some h
  split at hv
  · next hle =>
    obtain ⟨hlt, -⟩ := List.getElem?_eq_some_iff.mp hv
    exact ⟨row, hrow, List.mem_of_getElem? hv, hle, by omega⟩
  · cases hv

/-- A set of numbers as the binary digits of one number. Whether it holds a number is seen without
going through the others. -/
def bitset (ns : List Nat) : Nat := ns.foldl (fun bits n => bits ||| 1 <<< n) 0

theorem testBit_foldl {ns : List Nat} {bits n : Nat} :
    (ns.foldl (fun bits n => bits ||| 1 <<< n) bits).testBit n = true ↔
      bits.testBit n = true ∨ n ∈ ns := by
  induction ns generalizing bits with
  | nil => simp
  | cons m ns ih =>
    rw [List.foldl_cons, ih, Nat.testBit_or, Bool.or_eq_true, Nat.one_shiftLeft,
      Nat.testBit_two_pow, decide_eq_true_iff, or_assoc, List.mem_cons, eq_comm (a := m)]

theorem testBit_bitset {ns : List Nat} {n : Nat} : (bitset ns).testBit n = true ↔ n ∈ ns := by
  rw [bitset, testBit_foldl, Nat.zero_testBit, or_iff_right Bool.false_ne_true]

theorem notMem_of_testBit_bitset {ns : List Nat} {n : Nat} (h : (!(bitset ns).testBit n) = true) :
    n ∉ ns := by
  rw [Bool.not_eq_true', ← Bool.not_eq_true, testBit_bitset] at h
  exact h

def rowCodes {α : Type} (rows : List (Nat × List α)) : List Nat :=
  rows.flatMap fun row => List.range' row.1 row.2.length

theorem runValue?_eq_none_iff {α : Type} {rows : List (Nat × List α)} {n : Nat} :
    runValue? rows n = none ↔ n ∉ rowCodes rows := by
  constructor
  · intro h hn
    obtain ⟨row, hrow, hrange⟩ := List.mem_flatMap.mp hn
    rw [List.mem_range'_1] at hrange
    have hnone := List.findSome?_eq_none_iff.mp h row hrow
    rw [if_pos hrange.1, List.getElem?_eq_none_iff] at hnone
    omega
  · intro h
    rw [Option.eq_none_iff_forall_not_mem]
    intro v hv
    obtain ⟨row, hrow, -, hle, hlt⟩ := exists_of_runValue?_eq_some hv
    exact h (List.mem_flatMap.mpr ⟨row, hrow, List.mem_range'_1.mpr ⟨hle, hlt⟩⟩)

def markCodes : List Nat :=
  markRanges.flatMap fun range => List.range' range.1 (range.2 + 1 - range.1)

theorem isMark_iff {c : Char} : isMark c = true ↔ c.toNat ∈ markCodes := by
  simp only [isMark, markCodes, List.any_eq_true, List.mem_flatMap, Bool.and_eq_true,
    decide_eq_true_eq, List.mem_range'_1]
  constructor
  · rintro ⟨range, hrange, hl, hu⟩
    exact ⟨range, hrange, hl, by omega⟩
  · rintro ⟨range, hrange, hl, hu⟩
    exact ⟨range, hrange, hl, by omega⟩

/-- No run of marks reaches into the Korean syllables or the numbers behind them that are no code
points, and none holds a blank. -/
theorem markRanges_apart : ∀ range ∈ markRanges,
    (range.2 < 0xAC00 ∨ (0xDFFF < range.1 ∧ range.2 < 0x110000)) ∧
      ∀ n ∈ blankCodes, n < range.1 ∨ range.2 < n := by
  have h : markRanges.all (fun range =>
      (range.2.blt 0xAC00 || (Nat.blt 0xDFFF range.1 && range.2.blt 0x110000)) &&
        blankCodes.all fun n => n.blt range.1 || range.2.blt n) = true := by decide +kernel
  simpa only [List.all_eq_true, Bool.and_eq_true, Bool.or_eq_true, Nat.blt_eq] using h

theorem of_mem_markCodes {n : Nat} (h : n ∈ markCodes) :
    (n < 0xAC00 ∨ (0xDFFF < n ∧ n < 0x110000)) ∧ n ∉ blankCodes := by
  obtain ⟨range, hrange, hn⟩ := List.mem_flatMap.mp h
  rw [List.mem_range'_1] at hn
  obtain ⟨hscripts, hblanks⟩ := markRanges_apart range hrange
  refine ⟨by omega, fun hb => ?_⟩
  have hapart := hblanks n hb
  omega

theorem isMark_ofNat {n : Nat} (h : n ∈ markCodes) : isMark (Char.ofNat n) = true := by
  have hvalid : n.isValidChar := by
    have hn := (of_mem_markCodes h).1
    omega
  have hself : (Char.ofNat n).toNat = n := congrArg Char.toNat (dif_pos hvalid)
  rwa [isMark_iff, hself]

def apartFromMarks (first last : Nat) : Bool :=
  (markRanges.find? fun range => first ≤ range.2).all fun range => last ≤ range.1

theorem pairwise_markRanges : markRanges.Pairwise fun r s => r.1 ≤ s.1 := by
  have hchain : (markRanges.map Prod.fst).IsChain (· ≤ ·) := by decide +kernel
  exact List.pairwise_map.mp (List.isChain_iff_pairwise.mp hchain)

theorem isMark_of_apartFromMarks {first last : Nat} (h : apartFromMarks first last = true) {c : Char}
    (hf : first ≤ c.toNat) (hl : c.toNat < last) : isMark c = false := by
  rw [isMark, List.any_eq_false]
  intro range hr hc
  simp only [Bool.and_eq_true, decide_eq_true_eq] at hc
  obtain ⟨s, hs⟩ : ∃ s, markRanges.find? (fun range => first ≤ range.2) = some s := by
    rw [← Option.isSome_iff_exists, List.find?_isSome]
    exact ⟨range, hr, decide_eq_true (by omega)⟩
  have hsl : last ≤ s.1 := by simpa [apartFromMarks, hs] using h
  obtain ⟨-, before, behind, hsplit, hbefore⟩ := List.find?_eq_some_iff_append.mp hs
  have hpair := pairwise_markRanges
  rw [hsplit, List.pairwise_append, List.pairwise_cons] at hpair
  rw [hsplit, List.mem_append, List.mem_cons] at hr
  rcases hr with hr | rfl | hr
  · have := hbefore range hr
    simp only [Bool.not_eq_true', decide_eq_false_iff_not] at this
    omega
  · omega
  · have := hpair.2.1.1 range hr
    omega

/-- A mark that decomposes stands in rows of marks. -/
theorem isMark_of_mem_letters {c : Char} {ns : List Nat} (hc : isMark c = true)
    (h : runValue? Decomposition.letters c.toNat = some ns) :
    ∀ n ∈ ns, isMark (Char.ofNat n) = true := by
  have hrows : Decomposition.letters.all (fun row =>
      ((List.range' row.1 row.2.length).all fun n => !(bitset markCodes).testBit n) ||
        row.2.all fun ns => ns.all fun n => (bitset markCodes).testBit n) = true := by
    decide +kernel
  obtain ⟨row, hrow, hns, hle, hlt⟩ := exists_of_runValue?_eq_some h
  have hone := List.all_eq_true.mp hrows row hrow
  rw [Bool.or_eq_true, List.all_eq_true, List.all_eq_true] at hone
  rcases hone with hapart | hmarks
  · have hnot := hapart c.toNat (List.mem_range'_1.mpr ⟨hle, hlt⟩)
    exact absurd (isMark_iff.mp hc) (notMem_of_testBit_bitset hnot)
  · intro n hn
    exact isMark_ofNat (testBit_bitset.mp (List.all_eq_true.mp (hmarks ns hns) n hn))

theorem runValue?_ideographs_of_isMark {c : Char} (hc : isMark c = true) :
    runValue? Decomposition.ideographs c.toNat = none := by
  have hrows : ∀ row ∈ Decomposition.ideographs,
      apartFromMarks row.1 (row.1 + row.2.length) = true := by decide +kernel
  rw [Option.eq_none_iff_forall_not_mem]
  intro n hn
  obtain ⟨row, hrow, -, hle, hlt⟩ := exists_of_runValue?_eq_some hn
  rw [isMark_of_apartFromMarks (hrows row hrow) hle hlt] at hc
  cases hc

theorem syllable?_of_isMark {c : Char} (hc : isMark c = true) :
    Decomposition.syllable? c.toNat = none := by
  have hn := (of_mem_markCodes (isMark_iff.mp hc)).1
  rw [Decomposition.syllable?, if_neg (by omega)]

theorem isMark_of_mem_decompose {c d : Char} (hc : isMark c = true) (hd : d ∈ decompose c) :
    isMark d = true := by
  simp only [decompose, Decomposition.codePoints?, syllable?_of_isMark hc,
    runValue?_ideographs_of_isMark hc, Option.map_none, Option.or_none] at hd
  split at hd
  · next ns hns =>
    obtain ⟨n, hn, rfl⟩ := List.mem_map.mp hd
    exact isMark_of_mem_letters hc hns n hn
  · obtain rfl := List.mem_singleton.mp hd
    exact hc

theorem foldChar_of_isMark {c : Char} (hc : isMark c = true) : foldChar c = [] := by
  have hnone : ((decompose c).filter fun d => !isMark d) = [] := by
    rw [List.filter_eq_nil_iff]
    intro d hd
    simp [isMark_of_mem_decompose hc hd]
  rw [foldChar, hnone, List.map_nil]

theorem isBlank_of_isMark {c : Char} (hc : isMark c = true) : isBlank c = false := by
  rw [← Bool.not_eq_true]
  exact fun hb => (of_mem_markCodes (isMark_iff.mp hc)).2 (toNat_mem_blankCodes hb)

end LotterySlip.Text
