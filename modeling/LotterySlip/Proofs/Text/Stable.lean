import LotterySlip.Proofs.Text.Mark

/-! What a text folds to is not folded any further. Of the steps of a fold none opens again what one
before it has closed: the parts of a decomposition have no decomposition, and a small letter has none
if its capital has none, is no mark and is no capital. The tables are compared row by row. -/
namespace LotterySlip.Text

open Decomposition

def apartFromRows {α : Type} (rows : List (Nat × List α)) (first last : Nat) : Bool :=
  rows.all fun row => last.ble row.1 || (row.1 + row.2.length).ble first

def apartFromScripts (first last : Nat) : Bool :=
  (last.ble 0xAC00 || Nat.ble 0xD7A4 first) && apartFromRows ideographs first last

theorem runValue?_of_apartFromRows {α : Type} {rows : List (Nat × List α)} {first last n : Nat}
    (h : apartFromRows rows first last = true) (hf : first ≤ n) (hl : n < last) :
    runValue? rows n = none := by
  rw [Option.eq_none_iff_forall_not_mem]
  intro v hv
  obtain ⟨row, hrow, -, hle, hlt⟩ := exists_of_runValue?_eq_some hv
  have hapart := List.all_eq_true.mp h row hrow
  rw [Bool.or_eq_true, Nat.ble_eq, Nat.ble_eq] at hapart
  omega

theorem codePoints?_eq_none {first last n : Nat} (hletters : runValue? letters n = none)
    (hscripts : apartFromScripts first last = true) (hf : first ≤ n) (hl : n < last) :
    codePoints? n = none := by
  rw [apartFromScripts, Bool.and_eq_true, Bool.or_eq_true, Nat.ble_eq, Nat.ble_eq] at hscripts
  have hsyllable : syllable? n = none := by
    rw [syllable?, if_neg (by omega)]
  rw [codePoints?, hletters, hsyllable, runValue?_of_apartFromRows hscripts.2 hf hl]
  rfl

def undecomposed : List (Nat × Nat) :=
  [(0, 0xC0), (0x1100, 0x11C3), (0x3400, 0xA000), (0x20000, 0x2F800)]

theorem codePoints?_of_mem_undecomposed (block : Nat × Nat) {n : Nat} (hb : block ∈ undecomposed)
    (hn : block.1 ≤ n ∧ n < block.2) : codePoints? n = none := by
  have hblocks : undecomposed.all (fun b =>
      apartFromRows letters b.1 b.2 && apartFromScripts b.1 b.2) = true := by decide +kernel
  have hapart := List.all_eq_true.mp hblocks block hb
  rw [Bool.and_eq_true] at hapart
  exact codePoints?_eq_none (runValue?_of_apartFromRows hapart.1 hn.1 hn.2) hapart.2 hn.1 hn.2

theorem codePoints?_of_lt {n : Nat} (h : n < 0xC0) : codePoints? n = none :=
  codePoints?_of_mem_undecomposed (0, 0xC0) (by decide) ⟨Nat.zero_le n, h⟩

theorem runValue?_letters_of_codePoints? {n : Nat} (h : codePoints? n = none) :
    runValue? letters n = none := by
  rw [codePoints?, Option.or_eq_none_iff] at h
  exact h.1

theorem decompose_of_codePoints? {c : Char} (h : codePoints? c.toNat = none) : decompose c = [c] := by
  rw [decompose, h]

/-- A number that is no code point gives the first character of all. -/
theorem toNat_ofNat_or (n : Nat) : (Char.ofNat n).toNat = n ∨ (Char.ofNat n).toNat = 0 := by
  by_cases h : n.isValidChar
  · exact Or.inl (congrArg Char.toNat (dif_pos h))
  · exact Or.inr (congrArg Char.toNat (dif_neg h))

def isLastPart (n : Nat) : Bool :=
  n.ble 0xBF || (Nat.ble 0x300 n && n.ble 0x36F) || !(bitset (rowCodes letters)).testBit n

theorem isLastPart_of_mem_letters : ∀ row ∈ letters, ∀ ns ∈ row.2, ∀ n ∈ ns,
    isLastPart n = true ∧ apartFromScripts n (n + 1) = true := by
  have h : letters.all (fun row => row.2.all fun ns => ns.all fun n =>
      isLastPart n && apartFromScripts n (n + 1)) = true := by decide +kernel
  simpa using h

theorem isMark_of_first {n : Nat} (hl : 0x300 ≤ n) (hu : n ≤ 0x36F) :
    isMark (Char.ofNat n) = true := by
  have hrange : (0x300, 0x36F) ∈ markRanges := List.mem_cons_self
  exact isMark_ofNat (List.mem_flatMap.mpr ⟨_, hrange, List.mem_range'_1.mpr ⟨hl, by omega⟩⟩)

theorem codePoints?_of_mem_letters {row : Nat × List (List Nat)} {ns : List Nat} {n : Nat}
    (hrow : row ∈ letters) (hns : ns ∈ row.2) (hn : n ∈ ns) (hm : isMark (Char.ofNat n) = false) :
    codePoints? n = none := by
  obtain ⟨hlast, hscripts⟩ := isLastPart_of_mem_letters row hrow ns hns n hn
  rw [isLastPart, Bool.or_eq_true, Bool.or_eq_true, Bool.and_eq_true, Nat.ble_eq, Nat.ble_eq,
    Nat.ble_eq] at hlast
  rcases hlast with (hlow | hmark) | hrows
  · exact codePoints?_of_lt (Nat.lt_succ_of_le hlow)
  · rw [isMark_of_first hmark.1 hmark.2] at hm
    cases hm
  · exact codePoints?_eq_none (runValue?_eq_none_iff.mpr (notMem_of_testBit_bitset hrows)) hscripts
      le_rfl (Nat.lt_succ_self n)

/-- The parts of a Korean syllable are letters of an alphabet of their own. -/
theorem codePoints?_of_mem_syllable {n k : Nat} {ns : List Nat} (h : syllable? k = some ns)
    (hn : n ∈ ns) : codePoints? n = none := by
  apply codePoints?_of_mem_undecomposed (0x1100, 0x11C3) (by decide)
  rw [syllable?] at h
  split at h
  · next hk =>
    rw [← Option.some.inj h] at hn
    split at hn
    · simp only [List.mem_cons, List.not_mem_nil, or_false] at hn
      omega
    · simp only [List.mem_cons, List.not_mem_nil, or_false] at hn
      omega
  · cases h

/-- The unified ideographs of the first plane and those of the second. -/
theorem mem_ideographs : ∀ row ∈ ideographs, ∀ n ∈ row.2,
    (0x3400 ≤ n ∧ n < 0xA000) ∨ (0x20000 ≤ n ∧ n < 0x2F800) := by
  have h : ideographs.all (fun row => row.2.all fun n =>
      (Nat.ble 0x3400 n && Nat.blt n 0xA000) || (Nat.ble 0x20000 n && Nat.blt n 0x2F800)) = true := by
    decide +kernel
  simpa only [List.all_eq_true, Bool.or_eq_true, Bool.and_eq_true, Nat.ble_eq, Nat.blt_eq] using h

theorem codePoints?_of_mem_ideographs {row : Nat × List Nat} {n : Nat} (hrow : row ∈ ideographs)
    (hn : n ∈ row.2) : codePoints? n = none := by
  rcases mem_ideographs row hrow n hn with h | h
  · exact codePoints?_of_mem_undecomposed (0x3400, 0xA000) (by decide) h
  · exact codePoints?_of_mem_undecomposed (0x20000, 0x2F800) (by decide) h

theorem codePoints?_toNat_ofNat {n : Nat} (h : codePoints? n = none) :
    codePoints? (Char.ofNat n).toNat = none := by
  rcases toNat_ofNat_or n with he | he
  · rw [he, h]
  · rw [he, codePoints?_of_lt (by decide)]

/-- A decomposition is full: its letters do not decompose any further. -/
theorem codePoints?_of_mem_decompose {c d : Char} (hd : d ∈ decompose c) (hm : isMark d = false) :
    codePoints? d.toNat = none := by
  rw [decompose] at hd
  split at hd
  · next ns hns =>
    obtain ⟨n, hn, rfl⟩ := List.mem_map.mp hd
    apply codePoints?_toNat_ofNat
    rw [codePoints?, Option.or_eq_some_iff, Option.or_eq_some_iff, Option.map_eq_some_iff] at hns
    rcases hns with hletters | ⟨-, hsyllable | ⟨-, k, hk, rfl⟩⟩
    · obtain ⟨row, hrow, hv, -⟩ := exists_of_runValue?_eq_some hletters
      exact codePoints?_of_mem_letters hrow hv hn hm
    · exact codePoints?_of_mem_syllable hsyllable hn
    · obtain ⟨row, hrow, hv, -⟩ := exists_of_runValue?_eq_some hk
      rw [List.mem_singleton.mp hn]
      exact codePoints?_of_mem_ideographs hrow hv
  · next hnone => rw [List.mem_singleton.mp hd, hnone]

theorem CaseRun.lower?_eq_some_iff {r : CaseRun} {n m : Nat} : r.lower? n = some m ↔
    (r.first ≤ n ∧ n ≤ r.last ∧ (n - r.first) % r.step = 0) ∧ r.lower + (n - r.first) = m := by
  rw [CaseRun.lower?]
  split
  · next h => rw [Option.some.injEq, and_iff_right h]
  · next h => simp [h]

def CaseRun.offsets (r : CaseRun) : List Nat :=
  List.range' 0 ((r.last - r.first) / r.step + 1) r.step

def CaseRun.keepsParts (r : CaseRun) : Bool :=
  Nat.blt 0 r.step && apartFromScripts r.lower (r.lower + (r.last - r.first) + 1) &&
    r.offsets.all fun k => (bitset (rowCodes letters)).testBit (r.first + k) ||
      !(bitset (rowCodes letters)).testBit (r.lower + k)

theorem keepsParts_of_mem {r : CaseRun} (h : r ∈ caseRuns) : r.keepsParts = true := by
  have hruns : caseRuns.all CaseRun.keepsParts = true := by decide +kernel
  exact List.all_eq_true.mp hruns r h

theorem CaseRun.exists_offset {r : CaseRun} {n m : Nat} (hr : r ∈ caseRuns)
    (h : r.lower? n = some m) : ∃ k ∈ r.offsets, n = r.first + k ∧ m = r.lower + k := by
  have hkeeps := keepsParts_of_mem hr
  rw [CaseRun.keepsParts, Bool.and_eq_true, Bool.and_eq_true, Nat.blt_eq] at hkeeps
  obtain ⟨⟨hl, hu, hstep⟩, rfl⟩ := CaseRun.lower?_eq_some_iff.mp h
  obtain ⟨k, hk⟩ := Nat.dvd_of_mod_eq_zero hstep
  refine ⟨n - r.first, ?_, by omega, rfl⟩
  rw [CaseRun.offsets, List.mem_range']
  refine ⟨k, ?_, by rw [hk, Nat.zero_add]⟩
  rw [Nat.lt_succ_iff, Nat.le_div_iff_mul_le hkeeps.1.1, Nat.mul_comm, ← hk]
  omega

def capitals : List Nat := caseRuns.flatMap fun r => r.offsets.map (r.first + ·)

def smallLetters : List Nat := caseRuns.flatMap fun r => r.offsets.map (r.lower + ·)

theorem mem_capitals {r : CaseRun} {n m : Nat} (hr : r ∈ caseRuns) (h : r.lower? n = some m) :
    n ∈ capitals := by
  obtain ⟨k, hk, rfl, -⟩ := CaseRun.exists_offset hr h
  exact List.mem_flatMap.mpr ⟨r, hr, List.mem_map_of_mem hk⟩

theorem mem_smallLetters {r : CaseRun} {n m : Nat} (hr : r ∈ caseRuns) (h : r.lower? n = some m) :
    m ∈ smallLetters := by
  obtain ⟨k, hk, -, rfl⟩ := CaseRun.exists_offset hr h
  exact List.mem_flatMap.mpr ⟨r, hr, List.mem_map_of_mem hk⟩

/-- No capital and no mark is a small letter. -/
theorem notMem_smallLetters {n : Nat} (h : n ∈ capitals ++ markCodes) : n ∉ smallLetters := by
  have hapart : (capitals ++ markCodes).all (fun n => !(bitset smallLetters).testBit n) = true := by
    decide +kernel
  exact notMem_of_testBit_bitset (List.all_eq_true.mp hapart n h)

theorem lower?_of_mem_smallLetters {m : Nat} (h : m ∈ smallLetters) :
    (caseRuns.findSome? fun s => s.lower? m) = none := by
  rw [List.findSome?_eq_none_iff]
  intro s hs
  rw [Option.eq_none_iff_forall_not_mem]
  intro k hk
  exact notMem_smallLetters (List.mem_append_left _ (mem_capitals hs hk)) h

theorem isMark_of_mem_smallLetters {c : Char} (h : c.toNat ∈ smallLetters) : isMark c = false := by
  rw [← Bool.not_eq_true, isMark_iff]
  exact fun hc => notMem_smallLetters (List.mem_append_right _ hc) h

/-- A character that a fold keeps: it has no decomposition and is no mark. -/
structure IsPart (c : Char) : Prop where
  codePoints?_eq : codePoints? c.toNat = none
  isMark_eq : isMark c = false

theorem isPart_of_lower? {r : CaseRun} {n m : Nat} (hr : r ∈ caseRuns) (h : r.lower? n = some m)
    (hn : codePoints? n = none) (hm : (Char.ofNat m).toNat = m) : IsPart (Char.ofNat m) := by
  refine ⟨?_, isMark_of_mem_smallLetters (by rw [hm]; exact mem_smallLetters hr h)⟩
  have hkeeps := keepsParts_of_mem hr
  rw [CaseRun.keepsParts, Bool.and_eq_true, Bool.and_eq_true, List.all_eq_true] at hkeeps
  obtain ⟨⟨hl, hu, -⟩, hsum⟩ := CaseRun.lower?_eq_some_iff.mp h
  obtain ⟨k, hk, rfl, rfl⟩ := CaseRun.exists_offset hr h
  rw [hm]
  refine codePoints?_eq_none ?_ hkeeps.1.2 (by omega) (by omega)
  have hcapital := runValue?_eq_none_iff.mp (runValue?_letters_of_codePoints? hn)
  rcases (Bool.or_eq_true _ _).mp (hkeeps.2 k hk) with hrow | hapart
  · exact absurd (testBit_bitset.mp hrow) hcapital
  · exact runValue?_eq_none_iff.mpr (notMem_of_testBit_bitset hapart)

theorem isPart_of_lt {c : Char} (h : c.toNat < 0xC0) : IsPart c :=
  ⟨codePoints?_of_lt h, isMark_of_lt (by omega)⟩

theorem exists_of_lower_ne {c : Char} (h : lower c ≠ c) :
    ∃ r ∈ caseRuns, ∃ m, r.lower? c.toNat = some m ∧ lower c = Char.ofNat m := by
  rw [lower] at h ⊢
  split at h
  · next m hm =>
    obtain ⟨r, hr, hrm⟩ := List.exists_of_findSome?_eq_some hm
    exact ⟨r, hr, m, hrm, rfl⟩
  · exact absurd rfl h

theorem IsPart.lower {c : Char} (h : IsPart c) : IsPart (lower c) := by
  by_cases hc : Text.lower c = c
  · rwa [hc]
  · obtain ⟨r, hr, m, hm, he⟩ := exists_of_lower_ne hc
    rw [he]
    rcases toNat_ofNat_or m with hself | hzero
    · exact isPart_of_lower? hr hm h.codePoints?_eq hself
    · exact isPart_of_lt (by omega)

theorem lower_lower (c : Char) : lower (lower c) = lower c := by
  by_cases hc : lower c = c
  · rw [hc, hc]
  · obtain ⟨r, hr, m, hm, he⟩ := exists_of_lower_ne hc
    rw [he]
    rcases toNat_ofNat_or m with hself | hzero
    · rw [lower, hself, lower?_of_mem_smallLetters (mem_smallLetters hr hm)]
    · exact lower_of_lt (by omega)

/-- The small barred d has no other capital than its own. -/
theorem eq_of_lower_eq_barred {c : Char} (h : lower c = 'đ') : c = 'đ' ∨ c = 'Đ' := by
  by_cases hc : lower c = c
  · exact Or.inl (hc.symm.trans h)
  · obtain ⟨r, hr, m, hm, he⟩ := exists_of_lower_ne hc
    have hruns : ∀ r ∈ caseRuns,
        0x111 < r.lower ∨ r.lower + (r.last - r.first) < 0x111 ∨ r.lower = r.first + 1 := by
      decide +kernel
    have hvalue : m = 0x111 := by
      have hnat : (Char.ofNat m).toNat = 0x111 := by rw [← he, h]; rfl
      rcases toNat_ofNat_or m with hself | hzero <;> omega
    obtain ⟨⟨hl, hu, -⟩, hsum⟩ := CaseRun.lower?_eq_some_iff.mp hm
    have hcapital : c.toNat = 0x110 := by
      rcases hruns r hr with h | h | h <;> omega
    rw [← Char.ofNat_toNat c, hcapital]
    exact Or.inr rfl

theorem unbar_lower_unbar (c : Char) : unbar (lower (unbar c)) = lower (unbar c) := by
  have hunbarred : unbar c ≠ 'đ' ∧ unbar c ≠ 'Đ' := by
    rw [unbar]
    split
    · decide
    · next h => exact not_or.mp h
  rw [unbar, if_neg]
  rintro (h | h)
  · exact (eq_of_lower_eq_barred h).elim hunbarred.1 hunbarred.2
  · have hlower := lower_lower (unbar c)
    rw [h] at hlower
    exact absurd hlower (by decide +kernel)

theorem IsPart.unbar {c : Char} (h : IsPart c) : IsPart (unbar c) := by
  rw [Text.unbar]
  split
  · exact isPart_of_lt (by decide)
  · exact h

theorem IsPart.foldChar_eq {c : Char} (h : IsPart c) : foldChar c = [Text.lower (Text.unbar c)] := by
  rw [foldChar, decompose_of_codePoints? h.codePoints?_eq, List.filter_cons_of_pos]
  · rfl
  · rw [h.isMark_eq]
    rfl

theorem isPart_of_mem_decompose {c d : Char} (hd : d ∈ decompose c) (hm : isMark d = false) :
    IsPart d := ⟨codePoints?_of_mem_decompose hd hm, hm⟩

theorem exists_part_of_mem_foldChar {c e : Char} (h : e ∈ foldChar c) :
    ∃ d, IsPart d ∧ e = lower (unbar d) := by
  obtain ⟨d, hd, rfl⟩ := List.mem_map.mp h
  obtain ⟨hd, hm⟩ := List.mem_filter.mp hd
  exact ⟨d, isPart_of_mem_decompose hd (by simpa using hm), rfl⟩

/-- A folded character folds to itself. -/
theorem foldChar_of_mem_foldChar {c e : Char} (h : e ∈ foldChar c) : foldChar e = [e] := by
  obtain ⟨d, hd, rfl⟩ := exists_part_of_mem_foldChar h
  rw [hd.unbar.lower.foldChar_eq, unbar_lower_unbar, lower_lower]

/-- A character folds as the parts of its decomposition do. -/
theorem fold_decompose (c : Char) : fold (decompose c) = foldChar c := by
  -- By induction on the parts, which are marks or fold by themselves.
  have hparts : ∀ ds, (∀ d ∈ ds, d ∈ decompose c) →
      fold ds = (ds.filter fun d => !isMark d).map fun d => lower (unbar d) := by
    intro ds hds
    induction ds with
    | nil => rfl
    | cons d ds ih =>
      have hrest := ih fun e he => hds e (List.mem_cons_of_mem d he)
      rw [fold_cons, hrest]
      by_cases hm : isMark d = true
      · rw [foldChar_of_isMark hm, List.filter_cons_of_neg (by simp [hm]), List.nil_append]
      · rw [Bool.not_eq_true] at hm
        have hd := isPart_of_mem_decompose (hds d List.mem_cons_self) hm
        rw [hd.foldChar_eq, List.filter_cons_of_pos (by simp [hm]), List.map_cons,
          List.singleton_append]
  exact hparts (decompose c) fun d hd => hd

end LotterySlip.Text
