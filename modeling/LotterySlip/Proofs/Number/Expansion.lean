import LotterySlip.Number.Expansion
import LotterySlip.Proofs.Number.Sequence
import LotterySlip.Proofs.Text.Fold

/-! What a text of numbers comes to. Whatever its form, the numbers are digit runs, and a sequence comes
to the numbers up to its bound. -/
namespace LotterySlip.Number
open Text

theorem isNumber_padLeft_numeral (width n : Nat) :
    isNumber (padLeft '0' width (numeral n)) = true := by
  refine (isNumber_iff _).mpr ⟨fun e => ?_, isDigit_of_mem_padLeft fun _ => isDigit_of_mem_numeral⟩
  exact numeral_ne_nil n (List.append_eq_nil_iff.mp e).2

theorem isNumber_of_mem_numbers? {rule : Rule} {numbers : List String}
    (h : rule.numbers? = some numbers) : ∀ n ∈ numbers, isNumber n.toList = true := by
  intro n hn
  rw [Rule.numbers?] at h
  split at h
  · cases h
    obtain ⟨m, -, rfl⟩ := List.mem_map.mp hn
    rw [Rule.twoDigits, String.toList_ofList]
    exact isNumber_padLeft_numeral 2 m
  · cases h

theorem isNumber_of_mem_steps {first step count : UInt64} {width : Nat} :
    ∀ n ∈ steps first step width count, isNumber n.toList = true := by
  intro n hn
  obtain ⟨i, -, rfl⟩ := List.mem_map.mp hn
  rw [String.toList_ofList]
  exact isNumber_padLeft_numeral _ _

theorem isNumber_of_mem_listed {cs : List Char} : ∀ n ∈ listed cs, isNumber n.toList = true := by
  intro n hn
  simp only [listed] at hn
  split at hn
  · next hd =>
    obtain ⟨p, hp, rfl⟩ := List.mem_map.mp hn
    rw [String.toList_ofList]
    exact (isNumber_iff p).mpr ⟨mem_pieces hp, List.all_eq_true.mp (List.all_eq_true.mp hd p hp)⟩
  · cases hn

/-- A character that neither is a digit nor parts numbers spoils a list. -/
theorem listed_eq_nil_of_mem {cs : List Char} {c : Char} (hc : c ∈ cs) (hs : isSeparator c = false)
    (hd : c.isDigit = false) : listed cs = [] := by
  obtain ⟨piece, hpiece, hm⟩ := exists_mem_pieces hc hs
  simp only [listed]
  rw [if_neg]
  intro hall
  have hdigit := List.all_eq_true.mp (List.all_eq_true.mp hall piece hpiece) c hm
  rw [hd] at hdigit
  cases hdigit

theorem isNumber_of_mem_expandList {cs : List Char} :
    ∀ n ∈ (expandList cs).numbers, isNumber n.toList = true := by
  intro n hn
  rw [expandList] at hn
  split at hn
  · cases hn
  · exact isNumber_of_mem_listed n hn

theorem isNumber_of_value_eq {s : SequenceForm} {limit : Nat} {numbers : List String}
    (h : s.value limit = .numbers numbers) : ∀ n ∈ numbers, isNumber n.toList = true := by
  simp only [SequenceForm.value] at h
  split at h
  · split at h
    · cases h
    · split at h
      · cases h
      · cases h
        exact isNumber_of_mem_steps
  · cases h

theorem isNumber_of_mem_expandForm {cs : List Char} {limit : Nat} :
    ∀ n ∈ (expandForm cs limit).numbers, isNumber n.toList = true := by
  intro n hn
  rw [expandForm] at hn
  split at hn
  · exact isNumber_of_mem_expandList n hn
  · split at hn
    · next ns hns =>
      split at hn
      · exact isNumber_of_mem_expandList n hn
      · exact isNumber_of_value_eq hns n hn
    · cases hn
    · exact isNumber_of_mem_expandList n hn

/-- Combinations, sequences and lists are made of digit runs. -/
theorem isNumber_of_mem_expand {combinations : List Combination} {limit : Nat} {text : List Char} :
    ∀ n ∈ (expand combinations limit text).numbers, isNumber n.toList = true := by
  intro n hn
  simp only [expand] at hn
  split at hn
  · cases hn
  · split at hn
    · next c hc =>
      rw [expandCombination] at hn
      split at hn
      · next ns hns => exact isNumber_of_mem_numbers? hns n hn
      · cases hn
    · exact isNumber_of_mem_expandForm n hn

theorem read?_eq_none_of_mem {cs : List Char} {c : Char} (hb : isBlank c = false)
    (hd : c.isDigit = false) (hw : c ∉ ['/', 'k', 'e', 'o']) (hc : c ∈ cs) :
    SequenceForm.read? cs = none := by
  rw [Option.eq_none_iff_forall_not_mem]
  intro s hs
  rcases ((read?_eq_some_iff cs s).mp hs).mem_cases hc with (h | h) | h
  · rw [hb] at h
    cases h
  · rw [hd] at h
    cases h
  · exact hw h

/-- What spoils a list spoils it in the key as well. -/
theorem listed_eq_nil_of_mem_foldKey {cs : List Char} {c : Char} (hc : c ∈ foldKey cs)
    (hs : isSeparator c = false) (hd : c.isDigit = false) : listed cs = [] := by
  have hblank : isBlank c = false := by
    simp only [isSeparator, Bool.or_eq_false_iff] at hs
    exact hs.2
  have hfold : c ∈ fold cs := by
    by_contra hnot
    refine notMem_intercalate ?_ (fun word hword hmem => ?_) hc
    · rw [List.mem_singleton]
      rintro rfl
      revert hblank
      decide
    · exact hnot (mem_of_mem_words hword c hmem)
  obtain ⟨d, hdm, hcd⟩ := List.mem_flatMap.mp hfold
  have hkept (hd : foldChar d = [d]) : d = c := by
    rw [hd, List.mem_singleton] at hcd
    exact hcd.symm
  have hdigit : d.isDigit = false := by
    rw [← Bool.not_eq_true]
    intro h
    rw [hkept (foldChar_of_isDigit h), hd] at h
    cases h
  have hsep : isSeparator d = false := by
    rw [← Bool.not_eq_true]
    intro h
    by_cases hb : isBlank d = true
    · have hcb := (isBlankText_iff _).mp (isBlankText_foldChar hb) c hcd
      rw [hblank] at hcb
      cases hcb
    · have hpoint : d = '.' ∨ d = ',' ∨ d = '-' := by simpa [isSeparator, hb, or_assoc] using h
      have hfolds : foldChar d = [d] := by
        rcases hpoint with rfl | rfl | rfl <;> exact foldChar_of_lt_capital (by decide)
      rw [hkept hfolds, hs] at h
      cases h
  exact listed_eq_nil_of_mem hdm hsep hdigit

/-- A sequence that has no numbers is no list of numbers either. -/
theorem expand_of_spells {combinations : List Combination} {limit : Nat} {text : List Char}
    {s : SequenceForm} (hk : findCombination? combinations (foldKey text) = none)
    (h : s.Spells (foldKey text)) : expand combinations limit text =
      match s.value limit with
      | .numbers ns => if ns.isEmpty then .empty else .sequence ns
      | .tooLong => .tooLong limit
      | .nothing => .empty := by
  have hslash : '/' ∈ foldKey (trim text) := by
    rw [foldKey_trim]
    exact h.mem_slash
  have hlist : expandList (trim text) = .empty := by
    rw [expandList, listed_eq_nil_of_mem_foldKey hslash (by decide) (by decide)]
  have hne : (trim text).isEmpty = false := by
    rw [← Bool.not_eq_true, List.isEmpty_iff]
    intro e
    rw [e] at hslash
    cases hslash
  simp only [expand, hne, foldKey_trim, hk, expandForm, (read?_eq_some_iff _ _).mpr h, hlist]
  rfl

/-- A sequence that does not ascend has no numbers. Any other has all numbers up to its bound, unless
they are more than the limit. -/
theorem expand_sequence_exact {combinations : List Combination} {text : List Char}
    {s : SequenceForm} (limit : Nat)
    (hk : findCombination? combinations (foldKey text) = none)
    (hs : s.Spells (foldKey text)) (hf : s.Fits) (hc : s.count ≠ 2 ^ 64) :
    ((runNumber s.second ≤ runNumber s.first ∨ runNumber s.bound < runNumber s.first) →
      expand combinations limit text = .empty) ∧
    (runNumber s.first < runNumber s.second → runNumber s.first ≤ runNumber s.bound →
      ∃ numbers, s.Lists numbers ∧ expand combinations limit text =
        if limit < s.count then .tooLong limit else .sequence numbers) := by
  rw [expand_of_spells hk hs]
  refine ⟨fun hdown => ?_, fun hsecond hbound => ?_⟩
  · rw [SequenceForm.value_of_not_ascends]
    intro ha
    have hsecond := ha.second
    have hbound := ha.bound
    omega
  · have ha : s.Ascends := ⟨hsecond, hbound⟩
    refine ⟨_, ha.lists, ?_⟩
    rw [SequenceForm.value_of_ascends hf ha hc]
    by_cases hlong : limit < s.count
    · rw [if_pos hlong, if_pos hlong]
    · have hne : ((List.range s.count).map s.termText).isEmpty = false := by
        simp [SequenceForm.count]
      rw [if_neg hlong, if_neg hlong]
      simp only [hne]
      rfl

/-- The numbers grow past the width of the first one. -/
theorem expand_past_width :
    findCombination? [⟨"kep", ["kep"], .doubles⟩] (foldKey " 98/099keo 101".toList) = none ∧
      ∃ s : SequenceForm, s.Spells (foldKey " 98/099keo 101".toList) ∧ s.Fits ∧
        s.count ≠ 2 ^ 64 ∧ s.Lists ["98", "99", "100", "101"] ∧
        expand [⟨"kep", ["kep"], .doubles⟩] 4 " 98/099keo 101".toList =
          .sequence ["98", "99", "100", "101"] := by
  have hkey : foldKey " 98/099keo 101".toList = "98/099keo 101".toList := by decide +kernel
  have hk : findCombination? [⟨"kep", ["kep"], .doubles⟩] (foldKey " 98/099keo 101".toList) =
      none := by
    rw [hkey]
    decide +kernel
  have hrun : expand [⟨"kep", ["kep"], .doubles⟩] 4 " 98/099keo 101".toList =
      .sequence ["98", "99", "100", "101"] := by decide +kernel
  let s : SequenceForm := ⟨['9', '8'], ['0', '9', '9'], ['1', '0', '1']⟩
  have hs : s.Spells (foldKey " 98/099keo 101".toList) := by
    rw [hkey, ← read?_eq_some_iff]
    decide +kernel
  have hf : s.Fits := ⟨by decide +kernel, by decide +kernel, by decide +kernel⟩
  have hc : s.count = 4 := by decide +kernel
  have hne : s.count ≠ 2 ^ 64 := by rw [hc]; decide
  obtain ⟨numbers, hlists, hexpand⟩ :=
    (expand_sequence_exact 4 hk hs hf hne).2 (by decide +kernel) (by decide +kernel)
  rw [hrun, if_neg (by rw [hc]; decide)] at hexpand
  cases hexpand
  exact ⟨hk, s, hs, hf, hne, hlists, hrun⟩

end LotterySlip.Number
