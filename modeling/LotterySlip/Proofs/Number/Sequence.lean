import Mathlib.Algebra.Group.Nat.Defs
import LotterySlip.Number.Sequence
import LotterySlip.Proofs.Text.Blank
import LotterySlip.Proofs.Text.Digits

/-! Sequences: how they are written, and the numbers that they stand for. No number of a sequence is
beyond its bound, so what is worked out in 64 bits is what the natural numbers give. -/
namespace LotterySlip.Number
open Text

structure Spaced (run cs : List Char) : Prop where
  isNumber : isNumber run = true
  blanks : ∃ front back, isBlankText front = true ∧ isBlankText back = true ∧
    cs = front ++ run ++ back

def SequenceForm.Spells (s : SequenceForm) (cs : List Char) : Prop :=
  ∃ first second bound, Spaced s.first first ∧ Spaced s.second second ∧ Spaced s.bound bound ∧
    cs = first ++ (['/'] ++ (second ++ (['k', 'e', 'o'] ++ bound)))

theorem Spaced.mem_cases {run cs : List Char} {c : Char} (h : Spaced run cs) (hc : c ∈ cs) :
    isBlank c = true ∨ c.isDigit = true := by
  obtain ⟨hrun, front, back, hfront, hback, rfl⟩ := h
  simp only [List.mem_append] at hc
  rcases hc with (hc | hc) | hc
  · exact Or.inl ((isBlankText_iff front).mp hfront c hc)
  · exact Or.inr (((isNumber_iff run).mp hrun).2 c hc)
  · exact Or.inl ((isBlankText_iff back).mp hback c hc)

/-- A sequence is written with digits, blanks, the slash and the letters of its word. -/
theorem SequenceForm.Spells.mem_cases {s : SequenceForm} {cs : List Char} {c : Char}
    (h : s.Spells cs) (hc : c ∈ cs) :
    (isBlank c = true ∨ c.isDigit = true) ∨ c ∈ ['/', 'k', 'e', 'o'] := by
  obtain ⟨first, second, bound, hfirst, hsecond, hbound, rfl⟩ := h
  rw [List.mem_append, List.mem_append, List.mem_append, List.mem_append] at hc
  rcases hc with hc | hc | hc | hc | hc
  · exact Or.inl (hfirst.mem_cases hc)
  · exact Or.inr (List.mem_append_left ['k', 'e', 'o'] hc)
  · exact Or.inl (hsecond.mem_cases hc)
  · exact Or.inr (List.mem_append_right ['/'] hc)
  · exact Or.inl (hbound.mem_cases hc)

theorem SequenceForm.Spells.mem_slash {s : SequenceForm} {cs : List Char} (h : s.Spells cs) :
    '/' ∈ cs := by
  obtain ⟨first, second, bound, -, -, -, rfl⟩ := h
  exact List.mem_append_right first List.mem_cons_self

theorem dropWhile_isBlank_append {front rest : List Char} (hf : isBlankText front = true)
    (hr : ∀ c ∈ rest.head?, isBlank c = false) : (front ++ rest).dropWhile isBlank = rest := by
  rw [List.dropWhile_append_of_pos ((isBlankText_iff front).mp hf)]
  cases rest with
  | nil => rfl
  | cons c rest => rw [List.dropWhile_cons_of_neg (by simp [hr c rfl])]

theorem spacedRun?_append {run cs rest : List Char} (h : Spaced run cs)
    (hr : ∀ c ∈ rest.head?, isBlank c = false ∧ c.isDigit = false) :
    spacedRun? (cs ++ rest) = some (run, rest) := by
  obtain ⟨hrun, front, back, hfront, hback, rfl⟩ := h
  obtain ⟨hne, hdigits⟩ := (isNumber_iff run).mp hrun
  have hstart : (front ++ run ++ back ++ rest).dropWhile isBlank = run ++ (back ++ rest) := by
    rw [List.append_assoc, List.append_assoc]
    apply dropWhile_isBlank_append hfront
    intro c hc
    rw [List.head?_append_of_ne_nil _ hne] at hc
    exact isBlank_of_isDigit (hdigits c (List.mem_of_head? hc))
  have hspan : spanDigits (run ++ (back ++ rest)) = (run, back ++ rest) := by
    apply spanDigits_append _ _ hdigits
    intro c hc
    cases back with
    | nil => exact (hr c hc).2
    | cons b back =>
      obtain rfl : b = c := Option.some.inj hc
      rw [← Bool.not_eq_true]
      intro hd
      have hb := (isBlankText_iff _).mp hback b List.mem_cons_self
      rw [isBlank_of_isDigit hd] at hb
      cases hb
  have hend : (back ++ rest).dropWhile isBlank = rest :=
    dropWhile_isBlank_append hback fun c hc => (hr c hc).1
  rw [spacedRun?, hstart, hspan]
  simp [hend, hne]

theorem exists_spaced_of_spacedRun? {cs run rest : List Char}
    (h : spacedRun? cs = some (run, rest)) : ∃ spaced, Spaced run spaced ∧ cs = spaced ++ rest := by
  simp only [spacedRun?] at h
  split at h
  · cases h
  · next hne =>
    cases h
    refine ⟨_, ⟨?_, cs.takeWhile isBlank,
      ((cs.dropWhile isBlank).dropWhile Char.isDigit).takeWhile isBlank, ?_, ?_, rfl⟩, ?_⟩
    · rw [isNumber_iff]
      exact ⟨by simpa using hne, fun c hc => List.mem_takeWhile_imp hc⟩
    · exact List.all_takeWhile
    · exact List.all_takeWhile
    · simp [spanDigits]

theorem after?_eq_some_iff (start cs rest : List Char) :
    after? start cs = some rest ↔ cs = start ++ rest := by
  rw [after?, List.isPrefixOf?_eq_some_iff_append_eq, eq_comm]

/-- A text is read as a sequence just if it is written as one. -/
theorem read?_eq_some_iff (cs : List Char) (s : SequenceForm) :
    SequenceForm.read? cs = some s ↔ s.Spells cs := by
  constructor
  · intro h
    simp only [SequenceForm.read?, Option.bind_eq_bind, Option.bind_eq_some_iff,
      after?_eq_some_iff] at h
    obtain ⟨⟨first, cs₁⟩, hfirst, cs₂, hslash, ⟨second, cs₃⟩, hsecond, cs₄, hword, ⟨bound, cs₅⟩,
      hbound, hend⟩ := h
    split at hend
    · next hnil =>
      cases hend
      obtain ⟨as, has, rfl⟩ := exists_spaced_of_spacedRun? hfirst
      obtain ⟨bs, hbs, rfl⟩ := exists_spaced_of_spacedRun? hsecond
      obtain ⟨ds, hds, rfl⟩ := exists_spaced_of_spacedRun? hbound
      obtain rfl : cs₅ = [] := List.isEmpty_iff.mp hnil
      refine ⟨as, bs, ds, has, hbs, hds, ?_⟩
      show as ++ cs₁ = _
      rw [show cs₁ = _ from hslash, show cs₃ = _ from hword, List.append_nil]
    · cases hend
  · rintro ⟨first, second, bound, hfirst, hsecond, hbound, rfl⟩
    have hafter (start cs : List Char) : after? start (start ++ cs) = some cs :=
      (after?_eq_some_iff _ _ _).mpr rfl
    have hword : spacedRun? (second ++ (['k', 'e', 'o'] ++ bound)) =
        some (s.second, ['k', 'e', 'o'] ++ bound) := by
      apply spacedRun?_append hsecond
      rintro c ⟨⟩
      decide
    have hslash : spacedRun? (first ++ (['/'] ++ (second ++ (['k', 'e', 'o'] ++ bound)))) =
        some (s.first, ['/'] ++ (second ++ (['k', 'e', 'o'] ++ bound))) := by
      apply spacedRun?_append hfirst
      rintro c ⟨⟩
      decide
    have hend : spacedRun? bound = some (s.bound, []) := by
      have h : spacedRun? (bound ++ []) = some (s.bound, []) := spacedRun?_append hbound (by simp)
      rwa [List.append_nil] at h
    simp only [SequenceForm.read?, hslash, hafter, hword, hend, Option.bind_eq_bind,
      Option.bind_some]
    rfl

namespace SequenceForm

structure Fits (s : SequenceForm) : Prop where
  first : runNumber s.first < 2 ^ 64
  second : runNumber s.second < 2 ^ 64
  bound : runNumber s.bound < 2 ^ 64

structure Ascends (s : SequenceForm) : Prop where
  second : runNumber s.first < runNumber s.second
  bound : runNumber s.first ≤ runNumber s.bound

def step (s : SequenceForm) : Nat := runNumber s.second - runNumber s.first

def count (s : SequenceForm) : Nat := (runNumber s.bound - runNumber s.first) / s.step + 1

def term (s : SequenceForm) (i : Nat) : Nat := runNumber s.first + i * s.step

def termText (s : SequenceForm) (i : Nat) : String :=
  String.ofList (padLeft '0' (byteLength s.first) (numeral (s.term i)))

variable {s : SequenceForm}

theorem Ascends.step_pos (h : s.Ascends) : 0 < s.step := Nat.sub_pos_of_lt h.second

theorem Ascends.term_lt_term (h : s.Ascends) {i j : Nat} (hij : i < j) : s.term i < s.term j := by
  have hmul := Nat.mul_lt_mul_of_pos_right hij h.step_pos
  rw [term, term]
  omega

theorem Ascends.term_le_bound (h : s.Ascends) {i : Nat} (hi : i < s.count) :
    s.term i ≤ runNumber s.bound := by
  have hmul : i * s.step ≤ runNumber s.bound - runNumber s.first :=
    (Nat.le_div_iff_mul_le h.step_pos).mp (Nat.le_of_lt_succ hi)
  have hbound := h.bound
  rw [term]
  omega

theorem Ascends.bound_lt_term_count (h : s.Ascends) : runNumber s.bound < s.term s.count := by
  have hmul : runNumber s.bound - runNumber s.first < s.count * s.step := by
    rw [Nat.mul_comm]
    exact Nat.lt_mul_div_succ _ h.step_pos
  rw [term]
  omega

theorem term_add_step (s : SequenceForm) (i : Nat) : s.term i + s.step = s.term (i + 1) := by
  rw [term, term, Nat.succ_mul]
  omega

theorem Fits.count_le (h : s.Fits) : s.count ≤ 2 ^ 64 := by
  have hdiv := Nat.div_le_self (runNumber s.bound - runNumber s.first) s.step
  have hbound := h.bound
  rw [count]
  omega

theorem runNumber_termText (s : SequenceForm) (i : Nat) :
    runNumber (s.termText i).toList = s.term i := by
  rw [termText, String.toList_ofList, runNumber_padLeft_zero, runNumber_numeral]

/-- The numbers of a sequence as they are written, their values in ascending order from the first one
up to the last one that is not beyond the bound. -/
structure Lists (s : SequenceForm) (numbers : List String) : Prop where
  length : numbers.length = s.count
  getElem? : ∀ i < s.count, numbers[i]? = some (s.termText i)
  ascending : (numbers.map fun n => runNumber n.toList).Pairwise (· < ·)
  head : (numbers.map fun n => runNumber n.toList).head? = some (runNumber s.first)
  last : ∃ n, (numbers.map fun n => runNumber n.toList).getLast? = some n ∧
    n ≤ runNumber s.bound ∧ runNumber s.bound < n + s.step

theorem Ascends.lists (h : s.Ascends) : s.Lists ((List.range s.count).map s.termText) := by
  have hvalues : ((List.range s.count).map s.termText).map (fun n => runNumber n.toList) =
      (List.range s.count).map s.term := by
    rw [List.map_map]
    apply List.map_congr_left
    intro i _
    rw [Function.comp_apply, runNumber_termText]
  have hcount : List.range s.count = List.range (s.count - 1) ++ [s.count - 1] := by
    rw [← List.range_succ]
    rfl
  refine ⟨?_, fun i hi => ?_, ?_, ?_, s.term (s.count - 1), ?_, ?_, ?_⟩
  · rw [List.length_map, List.length_range]
  · rw [List.getElem?_map, List.getElem?_range hi]
    rfl
  · rw [hvalues, List.pairwise_map]
    exact List.pairwise_lt_range.imp h.term_lt_term
  · rw [hvalues, count, List.range_succ_eq_map, List.map_cons, List.head?_cons, term, Nat.zero_mul,
      Nat.add_zero]
  · rw [hvalues, hcount, List.map_append, List.map_singleton, List.getLast?_concat]
  · exact h.term_le_bound (Nat.lt_succ_self _)
  · rw [term_add_step]
    exact h.bound_lt_term_count

end SequenceForm

theorem word?_eq_some_iff (cs : List Char) (w : UInt64) :
    word? cs = some w ↔ w.toNat = runNumber cs := by
  rw [word?]
  constructor
  · intro h
    split at h
    · next hlt =>
      cases h
      exact UInt64.toNat_ofNat_of_lt hlt
    · cases h
  · intro h
    have hlt : runNumber cs < countLimit := by
      rw [← h]
      exact w.toNat_lt
    rw [if_pos hlt, ← h, UInt64.ofNat_toNat]

theorem exists_word? {cs : List Char} (h : runNumber cs < 2 ^ 64) :
    ∃ w, word? cs = some w ∧ w.toNat = runNumber cs := by
  have hw : (UInt64.ofNat (runNumber cs)).toNat = runNumber cs := UInt64.toNat_ofNat_of_lt h
  exact ⟨_, (word?_eq_some_iff cs _).mpr hw, hw⟩

theorem runNumber_lt_of_word? {cs : List Char} {w : UInt64} (h : word? cs = some w) :
    runNumber cs < 2 ^ 64 := by
  rw [← (word?_eq_some_iff cs w).mp h]
  exact w.toNat_lt

/-- Terms that fit in 64 bits are worked out there. -/
theorem steps_eq {first step count : UInt64} (width : Nat)
    (h : ∀ i < count.toNat, first.toNat + i * step.toNat < 2 ^ 64) :
    steps first step width count = (List.range count.toNat).map fun i =>
      String.ofList (padLeft '0' width (numeral (first.toNat + i * step.toNat))) := by
  apply List.map_congr_left
  intro i hi
  have hi := List.mem_range.mp hi
  have hterm := h i hi
  have hplace : (UInt64.ofNat i).toNat = i :=
    UInt64.toNat_ofNat_of_lt (Nat.lt_trans hi count.toNat_lt)
  have hmul : (.ofNat i * step : UInt64).toNat = i * step.toNat := by
    rw [UInt64.toNat_mul, hplace, Nat.mod_eq_of_lt (Nat.lt_of_le_of_lt (Nat.le_add_left _ _) hterm)]
  have hadd : (first + .ofNat i * step).toNat = first.toNat + i * step.toNat := by
    rw [UInt64.toNat_add, hmul, Nat.mod_eq_of_lt hterm]
  rw [hadd]

namespace SequenceForm

variable {s : SequenceForm} {limit : Nat}

theorem value_of_not_fits (h : ¬ s.Fits) : s.value limit = .nothing := by
  simp only [value]
  split
  · next hfirst hsecond hbound =>
    exact absurd ⟨runNumber_lt_of_word? hfirst, runNumber_lt_of_word? hsecond,
      runNumber_lt_of_word? hbound⟩ h
  · rfl

theorem value_of_not_ascends (h : ¬ s.Ascends) : s.value limit = .nothing := by
  simp only [value]
  split
  · next first second bound hfirst hsecond hbound =>
    rw [word?_eq_some_iff] at hfirst hsecond hbound
    rw [if_pos]
    rw [UInt64.le_iff_toNat_le, UInt64.lt_iff_toNat_lt, hfirst, hsecond, hbound]
    by_contra hup
    exact h ⟨by omega, by omega⟩
  · rfl

/-- Nothing is too large for 64 bits but perhaps the count. -/
theorem value_of_ascends (hf : s.Fits) (ha : s.Ascends) (hc : s.count ≠ 2 ^ 64) :
    s.value limit = if limit < s.count then .tooLong
      else .numbers ((List.range s.count).map s.termText) := by
  obtain ⟨first, hfirst, hfirstNat⟩ := exists_word? hf.first
  obtain ⟨second, hsecond, hsecondNat⟩ := exists_word? hf.second
  obtain ⟨bound, hbound, hboundNat⟩ := exists_word? hf.bound
  have hlt : ¬ (second ≤ first ∨ bound < first) := by
    rw [UInt64.le_iff_toNat_le, UInt64.lt_iff_toNat_lt, hfirstNat, hsecondNat, hboundNat, not_or]
    exact ⟨Nat.not_le.mpr ha.second, Nat.not_lt.mpr ha.bound⟩
  have hstep : (second - first).toNat = s.step := by
    have hle : first ≤ second := by
      rw [UInt64.le_iff_toNat_le, hfirstNat, hsecondNat]
      exact ha.second.le
    rw [UInt64.toNat_sub_of_le _ _ hle, hfirstNat, hsecondNat, step]
  have hcount : ((bound - first) / (second - first) + 1).toNat = s.count := by
    have hle : first ≤ bound := by
      rw [UInt64.le_iff_toNat_le, hfirstNat, hboundNat]
      exact ha.bound
    rw [UInt64.toNat_add, UInt64.toNat_div, UInt64.toNat_sub_of_le _ _ hle, hstep, hfirstNat,
      hboundNat]
    exact Nat.mod_eq_of_lt (lt_of_le_of_ne hf.count_le hc)
  simp only [value, hfirst, hsecond, hbound]
  rw [if_neg hlt, hcount]
  split
  · rfl
  · rw [steps_eq, hcount, hstep, hfirstNat]
    · rfl
    · intro i hi
      rw [hcount] at hi
      rw [hstep, hfirstNat]
      exact Nat.lt_of_le_of_lt (ha.term_le_bound hi) hf.bound

end SequenceForm

end LotterySlip.Number
