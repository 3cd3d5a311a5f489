import Mathlib.Data.List.Basic
import LotterySlip.Text.Blank
import LotterySlip.Text.Digits

/-! Digit runs and the numbers that they denote. -/
namespace LotterySlip.Text

theorem isDigit_iff (c : Char) : c.isDigit = true ↔ 48 ≤ c.toNat ∧ c.toNat ≤ 57 :=
  Char.isDigit_iff_toNat

theorem isBlank_of_isDigit {c : Char} (h : c.isDigit = true) : isBlank c = false := by
  obtain ⟨hl, hu⟩ := (isDigit_iff c).mp h
  simp only [isBlank, Bool.or_eq_false_iff, Bool.and_eq_false_iff, decide_eq_false_iff_not,
    beq_eq_false_iff_ne]
  omega

theorem ne_of_isDigit {c d : Char} (hc : c.isDigit = true) (hd : d.isDigit = false) : c ≠ d := by
  rintro rfl
  simp [hc] at hd

theorem isNumber_iff (cs : List Char) :
    isNumber cs = true ↔ cs ≠ [] ∧ ∀ c ∈ cs, c.isDigit = true := by
  simp [isNumber]

theorem isDigit_of_mem_numeral {n : Nat} {c : Char} (h : c ∈ numeral n) : c.isDigit = true :=
  Nat.isDigit_of_mem_toDigits (by decide) (by decide) h

theorem numeral_ne_nil (n : Nat) : numeral n ≠ [] := Nat.toDigits_ne_nil

theorem isNumber_numeral (n : Nat) : isNumber (numeral n) = true :=
  (isNumber_iff _).mpr ⟨numeral_ne_nil n, fun _ => isDigit_of_mem_numeral⟩

theorem runNumber_numeral (n : Nat) : runNumber (numeral n) = n :=
  Nat.ofDigitChars_ten_toDigits

/-- Zeros on the left add nothing to the number. -/
theorem runNumber_padLeft_zero (width : Nat) (cs : List Char) :
    runNumber (padLeft '0' width cs) = runNumber cs := by
  show Nat.ofDigitChars 10 (List.replicate (width - cs.length) '0' ++ cs) 0 =
    Nat.ofDigitChars 10 cs 0
  rw [Nat.ofDigitChars_append, Nat.ofDigitChars_replicate_zero, Nat.mul_zero]

theorem isDigit_of_mem_padLeft {width : Nat} {cs : List Char} (h : ∀ c ∈ cs, c.isDigit = true) :
    ∀ c ∈ padLeft '0' width cs, c.isDigit = true := by
  intro c hc
  rcases List.mem_append.mp hc with hc | hc
  · rw [List.eq_of_mem_replicate hc]
    decide
  · exact h c hc

theorem length_padLeft (c : Char) (width : Nat) (cs : List Char) :
    (padLeft c width cs).length = max width cs.length := by
  simp only [padLeft, List.length_append, List.length_replicate]
  omega

/-- A digit run is split off whole. -/
theorem spanDigits_append (ds rest : List Char) (hd : ∀ c ∈ ds, c.isDigit = true)
    (hr : ∀ c ∈ rest.head?, c.isDigit = false) : spanDigits (ds ++ rest) = (ds, rest) := by
  have ht : rest.takeWhile Char.isDigit = [] ∧ rest.dropWhile Char.isDigit = rest := by
    cases rest with
    | nil => exact ⟨rfl, rfl⟩
    | cons c rest => simp [hr c rfl]
  rw [spanDigits, List.takeWhile_append_of_pos hd, List.dropWhile_append_of_pos hd, ht.1, ht.2,
    List.append_nil]

/-- Digits take one byte each. -/
theorem utf8ByteSize_of_isDigit {s : String} (h : ∀ c ∈ s.toList, c.isDigit = true) :
    s.utf8ByteSize = s.toList.length := by
  have hcs : ∀ cs : List Char, (∀ c ∈ cs, c.isDigit = true) →
      (String.ofList cs).utf8ByteSize = cs.length := by
    intro cs
    induction cs with
    | nil => exact fun _ => rfl
    | cons c cs ih =>
      intro hc
      have hsize : c.utf8Size = 1 := by
        have hd := (isDigit_iff c).mp (hc c List.mem_cons_self)
        have hle : c.val.toNat ≤ 127 := by
          have hv : c.val.toNat = c.toNat := rfl
          omega
        exact Char.utf8Size_eq_one_iff.mpr (UInt32.le_iff_toNat_le.mpr hle)
      rw [← List.singleton_append, String.ofList_append, String.utf8ByteSize_append,
        ih fun d hd => hc d (List.mem_cons_of_mem c hd), ← String.singleton_eq_ofList,
        String.utf8ByteSize_singleton, hsize, List.length_append, List.length_singleton]
  have hs := hcs s.toList h
  rwa [String.ofList_toList] at hs

end LotterySlip.Text
