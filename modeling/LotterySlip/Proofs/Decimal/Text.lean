import LotterySlip.Decimal.Text
import LotterySlip.Proofs.Text.Digits

/-! Decimals survive being written. -/
namespace LotterySlip.Decimal
open LotterySlip.Text

theorem le_ofDigitChars (ds : List Char) (n : Nat) : n ≤ Nat.ofDigitChars 10 ds n := by
  rw [Nat.ofDigitChars_eq_ofDigitChars_zero]
  have h : n ≤ 10 ^ ds.length * n := Nat.le_mul_of_pos_left n (Nat.pow_pos (by decide))
  omega

/-- Digits are taken in as long as there is room for all of them. -/
theorem readOn_append (negative : Bool) (r : Reading) (ds rest : List Char)
    (hd : ∀ c ∈ ds, c.isDigit = true) (hm : Nat.ofDigitChars 10 ds r.mantissa < mantissaLimit)
    (hs : r.pastPoint = true → r.scale + ds.length ≤ 28) :
    readOn negative r (ds ++ rest) =
      readOn negative (ds.foldl (fun r c => r.push (digitValue c)) r) rest := by
  -- What was read only grows, so there is room on the way if there is room at the end.
  induction ds generalizing r with
  | nil => rfl
  | cons c ds ih =>
    rw [Nat.ofDigitChars_cons] at hm
    rw [List.length_cons] at hs
    have hroom : r.hasRoom (digitValue c) = true := by
      have hle := le_ofDigitChars ds (10 * r.mantissa + digitValue c)
      have hlt : 10 * r.mantissa + digitValue c < mantissaLimit := Nat.lt_of_le_of_lt hle hm
      have hfull : r.isFull = false := by
        simp only [Reading.isFull, Bool.and_eq_false_iff, decide_eq_false_iff_not]
        cases hp : r.pastPoint with
        | false => exact Or.inl rfl
        | true =>
          have := hs hp
          exact Or.inr (by omega)
      simp [Reading.hasRoom, hfull, hlt]
    rw [List.cons_append, readOn, if_pos (hd c List.mem_cons_self), if_pos hroom, List.foldl_cons]
    apply ih _ fun d h => hd d (List.mem_cons_of_mem c h)
    · exact hm
    · intro hp
      have hp' : r.pastPoint = true := hp
      have hlen := hs hp'
      simp only [Reading.push, hp', if_true]
      omega

theorem foldl_push (r : Reading) (ds : List Char) (hne : ds ≠ []) :
    ds.foldl (fun r c => r.push (digitValue c)) r =
      ⟨Nat.ofDigitChars 10 ds r.mantissa, if r.pastPoint then r.scale + ds.length else 0,
        r.pastPoint, true⟩ := by
  induction ds generalizing r with
  | nil => exact absurd rfl hne
  | cons c ds ih =>
    rw [List.foldl_cons]
    cases ds with
    | nil => rfl
    | cons d ds =>
      rw [ih _ (List.cons_ne_nil d ds), Nat.ofDigitChars_cons (c := c)]
      cases hp : r.pastPoint <;> simp [Reading.push, hp, digitValue]
      omega

def paddedDigits (mantissa scale : Nat) : List Char := padLeft '0' (scale + 1) (numeral mantissa)

theorem isDigit_of_mem_paddedDigits {mantissa scale : Nat} {c : Char}
    (h : c ∈ paddedDigits mantissa scale) : c.isDigit = true :=
  isDigit_of_mem_padLeft (fun _ => isDigit_of_mem_numeral) c h

theorem lt_length_paddedDigits (mantissa scale : Nat) :
    scale < (paddedDigits mantissa scale).length := by
  rw [paddedDigits, length_padLeft]
  omega

theorem ofDigitChars_paddedDigits (mantissa scale : Nat) :
    Nat.ofDigitChars 10 (paddedDigits mantissa scale) 0 = mantissa := by
  show runNumber _ = _
  rw [paddedDigits, runNumber_padLeft_zero, runNumber_numeral]

/-- The digits before the point and those behind it. -/
theorem exists_magnitudeText (mantissa scale : Nat) : ∃ whole places,
    whole ≠ [] ∧ (∀ c ∈ whole, c.isDigit = true) ∧ (∀ c ∈ places, c.isDigit = true) ∧
    places.length = scale ∧ Nat.ofDigitChars 10 (whole ++ places) 0 = mantissa ∧
    magnitudeText mantissa scale = whole ++ if scale = 0 then [] else '.' :: places := by
  have hlt := lt_length_paddedDigits mantissa scale
  have hsplit := List.take_append_drop ((paddedDigits mantissa scale).length - scale)
    (paddedDigits mantissa scale)
  refine ⟨(paddedDigits mantissa scale).take ((paddedDigits mantissa scale).length - scale),
    (paddedDigits mantissa scale).drop ((paddedDigits mantissa scale).length - scale),
    ?_, ?_, ?_, ?_, ?_, ?_⟩
  · rw [← List.length_pos_iff, List.length_take]
    omega
  · exact fun c hc => isDigit_of_mem_paddedDigits (List.mem_of_mem_take hc)
  · exact fun c hc => isDigit_of_mem_paddedDigits (List.mem_of_mem_drop hc)
  · rw [List.length_drop]
    omega
  · rw [hsplit, ofDigitChars_paddedDigits]
  · by_cases hs : scale = 0
    · subst hs
      simp [magnitudeText, paddedDigits]
    · simp [magnitudeText, paddedDigits, hs]

/-- Reading takes in the written digits and ends at the number. -/
theorem readOn_magnitudeText (negative : Bool) (mantissa scale : Nat)
    (hm : mantissa < mantissaLimit) (hs : scale ≤ 28) :
    readOn negative ⟨0, 0, false, false⟩ (magnitudeText mantissa scale) =
      unsignedZero? negative mantissa scale := by
  obtain ⟨whole, places, hw, hwd, hpd, hl, hv, ht⟩ := exists_magnitudeText mantissa scale
  have hwm : Nat.ofDigitChars 10 whole 0 ≤ mantissa := by
    rw [← hv, Nat.ofDigitChars_append]
    exact le_ofDigitChars places _
  rw [ht, readOn_append negative _ whole _ hwd (Nat.lt_of_le_of_lt hwm hm) (by simp),
    foldl_push _ whole hw]
  by_cases h0 : scale = 0
  · have hp : places = [] := List.length_eq_zero_iff.mp (hl.trans h0)
    rw [hp, List.append_nil] at hv
    simp [h0, readOn, hv]
  · have hp : places ≠ [] := by
      rintro rfl
      exact h0 hl.symm
    have hvp : Nat.ofDigitChars 10 places (Nat.ofDigitChars 10 whole 0) = mantissa := by
      rw [← Nat.ofDigitChars_append, hv]
    rw [if_neg h0, readOn, if_neg (by decide), if_pos ⟨rfl, rfl⟩, ← List.append_nil places]
    rw [readOn_append negative _ places [] hpd (by rw [hvp]; exact hm)
      (fun _ => by simp only [Bool.false_eq_true, if_false]; omega), foldl_push _ places hp]
    simp [readOn, hvp, hl]

/-- A decimal is read back as it was written, scale and all; only a zero loses its sign. -/
theorem ofChars?_toChars (d : Decimal) (h : d.negative = true → d.mantissa ≠ 0) :
    ofChars? d.toChars = some d := by
  have hclear : unsignedZero? d.negative d.mantissa d.scale = some d := by
    have hc : d.clearZero = d := by
      have hn : (d.negative && d.mantissa != 0) = d.negative := by
        cases hd : d.negative with
        | false => rfl
        | true => simpa using h hd
      rw [clearZero, hn]
    rw [unsignedZero?, ofParts?]
    simp [d.mantissa_lt, d.scale_le]
    exact hc
  rw [← hclear, ← readOn_magnitudeText _ _ _ d.mantissa_lt d.scale_le, ofChars?, toChars]
  cases hn : d.negative with
  | true => simp [splitSign]
  | false =>
    obtain ⟨whole, places, hw, hwd, -, -, -, ht⟩ := exists_magnitudeText d.mantissa d.scale
    obtain ⟨c, cs, rfl⟩ := List.exists_cons_of_ne_nil hw
    have hc := hwd c List.mem_cons_self
    have hsign : splitSign (magnitudeText d.mantissa d.scale) =
        (false, magnitudeText d.mantissa d.scale) := by
      have hm : c ≠ '-' := ne_of_isDigit hc (by decide)
      have hp : c ≠ '+' := ne_of_isDigit hc (by decide)
      rw [ht, List.cons_append, splitSign] <;> simp_all
    simp [hsign]

end LotterySlip.Decimal
