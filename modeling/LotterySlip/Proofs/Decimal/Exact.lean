import LotterySlip.Proofs.Decimal.Value

/-! Sums and products that are not rounded. Two decimals have an exact sum if it can be written with the
decimal places of both, and an exact product if there is room for the product of the mantissas. -/
namespace LotterySlip.Decimal

/-- A number within the limits is not rounded. -/
theorem exists_round?_eq (i : Int) (scale : Nat) (hi : i.natAbs < mantissaLimit)
    (hs : scale ≤ 28) :
    ∃ d, round? i scale = some d ∧ d.signed = i ∧ d.scale = scale := by
  obtain ⟨d, hd⟩ := Option.isSome_iff_exists.mp
    ((ofParts?_isSome_iff (decide (i < 0)) _ _).mpr ⟨hi, hs⟩)
  obtain ⟨hn, hm, hsc⟩ := (ofParts?_eq_some_iff _ _ _ _).mp hd
  have hsigned : d.signed = i := by
    rw [signed, hn, hm]
    by_cases hneg : i < 0
    · rw [if_pos (decide_eq_true hneg)]
      omega
    · rw [if_neg (by simpa using hneg)]
      omega
  exact ⟨d, by rw [round?, fit?_eq_ofParts? _ _ _ hi hs, hd], hsigned, hsc⟩

/-- A sum is exact if its mantissa is within the limits at a scale that is enough for both. -/
theorem exists_add?_eq {a b : Decimal} {k : Nat} (ha : a.scale ≤ k) (hb : b.scale ≤ k)
    (h : |a.value + b.value| * 10 ^ k < mantissaLimit) :
    ∃ c, a.add? b = some c ∧ c.value = a.value + b.value ∧ c.scale ≤ k := by
  by_cases hza : a.isZero = true
  · exact ⟨b, by rw [add?, if_pos hza], by rw [(value_eq_zero_iff a).mpr hza, zero_add], hb⟩
  by_cases hzb : b.isZero = true
  · exact ⟨a, by rw [add?, if_neg hza, if_pos hzb],
      by rw [(value_eq_zero_iff b).mpr hzb, add_zero], ha⟩
  have hdiv := signedAt_add_div a b
  rw [add?_of_ne_zero a b hza hzb]
  generalize a.signedAt (max a.scale b.scale) + b.signedAt (max a.scale b.scale) = i at hdiv ⊢
  have hi : |(i : ℚ)| < mantissaLimit := by
    have hp : (0 : ℚ) < 10 ^ max a.scale b.scale := by positivity
    calc |(i : ℚ)| = |a.value + b.value| * 10 ^ max a.scale b.scale := by
          rw [← hdiv, abs_div, abs_of_pos hp, div_mul_cancel₀ _ hp.ne']
      _ ≤ |a.value + b.value| * 10 ^ k := by
          gcongr
          · norm_num
          · exact max_le ha hb
      _ < mantissaLimit := h
  have habs : i.natAbs < mantissaLimit := by
    rw [← Int.cast_abs, Int.abs_eq_natAbs] at hi
    exact_mod_cast hi
  obtain ⟨c, hc, hsigned, hs⟩ := exists_round?_eq i (max a.scale b.scale) habs
    (max_le a.scale_le b.scale_le)
  refine ⟨c, hc, ?_, hs ▸ max_le ha hb⟩
  rw [value, hsigned, hs, hdiv]

/-- A product is exact if the mantissas have a product within the limits at the sum of the scales. -/
theorem exists_mul?_eq {a b : Decimal} (hm : a.mantissa * b.mantissa < mantissaLimit)
    (hs : a.scale + b.scale ≤ 28) :
    ∃ c, a.mul? b = some c ∧ c.value = a.value * b.value ∧
      c.mantissa = a.mantissa * b.mantissa ∧ c.scale ≤ a.scale + b.scale := by
  by_cases hz : a.isZero = true ∨ b.isZero = true
  · obtain ⟨hmul, hvalue⟩ := mul?_of_isZero hz
    refine ⟨zero, hmul, value_zero.trans hvalue.symm, ?_, Nat.zero_le _⟩
    simp only [isZero, beq_iff_eq] at hz
    exact (mul_eq_zero.mpr hz).symm
  · rw [not_or] at hz
    have habs : (a.signed * b.signed).natAbs = a.mantissa * b.mantissa := by
      rw [Int.natAbs_mul, natAbs_signed, natAbs_signed]
    obtain ⟨c, hc, hsigned, hscale⟩ := exists_round?_eq (a.signed * b.signed) (a.scale + b.scale)
      (habs ▸ hm) hs
    have hne : ¬ c.isZero = true := by
      rw [← signed_eq_zero_iff, hsigned, mul_eq_zero, signed_eq_zero_iff, signed_eq_zero_iff, not_or]
      exact hz
    refine ⟨c, ?_, ?_, ?_, hscale.le⟩
    · rw [mul?_of_ne_zero a b hz.1 hz.2, hc, Option.map_some, settleZero_of_ne_zero hne]
    · rw [value, hsigned, hscale, signed_mul_div]
    · rw [← natAbs_signed, hsigned, habs]

end LotterySlip.Decimal
