import LotterySlip.Proofs.Decimal.Value

/-! Decimals without trailing zeros. They are the same numbers, and nothing is left to strip. -/
namespace LotterySlip.Decimal

/-- Stripping takes the same power of ten from the mantissa and from the scale. -/
theorem stripZeros_spec (mantissa scale : Nat) : ∃ k,
    mantissa = (stripZeros mantissa scale).1 * 10 ^ k ∧
      scale = (stripZeros mantissa scale).2 + k := by
  induction scale generalizing mantissa with
  | zero => exact ⟨0, by simp [stripZeros], by simp [stripZeros]⟩
  | succ scale ih =>
    rw [stripZeros]
    split
    · next hz =>
      obtain ⟨k, hm, hs⟩ := ih (mantissa / 10)
      refine ⟨k + 1, ?_, by omega⟩
      rw [pow_succ, ← mul_assoc, ← hm]
      omega
    · exact ⟨0, by simp, by simp⟩

/-- What is left ends with no zero that could be stripped. -/
theorem stripZeros_stripZeros (mantissa scale : Nat) :
    stripZeros (stripZeros mantissa scale).1 (stripZeros mantissa scale).2 =
      stripZeros mantissa scale := by
  induction scale generalizing mantissa with
  | zero => rfl
  | succ scale ih =>
    by_cases hz : mantissa % 10 = 0
    · rw [stripZeros, if_pos hz]
      exact ih _
    · have h : stripZeros mantissa (scale + 1) = (mantissa, scale + 1) := by
        rw [stripZeros, if_neg hz]
      rw [h, h]

theorem value_normalize (d : Decimal) : d.normalize.value = d.value := by
  by_cases hz : d.isZero = true
  · rw [normalize, if_pos hz, value_zero, (value_eq_zero_iff d).mpr hz]
  · obtain ⟨k, hm, hs⟩ := stripZeros_spec d.mantissa d.scale
    rw [normalize, if_neg hz, value_eq_iff]
    simp only [signed]
    generalize (stripZeros d.mantissa d.scale).1 = m at *
    generalize (stripZeros d.mantissa d.scale).2 = s at *
    rw [hm, hs, pow_add]
    split <;> push_cast <;> ring

theorem normalize_normalize (d : Decimal) : d.normalize.normalize = d.normalize := by
  by_cases hz : d.isZero = true
  · have h : d.normalize = zero := by rw [normalize, if_pos hz]
    rw [h]
    rfl
  · have hz' : ¬ d.normalize.isZero = true := by
      rwa [← value_eq_zero_iff, value_normalize, value_eq_zero_iff]
    have h : d.normalize = ⟨d.negative, (stripZeros d.mantissa d.scale).1,
        (stripZeros d.mantissa d.scale).2,
        Nat.lt_of_le_of_lt (stripZeros_fst_le _ _) d.mantissa_lt,
        Nat.le_trans (stripZeros_snd_le _ _) d.scale_le⟩ := by
      rw [normalize, if_neg hz]
    rw [normalize, if_neg hz', h]
    simp only [stripZeros_stripZeros]

theorem normalize_negative {d : Decimal} (h : 0 < d.value) :
    d.normalize.negative = false ∧ 0 < d.normalize.value := by
  have hv : 0 < d.normalize.value := by rwa [value_normalize]
  have hp := (value_pos_iff _).mp hv
  rw [isPositive, Bool.and_eq_true, Bool.not_eq_true'] at hp
  exact ⟨hp.1, hv⟩

end LotterySlip.Decimal
