import Mathlib.Algebra.Order.Field.Basic
import Mathlib.Algebra.Order.Field.Rat
import Mathlib.Data.Rat.Cast.Order
import Mathlib.Tactic.FieldSimp
import Mathlib.Tactic.NormNum
import Mathlib.Tactic.LinearCombination
import Mathlib.Tactic.Positivity
import LotterySlip.Proofs.Decimal.Rounding

/-! Decimals as rational numbers. Sums and products depend on the numbers only, not on the scales in
which they are written, and overflow exactly when the exact result is too large to be rounded. -/
namespace LotterySlip.Decimal

def value (d : Decimal) : ℚ := d.signed / 10 ^ d.scale

theorem natAbs_signed (d : Decimal) : d.signed.natAbs = d.mantissa := by
  unfold signed
  split <;> simp

theorem signed_eq_zero_iff (d : Decimal) : d.signed = 0 ↔ d.isZero = true := by
  rw [← Int.natAbs_eq_zero, natAbs_signed, isZero, beq_iff_eq]

theorem value_eq_zero_iff (d : Decimal) : d.value = 0 ↔ d.isZero = true := by
  rw [← signed_eq_zero_iff, value, div_eq_zero_iff]
  simp

theorem isZero_congr {d e : Decimal} (h : d.value = e.value) : d.isZero = e.isZero := by
  rw [Bool.eq_iff_iff, ← value_eq_zero_iff, ← value_eq_zero_iff, h]

theorem value_zero : zero.value = 0 := (value_eq_zero_iff zero).mpr rfl

/-- Equal numbers are equal mantissas once both are written with the places of both. -/
theorem value_eq_iff (a b : Decimal) :
    a.value = b.value ↔ a.signed * 10 ^ b.scale = b.signed * 10 ^ a.scale := by
  unfold value
  rw [div_eq_div_iff (by positivity) (by positivity)]
  exact_mod_cast Iff.rfl

theorem value_pos_iff (d : Decimal) : 0 < d.value ↔ d.isPositive = true := by
  have hs : 0 < d.value ↔ 0 < d.signed := by
    rw [value, div_pos_iff_of_pos_right (by positivity)]
    exact_mod_cast Iff.rfl
  rw [hs, signed, isPositive]
  cases d.negative <;> simp [Nat.pos_iff_ne_zero]

/-- Where overflow begins: half a unit below the first mantissa that does not fit. -/
def overflowBound : ℚ := mantissaLimit - 1 / 2

theorem abs_value_lt (d : Decimal) : |d.value| < overflowBound := by
  have hm : (d.mantissa : ℚ) ≤ mantissaLimit - 1 := by
    have h : d.mantissa + 1 ≤ mantissaLimit := d.mantissa_lt
    have h' : (d.mantissa : ℚ) + 1 ≤ mantissaLimit := by exact_mod_cast h
    linarith
  have hs : |(d.signed : ℚ)| = d.mantissa := by
    rw [← natAbs_signed d, Nat.cast_natAbs, Int.cast_abs]
  have hp : (1 : ℚ) ≤ 10 ^ d.scale := one_le_pow₀ (by norm_num)
  calc |d.value| = d.mantissa / 10 ^ d.scale := by
        rw [value, abs_div, hs, abs_of_pos (by positivity : (0 : ℚ) < 10 ^ d.scale)]
    _ ≤ d.mantissa := div_le_self (by positivity) hp
    _ ≤ mantissaLimit - 1 := hm
    _ < overflowBound := by unfold overflowBound; norm_num

def round? (i : Int) (scale : Nat) : Option Decimal := fit? (i < 0) i.natAbs scale

theorem round?_eq_none_iff (i : Int) (scale : Nat) :
    round? i scale = none ↔ overflowBound ≤ |(i : ℚ) / 10 ^ scale| := by
  have hp : (0 : ℚ) < 10 ^ scale := by positivity
  have ha : |(i : ℚ)| = i.natAbs := by rw [Nat.cast_natAbs, Int.cast_abs]
  rw [round?, fit?_eq_none_iff, abs_div, abs_of_pos hp, ha, le_div_iff₀ hp, overflowBound]
  have hl : (2 * mantissaLimit - 1) * 10 ^ scale ≤ 2 * i.natAbs ↔
      ((2 * mantissaLimit - 1 : ℕ) : ℚ) * 10 ^ scale ≤ 2 * i.natAbs := by exact_mod_cast Iff.rfl
  have hb : ((2 * mantissaLimit - 1 : ℕ) : ℚ) = 2 * (mantissaLimit - 1 / 2) := by norm_num
  rw [hl, hb, mul_assoc, mul_le_mul_iff_of_pos_left (by norm_num)]

theorem abs_roundHalfEven_sub_le (n d : Nat) (hd : 0 < d) :
    |(roundHalfEven n d : ℚ) - n / d| ≤ 1 / 2 := by
  have hp : (0 : ℚ) < d := by exact_mod_cast hd
  obtain ⟨hlow, hhigh⟩ := roundHalfEven_bounds n d hd
  generalize roundHalfEven n d = q at hlow hhigh ⊢
  have hlow' : (2 * n : ℚ) ≤ (2 * q + 1) * d := by exact_mod_cast hlow
  have hhigh' : (2 * q * d : ℚ) ≤ 2 * n + d := by exact_mod_cast hhigh
  have hle : (n : ℚ) / d ≤ q + 1 / 2 := (div_le_iff₀ hp).mpr (by linarith)
  have hge : (q : ℚ) - 1 / 2 ≤ n / d := (le_div_iff₀ hp).mpr (by linarith)
  rw [abs_le]
  constructor <;> linarith

def Near (d : Decimal) (x : ℚ) : Prop := |d.value - x| ≤ 1 / 2 / 10 ^ d.scale

theorem near_of_round? {i : Int} {scale : Nat} {d : Decimal} (h : round? i scale = some d) :
    d.Near (i / 10 ^ scale) := by
  obtain ⟨r, hr, hd⟩ := List.exists_of_findSome?_eq_some h
  obtain ⟨hneg, hmantissa, hscale⟩ := (ofParts?_eq_some_iff _ _ _ _).mp hd
  have hsplit : (10 : ℚ) ^ scale = 10 ^ r * 10 ^ d.scale := by
    rw [hscale, ← pow_add, Nat.add_sub_cancel' (Nat.lt_succ_iff.mp (List.mem_range.mp hr))]
  have hnear : |(d.mantissa : ℚ) - i.natAbs / 10 ^ r| ≤ 1 / 2 := by
    have hle := abs_roundHalfEven_sub_le i.natAbs (10 ^ r) (by positivity)
    rw [show roundHalfEven i.natAbs (10 ^ r) = d.mantissa from hmantissa.symm] at hle
    exact_mod_cast hle
  obtain ⟨e, he, hi, hs⟩ : ∃ e : ℚ, |e| = 1 ∧ (i : ℚ) = e * i.natAbs ∧
      (d.signed : ℚ) = e * d.mantissa := by
    rw [signed, hneg, Nat.cast_natAbs]
    by_cases hlt : i < 0
    · refine ⟨-1, by norm_num, ?_, by simp [hlt]⟩
      rw [abs_of_neg hlt]
      push_cast
      ring
    · refine ⟨1, abs_one, ?_, by simp [hlt]⟩
      rw [abs_of_nonneg (not_lt.mp hlt), one_mul]
  have hdiff : d.value - i / 10 ^ scale = e * (d.mantissa - i.natAbs / 10 ^ r) / 10 ^ d.scale := by
    rw [value, hs, hi, hsplit]
    field_simp
  rw [Near, hdiff, abs_div, abs_mul, he, one_mul,
    abs_of_pos (by positivity : (0 : ℚ) < 10 ^ d.scale)]
  gcongr

theorem map_value_fit?_succ (negative : Bool) (mantissa scale : Nat) :
    (fit? negative (mantissa * 10) (scale + 1)).map value =
      (fit? negative mantissa scale).map value := by
  rw [fit?_succ]
  cases h : ofParts? negative (mantissa * 10) (scale + 1) with
  | none => rw [Option.none_or]
  | some d =>
    -- Where there is room for the added zero, nothing is rounded on either side.
    obtain ⟨hm, hs⟩ := (ofParts?_isSome_iff _ _ _).mp (Option.isSome_of_eq_some h)
    obtain ⟨e, he⟩ := Option.isSome_iff_exists.mp
      ((ofParts?_isSome_iff negative mantissa scale).mpr ⟨by omega, by omega⟩)
    rw [Option.some_or, fit?_eq_ofParts? _ _ _ (by omega) (by omega), he, Option.map_some,
      Option.map_some, Option.some.injEq, value_eq_iff]
    obtain ⟨hdn, hdm, hds⟩ := (ofParts?_eq_some_iff _ _ _ _).mp h
    obtain ⟨hen, hem, hes⟩ := (ofParts?_eq_some_iff _ _ _ _).mp he
    simp only [signed, hdn, hdm, hds, hen, hem, hes]
    split <;> push_cast <;> ring

theorem map_value_round?_mul_pow (i : Int) (scale k : Nat) :
    (round? (i * 10 ^ k) (scale + k)).map value = (round? i scale).map value := by
  induction k with
  | zero => simp
  | succ k ih =>
    have hneg : (i * 10 ^ (k + 1) < 0) ↔ (i * 10 ^ k < 0) := by
      rw [pow_succ, ← mul_assoc]
      constructor <;> intro h <;> omega
    have habs : (i * 10 ^ (k + 1)).natAbs = (i * 10 ^ k).natAbs * 10 := by
      rw [pow_succ, ← mul_assoc, Int.natAbs_mul]
      rfl
    rw [← ih, round?, round?, habs, ← Nat.add_assoc, map_value_fit?_succ]
    simp only [hneg]

/-- Rounding sees the quotient only. -/
theorem map_value_round?_congr (i j : Int) (s t : Nat) (h : i * 10 ^ t = j * 10 ^ s) :
    (round? i s).map value = (round? j t).map value := by
  wlog hst : s ≤ t generalizing i j s t
  · exact (this j i t s h.symm (by omega)).symm
  obtain ⟨k, rfl⟩ := Nat.exists_eq_add_of_le hst
  have hj : j = i * 10 ^ k := by
    have hpos : (10 : Int) ^ s ≠ 0 := by positivity
    apply mul_right_cancel₀ hpos
    rw [← h, pow_add]
    ring
  rw [hj, map_value_round?_mul_pow]

theorem value_settleZero (a b product : Decimal) :
    (settleZero a b product).value = product.value := by
  unfold settleZero
  by_cases hz : product.isZero = true
  · have hp : product.value = 0 := (value_eq_zero_iff product).mpr hz
    have hc : product.clearZero.value = 0 := (value_eq_zero_iff _).mpr hz
    rw [hz, hp]
    simp only [Bool.not_true, Bool.false_eq_true, if_false]
    split_ifs
    · exact value_zero
    · exact hc
    · exact hp
  · simp [hz]

theorem settleZero_of_ne_zero {a b product : Decimal} (h : ¬ product.isZero = true) :
    settleZero a b product = product := by
  rw [settleZero, if_pos (by simpa using h)]

theorem scale_settleZero_le (a b product : Decimal) :
    (settleZero a b product).scale ≤ product.scale := by
  unfold settleZero
  split_ifs
  · exact le_refl _
  · exact Nat.zero_le _
  · exact le_refl _
  · exact le_refl _

theorem mul?_of_ne_zero (a b : Decimal) (ha : ¬ a.isZero = true) (hb : ¬ b.isZero = true) :
    mul? a b = (round? (a.signed * b.signed) (a.scale + b.scale)).map (settleZero a b) := by
  have hm (d : Decimal) (hd : ¬ d.isZero = true) : (0 : Int) < d.mantissa := by
    have h : d.mantissa ≠ 0 := by simpa [isZero] using hd
    omega
  have hneg : decide (a.signed * b.signed < 0) = (a.negative != b.negative) := by
    have h := mul_pos (hm a ha) (hm b hb)
    unfold signed
    cases a.negative <;> cases b.negative <;> simp <;> omega
  simp only [mul?, ha, hb, Bool.or_self, Bool.false_eq_true, if_false, round?, Int.natAbs_mul,
    natAbs_signed, hneg]

theorem signed_mul_div (a b : Decimal) :
    ((a.signed * b.signed : Int) : ℚ) / 10 ^ (a.scale + b.scale) = a.value * b.value := by
  rw [value, value, div_mul_div_comm, pow_add]
  push_cast
  rfl

theorem mul?_of_isZero {a b : Decimal} (h : a.isZero = true ∨ b.isZero = true) :
    a.mul? b = some zero ∧ a.value * b.value = 0 := by
  have hor : (a.isZero || b.isZero) = true := by simpa using h
  exact ⟨by rw [mul?, if_pos hor], mul_eq_zero.mpr (h.imp (value_eq_zero_iff a).mpr
    (value_eq_zero_iff b).mpr)⟩

/-- A product overflows exactly when the exact product is too large. -/
theorem mul?_eq_none_iff (a b : Decimal) :
    a.mul? b = none ↔ overflowBound ≤ |a.value * b.value| := by
  by_cases hz : a.isZero = true ∨ b.isZero = true
  · obtain ⟨hmul, hvalue⟩ := mul?_of_isZero hz
    rw [hmul, hvalue, abs_zero, overflowBound]
    simp only [reduceCtorEq, false_iff, not_le]
    norm_num
  · rw [not_or] at hz
    rw [mul?_of_ne_zero a b hz.1 hz.2, Option.map_eq_none_iff, round?_eq_none_iff, signed_mul_div]

theorem abs_lt_of_mul? {a b c : Decimal} (h : a.mul? b = some c) :
    |a.value * b.value| < overflowBound := by
  rw [← not_le, ← mul?_eq_none_iff, h]
  exact Option.some_ne_none c

/-- A product is rounded once. -/
theorem near_of_mul? {a b c : Decimal} (h : a.mul? b = some c) : c.Near (a.value * b.value) := by
  by_cases hz : a.isZero = true ∨ b.isZero = true
  · obtain ⟨hmul, hvalue⟩ := mul?_of_isZero hz
    rw [hmul] at h
    cases h
    rw [hvalue, Near, value_zero, sub_zero, abs_zero]
    positivity
  · rw [not_or] at hz
    rw [mul?_of_ne_zero a b hz.1 hz.2] at h
    obtain ⟨d, hd, rfl⟩ := Option.map_eq_some_iff.mp h
    have hnear := near_of_round? hd
    rw [signed_mul_div] at hnear
    rw [Near, value_settleZero]
    refine hnear.trans ?_
    have hscale := scale_settleZero_le a b d
    gcongr
    norm_num

/-- A product depends on the numbers only. -/
theorem map_value_mul?_congr {a b a' b' : Decimal} (ha : a.value = a'.value)
    (hb : b.value = b'.value) : (a.mul? b).map value = (a'.mul? b').map value := by
  have hza : a.isZero = a'.isZero := isZero_congr ha
  have hzb : b.isZero = b'.isZero := isZero_congr hb
  by_cases hz : a.isZero = true ∨ b.isZero = true
  · have hz' : a'.isZero = true ∨ b'.isZero = true := by rwa [← hza, ← hzb]
    rw [(mul?_of_isZero hz).1, (mul?_of_isZero hz').1]
  · rw [not_or] at hz
    have hz' : ¬ a'.isZero = true ∧ ¬ b'.isZero = true := by rw [← hza, ← hzb]; exact hz
    have hsettle (x y : Decimal) : value ∘ settleZero x y = value :=
      funext fun p => value_settleZero x y p
    rw [mul?_of_ne_zero a b hz.1 hz.2, mul?_of_ne_zero a' b' hz'.1 hz'.2, Option.map_map,
      Option.map_map, hsettle, hsettle]
    apply map_value_round?_congr
    rw [pow_add, pow_add]
    linear_combination b.signed * 10 ^ b'.scale * (value_eq_iff a a').mp ha +
      a'.signed * 10 ^ a.scale * (value_eq_iff b b').mp hb

theorem signedAt_eq (d : Decimal) (scale : Nat) (h : d.scale ≤ scale) :
    (d.signedAt scale : ℚ) = d.value * 10 ^ scale := by
  have hp : (10 : ℚ) ^ scale = 10 ^ (scale - d.scale) * 10 ^ d.scale := by
    rw [← pow_add, Nat.sub_add_cancel h]
  rw [signedAt, value, hp, Nat.pow_eq]
  push_cast
  field_simp

theorem signedAt_add_div (a b : Decimal) :
    ((a.signedAt (max a.scale b.scale) + b.signedAt (max a.scale b.scale) : Int) : ℚ) /
      10 ^ max a.scale b.scale = a.value + b.value := by
  push_cast
  rw [signedAt_eq a _ (le_max_left _ _), signedAt_eq b _ (le_max_right _ _), ← add_mul,
    mul_div_cancel_right₀ _ (by positivity)]

theorem add?_of_ne_zero (a b : Decimal) (ha : ¬ a.isZero = true) (hb : ¬ b.isZero = true) :
    add? a b = round? (a.signedAt (max a.scale b.scale) + b.signedAt (max a.scale b.scale))
      (max a.scale b.scale) := by
  simp [add?, ha, hb, round?]

/-- A sum depends on the numbers only. -/
theorem map_value_add?_congr {a b a' b' : Decimal} (ha : a.value = a'.value)
    (hb : b.value = b'.value) : (a.add? b).map value = (a'.add? b').map value := by
  have hza : a.isZero = a'.isZero := isZero_congr ha
  have hzb : b.isZero = b'.isZero := isZero_congr hb
  by_cases h : a.isZero = true
  · rw [add?, add?, if_pos h, if_pos (hza ▸ h), Option.map_some, Option.map_some, hb]
  · have h' : ¬ a'.isZero = true := hza ▸ h
    by_cases k : b.isZero = true
    · rw [add?, add?, if_neg h, if_pos k, if_neg h', if_pos (hzb ▸ k), Option.map_some,
        Option.map_some, ha]
    · rw [add?_of_ne_zero a b h k, add?_of_ne_zero a' b' h' (hzb ▸ k)]
      apply map_value_round?_congr
      have hs := signedAt_add_div a b
      have ht := signedAt_add_div a' b'
      rw [ha, hb, ← ht, div_eq_div_iff (by positivity) (by positivity)] at hs
      exact_mod_cast hs

/-- A sum overflows exactly when the exact sum is too large. -/
theorem add?_eq_none_iff (a b : Decimal) :
    a.add? b = none ↔ overflowBound ≤ |a.value + b.value| := by
  by_cases ha : a.isZero = true
  · rw [add?, if_pos ha, (value_eq_zero_iff a).mpr ha, zero_add]
    simp [abs_value_lt b]
  · by_cases hb : b.isZero = true
    · rw [add?, if_neg ha, if_pos hb, (value_eq_zero_iff b).mpr hb, add_zero]
      simp [abs_value_lt a]
    · rw [add?_of_ne_zero a b ha hb, round?_eq_none_iff, signedAt_add_div]

end LotterySlip.Decimal
