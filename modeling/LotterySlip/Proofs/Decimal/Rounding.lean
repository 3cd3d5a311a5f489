import Mathlib.Data.Nat.Basic
import Mathlib.Tactic.Ring
import Mathlib.Tactic.Linarith
import LotterySlip.Decimal.Arithmetic

/-! The rounding of exact results. What counts is the quotient that is rounded, not the pair of
numbers that stands for it, and a result overflows exactly from half a unit below the limit on. -/
namespace LotterySlip

theorem roundHalfEven_one (n : Nat) : roundHalfEven n 1 = n := by
  simp [roundHalfEven, Nat.mod_one]

theorem roundHalfEven_mul (n d k : Nat) (hk : 0 < k) :
    roundHalfEven (n * k) (d * k) = roundHalfEven n d := by
  have hl : 2 * (n % d * k) < d * k ↔ 2 * (n % d) < d := by
    rw [← Nat.mul_assoc, Nat.mul_lt_mul_right hk]
  have hr : d * k < 2 * (n % d * k) ↔ d < 2 * (n % d) := by
    rw [← Nat.mul_assoc, Nat.mul_lt_mul_right hk]
  simp only [roundHalfEven, Nat.mul_mod_mul_right, Nat.mul_div_mul_right n d hk, hl, hr]

/-- An even bound is reached exactly from half a unit below it on: the half goes up to it. -/
theorem le_roundHalfEven_iff (n d q : Nat) (hd : 0 < d) (hq : 0 < q) (he : q % 2 = 0) :
    q ≤ roundHalfEven n d ↔ (2 * q - 1) * d ≤ 2 * n := by
  have hn : n = d * (n / d) + n % d := (Nat.div_add_mod n d).symm
  have hm : n % d < d := Nat.mod_lt n hd
  obtain ⟨p, rfl⟩ : ∃ p, q = p + 1 := ⟨q - 1, by omega⟩
  have hp : 2 * (p + 1) - 1 = 2 * p + 1 := by omega
  rw [hp]
  rcases Nat.lt_trichotomy (n / d) p with h | h | h
  · have hle : roundHalfEven n d ≤ n / d + 1 := by
      simp only [roundHalfEven]
      split_ifs <;> omega
    have hmul : d * (n / d) + d ≤ d * p := by
      rw [← Nat.mul_succ]
      exact Nat.mul_le_mul_left d h
    have hp' : (2 * p + 1) * d = 2 * (d * p) + d := by ring
    constructor
    · omega
    · omega
  · have hp' : (2 * p + 1) * d = 2 * (d * (n / d)) + d := by rw [h]; ring
    simp only [roundHalfEven]
    split_ifs <;> omega
  · have hmul : d * p + d ≤ d * (n / d) := by
      rw [← Nat.mul_succ]
      exact Nat.mul_le_mul_left d h
    have hp' : (2 * p + 1) * d = 2 * (d * p) + d := by ring
    have hle : n / d ≤ roundHalfEven n d := by
      simp only [roundHalfEven]
      split_ifs <;> omega
    constructor
    · omega
    · omega

/-- The rounded quotient is at most half a unit away from the quotient. -/
theorem roundHalfEven_bounds (n d : Nat) (hd : 0 < d) :
    2 * n ≤ (2 * roundHalfEven n d + 1) * d ∧ 2 * roundHalfEven n d * d ≤ 2 * n + d := by
  have hn : n = d * (n / d) + n % d := (Nat.div_add_mod n d).symm
  have hm : n % d < d := Nat.mod_lt n hd
  have hmul (k : Nat) : 2 * k * d = 2 * (d * k) := by ring
  have hsucc (k : Nat) : (2 * k + 1) * d = 2 * (d * k) + d := by ring
  have hone (k : Nat) : d * (k + 1) = d * k + d := by ring
  simp only [hmul, hsucc, roundHalfEven]
  split_ifs with hlow hhigh
  · omega
  · rw [hone]
    omega
  · -- A half goes down or up, as the quotient is even or odd.
    rcases Nat.mod_two_eq_zero_or_one (n / d) with he | he
    · rw [he, Nat.add_zero]
      omega
    · rw [he, hone]
      omega

namespace Decimal

theorem ofParts?_eq_some_iff (negative : Bool) (mantissa scale : Nat) (d : Decimal) :
    ofParts? negative mantissa scale = some d ↔
      d.negative = negative ∧ d.mantissa = mantissa ∧ d.scale = scale := by
  unfold ofParts?
  split
  · rw [Option.some.injEq]
    constructor
    · rintro rfl
      exact ⟨rfl, rfl, rfl⟩
    · rintro ⟨hn, hm, hs⟩
      cases d
      simp_all
  · next h =>
    simp only [reduceCtorEq, false_iff]
    rintro ⟨-, rfl, rfl⟩
    exact h ⟨d.mantissa_lt, d.scale_le⟩

theorem ofParts?_isSome_iff (negative : Bool) (mantissa scale : Nat) :
    (ofParts? negative mantissa scale).isSome ↔ mantissa < mantissaLimit ∧ scale ≤ 28 := by
  unfold ofParts?
  split <;> simp_all

/-- Nothing is rounded that is within the limits. -/
theorem fit?_eq_ofParts? (negative : Bool) (mantissa scale : Nat)
    (hm : mantissa < mantissaLimit) (hs : scale ≤ 28) :
    fit? negative mantissa scale = ofParts? negative mantissa scale := by
  obtain ⟨d, hd⟩ := Option.isSome_iff_exists.mp ((ofParts?_isSome_iff negative _ _).mpr ⟨hm, hs⟩)
  simp [fit?, List.range_succ_eq_map, roundHalfEven_one, hd]

/-- One more trailing zero adds one more number of places to try first. -/
theorem fit?_succ (negative : Bool) (mantissa scale : Nat) :
    fit? negative (mantissa * 10) (scale + 1) =
      (ofParts? negative (mantissa * 10) (scale + 1)).or (fit? negative mantissa scale) := by
  have hstep (r : Nat) :
      roundHalfEven (mantissa * 10) (10 ^ r.succ) = roundHalfEven mantissa (10 ^ r) :=
    roundHalfEven_mul mantissa (10 ^ r) 10 (by decide)
  have hsub (r : Nat) : scale + 1 - (r + 1) = scale - r := by omega
  unfold fit?
  rw [List.range_succ_eq_map, List.findSome?_cons, List.findSome?_map]
  simp only [Function.comp_def, Nat.pow_eq, hstep, hsub, Nat.pow_zero, roundHalfEven_one,
    Nat.sub_zero]
  cases ofParts? negative (mantissa * 10) (scale + 1) <;> rfl

/-- An exact result overflows exactly from half a unit below the limit on. -/
theorem fit?_eq_none_iff (negative : Bool) (mantissa scale : Nat) :
    fit? negative mantissa scale = none ↔
      (2 * mantissaLimit - 1) * 10 ^ scale ≤ 2 * mantissa := by
  have hlimit (r : Nat) : mantissaLimit ≤ roundHalfEven mantissa (Nat.pow 10 r) ↔
      (2 * mantissaLimit - 1) * 10 ^ r ≤ 2 * mantissa :=
    le_roundHalfEven_iff _ _ _ (Nat.pow_pos (by decide)) (by decide) (by decide)
  have hnone (r : Nat) : ofParts? negative (roundHalfEven mantissa (Nat.pow 10 r)) (scale - r) =
      none ↔ mantissaLimit ≤ roundHalfEven mantissa (Nat.pow 10 r) ∨ 28 < scale - r := by
    rw [← Option.not_isSome_iff_eq_none, ofParts?_isSome_iff]
    omega
  simp only [fit?, List.findSome?_eq_none_iff, List.mem_range, hnone, hlimit]
  constructor
  · intro h
    exact (h scale (Nat.lt_succ_self scale)).resolve_right (by omega)
  · intro h r hr
    exact Or.inl (le_trans (Nat.mul_le_mul_left _ (Nat.pow_le_pow_right (by decide) (by omega))) h)

end Decimal
end LotterySlip
