import LotterySlip.Proofs.Decimal.Value

/-! The signs of sums and products. Rounding may turn a number into zero, but never into one of the
other sign. -/
namespace LotterySlip.Decimal

structure SignedLike (x y : ℚ) : Prop where
  neg : x < 0 → y < 0
  pos : 0 < x → 0 < y

namespace SignedLike

variable {x y z w : ℚ}

theorem nonneg (h : SignedLike x y) (hy : 0 ≤ y) : 0 ≤ x :=
  not_lt.mp fun hx => (h.neg hx).not_ge hy

theorem of_nonneg_nonpos (hn : 0 ≤ y → 0 ≤ x) (hp : y ≤ 0 → x ≤ 0) : SignedLike x y :=
  ⟨fun hx => not_le.mp fun hy => (hn hy).not_gt hx,
    fun hx => not_le.mp fun hy => (hp hy).not_gt hx⟩

theorem trans (hxy : SignedLike x y) (hyz : SignedLike y z) : SignedLike x z :=
  ⟨fun hx => hyz.neg (hxy.neg hx), fun hx => hyz.pos (hxy.pos hx)⟩

/-- A factor makes no difference. -/
theorem mul_right (h : SignedLike x y) (w : ℚ) : SignedLike (x * w) (y * w) := by
  constructor
  · intro hx
    rcases mul_neg_iff.mp hx with ⟨hx, hw⟩ | ⟨hx, hw⟩
    · exact mul_neg_of_pos_of_neg (h.pos hx) hw
    · exact mul_neg_of_neg_of_pos (h.neg hx) hw
  · intro hx
    rcases mul_pos_iff.mp hx with ⟨hx, hw⟩ | ⟨hx, hw⟩
    · exact mul_pos (h.pos hx) hw
    · exact mul_pos_of_neg_of_neg (h.neg hx) hw

/-- Nor does one that is not negative, where it is left out. -/
theorem mul_nonneg_left (hw : 0 ≤ w) : SignedLike (w * x) x := by
  refine of_nonneg_nonpos (fun hx => mul_nonneg hw hx) fun hx => mul_nonpos_of_nonneg_of_nonpos hw hx

end SignedLike

theorem value_nonneg {d : Decimal} (h : d.negative = false) : 0 ≤ d.value := by
  rw [value, signed, h, if_neg Bool.false_ne_true]
  push_cast
  positivity

theorem value_nonpos {d : Decimal} (h : d.negative = true) : d.value ≤ 0 := by
  rw [value, signed, h, if_pos rfl]
  apply div_nonpos_of_nonpos_of_nonneg
  · push_cast
    exact neg_nonpos_of_nonneg (by positivity)
  · positivity

theorem value_neg_iff (d : Decimal) : d.value < 0 ↔ d.isNegative = true := by
  have hs : d.value < 0 ↔ d.signed < 0 := by
    rw [value, div_lt_iff₀ (by positivity), zero_mul]
    exact_mod_cast Iff.rfl
  rw [hs, signed, isNegative]
  cases d.negative <;> simp [Nat.pos_iff_ne_zero]

theorem negative_of_fit? {negative : Bool} {mantissa scale : Nat} {d : Decimal}
    (h : fit? negative mantissa scale = some d) : d.negative = negative := by
  obtain ⟨r, -, hr⟩ := List.exists_of_findSome?_eq_some h
  exact ((ofParts?_eq_some_iff _ _ _ _).mp hr).1

theorem signedLike_of_round? {i : Int} {scale : Nat} {d : Decimal} (h : round? i scale = some d) :
    SignedLike d.value i := by
  have hn := negative_of_fit? h
  apply SignedLike.of_nonneg_nonpos
  · intro hi
    have hi' : 0 ≤ i := by exact_mod_cast hi
    exact value_nonneg (hn.trans (decide_eq_false hi'.not_gt))
  · intro hi
    rcases (show i ≤ 0 by exact_mod_cast hi).lt_or_eq with hlt | rfl
    · exact value_nonpos (hn.trans (decide_eq_true hlt))
    · have hz : d.isZero = true := by
        obtain ⟨r, -, hr⟩ := List.exists_of_findSome?_eq_some h
        have hm := ((ofParts?_eq_some_iff _ _ _ _).mp hr).2.1
        rw [isZero, hm]
        simp [roundHalfEven]
      exact ((value_eq_zero_iff d).mpr hz).le

theorem signedLike_of_mul? {a b c : Decimal} (h : a.mul? b = some c) :
    SignedLike c.value (a.value * b.value) := by
  by_cases hz : a.isZero = true ∨ b.isZero = true
  · obtain ⟨hmul, hvalue⟩ := mul?_of_isZero hz
    rw [hmul] at h
    cases h
    rw [hvalue, value_zero]
    exact ⟨fun h => absurd h (lt_irrefl 0), fun h => absurd h (lt_irrefl 0)⟩
  · rw [not_or] at hz
    rw [mul?_of_ne_zero a b hz.1 hz.2] at h
    obtain ⟨d, hd, rfl⟩ := Option.map_eq_some_iff.mp h
    have hprod := (div_eq_iff (by positivity)).mp (signed_mul_div a b)
    rw [value_settleZero]
    refine (signedLike_of_round? hd).trans ?_
    rw [hprod, mul_comm]
    exact SignedLike.mul_nonneg_left (by positivity)

theorem value_nonneg_of_add? {a b c : Decimal} (h : a.add? b = some c) (ha : 0 ≤ a.value)
    (hb : 0 ≤ b.value) : 0 ≤ c.value := by
  by_cases hza : a.isZero = true
  · rw [add?, if_pos hza] at h
    cases h
    exact hb
  by_cases hzb : b.isZero = true
  · rw [add?, if_neg hza, if_pos hzb] at h
    cases h
    exact ha
  have hdiv := signedAt_add_div a b
  rw [add?_of_ne_zero a b hza hzb] at h
  refine (signedLike_of_round? h).nonneg ?_
  rw [div_eq_iff (by positivity)] at hdiv
  rw [hdiv]
  exact mul_nonneg (add_nonneg ha hb) (by positivity)

end LotterySlip.Decimal
