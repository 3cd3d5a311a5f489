import LotterySlip.Decimal.Basic
import LotterySlip.Rounding

/-! Sums and products of decimals. The exact result keeps as many of its decimal places as the
limits allow; the one rounding goes to the nearest, and a half to the even neighbour. A result whose
whole part is too large is an overflow. -/
namespace LotterySlip.Decimal

/-- The decimal nearest to `mantissa / 10 ^ scale` with the fewest decimal places dropped. -/
def fit? (negative : Bool) (mantissa scale : Nat) : Option Decimal :=
  (List.range (scale + 1)).findSome? fun r =>
    ofParts? negative (roundHalfEven mantissa (Nat.pow 10 r)) (scale - r)

def wordLimit : Nat := UInt32.size

/-- The sign and the scale of a product that rounds to zero: with short factors it has no sign, and
no decimal places either if the factors together have more than 47. -/
def settleZero (a b product : Decimal) : Decimal :=
  if !product.isZero then product
  else if a.mantissa < wordLimit ∧ b.mantissa < wordLimit then
    if 47 < a.scale + b.scale then zero else product.clearZero
  else product

def mul? (a b : Decimal) : Option Decimal :=
  if a.isZero || b.isZero then some zero
  else (fit? (a.negative != b.negative) (a.mantissa * b.mantissa) (a.scale + b.scale)).map
    (settleZero a b)

def signedAt (d : Decimal) (scale : Nat) : Int := d.signed * Nat.pow 10 (scale - d.scale)

/-- The sum, or nothing on overflow. Zero added to a number gives that number, scale and all. -/
def add? (a b : Decimal) : Option Decimal :=
  if a.isZero then some b
  else if b.isZero then some a
  else
    let scale := max a.scale b.scale
    let sum := a.signedAt scale + b.signedAt scale
    fit? (sum < 0) sum.natAbs scale

def stripZeros (mantissa : Nat) : Nat → Nat × Nat
  | 0 => (mantissa, 0)
  | scale + 1 =>
    if mantissa % 10 = 0 then stripZeros (mantissa / 10) scale else (mantissa, scale + 1)

theorem stripZeros_fst_le (m s : Nat) : (stripZeros m s).1 ≤ m := by
  induction s generalizing m with
  | zero => simp [stripZeros]
  | succ s ih =>
    rw [stripZeros]
    split
    · exact Nat.le_trans (ih _) (Nat.div_le_self _ _)
    · exact Nat.le_refl _

theorem stripZeros_snd_le (m s : Nat) : (stripZeros m s).2 ≤ s := by
  induction s generalizing m with
  | zero => simp [stripZeros]
  | succ s ih =>
    rw [stripZeros]
    split
    · exact Nat.le_trans (ih _) (Nat.le_succ _)
    · exact Nat.le_refl _

def normalize (d : Decimal) : Decimal :=
  if d.isZero then zero
  else
    ⟨d.negative, (stripZeros d.mantissa d.scale).1, (stripZeros d.mantissa d.scale).2,
      Nat.lt_of_le_of_lt (stripZeros_fst_le _ _) d.mantissa_lt,
      Nat.le_trans (stripZeros_snd_le _ _) d.scale_le⟩

end LotterySlip.Decimal
