/-! Decimal numbers with a mantissa below 2 ^ 96 and at most 28 decimal places. -/
namespace LotterySlip

abbrev Decimal.mantissaLimit : Nat := 0x1000000000000000000000000

/-- The number `mantissa / 10 ^ scale` with a sign. The scale is part of the number's written form,
so 1.5 and 1.50 differ. A zero may carry a sign. -/
structure Decimal where
  negative : Bool
  mantissa : Nat
  scale : Nat
  mantissa_lt : mantissa < Decimal.mantissaLimit
  scale_le : scale ≤ 28
  deriving DecidableEq, Repr

namespace Decimal

def ofNat (n : Nat) (h : n < mantissaLimit) : Decimal := ⟨false, n, 0, h, by decide⟩

def ofWord (w : UInt32) : Decimal :=
  ofNat w.toNat (Nat.lt_of_lt_of_le w.toNat_lt (by decide))

def zero : Decimal := ofNat 0 (by decide)

def one : Decimal := ofNat 1 (by decide)

instance : Inhabited Decimal := ⟨zero⟩

def ofParts? (negative : Bool) (mantissa scale : Nat) : Option Decimal :=
  if h : mantissa < mantissaLimit ∧ scale ≤ 28 then some ⟨negative, mantissa, scale, h.1, h.2⟩
  else none

def ofNat? (n : Nat) : Option Decimal := ofParts? false n 0

def ofInt? (i : Int) : Option Decimal := ofParts? (i < 0) i.natAbs 0

def isZero (d : Decimal) : Bool := d.mantissa == 0

def isPositive (d : Decimal) : Bool := !d.negative && d.mantissa != 0

def isNegative (d : Decimal) : Bool := d.negative && d.mantissa != 0

def signed (d : Decimal) : Int := if d.negative then -(d.mantissa : Int) else d.mantissa

def clearZero (d : Decimal) : Decimal := { d with negative := d.negative && d.mantissa != 0 }

end Decimal
end LotterySlip
