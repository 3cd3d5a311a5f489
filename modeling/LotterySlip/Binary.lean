import LotterySlip.Decimal.Arithmetic
import LotterySlip.Decimal.Text

/-! Numbers that documents write with a point or an exponent. Such a number stands for the nearest
binary number with 53 bits, and is read as the shortest decimal text of that. -/
namespace LotterySlip

/-- The number `mantissa * 2 ^ exponent`. -/
structure Binary where
  mantissa : Nat
  exponent : Int
  deriving DecidableEq, Repr

namespace Binary

def mantissaLimit : Nat := 0x20000000000000

def zero : Binary := ⟨0, 0⟩

def dividedByPower (num den : Nat) (e : Int) : Nat × Nat :=
  if 0 ≤ e then (num, den * Nat.pow 2 e.toNat) else (num * Nat.pow 2 (-e).toNat, den)

def minExponent : Int := -1074

def maxExponent : Int := 971

def exponentFor (num den : Nat) : Int :=
  let e : Int := (num.log2 : Int) - den.log2 - 53
  let (x, y) := dividedByPower num den e
  max minExponent (if x / y < mantissaLimit then e else e + 1)

def carry (b : Binary) : Binary :=
  if b.mantissa = mantissaLimit then ⟨mantissaLimit / 2, b.exponent + 1⟩ else b

def nearest? (num den : Nat) : Option Binary :=
  if num = 0 then some zero
  else
    let e := exponentFor num den
    let (x, y) := dividedByPower num den e
    let b := carry ⟨roundHalfEven x y, e⟩
    if b.mantissa = 0 then some zero
    else if maxExponent < b.exponent then none
    else some b

def fraction (b : Binary) : Nat × Nat := dividedByPower b.mantissa 1 (-b.exponent)

def mul? (a b : Binary) : Option Binary :=
  nearest? (a.fraction.1 * b.fraction.1) (a.fraction.2 * b.fraction.2)

def div? (a b : Binary) : Option Binary :=
  nearest? (a.fraction.1 * b.fraction.2) (a.fraction.2 * b.fraction.1)

def decimalFraction (digits : Nat) (place : Int) : Nat × Nat :=
  if 0 ≤ place then (digits * Nat.pow 10 place.toNat, 1) else (digits, Nat.pow 10 (-place).toNat)

/-- The binary number nearest to `digits * 10 ^ place`. Numbers above 10 ^ 400 are too large and
those below 10 ^ -400 are zero, so that their powers of ten need not be formed. -/
def ofDecimal? (digits : Nat) (place : Int) : Option Binary :=
  let magnitude : Int := place + (Text.numeral digits).length
  if digits = 0 ∨ magnitude < -400 then some zero
  else if 400 < magnitude then none
  else nearest? (decimalFraction digits place).1 (decimalFraction digits place).2

def decimalOrder (num den : Nat) : Int :=
  if den ≤ num then ((Text.numeral (num / den)).length : Int) - 1
  else
    let j := (Text.numeral (den / num)).length
    if den = num * Nat.pow 10 (j - 1) then -((j : Int) - 1) else -(j : Int)

/-- Of the two neighbours of the number among the multiples of `10 ^ place`, the nearer one that
reads back; of two at the same distance the greater. -/
def shortestAt? (b : Binary) (place : Int) : Option (Nat × Int) :=
  let (n, d) := b.fraction
  let (x, y) :=
    if 0 ≤ place then (n, d * Nat.pow 10 place.toNat) else (n * Nat.pow 10 (-place).toNat, d)
  let reads (k : Nat) : Bool := ofDecimal? k place == some b
  let nearer := roundHalfUp x y
  let farther := if nearer = x / y then nearer + 1 else x / y
  if reads nearer then some (nearer, place)
  else if reads farther then some (farther, place)
  else none

def shortest (b : Binary) : Nat × Int :=
  let order := decimalOrder b.fraction.1 b.fraction.2
  ((List.range 17).findSome? fun (i : Nat) => shortestAt? b (order - i)).getD (0, 0)

def text (b : Binary) : List Char :=
  if b.mantissa = 0 then ['0']
  else
    let (digits, place) := shortest b
    if 0 ≤ place then Text.numeral digits ++ List.replicate place.toNat '0'
    else
      let (digits, scale) := Decimal.stripZeros digits (-place).toNat
      Decimal.magnitudeText digits scale

end Binary
end LotterySlip
