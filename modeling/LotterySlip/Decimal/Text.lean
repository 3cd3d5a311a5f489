import LotterySlip.Decimal.Basic
import LotterySlip.Rounding
import LotterySlip.Text.Digits

/-! The written form of decimals. A decimal is written in full, with all its decimal places and
never with an exponent. Reading takes underscores between digits and rounds what the limits cut off.
-/
namespace LotterySlip.Decimal
open LotterySlip.Text

def magnitudeText (mantissa scale : Nat) : List Char :=
  let ds := padLeft '0' (scale + 1) (numeral mantissa)
  if scale = 0 then ds
  else ds.take (ds.length - scale) ++ '.' :: ds.drop (ds.length - scale)

def toChars (d : Decimal) : List Char :=
  (if d.negative then ['-'] else []) ++ magnitudeText d.mantissa d.scale

def toText (d : Decimal) : String := String.ofList d.toChars

instance : ToString Decimal := ⟨toText⟩

def unsignedZero? (negative : Bool) (mantissa scale : Nat) : Option Decimal :=
  (ofParts? negative mantissa scale).map clearZero

/-- The number at the limit of its digits, rounded by the first digit that it has no place for; a
half goes up. Should that pass the limit of the mantissa, one decimal place fewer is kept. -/
def roundLast? (negative : Bool) (mantissa scale digit : Nat) : Option Decimal :=
  if digit < 5 then unsignedZero? negative mantissa scale
  else if mantissa + 1 < mantissaLimit then unsignedZero? negative (mantissa + 1) scale
  else if scale = 0 then none
  else unsignedZero? negative ((mantissa + 5) / 10) (scale - 1)

structure Reading where
  mantissa : Nat
  scale : Nat
  pastPoint : Bool
  hasDigit : Bool

def Reading.isFull (r : Reading) : Bool := r.pastPoint && r.scale ≥ 28

def Reading.hasRoom (r : Reading) (digit : Nat) : Bool :=
  !r.isFull && 10 * r.mantissa + digit < mantissaLimit

def Reading.push (r : Reading) (digit : Nat) : Reading :=
  ⟨10 * r.mantissa + digit, if r.pastPoint then r.scale + 1 else 0, r.pastPoint, true⟩

def shortLimit : Nat := (UInt64.size - 1) / 10 - 255

def Reading.isShort (r : Reading) : Bool := r.mantissa / 10 < shortLimit

def isDropped (cs : List Char) : Bool := cs.all fun c => c.isDigit || c == '_'

/-- Reads on. A digit without a place is an error before the point and rounds after it; further
digits are dropped. An underscore behind the last place of a short number is read as a zero: it
keeps what follows from rounding. -/
def readOn (negative : Bool) (r : Reading) : List Char → Option Decimal
  | [] => if r.hasDigit then unsignedZero? negative r.mantissa r.scale else none
  | c :: cs =>
    if c.isDigit then
      if r.hasRoom (digitValue c) then readOn negative (r.push (digitValue c)) cs
      else if r.pastPoint && isDropped cs then
        roundLast? negative r.mantissa r.scale (digitValue c)
      else none
    else if c = '.' ∧ r.pastPoint = false then readOn negative { r with pastPoint := true } cs
    else if c = '_' ∧ r.hasDigit = true then
      if r.isFull && r.isShort then
        if isDropped cs then unsignedZero? negative r.mantissa r.scale else none
      else readOn negative r cs
    else none

def splitSign : List Char → Bool × List Char
  | '-' :: cs => (true, cs)
  | '+' :: cs => (false, cs)
  | cs => (false, cs)

def ofChars? (cs : List Char) : Option Decimal :=
  let (negative, rest) := splitSign cs
  readOn negative ⟨0, 0, false, false⟩ rest

/-- The number divided by a power of ten. Beforehand it is rounded, a half up, to as many decimal
places as leave room for those that the division adds. -/
def shiftDown? (d : Decimal) (exponent : Nat) : Option Decimal :=
  if exponent ≤ 28 then
    let kept := min d.scale (28 - exponent)
    ofParts? d.negative (roundHalfUp d.mantissa (Nat.pow 10 (d.scale - kept))) (kept + exponent)
  else none

def shiftUp? (d : Decimal) (exponent : Nat) : Option Decimal :=
  if exponent ≤ d.scale then ofParts? d.negative d.mantissa (d.scale - exponent)
  else if exponent ≤ 28 then
    ofParts? d.negative (d.mantissa * Nat.pow 10 (exponent - d.scale)) 0
  else none

def shift? (d : Decimal) (exponent : Int) : Option Decimal :=
  if exponent < 0 then d.shiftDown? exponent.natAbs else d.shiftUp? exponent.natAbs

def readExponent? (cs : List Char) : Option Int :=
  let (negative, rest) := match cs with
    | '-' :: r => (true, r)
    | _ => (false, cs)
  let digits := match rest with
    | '+' :: r => r
    | _ => rest
  if isNumber digits ∧ runNumber digits < UInt32.size then
    some (if negative then -(runNumber digits : Int) else runNumber digits)
  else none

def ofScientific? (cs : List Char) : Option Decimal :=
  let isPlain (c : Char) : Bool := c != 'e' && c != 'E'
  match cs.dropWhile isPlain with
  | [] => none
  | _ :: exponent => do
    let d ← ofChars? (cs.takeWhile isPlain)
    let e ← readExponent? exponent
    d.shift? e

def read? (cs : List Char) : Option Decimal := (ofChars? cs).or (ofScientific? cs)

end LotterySlip.Decimal
