import LotterySlip.Text.Digits

/-! Rules that stand for sets of two-digit numbers. -/
namespace LotterySlip
open Text

/-- A rule for two-digit numbers. The rules on two digits name the tens digit first. A custom rule
is a text that nobody evaluates. -/
inductive Rule
  | big
  | small
  | even
  | odd
  | evenEven
  | oddOdd
  | evenOdd
  | oddEven
  | doubles
  | head (digit : UInt8)
  | tail (digit : UInt8)
  | custom (method : String)
  deriving DecidableEq, Repr, Inhabited

namespace Rule

def isSupported : Rule → Bool
  | head digit => digit ≤ 9
  | tail digit => digit ≤ 9
  | custom _ => false
  | _ => true

def holds (rule : Rule) (n : Nat) : Bool :=
  let tens := n / 10
  let units := n % 10
  match rule with
  | big => 50 ≤ n
  | small => n < 50
  | even => n % 2 == 0
  | odd => n % 2 == 1
  | evenEven => tens % 2 == 0 && units % 2 == 0
  | oddOdd => tens % 2 == 1 && units % 2 == 1
  | evenOdd => tens % 2 == 0 && units % 2 == 1
  | oddEven => tens % 2 == 1 && units % 2 == 0
  | doubles => tens == units
  | head digit => tens == digit.toNat
  | tail digit => units == digit.toNat
  | custom _ => false

def twoDigits (n : Nat) : String := String.ofList (padLeft '0' 2 (numeral n))

def numbers? (rule : Rule) : Option (List String) :=
  if rule.isSupported then some (((List.range 100).filter rule.holds).map twoDigits) else none

def methodText : Rule → String
  | head digit => s!"Head \x7b digit: {digit} \x7d"
  | tail digit => s!"Tail \x7b digit: {digit} \x7d"
  | custom method => method
  | _ => ""

end Rule

structure Combination where
  name : String
  aliases : List String
  rule : Rule
  deriving DecidableEq, Repr, Inhabited

def Combination.lookupKeys (c : Combination) : List String := c.name :: c.aliases

end LotterySlip
