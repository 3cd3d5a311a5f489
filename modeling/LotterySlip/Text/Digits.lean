/-! Decimal digits `0` to `9`, the only digits that numbers and amounts are written with. -/
namespace LotterySlip.Text

def digitValue (c : Char) : Nat := c.toNat - '0'.toNat

/-- The number that a digit run denotes; leading zeros add nothing. -/
def runNumber (cs : List Char) : Nat := cs.foldl (fun n c => 10 * n + digitValue c) 0

def numeral (n : Nat) : List Char := Nat.toDigits 10 n

def padLeft (c : Char) (width : Nat) (cs : List Char) : List Char :=
  List.replicate (width - cs.length) c ++ cs

def padRight (c : Char) (width : Nat) (cs : List Char) : List Char :=
  cs ++ List.replicate (width - cs.length) c

def spanDigits (cs : List Char) : List Char × List Char :=
  (cs.takeWhile Char.isDigit, cs.dropWhile Char.isDigit)

def isNumber (cs : List Char) : Bool := !cs.isEmpty && cs.all Char.isDigit

def countLimit : Nat := UInt64.size

end LotterySlip.Text
