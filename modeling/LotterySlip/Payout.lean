import LotterySlip.Catalog
import LotterySlip.Text.Digits

/-! The payout rate of a bet. -/
namespace LotterySlip
open Text

def Region.fallbackOrder : List Region := [.south, .central, .north]

/-- The rate in a table: of the region, else of the count of digits, else of the first region in the
fallback order that has one. -/
def Table.rateFor? (t : Table String Decimal) (region : Option Region) (digits : Nat) :
    Option Decimal :=
  (region.bind fun r => t.get? r.key).or <|
    (t.get? (String.ofList (numeral digits))).or <|
      Region.fallbackOrder.findSome? fun r => t.get? r.key

/-- The payout rate for numbers of `digits` digits in a region: the override of the bet type, else
its own rate, else the fallback. -/
def BetType.rateFor (b : BetType) (region : Option Region) (digits : Nat) (fallback : Decimal) :
    Decimal :=
  match b.customPayoutRate, b.payoutRate with
  | some rate, _ => rate
  | none, some (.flat rate) => rate
  | none, some (.table rates) => (rates.rateFor? region digits).getD fallback
  | none, none => fallback

end LotterySlip
