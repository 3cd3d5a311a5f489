import LotterySlip.Catalog
import LotterySlip.Decimal.Text
import LotterySlip.Document

/-! Catalogs and settings written as documents. Decimals are written as text, so that none of their
digits is lost. -/
namespace LotterySlip

def Decimal.toDocument (d : Decimal) : Document := .text d.toText

def Region.toDocument (r : Region) : Document := .text r.key

def RegionEntry.toDocument (r : RegionEntry) : Document :=
  .object [("id", .int r.id.toInt), ("name", .text r.name), ("code", r.code.toDocument)]

def Station.toDocument (s : Station) : Document :=
  .object [("id", .int s.id.toInt), ("name", .text s.name), ("region", s.region.toDocument),
    ("aliases", .texts s.aliases)]

def PayoutRate.toDocument : PayoutRate → Document
  | .flat rate => rate.toDocument
  | .table rates => .object (rates.entries.map fun e => (e.1, e.2.toDocument))

def BetType.toDocument (b : BetType) : Document :=
  .object [("id", .int b.id.toInt), ("name", .text b.name), ("aliases", .texts b.aliases),
    ("applicable_regions", .list (b.applicableRegions.map Region.toDocument)),
    ("is_permutation", .bool b.isPermutation),
    ("payout_rate", .orNull (b.payoutRate.map PayoutRate.toDocument)),
    ("custom_payout_rate", .orNull (b.customPayoutRate.map Decimal.toDocument))]

namespace Rule

def named : List (String × Rule) :=
  [("big", big), ("small", small), ("even", even), ("odd", odd), ("even_even", evenEven),
    ("odd_odd", oddOdd), ("even_odd", evenOdd), ("odd_even", oddEven), ("doubles", doubles)]

def tag : Rule → String
  | big => "big"
  | small => "small"
  | even => "even"
  | odd => "odd"
  | evenEven => "even_even"
  | oddOdd => "odd_odd"
  | evenOdd => "even_odd"
  | oddEven => "odd_even"
  | doubles => "doubles"
  | head _ => "head"
  | tail _ => "tail"
  | custom _ => "custom"

def details : Rule → List (String × Document)
  | head digit => [("digit", .nat digit.toNat)]
  | tail digit => [("digit", .nat digit.toNat)]
  | custom method => [("calculation_method", .text method)]
  | _ => []

def toDocument (r : Rule) : Document := .object (("rule", .text r.tag) :: r.details)

end Rule

def Combination.toDocument (c : Combination) : Document :=
  .object [("name", .text c.name), ("aliases", .texts c.aliases),
    ("generator", c.rule.toDocument)]

def Options.toDocument (o : Options) : Document :=
  .object [("strict_combinations", .bool o.strictCombinations),
    ("max_expanded_numbers", .nat o.maxExpandedNumbers.toNat),
    ("stake_multiplier", o.stakeMultiplier.toDocument),
    ("default_payout_rate", o.defaultPayoutRate.toDocument)]

def overridesDocument (o : PayoutOverrides) : Document :=
  .object (o.entries.map fun e => (toString e.1.toInt, e.2.toDocument))

def Settings.toDocument (s : Settings) : Document :=
  .object ([("price_rate", s.priceRate.toDocument), ("options", s.options.toDocument)] ++
    if s.payoutOverrides.isEmpty then []
    else [("payout_overrides", overridesDocument s.payoutOverrides)])

end LotterySlip
