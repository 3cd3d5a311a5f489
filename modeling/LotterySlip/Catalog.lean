import LotterySlip.Combination
import LotterySlip.Decimal.Basic
import LotterySlip.Region
import LotterySlip.Table

/-! What a slip is read against: the stations, the bet types and the combinations on offer, and the
settings of the house. -/
namespace LotterySlip

structure RegionEntry where
  id : Int64
  name : String
  code : Region
  deriving DecidableEq, Inhabited

structure Station where
  id : Int64
  name : String
  region : RegionEntry
  aliases : List String
  deriving DecidableEq, Inhabited

def Station.lookupKeys (s : Station) : List String := s.name :: s.aliases

inductive PayoutRate
  | flat (rate : Decimal)
  | table (rates : Table String Decimal)
  deriving DecidableEq, Inhabited

def PayoutRate.flat? : PayoutRate → Option Decimal
  | flat rate => some rate
  | table _ => none

/-- A kind of bet. Without applicable regions it is offered in all of them. -/
structure BetType where
  id : Int64
  name : String
  aliases : List String
  applicableRegions : List Region
  isPermutation : Bool
  payoutRate : Option PayoutRate
  customPayoutRate : Option Decimal
  deriving DecidableEq, Inhabited

namespace BetType

def appliesTo (b : BetType) (r : Region) : Bool :=
  b.applicableRegions.isEmpty || b.applicableRegions.contains r

def covers (b : BetType) (rs : List Region) : Bool := rs.all b.appliesTo

end BetType

abbrev PayoutOverrides := Table Int64 Decimal

structure Options where
  strictCombinations : Bool
  maxExpandedNumbers : UInt64
  stakeMultiplier : Decimal
  defaultPayoutRate : Decimal
  deriving DecidableEq

namespace Options

def defaultMaxExpandedNumbers : UInt64 := 1000

/-- Amounts are entered in thousands. -/
def defaultStakeMultiplier : Decimal := .ofNat 1000 (by decide)

def fallbackPayoutRate : Decimal := .ofNat 70 (by decide)

def standard : Options :=
  ⟨false, defaultMaxExpandedNumbers, defaultStakeMultiplier, fallbackPayoutRate⟩

instance : Inhabited Options := ⟨standard⟩

end Options

structure Settings where
  priceRate : Decimal
  options : Options
  payoutOverrides : PayoutOverrides
  deriving DecidableEq

def Settings.standard : Settings := ⟨.one, .standard, .empty⟩

structure Catalogs where
  stations : List Station
  betTypes : List BetType
  combinations : List Combination
  deriving DecidableEq, Inhabited

namespace Catalogs

def overrideRate (o : PayoutOverrides) (b : BetType) : BetType :=
  match o.get? b.id with
  | some rate => { b with customPayoutRate := some rate }
  | none => b

/-- The catalogs with overridden payout rates. Numbers that no bet type has are ignored. -/
def applyOverrides (c : Catalogs) (o : PayoutOverrides) : Catalogs :=
  { c with betTypes := c.betTypes.map (overrideRate o) }

/-- The stations with the given numbers in catalog order; without numbers, all stations. -/
def stationsWithIds (c : Catalogs) (ids : List Int64) : List Station :=
  c.stations.filter fun s => ids.isEmpty || ids.contains s.id

end Catalogs
end LotterySlip
