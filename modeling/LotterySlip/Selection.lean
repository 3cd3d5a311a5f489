import LotterySlip.Catalog

/-! The stations that a slip is played on. -/
namespace LotterySlip

/-- A choice of stations: the first `count` of a region, or those named in the header. `repeated`
holds the names of the stations that were named again. -/
inductive Selection
  | regional (count : Nat) (region : Region) (stations : List Station)
  | named (stations : List Station) (repeated : List String)
  deriving DecidableEq

namespace Selection

def stations : Selection → List Station
  | regional _ _ stations => stations
  | named stations _ => stations

def region? : Selection → Option Region
  | regional _ region _ => some region
  | named _ _ => none

def requestedCount : Selection → Nat
  | regional count _ _ => count
  | named stations _ => stations.length

def repeated : Selection → List String
  | regional _ _ _ => []
  | named _ repeated => repeated

def kindName : Selection → String
  | regional _ _ _ => "regional"
  | named _ _ => "named"

def stationCount (s : Selection) : Nat := s.stations.length

def regions (s : Selection) : List Region :=
  Region.sortedSet (s.stations.map fun t => t.region.code)

/-- The region whose payout rates count: the one asked for, else the only one of the stations. -/
def pricingRegion? (s : Selection) : Option Region :=
  match s.region?, s.regions with
  | some region, _ => some region
  | none, [region] => some region
  | none, _ => none

def regionName (region : Region) : List Station → String
  | [] => region.key
  | s :: _ => s.region.name

def describe : Selection → String
  | regional count region stations => s!"{count} stations in " ++ regionName region stations
  | named stations _ => ", ".intercalate (stations.map fun s => s.name)

end Selection
end LotterySlip
