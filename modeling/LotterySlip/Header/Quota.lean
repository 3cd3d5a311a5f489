import LotterySlip.Catalog
import LotterySlip.Text.Digits
import LotterySlip.Text.Fold

/-! Headers that ask for a number of stations in a region: the short form `2dmn`, and the sentence
`2 stations in Miền Nam` in which such a header is shown again. -/
namespace LotterySlip
open Text

structure Quota where
  count : Nat
  region : Region
  deriving DecidableEq, Repr

namespace Quota

def readCount? (cs : List Char) : Option Nat :=
  if isNumber cs ∧ 0 < runNumber cs ∧ runNumber cs < countLimit then some (runNumber cs) else none

def regionMarks : List (String × Region) :=
  [("mn", .south), ("mt", .central), ("mb", .north), ("n", .south), ("t", .central), ("b", .north)]

def regionOfMark? (mark : String) : Option Region :=
  (regionMarks.find? fun m => m.1 == mark).map fun m => m.2

def readShort? (header : List Char) : Option Quota := do
  let (count, rest) := spanDigits (trim header)
  let mark ← after? ['d'] (rest.map asciiLower)
  let region ← regionOfMark? (String.ofList mark)
  let count ← readCount? count
  some ⟨count, region⟩

/-- The region with a given folded name: the one that a station of the catalog so names, else the
one with that key or shorthand. -/
def regionNamed? (stations : List Station) (name : List Char) : Option Region :=
  match stations.find? fun s => foldKey s.region.name.toList == name with
  | some s => some s.region.code
  | none => Region.read? name

def readSentence? (stations : List Station) (header : List Char) : Option Quota :=
  match words (fold header) with
  | count :: noun :: link :: name :: names =>
    if (String.ofList noun = "stations" ∨ String.ofList noun = "station") ∧
        String.ofList link = "in" then do
      let count ← readCount? count
      let region ← regionNamed? stations (unwords (name :: names))
      some ⟨count, region⟩
    else none
  | _ => none

def read? (stations : List Station) (header : List Char) : Option Quota :=
  (readShort? header).or (readSentence? stations header)

end Quota
end LotterySlip
