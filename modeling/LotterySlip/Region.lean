import LotterySlip.Text.Blank
import LotterySlip.Text.LetterCase

/-! The three draw regions. -/
namespace LotterySlip
open Text

/-- A draw region. The order of the constructors is the order in which regions are listed. -/
inductive Region
  | north
  | central
  | south
  deriving DecidableEq, Repr, Inhabited

namespace Region

def rank : Region → Nat
  | north => 0
  | central => 1
  | south => 2

def key : Region → String
  | north => "north"
  | central => "central"
  | south => "south"

def shorthand : Region → String
  | north => "mb"
  | central => "mt"
  | south => "mn"

instance : ToString Region := ⟨key⟩

def all : List Region := [north, central, south]

def ofKey? (s : String) : Option Region := all.find? fun r => r.key == s

def ofName? (s : String) : Option Region := all.find? fun r => r.key == s || r.shorthand == s

def nameOf (cs : List Char) : String := String.ofList ((trim cs).map asciiLower)

def read? (cs : List Char) : Option Region := ofName? (nameOf cs)

def unknownMessage (cs : List Char) : String :=
  let name := nameOf cs
  s!"unknown region code '{name}'"

def sortedSet (rs : List Region) : List Region := all.filter fun r => rs.contains r

end Region
end LotterySlip
