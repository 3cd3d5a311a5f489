import LotterySlip.Catalog
import LotterySlip.Text.Digits
import LotterySlip.Text.Fold

/-! The aliases of the bet types, and the search for one in a line. A line names its bet type
between the numbers and the amount; the longest alias that an amount follows counts. -/
namespace LotterySlip
open Text

/-- An alias with the bet types that declare it, by their places in the catalog. `display` is the
alias as it was first declared. -/
structure AliasGroup where
  key : List Char
  display : String
  betTypes : List Nat
  deriving DecidableEq, Repr

structure AliasIndex where
  groups : List AliasGroup
  deriving DecidableEq, Repr

namespace AliasIndex

def enter (i : Nat) (label : String) (key : List Char) : List AliasGroup → List AliasGroup
  | [] => [⟨key, String.ofList (trim label.toList), [i]⟩]
  | g :: gs =>
    if g.key = key then
      (if g.betTypes.contains i then g else { g with betTypes := g.betTypes ++ [i] }) :: gs
    else g :: enter i label key gs

def declare (gs : List AliasGroup) (i : Nat) (label : String) : List AliasGroup :=
  let key := foldKey label.toList
  if key.isEmpty then gs else enter i label key gs

def declared (betTypes : List BetType) : List AliasGroup :=
  (betTypes.zipIdx).foldl (fun gs b => b.1.aliases.foldl (fun gs a => declare gs b.2 a) gs) []

def longerFirst (g h : AliasGroup) : Bool := byteLength h.key ≤ byteLength g.key

def ofBetTypes (betTypes : List BetType) : AliasIndex :=
  ⟨(declared betTypes).mergeSort longerFirst⟩

def size (index : AliasIndex) : Nat := index.groups.length

def labels (index : AliasIndex) : List String := index.groups.map fun g => g.display

end AliasIndex

/-- The places at which `key` occurs in a text whose first character is at place `i`, from the left
and without overlap; the first `skip` characters are passed over. -/
def occurrencesFrom (key : List Char) (i skip : Nat) : List Char → List Nat
  | [] => []
  | c :: cs =>
    match skip with
    | skip + 1 => occurrencesFrom key (i + 1) skip cs
    | 0 =>
      if key.isPrefixOf (c :: cs) then i :: occurrencesFrom key (i + 1) (key.length - 1) cs
      else occurrencesFrom key (i + 1) 0 cs

def occurrences (key cs : List Char) : List Nat := occurrencesFrom key 0 0 cs

def spanAmount? (cs : List Char) : Option (List Char × List Char) :=
  let (whole, rest) := spanDigits cs
  if whole.isEmpty then none
  else match rest with
    | '.' :: tail =>
      let (places, rest') := spanDigits tail
      if places.isEmpty then some (whole, rest) else some (whole ++ '.' :: places, rest')
    | _ => some (whole, rest)

def lastAmount? (cs : List Char) : Option (List Char) :=
  match spanAmount? cs with
  | some (amount, rest) => if isBlankText rest then some amount else none
  | none => none

structure AliasHit where
  group : AliasGroup
  numbersText : List Char
  amount : List Char
  deriving DecidableEq, Repr

def AliasGroup.find? (g : AliasGroup) (line : List Char) (folded : List Glyph) : Option AliasHit :=
  let text := folded.map Glyph.char
  (occurrences g.key text).findSome? fun i => do
    let amount ← lastAmount? (text.drop (i + g.key.length))
    let glyph ← folded[i]?
    some ⟨g, line.take glyph.source, amount⟩

def AliasIndex.find? (index : AliasIndex) (line : List Char) : Option AliasHit :=
  let line := trim line
  let folded := glyphs line
  index.groups.findSome? fun g => g.find? line folded

end LotterySlip
