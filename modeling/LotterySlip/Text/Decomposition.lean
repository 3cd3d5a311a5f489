import LotterySlip.Text.Decomposition.Latin
import LotterySlip.Text.Decomposition.Vietnamese
import LotterySlip.Text.Decomposition.Greek
import LotterySlip.Text.Decomposition.Scripts
import LotterySlip.Text.Decomposition.Symbol
import LotterySlip.Text.Decomposition.Supplementary
import LotterySlip.Text.Decomposition.Ideograph

/-! The canonical decomposition of a character: a letter with marks into the letter and its marks, a
Korean syllable into its parts, a compatibility ideograph into the ideograph it stands for. -/
namespace LotterySlip.Text

def runValue? {α : Type} (rows : List (Nat × List α)) (n : Nat) : Option α :=
  rows.findSome? fun row => if row.1 ≤ n then row.2[n - row.1]? else none

namespace Decomposition

def letters : List (Nat × List (List Nat)) :=
  latin ++ vietnamese ++ greek ++ scripts ++ symbol ++ supplementary

def ideographs : List (Nat × List Nat) := firstPlaneIdeographs ++ secondPlaneIdeographs

/-- A Korean syllable is a leading consonant, a vowel and perhaps a trailing consonant; the
syllables are numbered with the trailing consonant running fastest. -/
def syllable? (n : Nat) : Option (List Nat) :=
  if 0xAC00 ≤ n ∧ n ≤ 0xD7A3 then
    let k := n - 0xAC00
    let trailing := if k % 28 = 0 then [] else [0x11A7 + k % 28]
    some ((0x1100 + k / 588) :: (0x1161 + k % 588 / 28) :: trailing)
  else none

def codePoints? (n : Nat) : Option (List Nat) :=
  (runValue? letters n).or ((syllable? n).or ((runValue? ideographs n).map fun v => [v]))

end Decomposition

def decompose (c : Char) : List Char :=
  match Decomposition.codePoints? c.toNat with
  | some ns => ns.map Char.ofNat
  | none => [c]

end LotterySlip.Text
