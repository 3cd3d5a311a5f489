import LotterySlip.Text.Digits

/-! The rearrangements of a number's digits, found by a walk in depth: the digits are laid down one
behind the other, and of equal digits that are still at hand only the first may be laid next, so that
nothing is found twice. The walk stops when it has found more than a limit. -/
namespace LotterySlip.Number
open Text

def sorted (cs : List Char) : List Char := cs.mergeSort fun a b => a ≤ b

structure Tile where
  digit : Char
  laid : Bool
  deriving DecidableEq, Repr

/-- Whether a digit has to wait for the tile to its left, which is the same digit and still at hand. -/
def waits (left : Option Tile) (digit : Char) : Bool :=
  left.any fun l => l.digit == digit && !l.laid

def nexts (left : Option Tile) : List Tile → List (Char × List Tile)
  | [] => []
  | t :: ts =>
    let others := (nexts (some t) ts).map fun next => (next.1, t :: next.2)
    if t.laid || waits left t.digit then others else (t.digit, ⟨t.digit, true⟩ :: ts) :: others

def keep? (limit : Nat) (found : Array String) (text : String) : Option (Array String) :=
  if (found.push text).size ≤ limit then some (found.push text) else none

/-- Lays the `n` digits at hand behind those of `front` in every way, and adds what comes of it to
what was found before. Nothing as soon as there are more than `limit`. -/
def walk (limit : Nat) : Nat → List Tile → List Char → Array String → Option (Array String)
  | 0, _, front, found => keep? limit found (String.ofList front)
  | n + 1, tiles, front, found =>
    (nexts none tiles).foldlM (fun found next => walk limit n next.2 (front ++ [next.1]) found) found

def rearrangements? (number : String) (limit : Nat) : Option (List String) :=
  let digits := sorted number.toList
  (walk limit digits.length (digits.map fun c => ⟨c, false⟩) [] #[]).map Array.toList

def rearrangements (number : String) : List String :=
  (rearrangements? number (countLimit - 1)).getD []

end LotterySlip.Number
