/-! The Jaro–Winkler similarity of two texts, from 0 for nothing in common to 1 for equal texts. -/
namespace LotterySlip.Text

def matchReach (m n : Nat) : Nat := max m n / 2 - 1

def freePlace? (text : List Char) (taken : List Nat) (low high : Nat) (c : Char) : Option Nat :=
  (text.zipIdx.find? fun d =>
    low ≤ d.2 && d.2 ≤ high && d.1 == c && !taken.contains d.2).map fun d => d.2

/-- The characters of `a` that match one of `b`, in order, and the places they take in `b`. Every
character takes the first free place within reach. -/
def matched (a b : List Char) : List Char × List Nat :=
  let reach := matchReach a.length b.length
  a.zipIdx.foldl (fun found c =>
    match freePlace? b found.2 (c.2 - reach) (c.2 + reach) c.1 with
    | some j => (found.1 ++ [c.1], j :: found.2)
    | none => found) ([], [])

def matchCounts (a b : List Char) : Nat × Nat :=
  let (inA, places) := matched a b
  let inB := (b.zipIdx.filter fun d => places.contains d.2).map fun d => d.1
  (inA.length, ((inA.zip inB).countP fun p => p.1 != p.2) / 2)

def jaro (a b : List Char) : Float :=
  let (count, swaps) := matchCounts a b
  if a.isEmpty && b.isEmpty then 1
  else if count == 0 then 0
  else
    let n := Float.ofNat count
    (n / Float.ofNat a.length + n / Float.ofNat b.length + Float.ofNat (count - swaps) / n) / 3

def commonStart : List Char → List Char → Nat
  | c :: a, d :: b => if c = d then commonStart a b + 1 else 0
  | _, _ => 0

def similarity (a b : List Char) : Float :=
  let sim := jaro a b
  if sim > 0.7 then sim + 0.1 * Float.ofNat (min 4 (commonStart a b)) * (1 - sim) else sim

end LotterySlip.Text
