import LotterySlip.Number.Rearrangement

/-! The numbers that are paid for. A permutation bet pays for every rearrangement of every entered
number, each once. -/
namespace LotterySlip.Number

def addTicket (tickets : List String) (ticket : String) : List String :=
  if tickets.contains ticket then tickets else tickets ++ [ticket]

def addTickets? (limit : Nat) (tickets : List String) (number : String) : Option (List String) := do
  let found ← rearrangements? number limit
  let tickets := found.foldl addTicket tickets
  if tickets.length ≤ limit then some tickets else none

/-- The tickets of a line, unless a permutation bet has more than `limit` of them. -/
def tickets? (numbers : List String) (isPermutation : Bool) (limit : Nat) :
    Option (List String) :=
  if isPermutation then numbers.foldlM (addTickets? limit) [] else some numbers

end LotterySlip.Number
