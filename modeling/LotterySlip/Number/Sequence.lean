import LotterySlip.Text.Blank
import LotterySlip.Text.Digits

/-! Arithmetic sequences: `10/12keo20` stands for the numbers from 10 on in steps of 2 up to 20. -/
namespace LotterySlip.Number
open Text

/-- The digit runs of a sequence: the first number, the second, and the bound of the last. -/
structure SequenceForm where
  first : List Char
  second : List Char
  bound : List Char
  deriving DecidableEq, Repr

def spacedRun? (cs : List Char) : Option (List Char × List Char) :=
  let (run, rest) := spanDigits (cs.dropWhile isBlank)
  if run.isEmpty then none else some (run, rest.dropWhile isBlank)

def SequenceForm.read? (cs : List Char) : Option SequenceForm := do
  let (first, cs) ← spacedRun? cs
  let cs ← after? ['/'] cs
  let (second, cs) ← spacedRun? cs
  let cs ← after? ['k', 'e', 'o'] cs
  let (bound, cs) ← spacedRun? cs
  if cs.isEmpty then some ⟨first, second, bound⟩ else none

inductive SequenceValue
  | numbers (ns : List String)
  | tooLong
  | nothing
  deriving DecidableEq, Repr

def word? (cs : List Char) : Option UInt64 :=
  if runNumber cs < countLimit then some (.ofNat (runNumber cs)) else none

def steps (first step : UInt64) (width : Nat) (count : UInt64) : List String :=
  (List.range count.toNat).map fun i =>
    String.ofList (padLeft '0' width (numeral (first + .ofNat i * step).toNat))

/-- The numbers of a sequence, unless there are more than `limit`. A sequence that does not ascend,
or whose numbers do not fit in 64 bits, has none. -/
def SequenceForm.value (s : SequenceForm) (limit : Nat) : SequenceValue :=
  match word? s.first, word? s.second, word? s.bound with
  | some first, some second, some bound =>
    if second ≤ first ∨ bound < first then .nothing
    else
      let step := second - first
      -- All numbers of 64 bits are one more than can be counted; the count is zero then.
      let count := (bound - first) / step + 1
      if limit < count.toNat then .tooLong
      else .numbers (steps first step (byteLength s.first) count)
  | _, _, _ => .nothing

end LotterySlip.Number
