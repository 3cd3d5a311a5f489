import LotterySlip.Header.Resolution
import LotterySlip.Line

/-! A whole slip: a header, lines of bets, and the sums over the lines that are bets. A faulty line
leaves the others as they are. -/
namespace LotterySlip
open Text

structure Submission where
  text : String
  selection : Selection
  lines : List BetLine
  totalStake : Decimal
  totalPrize : Decimal
  diagnostics : List Diagnostic

/-- What comes of a slip: a reading, a refusal, or sums that are too large to be written. -/
inductive SubmissionResult
  | accepted (s : Submission)
  | refused (e : SlipError)
  | totalOverflow

def SubmissionResult.overflowMessage : String := "Addition overflowed"

structure House where
  stations : List Station
  tariff : Tariff

def Catalogs.house (c : Catalogs) (options : Options) : House := ⟨c.stations, c.tariff options⟩

def numberedLines (text : List Char) : List (Nat × List Char) :=
  (((text.splitOn '\n').zipIdx 1).map fun l => (l.2, l.1)).filter fun l => !isBlankText l.2

structure Layout where
  headerLine : Nat
  selection : Selection
  body : List (Nat × List Char)
  notes : List Finding

def layoutSingle (number : Nat) (found : Selection × List Char) : Layout :=
  if found.2.isEmpty then ⟨number, found.1, [], []⟩
  else ⟨number, found.1, [(number, found.2)], [.implicitHeader found.1.describe]⟩

namespace House

def layOut (h : House) (accessible : List Station) :
    List (Nat × List Char) → Except SlipError Layout
  | [] => .error .emptySubmission
  | [(number, line)] =>
    (resolveSingle h.stations accessible line).map (layoutSingle number)
  | (number, line) :: body =>
    (resolveHeader h.stations accessible line).map fun selection =>
      ⟨number, selection, body, []⟩

end House

def Layout.headerDiagnostics (l : Layout) : List Diagnostic :=
  (l.notes ++ l.selection.repeated.map Finding.duplicateStation).map fun f => ⟨f, some l.headerLine⟩

/-- The sum of a list of decimals from the left, or nothing if it overflows on the way. -/
def sumFrom? (start : Decimal) : List Decimal → Option Decimal
  | [] => some start
  | d :: ds => (start.add? d).bind fun s => sumFrom? s ds

def betsOf (lines : List BetLine) : List Bet := lines.filterMap BetLine.bet?

def totals? (lines : List BetLine) : Option (Decimal × Decimal) := do
  let stake ← sumFrom? .zero ((betsOf lines).map fun b => b.price.stake)
  let prize ← sumFrom? .zero ((betsOf lines).map fun b => b.price.prize)
  some (stake, prize)

namespace House

def readBody (h : House) (ctx : LineContext) (body : List (Nat × List Char)) :
    List (BetLine × List Diagnostic) :=
  body.map fun l =>
    let reading := h.tariff.readBet ctx l.2
    (.ofReading l.1 l.2 reading, (readingFindings reading).map fun f => ⟨f, some l.1⟩)

def complete (h : House) (priceRate : Decimal) (text : String) (l : Layout) : SubmissionResult :=
  let readings := h.readBody (.ofSelection l.selection priceRate) l.body
  let lines := readings.map fun r => r.1
  match totals? lines with
  | none => .totalOverflow
  | some (stake, prize) =>
    .accepted ⟨text, l.selection, lines, stake, prize,
      l.headerDiagnostics ++ readings.flatMap fun r => r.2⟩

def submit (h : House) (accessible : List Station) (priceRate : Decimal) (text : String) :
    SubmissionResult :=
  match h.layOut accessible (numberedLines text.toList) with
  | .error e => .refused e
  | .ok l => h.complete priceRate text l

end House

namespace Submission

def formatted (s : Submission) : String :=
  "\n".intercalate (s.selection.describe :: s.lines.map BetLine.render)

def hasErrors (s : Submission) : Bool := s.lines.any fun l => !l.isValid

def validNumbers (s : Submission) : List Nat :=
  (s.lines.filter fun l => l.isValid).map fun l => l.number

def invalidNumbers (s : Submission) : List Nat :=
  (s.lines.filter fun l => !l.isValid).map fun l => l.number

end Submission
end LotterySlip
