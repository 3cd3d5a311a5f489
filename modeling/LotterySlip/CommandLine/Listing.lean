import LotterySlip.Decimal.Arithmetic
import LotterySlip.Submission

/-! Catalogs and slips as lines of text for people. -/
namespace LotterySlip.CommandLine
open Text

def leftColumn (width : Nat) (s : String) : String := String.ofList (padRight ' ' width s.toList)

def rightColumn (width : Nat) (s : String) : String := String.ofList (padLeft ' ' width s.toList)

def unlines (lines : List String) : String := String.join (lines.map fun l => l ++ "\n")

def stationLine (s : Station) : String :=
  rightColumn 4 (toString s.id) ++ "  " ++ leftColumn 20 s.name ++ " " ++
    leftColumn 10 s.region.code.shorthand ++ " " ++ ", ".intercalate s.aliases

def rateText (b : BetType) : String :=
  match b.customPayoutRate, b.payoutRate with
  | some rate, _ => rate.toText ++ " (custom)"
  | none, some (.flat rate) => rate.toText
  | none, some (.table rates) =>
    " ".intercalate (rates.entries.map fun e => e.1 ++ "=" ++ e.2.toText)
  | none, none => "-"

def betTypeLine (b : BetType) : String :=
  rightColumn 4 (toString b.id) ++ "  " ++ leftColumn 16 b.name ++ " " ++
    leftColumn 12 (",".intercalate b.aliases) ++ " " ++ rateText b

def countText (r : Rule) : String :=
  match r.numbers? with
  | some numbers => toString numbers.length
  | none => "unsupported"

def combinationLine (c : Combination) : String :=
  leftColumn 16 c.name ++ " " ++ leftColumn 12 (",".intercalate c.aliases) ++ " " ++
    countText c.rule

def moneyText (d : Decimal) : String := d.normalize.toText

def betLineText (l : BetLine) : String :=
  let label := s!"  [{l.number}] "
  match l.outcome with
  | .ok b =>
    label ++ leftColumn 24 l.render ++ " stake " ++ rightColumn 12 (moneyText b.price.stake) ++
      "  prize " ++ rightColumn 14 (moneyText b.price.prize)
  | .error e => label ++ leftColumn 24 l.text ++ " " ++ e.message

def placeText : Option Nat → String
  | some line => s!" (line {line})"
  | none => ""

def diagnosticLine (d : Diagnostic) : String :=
  "  warning" ++ placeText d.line ++ " " ++ d.finding.message

def totalLine (s : Submission) : String :=
  "Total: stake " ++ moneyText s.totalStake ++ "  potential prize " ++ moneyText s.totalPrize

def submissionLines (s : Submission) : List String :=
  ["Stations: " ++ s.selection.describe] ++ s.lines.map betLineText ++
    s.diagnostics.map diagnosticLine ++ [totalLine s]

end LotterySlip.CommandLine
