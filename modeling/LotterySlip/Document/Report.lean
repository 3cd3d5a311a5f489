import LotterySlip.Document.Encoding
import LotterySlip.Submission

/-! What was read from a slip, written as documents. -/
namespace LotterySlip

def optionalRegion (r : Option Region) : Document := .orNull (r.map Region.toDocument)

def Selection.members (s : Selection) : List (String × Document) :=
  [("kind", .text s.kindName), ("region", optionalRegion s.region?),
    ("requested_count", .nat s.requestedCount),
    ("resolved_stations", .list (s.stations.map Station.toDocument))] ++
    if s.repeated.isEmpty then [] else [("collapsed_duplicates", .texts s.repeated)]

def SlipError.details : SlipError → List (String × Document)
  | .unknownStation token suggestion =>
    [("token", .text token), ("suggestion", .orNull (suggestion.map Document.text))]
  | .ambiguousStation token candidates =>
    [("token", .text token), ("candidates", .texts candidates)]
  | .stationAccessDenied station => [("station", .text station)]
  | .insufficientRegionalAccess region requested available =>
    [("region", region.toDocument), ("requested", .nat requested), ("available", .nat available)]
  | .unknownRegion region => [("region", region.toDocument)]
  | _ => []

def SlipError.members (e : SlipError) : List (String × Document) :=
  ("error", .text e.code) :: e.details

def LineError.details : LineError → List (String × Document)
  | .inconsistentNumberLength numbers => [("numbers", .texts numbers)]
  | .unsupportedCombinationRule combination => [("combination", .text combination)]
  | .betTypeNotApplicable betType region =>
    [("bet_type", .text betType), ("region", region.toDocument)]
  | .invalidStakeAmount amount => [("amount", .text amount)]
  | _ => []

def LineError.members (e : LineError) : List (String × Document) :=
  ("error", .text e.code) :: e.details

def Diagnostic.toDocument (d : Diagnostic) : Document :=
  .object [("severity", .text d.finding.severity.name), ("code", .text d.finding.code),
    ("message", .text d.finding.message), ("line", .orNull (d.line.map Document.nat))]

def BetTypeRef.toDocument (b : BetTypeRef) : Document :=
  .object [("id", .int b.id.toInt), ("name", .text b.name), ("alias", .text b.label)]

def BetLine.members (l : BetLine) : List (String × Document) :=
  [("line_number", .nat l.number), ("original_text", .text l.text),
    ("numbers", .texts l.numbers), ("tickets", .texts l.tickets),
    ("bet_type", .orNull (l.betType?.map BetTypeRef.toDocument)),
    ("amount", l.amount.toDocument), ("stake_unit_amount", l.unit.toDocument),
    ("payout_rate", l.payoutRate.toDocument), ("stake", l.stake.toDocument),
    ("potential_prize", l.prize.toDocument),
    ("error", .orNull (l.error?.map fun e => .object e.members))]

def Submission.members (s : Submission) : List (String × Document) :=
  [("original_text", .text s.text), ("station_selection", .object s.selection.members),
    ("lines", .list (s.lines.map fun l => .object l.members)),
    ("total_stake", s.totalStake.toDocument),
    ("total_potential_prize", s.totalPrize.toDocument),
    ("formatted_text", .text s.formatted)] ++
    if s.diagnostics.isEmpty then []
    else [("warnings", .list (s.diagnostics.map Diagnostic.toDocument))]

end LotterySlip
