import LotterySlip.Region

/-! Why a slip, or one line of it, is refused. -/
namespace LotterySlip

inductive SlipError
  | emptySubmission
  | missingStationHeader
  | unknownStation (token : String) (suggestion : Option String)
  | ambiguousStation (token : String) (candidates : List String)
  | stationAccessDenied (station : String)
  | insufficientRegionalAccess (region : Region) (requested available : Nat)
  | unknownRegion (region : Region)
  deriving DecidableEq, Repr

inductive SlipErrorKind
  | structural
  | authorization
  deriving DecidableEq, Repr

def SlipErrorKind.name : SlipErrorKind → String
  | structural => "structural"
  | authorization => "authorization"

namespace SlipError

def kind : SlipError → SlipErrorKind
  | emptySubmission => .structural
  | missingStationHeader => .structural
  | _ => .authorization

def code : SlipError → String
  | emptySubmission => "empty_submission"
  | missingStationHeader => "missing_station_header"
  | unknownStation _ _ => "unknown_station"
  | ambiguousStation _ _ => "ambiguous_station"
  | stationAccessDenied _ => "station_access_denied"
  | insufficientRegionalAccess _ _ _ => "insufficient_regional_access"
  | unknownRegion _ => "unknown_region"

def suggestionText : Option String → String
  | some name => s!" (did you mean '{name}'?)"
  | none => ""

def message : SlipError → String
  | emptySubmission => "Submission is empty"
  | missingStationHeader => "Missing station header"
  | unknownStation token suggestion => s!"Unknown station '{token}'" ++ suggestionText suggestion
  | ambiguousStation token candidates =>
    s!"Station '{token}' is ambiguous: " ++ ", ".intercalate candidates
  | stationAccessDenied station => s!"No access to station '{station}'"
  | insufficientRegionalAccess region requested available =>
    s!"Requested {requested} stations in {region} but only {available} are accessible"
  | unknownRegion region => s!"No station is registered for region {region}"

def isAccessFailure : SlipError → Bool
  | stationAccessDenied _ => true
  | insufficientRegionalAccess _ _ _ => true
  | unknownRegion _ => true
  | _ => false

end SlipError

inductive LineError
  | noValidBetType
  | noValidNumbers
  | inconsistentNumberLength (numbers : List String)
  | unsupportedCombinationRule (combination : String)
  | betTypeNotApplicable (betType : String) (region : Region)
  | invalidStakeAmount (amount : String)
  deriving DecidableEq, Repr

namespace LineError

def code : LineError → String
  | noValidBetType => "no_valid_bet_type"
  | noValidNumbers => "no_valid_numbers"
  | inconsistentNumberLength _ => "inconsistent_number_length"
  | unsupportedCombinationRule _ => "unsupported_combination_rule"
  | betTypeNotApplicable _ _ => "bet_type_not_applicable"
  | invalidStakeAmount _ => "invalid_stake_amount"

def message : LineError → String
  | noValidBetType => "No valid bet type found"
  | noValidNumbers => "No valid numbers found"
  | inconsistentNumberLength numbers =>
    "Numbers must all have the same number of digits: " ++ ", ".intercalate numbers
  | unsupportedCombinationRule combination =>
    s!"Combination '{combination}' uses an unsupported calculation rule"
  | betTypeNotApplicable betType region =>
    s!"Bet type '{betType}' is not available in {region}"
  | invalidStakeAmount amount => s!"Invalid stake amount '{amount}'"

end LineError
end LotterySlip
