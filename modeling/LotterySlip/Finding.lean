/-! What is worth saying about a slip without refusing it. -/
namespace LotterySlip

inductive Severity
  | warning
  | info
  deriving DecidableEq, Repr

inductive Finding
  | unsupportedCombination (name method : String)
  | duplicateStation (station : String)
  | sequenceTooLong (text : String) (limit : Nat)
  | tooManyTickets (numbers : String) (limit : Nat)
  | implicitHeader (stations : String)
  deriving DecidableEq, Repr

namespace Finding

def severity : Finding → Severity
  | implicitHeader _ => .info
  | _ => .warning

def code : Finding → String
  | unsupportedCombination _ _ => "unsupported_combination_rule"
  | duplicateStation _ => "duplicate_station"
  | sequenceTooLong _ _ => "sequence_too_long"
  | tooManyTickets _ _ => "too_many_tickets"
  | implicitHeader _ => "implicit_header"

def message : Finding → String
  | unsupportedCombination name method =>
    s!"combination '{name}' uses calculation method '{method}' which is not evaluated"
  | duplicateStation station => s!"station '{station}' listed more than once; counted once"
  | sequenceTooLong text limit => s!"sequence '{text}' expands past {limit} numbers"
  | tooManyTickets numbers limit => s!"permutations of '{numbers}' exceed {limit} tickets"
  | implicitHeader stations => s!"header '{stations}' read from the bet line"

end Finding

structure Diagnostic where
  finding : Finding
  line : Option Nat
  deriving DecidableEq, Repr

namespace Severity

def name : Severity → String
  | warning => "warning"
  | info => "info"

end Severity

def Diagnostic.isWarning (d : Diagnostic) : Bool := d.finding.severity = .warning

end LotterySlip
