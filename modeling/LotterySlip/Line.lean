import LotterySlip.Alias
import LotterySlip.Decimal.Arithmetic
import LotterySlip.Decimal.Text
import LotterySlip.Finding
import LotterySlip.Number.Expansion
import LotterySlip.Number.Ticket
import LotterySlip.Payout
import LotterySlip.Refusal
import LotterySlip.Selection

/-! One line of a slip: numbers, the alias of a bet type and an amount, read and priced. -/
namespace LotterySlip
open Text

structure BetTypeRef where
  id : Int64
  name : String
  label : String
  deriving DecidableEq

/-- The sums of money of a line. The unit is the stake on one ticket at one station. -/
structure Price where
  unit : Decimal
  stake : Decimal
  prize : Decimal
  deriving DecidableEq

structure Bet where
  numbers : List String
  tickets : List String
  betType : BetTypeRef
  amount : Decimal
  payoutRate : Decimal
  price : Price
  deriving DecidableEq

structure BetLine where
  number : Nat
  text : String
  outcome : Except LineError Bet

structure LineContext where
  stationCount : Nat
  regions : List Region
  pricingRegion : Option Region
  priceRate : Decimal

def LineContext.ofSelection (s : Selection) (priceRate : Decimal) : LineContext :=
  ⟨s.stationCount, s.regions, s.pricingRegion?, priceRate⟩

def LineContext.plain (stationCount : Nat) (priceRate : Decimal) : LineContext :=
  ⟨stationCount, [], none, priceRate⟩

/-- The prices for a number of tickets. The products are formed in this order, and the prize depends
neither on the stations nor on the price rate. Nothing if one of them overflows. -/
def Price.compute? (amount multiplier : Decimal) (tickets stations : Nat)
    (priceRate payoutRate : Decimal) : Option Price := do
  let unit ← amount.mul? multiplier
  let perStation ← unit.mul? (← Decimal.ofNat? tickets)
  let stake ← (← perStation.mul? (← Decimal.ofNat? stations)).mul? priceRate
  let prize ← perStation.mul? payoutRate
  some ⟨unit, stake, prize⟩

structure Refusal where
  cause : LineError
  finding : Option Finding

instance : Coe LineError Refusal := ⟨fun cause => ⟨cause, none⟩⟩

/-- What lines are read against. The index is the one of the bet types. -/
structure Tariff where
  betTypes : List BetType
  combinations : List Combination
  options : Options
  index : AliasIndex
  index_eq : index = .ofBetTypes betTypes

def Catalogs.tariff (c : Catalogs) (options : Options) : Tariff :=
  ⟨c.betTypes, c.combinations, options, .ofBetTypes c.betTypes, rfl⟩

namespace Tariff

def limit (t : Tariff) : Nat := t.options.maxExpandedNumbers.toNat

def missingRegion (b : BetType) (regions : List Region) : Region :=
  (regions.find? fun r => !b.appliesTo r).getD .south

def chooseBetType (candidates : List BetType) (regions : List Region) : Except LineError BetType :=
  match candidates.find? fun b => b.covers regions, candidates with
  | some b, _ => .ok b
  | none, b :: _ => .error (.betTypeNotApplicable b.name (missingRegion b regions))
  | none, [] => .error .noValidBetType

def refuseExpansion? (t : Tariff) (text : List Char) : Number.Expansion → Option Refusal
  | .unsupported name method =>
    some ⟨if t.options.strictCombinations then .unsupportedCombinationRule name else .noValidNumbers,
      some (.unsupportedCombination name method)⟩
  | .tooLong limit =>
    some ⟨.noValidNumbers, some (.sequenceTooLong (String.ofList (trim text)) limit)⟩
  | _ => none

def readNumbers (t : Tariff) (text : List Char) : Except Refusal (List String) :=
  let expansion := Number.expand t.combinations t.limit text
  match t.refuseExpansion? text expansion, expansion.numbers with
  | some refusal, _ => .error refusal
  | none, [] => .error ↑LineError.noValidNumbers
  | none, n :: ns =>
    if ns.all fun m => m.utf8ByteSize = n.utf8ByteSize then .ok (n :: ns)
    else .error ↑(LineError.inconsistentNumberLength (n :: ns))

def readAmount? (text : List Char) : Option Decimal :=
  match Decimal.ofChars? text with
  | some d => if d.isPositive then some d else none
  | none => none

def readTickets (t : Tariff) (b : BetType) (numbers : List String) : Except Refusal (List String) :=
  match Number.tickets? numbers b.isPermutation t.limit with
  | some tickets => .ok tickets
  | none =>
    .error ⟨.noValidNumbers, some (.tooManyTickets (".".intercalate numbers) t.limit)⟩

def digitCount (numbers : List String) : Nat := (numbers.head?.map String.utf8ByteSize).getD 0

def readHit (t : Tariff) (ctx : LineContext) (hit : AliasHit) : Except Refusal Bet := do
  let badAmount := LineError.invalidStakeAmount (String.ofList hit.amount)
  let candidates := hit.group.betTypes.filterMap fun i => t.betTypes[i]?
  let b ← (chooseBetType candidates ctx.regions).mapError fun e => ⟨e, none⟩
  let numbers ← t.readNumbers hit.numbersText
  let amount ← (readAmount? hit.amount).elim (throw ↑badAmount) pure
  let tickets ← t.readTickets b numbers
  let rate :=
    b.rateFor ctx.pricingRegion (digitCount numbers) t.options.defaultPayoutRate
  let price ← (Price.compute? amount t.options.stakeMultiplier tickets.length ctx.stationCount
    ctx.priceRate rate).elim (throw ↑badAmount) pure
  pure ⟨numbers, tickets, ⟨b.id, b.name, hit.group.display⟩, amount, rate, price⟩

def readBet (t : Tariff) (ctx : LineContext) (line : List Char) : Except Refusal Bet :=
  match t.index.find? line with
  | some hit => t.readHit ctx hit
  | none => .error ↑LineError.noValidBetType

end Tariff

def BetLine.ofReading (number : Nat) (line : List Char) (reading : Except Refusal Bet) : BetLine :=
  ⟨number, String.ofList (trim line), reading.mapError fun r => r.cause⟩

def readingFindings : Except Refusal Bet → List Finding
  | .ok _ => []
  | .error r => r.finding.toList

def lineText (text : String) (fault : Option LineError)
    (bet : Option (List String × String × Decimal)) : String :=
  match fault, bet with
  | some e, _ => text ++ " — Error: " ++ e.message
  | none, some (numbers, label, amount) =>
    ".".intercalate numbers ++ label ++ amount.normalize.toText
  | none, none => text

namespace BetLine

def bet? (l : BetLine) : Option Bet := l.outcome.toOption

def error? (l : BetLine) : Option LineError :=
  match l.outcome with
  | .ok _ => none
  | .error e => some e

def isValid (l : BetLine) : Bool := l.error?.isNone

def numbers (l : BetLine) : List String := (l.bet?.map Bet.numbers).getD []

def tickets (l : BetLine) : List String := (l.bet?.map Bet.tickets).getD []

def betType? (l : BetLine) : Option BetTypeRef := l.bet?.map Bet.betType

def sum (l : BetLine) (f : Bet → Decimal) : Decimal := (l.bet?.map f).getD .zero

def amount (l : BetLine) : Decimal := l.sum Bet.amount

def unit (l : BetLine) : Decimal := l.sum fun b => b.price.unit

def payoutRate (l : BetLine) : Decimal := l.sum Bet.payoutRate

def stake (l : BetLine) : Decimal := l.sum fun b => b.price.stake

def prize (l : BetLine) : Decimal := l.sum fun b => b.price.prize

def render (l : BetLine) : String :=
  lineText l.text l.error? (l.bet?.map fun b => (b.numbers, b.betType.label, b.amount))

end BetLine
end LotterySlip
