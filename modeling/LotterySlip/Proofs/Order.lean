import LotterySlip.Proofs.Line

/-! A line read in two stages: what is asked for, and what it costs. The first stage knows nothing of
payout rates and price rates, and the second refuses nothing but sums that are too large. -/
namespace LotterySlip

/-- What a line asks for. The text of the amount is kept for the refusal. -/
structure Order where
  betType : BetType
  label : String
  numbers : List String
  tickets : List String
  amount : Decimal
  amountText : List Char

namespace Order

def payoutRate (options : Options) (ctx : LineContext) (o : Order) : Decimal :=
  o.betType.rateFor ctx.pricingRegion (Tariff.digitCount o.numbers) options.defaultPayoutRate

def bet? (options : Options) (ctx : LineContext) (o : Order) : Option Bet :=
  (Price.compute? o.amount options.stakeMultiplier o.tickets.length ctx.stationCount ctx.priceRate
    (o.payoutRate options ctx)).map fun price =>
      ⟨o.numbers, o.tickets, ⟨o.betType.id, o.betType.name, o.label⟩, o.amount,
        o.payoutRate options ctx, price⟩

def refusal (o : Order) : Refusal := ↑(LineError.invalidStakeAmount (String.ofList o.amountText))

def settle (options : Options) (ctx : LineContext) (o : Order) : Except Refusal Bet :=
  (o.bet? options ctx).elim (.error o.refusal) .ok

end Order

namespace Tariff

def orderHit (t : Tariff) (regions : List Region) (hit : AliasHit) : Except Refusal Order := do
  let candidates := hit.group.betTypes.filterMap fun i => t.betTypes[i]?
  let b ← (chooseBetType candidates regions).mapError fun e => ⟨e, none⟩
  let numbers ← t.readNumbers hit.numbersText
  let amount ← (readAmount? hit.amount).elim
    (.error ↑(LineError.invalidStakeAmount (String.ofList hit.amount))) .ok
  let tickets ← t.readTickets b numbers
  pure ⟨b, hit.group.display, numbers, tickets, amount, hit.amount⟩

def order (t : Tariff) (regions : List Region) (line : List Char) : Except Refusal Order :=
  match t.index.find? line with
  | some hit => t.orderHit regions hit
  | none => .error ↑LineError.noValidBetType

theorem readHit_eq_bind (t : Tariff) (ctx : LineContext) (hit : AliasHit) :
    t.readHit ctx hit = (t.orderHit ctx.regions hit).bind (Order.settle t.options ctx) := by
  rw [readHit, orderHit]
  cases (chooseBetType (hit.group.betTypes.filterMap fun i => t.betTypes[i]?)
    ctx.regions).mapError fun e => (⟨e, none⟩ : Refusal) with
  | error r => rfl
  | ok b =>
    cases t.readNumbers hit.numbersText with
    | error r => rfl
    | ok numbers =>
      cases readAmount? hit.amount with
      | none => rfl
      | some amount =>
        change (t.readTickets b numbers >>= _) = (t.readTickets b numbers >>= _).bind _
        cases t.readTickets b numbers with
        | error r => rfl
        | ok tickets =>
          simp only [bind, Except.bind, pure, Except.pure, Order.settle, Order.bet?, Order.payoutRate]
          cases Price.compute? amount t.options.stakeMultiplier tickets.length ctx.stationCount
            ctx.priceRate (b.rateFor ctx.pricingRegion (digitCount numbers)
              t.options.defaultPayoutRate) <;> rfl

/-- A line is read by one stage after the other. -/
theorem readBet_eq_bind (t : Tariff) (ctx : LineContext) (line : List Char) :
    t.readBet ctx line = (t.order ctx.regions line).bind (Order.settle t.options ctx) := by
  rw [readBet, order]
  cases t.index.find? line with
  | none => rfl
  | some hit => exact t.readHit_eq_bind ctx hit

end Tariff
end LotterySlip
