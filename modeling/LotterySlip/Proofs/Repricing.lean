import LotterySlip.Proofs.Overrides
import LotterySlip.Proofs.Isolation

/-! One slip at different rates. Payout rates count for the prizes and the price rate for the stakes, and
neither for anything else, but that a line is refused where one of its sums is too large. -/
namespace LotterySlip
open Text

/-- The stations and the price rate count for the stake, and the payout rate for the prize. -/
theorem Price.eq_of_compute? {amount multiplier priceRate priceRate' payoutRate payoutRate' : Decimal}
    {tickets stations stations' : Nat} {p p' : Price}
    (h : compute? amount multiplier tickets stations priceRate payoutRate = some p)
    (h' : compute? amount multiplier tickets stations' priceRate' payoutRate' = some p') :
    p'.unit = p.unit ∧ (stations' = stations → priceRate' = priceRate → p'.stake = p.stake) ∧
      (payoutRate' = payoutRate → p'.prize = p.prize) := by
  simp only [compute?, Option.bind_eq_bind, Option.bind_eq_some_iff, Option.some.injEq] at h h'
  obtain ⟨unit, hu, count, hc, each, he, places, hp, all, ha, stake, hs, prize, hz, rfl⟩ := h
  simp only [hu, hc, he, Option.some.injEq, exists_eq_left'] at h'
  obtain ⟨places', hp', all', ha', stake', hs', prize', hz', rfl⟩ := h'
  refine ⟨rfl, fun hn hr => ?_, fun hr => ?_⟩
  · rw [hn, hp, Option.some.injEq] at hp'
    rw [← hp', ha, Option.some.injEq] at ha'
    rw [hr, ← ha', hs] at hs'
    exact (Option.some.inj hs').symm
  · rw [hr, hz] at hz'
    exact (Option.some.inj hz').symm

def Bet.SameButPrize (b b' : Bet) : Prop :=
  b' = { b with payoutRate := b'.payoutRate, price := { b.price with prize := b'.price.prize } }

def Bet.SameButStake (b b' : Bet) : Prop :=
  b' = { b with price := { b.price with stake := b'.price.stake } }

/-- What two readings of a line have in common: both are refused alike, or both are bets as given, or
one of them is a bet and the other is refused because a sum is too large. -/
inductive Repriced (R : Bet → Bet → Prop) : Except LineError Bet → Except LineError Bet → Prop
  | refused (e : LineError) : Repriced R (.error e) (.error e)
  | bets {b b' : Bet} (h : R b b') : Repriced R (.ok b) (.ok b')
  | second (b : Bet) (amount : String) : Repriced R (.ok b) (.error (.invalidStakeAmount amount))
  | first (b : Bet) (amount : String) : Repriced R (.error (.invalidStakeAmount amount)) (.ok b)

structure Overridden (o : PayoutOverrides) (x x' : Except LineError Bet) : Prop where
  repriced : Repriced Bet.SameButPrize x x'
  payoutRate : ∀ b rate, x' = .ok b → o.get? b.betType.id = some rate → b.payoutRate = rate
  untouched : ∀ b, x = .ok b ∨ x' = .ok b → o.get? b.betType.id = none → x' = x

structure BetLine.Rel (Q : Except LineError Bet → Except LineError Bet → Prop) (l l' : BetLine) :
    Prop where
  number : l'.number = l.number
  text : l'.text = l.text
  outcome : Q l.outcome l'.outcome

structure Submission.Rel (Q : Except LineError Bet → Except LineError Bet → Prop)
    (s s' : Submission) : Prop where
  text : s'.text = s.text
  selection : s'.selection = s.selection
  lines : List.Forall₂ (BetLine.Rel Q) s.lines s'.lines
  diagnostics : s'.diagnostics = s.diagnostics

inductive SubmissionResult.Rel (Q : Except LineError Bet → Except LineError Bet → Prop) :
    SubmissionResult → SubmissionResult → Prop
  | refused (e : SlipError) : Rel Q (.refused e) (.refused e)
  | accepted {s s' : Submission} (h : s.Rel Q s') : Rel Q (.accepted s) (.accepted s')

structure ReadingRel (Q : Except LineError Bet → Except LineError Bet → Prop)
    (x x' : Except Refusal Bet) : Prop where
  outcome : Q (x.mapError Refusal.cause) (x'.mapError Refusal.cause)
  findings : readingFindings x' = readingFindings x

namespace House

/-- What is laid out and has sums is accepted. -/
theorem exists_of_submit_ne_totalOverflow {h : House} {accessible : List Station}
    {priceRate : Decimal} {text : String} {l : Layout}
    (hl : h.layOut accessible (numberedLines text.toList) = .ok l)
    (hne : h.submit accessible priceRate text ≠ .totalOverflow) :
    ∃ s, h.submit accessible priceRate text = .accepted s ∧
      h.complete priceRate text l = .accepted s := by
  have hsubmit : h.submit accessible priceRate text = h.complete priceRate text l := by
    rw [submit, hl]
  rw [hsubmit] at hne ⊢
  cases hc : h.complete priceRate text l with
  | accepted s => exact ⟨s, rfl, rfl⟩
  | refused e => exact absurd hc (h.complete_ne_refused priceRate text l e)
  | totalOverflow => exact absurd hc hne

/-- It is enough to relate the readings of lines, as nothing else on a slip depends on rates. -/
theorem rel_submit {Q : Except LineError Bet → Except LineError Bet → Prop} {h h' : House}
    {accessible : List Station} {priceRate priceRate' : Decimal} {text : String}
    (hstations : h'.stations = h.stations)
    (hread : ∀ s line, ReadingRel Q (h.tariff.readBet (.ofSelection s priceRate) line)
      (h'.tariff.readBet (.ofSelection s priceRate') line))
    (hsums : h.submit accessible priceRate text ≠ .totalOverflow)
    (hsums' : h'.submit accessible priceRate' text ≠ .totalOverflow) :
    SubmissionResult.Rel Q (h.submit accessible priceRate text)
      (h'.submit accessible priceRate' text) := by
  have hlayout := layOut_congr hstations accessible (numberedLines text.toList)
  cases hl : h.layOut accessible (numberedLines text.toList) with
  | error e =>
    simp only [submit, hlayout, hl]
    exact .refused e
  | ok l =>
    obtain ⟨s, hs, hc⟩ := exists_of_submit_ne_totalOverflow hl hsums
    obtain ⟨s', hs', hc'⟩ := exists_of_submit_ne_totalOverflow (hlayout.trans hl) hsums'
    obtain ⟨-, ht, hsel, hlines, hd⟩ := (h.complete_eq_accepted_iff priceRate text l s).mp hc
    obtain ⟨-, ht', hsel', hlines', hd'⟩ := (h'.complete_eq_accepted_iff priceRate' text l s').mp hc'
    rw [hs, hs']
    refine .accepted ⟨ht'.trans ht.symm, hsel'.trans hsel.symm, ?_, ?_⟩
    · rw [hlines, hlines', List.forall₂_map_left_iff, List.forall₂_map_right_iff, List.forall₂_same]
      exact fun b _ => ⟨rfl, rfl, (hread l.selection b.2).outcome⟩
    · rw [hd, hd', readBody, readBody, List.flatMap_map, List.flatMap_map]
      congr 1
      refine List.flatMap_congr fun b _ => ?_
      simp only [(hread l.selection b.2).findings]

end House

/-- Orders that differ in their price at most are settled alike. -/
theorem readingRel_settle {R : Bet → Bet → Prop} {order order' : Order} {options options' : Options}
    {ctx ctx' : LineContext} (htext : order'.amountText = order.amountText)
    (h : ∀ b b', order.bet? options ctx = some b → order'.bet? options' ctx' = some b' → R b b') :
    ReadingRel (Repriced R) (order.settle options ctx) (order'.settle options' ctx') := by
  rw [Order.settle, Order.settle]
  cases hb : order.bet? options ctx with
  | none =>
    cases hb' : order'.bet? options' ctx' with
    | none =>
      rw [Order.refusal, Order.refusal, htext]
      exact ⟨.refused _, rfl⟩
    | some b' => exact ⟨.first b' _, rfl⟩
  | some b =>
    cases hb' : order'.bet? options' ctx' with
    | none => exact ⟨.second b _, rfl⟩
    | some b' => exact ⟨.bets (h b b' hb hb'), rfl⟩

theorem Order.bet?_eq_some_iff (order : Order) (options : Options) (ctx : LineContext) (b : Bet) :
    order.bet? options ctx = some b ↔ ∃ price,
      Price.compute? order.amount options.stakeMultiplier order.tickets.length ctx.stationCount
        ctx.priceRate (order.payoutRate options ctx) = some price ∧
      b = ⟨order.numbers, order.tickets, ⟨order.betType.id, order.betType.name, order.label⟩,
        order.amount, order.payoutRate options ctx, price⟩ := by
  simp only [bet?, Option.map_eq_some_iff, eq_comm (a := b)]

/-- Bets of one order at other stations or another price rate differ in the stake only. -/
theorem Order.sameButStake_of_bet? {order : Order} {options : Options} {ctx ctx' : LineContext}
    {b b' : Bet} (hb : order.bet? options ctx = some b) (hb' : order.bet? options ctx' = some b')
    (hregion : ctx'.pricingRegion = ctx.pricingRegion) : b.SameButStake b' := by
  obtain ⟨p, hp, rfl⟩ := (order.bet?_eq_some_iff options ctx b).mp hb
  obtain ⟨p', hp', rfl⟩ := (order.bet?_eq_some_iff options ctx' b').mp hb'
  have hrate : order.payoutRate options ctx' = order.payoutRate options ctx := by
    rw [payoutRate, payoutRate, hregion]
  obtain ⟨hunit, -, hprize⟩ := Price.eq_of_compute? hp hp'
  simp only [Bet.SameButStake, hrate, ← hunit, ← hprize hrate]

theorem Order.sameButPrize_override {order : Order} {o : PayoutOverrides} {options : Options}
    {ctx : LineContext} {b b' : Bet} (hb : order.bet? options ctx = some b)
    (hb' : (order.override o).bet? options ctx = some b') : b.SameButPrize b' := by
  obtain ⟨p, hp, rfl⟩ := (order.bet?_eq_some_iff options ctx b).mp hb
  obtain ⟨p', hp', rfl⟩ := (Order.bet?_eq_some_iff _ options ctx b').mp hb'
  obtain ⟨hunit, hstake, -⟩ := Price.eq_of_compute? hp hp'
  simp only [Bet.SameButPrize, override, Catalogs.overrideRate_eq, ← hunit, ← hstake rfl rfl]

/-- An order for a bet type that is not overridden stays as it is, and otherwise the override counts
before anything else. -/
theorem Order.override_cases (order : Order) (o : PayoutOverrides) :
    o.get? order.betType.id = none ∧ order.override o = order ∨
      ∃ rate, o.get? order.betType.id = some rate ∧
        ∀ options ctx, (order.override o).payoutRate options ctx = rate := by
  cases hr : o.get? order.betType.id with
  | none =>
    refine Or.inl ⟨rfl, ?_⟩
    rw [override, Catalogs.overrideRate_of_get?_eq_none hr]
  | some rate =>
    refine Or.inr ⟨rate, rfl, fun options ctx => ?_⟩
    simp only [payoutRate, override, Catalogs.overrideRate_eq, hr, Option.some_or]
    rfl

theorem Order.betType_id_of_bet? {order : Order} {options : Options} {ctx : LineContext} {b : Bet}
    (h : order.bet? options ctx = some b) : b.betType.id = order.betType.id := by
  obtain ⟨p, -, rfl⟩ := (order.bet?_eq_some_iff options ctx b).mp h
  rfl

/-- The outcome of an order is the bet that it comes to. -/
theorem Order.mapError_settle_eq_ok_iff (order : Order) (options : Options) (ctx : LineContext)
    (b : Bet) : (order.settle options ctx).mapError Refusal.cause = .ok b ↔
      order.bet? options ctx = some b := by
  rw [mapError_eq_ok_iff, settle]
  cases order.bet? options ctx <;> simp

theorem readingRel_override (order : Order) (o : PayoutOverrides) (options : Options)
    (ctx : LineContext) :
    ReadingRel (Overridden o) (order.settle options ctx) ((order.override o).settle options ctx) := by
  have hid : (order.override o).betType.id = order.betType.id := by
    rw [Order.override, Catalogs.overrideRate_eq]
  have hrel : ReadingRel (Repriced Bet.SameButPrize) (order.settle options ctx)
      ((order.override o).settle options ctx) :=
    readingRel_settle rfl fun b b' hb hb' => Order.sameButPrize_override hb hb'
  refine ⟨⟨hrel.outcome, fun b rate hb hr => ?_, fun b hb hn => ?_⟩, hrel.findings⟩
  · rw [Order.mapError_settle_eq_ok_iff] at hb
    rw [Order.betType_id_of_bet? hb, hid] at hr
    obtain ⟨p, -, rfl⟩ := (Order.bet?_eq_some_iff _ options ctx b).mp hb
    rcases order.override_cases o with ⟨hn, -⟩ | ⟨rate', hr', hrate⟩
    · rw [hr] at hn
      cases hn
    · rw [hr] at hr'
      rw [hrate, Option.some.inj hr']
  · have hb' : b.betType.id = order.betType.id := by
      rcases hb with hb | hb
      · exact Order.betType_id_of_bet? ((Order.mapError_settle_eq_ok_iff _ _ _ _).mp hb)
      · rw [Order.betType_id_of_bet? ((Order.mapError_settle_eq_ok_iff _ _ _ _).mp hb), hid]
    rcases order.override_cases o with ⟨-, he⟩ | ⟨rate, hr, -⟩
    · rw [he]
    · rw [← hb', hn] at hr
      cases hr

namespace Tariff

theorem readingRel_applyOverrides (c : Catalogs) (o : PayoutOverrides) (options : Options)
    (ctx : LineContext) (line : List Char) :
    ReadingRel (Overridden o) ((c.tariff options).readBet ctx line)
      (((c.applyOverrides o).tariff options).readBet ctx line) := by
  have hoptions : ((c.applyOverrides o).tariff options).options = (c.tariff options).options := rfl
  rw [readBet_eq_bind, readBet_eq_bind, order_applyOverrides, hoptions]
  cases (c.tariff options).order ctx.regions line with
  | error r =>
    refine ⟨⟨.refused r.cause, fun b rate hb => ?_, fun b hb => ?_⟩, rfl⟩
    · cases hb
    · rcases hb with hb | hb <;> cases hb
  | ok order => exact readingRel_override order o _ ctx

theorem readingRel_priceRate (t : Tariff) (s : Selection) (priceRate priceRate' : Decimal)
    (line : List Char) :
    ReadingRel (Repriced Bet.SameButStake) (t.readBet (.ofSelection s priceRate) line)
      (t.readBet (.ofSelection s priceRate') line) := by
  have hregions : (LineContext.ofSelection s priceRate').regions =
      (LineContext.ofSelection s priceRate).regions := rfl
  rw [readBet_eq_bind, readBet_eq_bind, hregions]
  cases t.order (LineContext.ofSelection s priceRate).regions line with
  | error r => exact ⟨.refused r.cause, rfl⟩
  | ok order =>
    exact readingRel_settle rfl fun b b' hb hb' => Order.sameButStake_of_bet? hb hb' rfl

end Tariff

namespace Catalogs

/-- Payout rates count for the prizes and price rates for the stakes, and neither for anything else.
Overrides are put on top of each other, and change the rates of the bet types they name. -/
theorem submit_repriced (c : Catalogs) (options : Options) (accessible : List Station)
    (text : String) :
    (∀ o priceRate,
      (c.house options).submit accessible priceRate text ≠ .totalOverflow →
      ((c.applyOverrides o).house options).submit accessible priceRate text ≠ .totalOverflow →
      SubmissionResult.Rel (Overridden o) ((c.house options).submit accessible priceRate text)
        (((c.applyOverrides o).house options).submit accessible priceRate text)) ∧
    (∀ priceRate priceRate',
      (c.house options).submit accessible priceRate text ≠ .totalOverflow →
      (c.house options).submit accessible priceRate' text ≠ .totalOverflow →
      SubmissionResult.Rel (Repriced Bet.SameButStake)
        ((c.house options).submit accessible priceRate text)
        ((c.house options).submit accessible priceRate' text)) ∧
    (∀ o₁ o₂ : PayoutOverrides,
      (∃ o : PayoutOverrides, ∀ id, o.get? id = (o₂.get? id).or (o₁.get? id)) ∧
      ∀ o : PayoutOverrides, (∀ id, o.get? id = (o₂.get? id).or (o₁.get? id)) →
        (c.applyOverrides o₁).applyOverrides o₂ = c.applyOverrides o) ∧
    ∀ o : PayoutOverrides, c.applyOverrides o = { c with betTypes := c.betTypes.map fun b =>
      { b with customPayoutRate := (o.get? b.id).or b.customPayoutRate } } := by
  refine ⟨fun o priceRate hsums hsums' => ?_, fun priceRate priceRate' hsums hsums' => ?_,
    fun o₁ o₂ => ?_, fun o => ?_⟩
  · exact House.rel_submit rfl
      (fun s line => Tariff.readingRel_applyOverrides c o options (.ofSelection s priceRate) line)
      hsums hsums'
  · exact House.rel_submit rfl
      (fun s line => (c.tariff options).readingRel_priceRate s priceRate priceRate' line) hsums hsums'
  · exact ⟨⟨o₁.overlay o₂, o₁.get?_overlay o₂⟩, fun o ho => c.applyOverrides_applyOverrides ho⟩
  · rw [applyOverrides]
    congr 1
    exact List.map_congr_left fun b _ => overrideRate_eq o b

/-- The prize of the first line is below the limit at the rate 70 and not at 80. -/
theorem submit_repriced_flipped :
    SubmissionResult.Rel (Overridden (.ofList [(1, .ofWord 80)]))
      ((Sample.plain.house .standard).submit Sample.plain.stations .one
        "tp\n12dd1050000000000000000000000\n34dd1")
      (((Sample.plain.applyOverrides (.ofList [(1, .ofWord 80)])).house .standard).submit
        Sample.plain.stations .one "tp\n12dd1050000000000000000000000\n34dd1") ∧
    SubmissionResult.Rel (Repriced Bet.SameButStake)
      ((Sample.plain.house .standard).submit Sample.plain.stations .one
        "tp\n12dd1050000000000000000000000\n34dd1")
      ((Sample.plain.house .standard).submit Sample.plain.stations (.ofWord 90)
        "tp\n12dd1050000000000000000000000\n34dd1") ∧
    (Sample.plain.applyOverrides (.ofList [(1, .ofWord 80)])).applyOverrides
        (.ofList [(1, .ofWord 90), (2, .ofWord 10)]) =
      Sample.plain.applyOverrides ((Table.ofList [(1, .ofWord 80)]).overlay
        (.ofList [(1, .ofWord 90), (2, .ofWord 10)])) := by
  have hne (r : SubmissionResult) (hr : r.accepted?.isSome = true) : r ≠ .totalOverflow := by
    rintro rfl
    cases hr
  have h := submit_repriced Sample.plain .standard Sample.plain.stations
    "tp\n12dd1050000000000000000000000\n34dd1"
  have hplain := hne ((Sample.plain.house .standard).submit Sample.plain.stations .one
    "tp\n12dd1050000000000000000000000\n34dd1") (by decide +kernel)
  refine ⟨h.1 _ _ hplain (hne _ ?_), h.2.1 _ _ hplain (hne _ ?_), (h.2.2.1 _ _).2 _ ?_⟩
  · decide +kernel
  · decide +kernel
  · exact Table.get?_overlay _ _

end Catalogs

end LotterySlip
