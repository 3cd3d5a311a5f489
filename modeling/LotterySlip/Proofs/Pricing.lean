import LotterySlip.Proofs.Decimal.Exact
import LotterySlip.Proofs.Repricing

/-! The money on a line against the exact products. Within the limits of decimals nothing is rounded.
Past them every product is rounded by itself, and a line with a product that is too large is refused,
so that no sum is cut off. -/
namespace LotterySlip
open Decimal

namespace Decimal

def times? (d : Decimal) (n : Nat) : Option Decimal := (ofNat? n).bind d.mul?

theorem exists_ofNat?_eq {n : Nat} (h : n < mantissaLimit) :
    ∃ d, ofNat? n = some d ∧ d.value = n ∧ d.mantissa = n ∧ d.scale = 0 := by
  obtain ⟨d, hd⟩ := Option.isSome_iff_exists.mp
    ((ofParts?_isSome_iff false n 0).mpr ⟨h, Nat.zero_le 28⟩)
  obtain ⟨hneg, hm, hs⟩ := (ofParts?_eq_some_iff _ _ _ _).mp hd
  refine ⟨d, hd, ?_, hm, hs⟩
  rw [value, signed, hneg, hm, hs]
  simp

theorem lt_of_times?_eq_some {d c : Decimal} {n : Nat} (h : d.times? n = some c) :
    n < mantissaLimit := by
  obtain ⟨e, he, -⟩ := Option.bind_eq_some_iff.mp h
  exact ((ofParts?_isSome_iff false n 0).mp (Option.isSome_of_eq_some he)).1

theorem times?_eq_none_iff (d : Decimal) {n : Nat} (hn : n < mantissaLimit) :
    d.times? n = none ↔ overflowBound ≤ |d.value * n| := by
  obtain ⟨e, he, hv, -⟩ := exists_ofNat?_eq hn
  rw [times?, he, Option.bind_some, mul?_eq_none_iff, hv]

theorem abs_lt_of_times? {d c : Decimal} {n : Nat} (h : d.times? n = some c) :
    |d.value * n| < overflowBound := by
  rw [← not_le, ← times?_eq_none_iff d (lt_of_times?_eq_some h), h]
  exact Option.some_ne_none c

theorem near_of_times? {d c : Decimal} {n : Nat} (h : d.times? n = some c) :
    c.Near (d.value * n) := by
  obtain ⟨e, he, hv, -⟩ := exists_ofNat?_eq (lt_of_times?_eq_some h)
  rw [times?, he, Option.bind_some] at h
  exact hv ▸ near_of_mul? h

theorem exists_times?_eq {d : Decimal} {n : Nat} (hn : n < mantissaLimit)
    (hm : d.mantissa * n < mantissaLimit) : ∃ c, d.times? n = some c ∧ c.value = d.value * n ∧
      c.mantissa = d.mantissa * n ∧ c.scale ≤ d.scale := by
  obtain ⟨e, he, hv, hem, hes⟩ := exists_ofNat?_eq hn
  obtain ⟨c, hc, hcv, hcm, hcs⟩ := exists_mul?_eq (a := d) (b := e) (hem ▸ hm) (hes ▸ d.scale_le)
  rw [hv] at hcv
  rw [hem] at hcm
  rw [hes] at hcs
  exact ⟨c, by rw [times?, he, Option.bind_some, hc], hcv, hcm, hcs⟩

end Decimal

structure Factors where
  amount : Decimal
  multiplier : Decimal
  tickets : Nat
  stations : Nat
  priceRate : Decimal
  payoutRate : Decimal
  deriving DecidableEq

namespace Factors

variable {f g : Factors} {p : Price}

def price? (f : Factors) : Option Price :=
  Price.compute? f.amount f.multiplier f.tickets f.stations f.priceRate f.payoutRate

structure Course (f : Factors) (p : Price) (each all : Decimal) : Prop where
  unit : f.amount.mul? f.multiplier = some p.unit
  perStation : p.unit.times? f.tickets = some each
  everywhere : each.times? f.stations = some all
  stake : all.mul? f.priceRate = some p.stake
  prize : each.mul? f.payoutRate = some p.prize

theorem price?_eq_some_iff (f : Factors) (p : Price) :
    f.price? = some p ↔ ∃ each all, f.Course p each all := by
  simp only [price?, Price.compute?, Option.bind_eq_bind, Option.bind_eq_some_iff, Option.some.injEq]
  constructor
  · rintro ⟨unit, hu, n, hn, each, he, k, hk, all, ha, stake, hs, prize, hp, rfl⟩
    exact ⟨each, all, hu, Option.bind_eq_some_iff.mpr ⟨n, hn, he⟩,
      Option.bind_eq_some_iff.mpr ⟨k, hk, ha⟩, hs, hp⟩
  · rintro ⟨each, all, hu, he, ha, hs, hp⟩
    obtain ⟨n, hn, he⟩ := Option.bind_eq_some_iff.mp he
    obtain ⟨k, hk, ha⟩ := Option.bind_eq_some_iff.mp ha
    exact ⟨p.unit, hu, n, hn, each, he, k, hk, all, ha, p.stake, hs, p.prize, hp, rfl⟩

def unit? (f : Factors) : Option Decimal := f.amount.mul? f.multiplier

def perStation? (f : Factors) : Option Decimal := f.unit?.bind fun x => x.times? f.tickets

def everywhere? (f : Factors) : Option Decimal := f.perStation?.bind fun x => x.times? f.stations

/-- The two factors of each multiplication that comes to be done. What was multiplied before is taken
as it was rounded. -/
inductive Multiplies (f : Factors) : ℚ → ℚ → Prop
  | unit : Multiplies f f.amount.value f.multiplier.value
  | tickets {x : Decimal} (h : f.unit? = some x) : Multiplies f x.value f.tickets
  | stations {x : Decimal} (h : f.perStation? = some x) : Multiplies f x.value f.stations
  | stake {x : Decimal} (h : f.everywhere? = some x) : Multiplies f x.value f.priceRate.value
  | prize {x : Decimal} (h : f.perStation? = some x) : Multiplies f x.value f.payoutRate.value

theorem Course.perStation?_eq {each all : Decimal} (h : f.Course p each all) :
    f.perStation? = some each := by
  rw [perStation?, unit?, h.unit, Option.bind_some, h.perStation]

theorem Course.everywhere?_eq {each all : Decimal} (h : f.Course p each all) :
    f.everywhere? = some all := by
  rw [everywhere?, h.perStation?_eq, Option.bind_some, h.everywhere]

/-- With a price none of the products is too large. -/
theorem Multiplies.abs_lt {x y : ℚ} (hxy : f.Multiplies x y) (h : f.price? = some p) :
    |x * y| < overflowBound := by
  obtain ⟨each, all, hc⟩ := (f.price?_eq_some_iff p).mp h
  cases hxy with
  | unit => exact abs_lt_of_mul? hc.unit
  | tickets hx =>
    obtain rfl := Option.some.inj (hx.symm.trans hc.unit)
    exact abs_lt_of_times? hc.perStation
  | stations hx =>
    obtain rfl := Option.some.inj (hx.symm.trans hc.perStation?_eq)
    exact abs_lt_of_times? hc.everywhere
  | stake hx =>
    obtain rfl := Option.some.inj (hx.symm.trans hc.everywhere?_eq)
    exact abs_lt_of_mul? hc.stake
  | prize hx =>
    obtain rfl := Option.some.inj (hx.symm.trans hc.perStation?_eq)
    exact abs_lt_of_mul? hc.prize

/-- If no product is too large, there is a price. -/
theorem exists_price?_of_forall_lt (ht : f.tickets < mantissaLimit) (hs : f.stations < mantissaLimit)
    (h : ∀ x y, f.Multiplies x y → |x * y| < overflowBound) : ∃ p, f.price? = some p := by
  have hmul {x y : Decimal} (hxy : f.Multiplies x.value y.value) : ∃ c, x.mul? y = some c := by
    rw [← Option.ne_none_iff_exists', ne_eq, mul?_eq_none_iff, not_le]
    exact h _ _ hxy
  have htimes {x : Decimal} {n : Nat} (hn : n < mantissaLimit) (hxy : f.Multiplies x.value n) :
      ∃ c, x.times? n = some c := by
    rw [← Option.ne_none_iff_exists', ne_eq, times?_eq_none_iff x hn, not_le]
    exact h _ _ hxy
  obtain ⟨unit, hu⟩ := hmul .unit
  obtain ⟨each, he⟩ := htimes ht (.tickets hu)
  have he' : f.perStation? = some each := by rw [perStation?, unit?, hu, Option.bind_some, he]
  obtain ⟨all, ha⟩ := htimes hs (.stations he')
  have ha' : f.everywhere? = some all := by rw [everywhere?, he', Option.bind_some, ha]
  obtain ⟨stake, hstake⟩ := hmul (.stake ha')
  obtain ⟨prize, hprize⟩ := hmul (.prize he')
  exact ⟨⟨unit, stake, prize⟩, (f.price?_eq_some_iff _).mpr ⟨each, all, hu, he, ha, hstake, hprize⟩⟩

structure Rounds (f : Factors) (p : Price) (each all : Decimal) : Prop where
  unit : p.unit.Near (f.amount.value * f.multiplier.value)
  perStation : each.Near (p.unit.value * f.tickets)
  everywhere : all.Near (each.value * f.stations)
  stake : p.stake.Near (all.value * f.priceRate.value)
  prize : p.prize.Near (each.value * f.payoutRate.value)

theorem Course.rounds {each all : Decimal} (h : f.Course p each all) : f.Rounds p each all :=
  ⟨near_of_mul? h.unit, near_of_times? h.perStation, near_of_times? h.everywhere,
    near_of_mul? h.stake, near_of_mul? h.prize⟩

def Within (mantissa scale : Nat) : Prop := mantissa < mantissaLimit ∧ scale ≤ 28

instance (mantissa scale : Nat) : Decidable (Within mantissa scale) :=
  inferInstanceAs (Decidable (_ ∧ _))

structure Fits (f : Factors) : Prop where
  -- Every count in a machine word is below the limit. With a multiplier of zero no product says so.
  tickets_lt : f.tickets < mantissaLimit
  stations_lt : f.stations < mantissaLimit
  unit : Within (f.amount.mantissa * f.multiplier.mantissa) (f.amount.scale + f.multiplier.scale)
  perStation : Within (f.amount.mantissa * f.multiplier.mantissa * f.tickets)
    (f.amount.scale + f.multiplier.scale)
  everywhere : Within (f.amount.mantissa * f.multiplier.mantissa * f.tickets * f.stations)
    (f.amount.scale + f.multiplier.scale)
  stake : Within
    (f.amount.mantissa * f.multiplier.mantissa * f.tickets * f.stations * f.priceRate.mantissa)
    (f.amount.scale + f.multiplier.scale + f.priceRate.scale)
  prize : Within (f.amount.mantissa * f.multiplier.mantissa * f.tickets * f.payoutRate.mantissa)
    (f.amount.scale + f.multiplier.scale + f.payoutRate.scale)

/-- A price without any rounding. The prize has neither the stations nor the price rate in it. -/
structure IsExact (f : Factors) (p : Price) : Prop where
  unit : p.unit.value = f.amount.value * f.multiplier.value
  stake : p.stake.value =
    f.amount.value * f.multiplier.value * f.tickets * f.stations * f.priceRate.value
  prize : p.prize.value = f.amount.value * f.multiplier.value * f.tickets * f.payoutRate.value

theorem exists_price?_of_fits (h : f.Fits) : ∃ p, f.price? = some p ∧ f.IsExact p := by
  obtain ⟨unit, hu, huv, hum, hus⟩ := exists_mul?_eq h.unit.1 h.unit.2
  obtain ⟨each, he, hev, hem, hes⟩ := exists_times?_eq (d := unit) h.tickets_lt (hum ▸ h.perStation.1)
  rw [hum] at hem
  obtain ⟨all, ha, hav, ham, has⟩ := exists_times?_eq (d := each) h.stations_lt (hem ▸ h.everywhere.1)
  rw [hem] at ham
  obtain ⟨stake, hs, hsv, -⟩ := exists_mul?_eq (a := all) (b := f.priceRate) (ham ▸ h.stake.1)
    (le_trans (by omega) h.stake.2)
  obtain ⟨prize, hp, hpv, -⟩ := exists_mul?_eq (a := each) (b := f.payoutRate) (hem ▸ h.prize.1)
    (le_trans (by omega) h.prize.2)
  refine ⟨⟨unit, stake, prize⟩, (f.price?_eq_some_iff _).mpr ⟨each, all, hu, he, ha, hs, hp⟩, ?_⟩
  exact ⟨huv, by rw [hsv, hav, hev, huv], by rw [hpv, hev, huv]⟩

structure IsShare (g f : Factors) : Prop where
  amount : g.amount = f.amount
  multiplier : g.multiplier = f.multiplier
  tickets_le : g.tickets ≤ f.tickets
  stations_le : g.stations ≤ f.stations
  priceRate : g.priceRate = f.priceRate
  payoutRate : g.payoutRate = f.payoutRate

theorem Fits.of_isShare (h : f.Fits) (hg : g.IsShare f) : g.Fits := by
  obtain ⟨ha, hm, ht, hs, hp, hr⟩ := hg
  have hle {k l n : Nat} (hkl : k ≤ l) (hl : Within l n) : Within k n := ⟨hkl.trans_lt hl.1, hl.2⟩
  refine ⟨ht.trans_lt h.tickets_lt, hs.trans_lt h.stations_lt, ?_, ?_, ?_, ?_, ?_⟩ <;>
    simp only [ha, hm, hp, hr]
  · exact h.unit
  · exact hle (by gcongr) h.perStation
  · exact hle (by gcongr) h.everywhere
  · exact hle (by gcongr) h.stake
  · exact hle (by gcongr) h.prize

end Factors

namespace Order

def factors (options : Options) (ctx : LineContext) (o : Order) : Factors :=
  ⟨o.amount, options.stakeMultiplier, o.tickets.length, ctx.stationCount, ctx.priceRate,
    o.payoutRate options ctx⟩

end Order

namespace Tariff

structure Pending (t : Tariff) where
  ctx : LineContext
  line : List Char
  order : Order
  order_eq : t.order ctx.regions line = .ok order

namespace Pending

variable {t : Tariff}

def factors (q : t.Pending) : Factors := q.order.factors t.options q.ctx

def reading (q : t.Pending) : Except Refusal Bet := t.readBet q.ctx q.line

/-- The amount of a line is that of the alias in it. -/
theorem exists_hit (q : t.Pending) :
    ∃ hit, t.index.find? q.line = some hit ∧ q.order.amountText = hit.amount := by
  have h := q.order_eq
  rw [Tariff.order] at h
  split at h
  · next hit hfound =>
    refine ⟨hit, hfound, ?_⟩
    simp only [orderHit, bind_eq_ok_iff, pure_eq_ok_iff] at h
    obtain ⟨b, -, numbers, -, amount, -, tickets, -, ho⟩ := h
    rw [← ho]
  · cases h

theorem reading_eq (q : t.Pending) : q.reading = q.order.settle t.options q.ctx := by
  rw [reading, readBet_eq_bind, q.order_eq]
  rfl

theorem exists_reading {q : t.Pending} {price : Price} (h : q.factors.price? = some price) :
    ∃ bet, q.reading = .ok bet ∧ bet.price = price := by
  have hbet := (q.order.bet?_eq_some_iff t.options q.ctx _).mpr ⟨price, h, rfl⟩
  exact ⟨_, by rw [q.reading_eq, Order.settle, hbet, Option.elim_some], rfl⟩

theorem reading_of_price?_eq_none {q : t.Pending} (h : q.factors.price? = none) :
    q.reading = .error q.order.refusal := by
  have hbet : q.order.bet? t.options q.ctx = none := Option.map_eq_none_iff.mpr h
  rw [q.reading_eq, Order.settle, hbet, Option.elim_none]

theorem price?_of_reading {q : t.Pending} {bet : Bet} (h : q.reading = .ok bet) :
    q.factors.price? = some bet.price := by
  cases hp : q.factors.price? with
  | none =>
    rw [reading_of_price?_eq_none hp] at h
    cases h
  | some price =>
    obtain ⟨bet', hbet', rfl⟩ := exists_reading hp
    rw [h, Except.ok.injEq] at hbet'
    rw [hbet']

/-- A product that is too large is refused with the amount as it was entered. -/
theorem exists_refusal_of_multiplies {q : t.Pending} {x y : ℚ} (hxy : q.factors.Multiplies x y)
    (hlarge : 2 ^ 96 ≤ |x * y|) : ∃ hit, t.index.find? q.line = some hit ∧
      q.reading = .error ↑(LineError.invalidStakeAmount (String.ofList hit.amount)) := by
  have hnone : q.factors.price? = none := by
    rw [Option.eq_none_iff_forall_ne_some]
    intro price hprice
    have hbound : overflowBound < 2 ^ 96 := by norm_num [overflowBound]
    exact absurd ((hxy.abs_lt hprice).trans hbound) hlarge.not_gt
  obtain ⟨hit, hfound, htext⟩ := q.exists_hit
  exact ⟨hit, hfound, by rw [reading_of_price?_eq_none hnone, Order.refusal, htext]⟩

theorem exists_reading_iff {q : t.Pending} (ht : q.factors.tickets < mantissaLimit)
    (hs : q.factors.stations < mantissaLimit) : (∃ bet, q.reading = .ok bet) ↔
      ∀ x y, q.factors.Multiplies x y → |x * y| < overflowBound := by
  constructor
  · rintro ⟨bet, hbet⟩ x y hxy
    exact hxy.abs_lt (price?_of_reading hbet)
  · intro h
    obtain ⟨price, hprice⟩ := Factors.exists_price?_of_forall_lt ht hs h
    obtain ⟨bet, hbet, -⟩ := exists_reading hprice
    exact ⟨bet, hbet⟩

/-- Lines with one text and one pricing region have one prize, at whatever stations and price rate. -/
theorem prize_eq {q r : t.Pending} (hline : r.line = q.line) (hregions : r.ctx.regions = q.ctx.regions)
    (hregion : r.ctx.pricingRegion = q.ctx.pricingRegion) {bet bet' : Bet}
    (hbet : q.reading = .ok bet) (hbet' : r.reading = .ok bet') :
    bet'.price.prize = bet.price.prize := by
  have horder : r.order = q.order := by
    have h := r.order_eq
    rw [hline, hregions, q.order_eq, Except.ok.injEq] at h
    exact h.symm
  have hrate : q.order.payoutRate t.options r.ctx = q.order.payoutRate t.options q.ctx := by
    rw [Order.payoutRate, Order.payoutRate, hregion]
  have hprice' := price?_of_reading hbet'
  simp only [factors, Order.factors, Factors.price?, horder] at hprice'
  exact (Price.eq_of_compute? (price?_of_reading hbet) hprice').2.2 hrate

/-- The money of the parts of a bet is in proportion to their counts. -/
theorem exists_bets_of_shares {q : t.Pending} (hq : q.factors.Fits) (parts : List t.Pending)
    (hparts : ∀ r ∈ parts, r.factors.IsShare q.factors) :
    ∃ bets : List Bet, parts.map reading = bets.map Except.ok ∧
      (bets.map fun b => b.price.stake.value).sum =
        q.factors.amount.value * q.factors.multiplier.value *
          ((parts.map fun r => r.factors.tickets * r.factors.stations).sum : ℕ) *
          q.factors.priceRate.value ∧
      (bets.map fun b => b.price.prize.value).sum =
        q.factors.amount.value * q.factors.multiplier.value *
          ((parts.map fun r => r.factors.tickets).sum : ℕ) * q.factors.payoutRate.value := by
  induction parts with
  | nil => exact ⟨[], rfl, by simp, by simp⟩
  | cons r parts ih =>
    rw [List.forall_mem_cons] at hparts
    obtain ⟨hr, hrest⟩ := hparts
    obtain ⟨bets, hbets, hstakes, hprizes⟩ := ih hrest
    obtain ⟨price, hprice, hexact⟩ := Factors.exists_price?_of_fits (hq.of_isShare hr)
    obtain ⟨bet, hbet, rfl⟩ := exists_reading hprice
    refine ⟨bet :: bets, by rw [List.map_cons, List.map_cons, hbet, hbets], ?_, ?_⟩
    · rw [List.map_cons, List.sum_cons, List.map_cons, List.sum_cons, hstakes, hexact.stake,
        hr.amount, hr.multiplier, hr.priceRate]
      push_cast
      ring
    · rw [List.map_cons, List.sum_cons, List.map_cons, List.sum_cons, hprizes, hexact.prize,
        hr.amount, hr.multiplier, hr.payoutRate]
      push_cast
      ring

/-- A line that asks for something is priced exactly within the limits of decimals, and refused with
its amount where a product is too large. -/
theorem exact_or_refused (q : t.Pending) :
    (q.factors.Fits → ∃ bet, q.reading = .ok bet ∧ q.factors.IsExact bet.price) ∧
    (∀ x y, q.factors.Multiplies x y → 2 ^ 96 ≤ |x * y| →
      ∃ hit, t.index.find? q.line = some hit ∧
        q.reading = .error ↑(LineError.invalidStakeAmount (String.ofList hit.amount))) ∧
    (q.factors.tickets < mantissaLimit → q.factors.stations < mantissaLimit →
      ((∃ bet, q.reading = .ok bet) ↔
        ∀ x y, q.factors.Multiplies x y → |x * y| < overflowBound)) ∧
    (∀ bet, q.reading = .ok bet → ∃ each all, q.factors.Rounds bet.price each all) ∧
    (∀ r : t.Pending, r.line = q.line → r.ctx.regions = q.ctx.regions →
      r.ctx.pricingRegion = q.ctx.pricingRegion → ∀ bet bet', q.reading = .ok bet →
        r.reading = .ok bet' → bet'.price.prize = bet.price.prize) ∧
    (q.factors.Fits → ∀ parts : List t.Pending, (∀ r ∈ parts, r.factors.IsShare q.factors) →
      ∃ (bet : Bet) (bets : List Bet), q.reading = .ok bet ∧ parts.map reading = bets.map Except.ok ∧
        ((parts.map fun r => r.factors.tickets * r.factors.stations).sum =
            q.factors.tickets * q.factors.stations →
          (bets.map fun b => b.price.stake.value).sum = bet.price.stake.value) ∧
        ((parts.map fun r => r.factors.tickets).sum = q.factors.tickets →
          (bets.map fun b => b.price.prize.value).sum = bet.price.prize.value)) := by
  have hexact (hq : q.factors.Fits) :
      ∃ bet, q.reading = .ok bet ∧ q.factors.IsExact bet.price := by
    obtain ⟨price, hprice, h⟩ := Factors.exists_price?_of_fits hq
    obtain ⟨bet, hbet, rfl⟩ := exists_reading hprice
    exact ⟨bet, hbet, h⟩
  refine ⟨hexact, fun x y => exists_refusal_of_multiplies, exists_reading_iff, ?_, ?_, ?_⟩
  · intro bet hbet
    obtain ⟨each, all, hc⟩ := (q.factors.price?_eq_some_iff bet.price).mp (price?_of_reading hbet)
    exact ⟨each, all, hc.rounds⟩
  · exact fun r hline hregions hregion bet bet' => prize_eq hline hregions hregion
  · intro hq parts hparts
    obtain ⟨bet, hbet, h⟩ := hexact hq
    obtain ⟨bets, hbets, hstakes, hprizes⟩ := exists_bets_of_shares hq parts hparts
    refine ⟨bet, bets, hbet, hbets, fun hcount => ?_, fun hcount => ?_⟩
    · rw [hstakes, hcount, h.stake]
      push_cast
      ring
    · rw [hprizes, hcount, h.prize]

def plainFactors? (t : Tariff) (line : List Char) : Option Factors :=
  (t.order [] line).toOption.map (Order.factors t.options (.plain 1 .one))

theorem exists_of_plainFactors? {line : List Char} {f : Factors}
    (h : plainFactors? t line = some f) : ∃ q : t.Pending, q.line = line ∧ q.factors = f := by
  obtain ⟨o, ho, rfl⟩ := Option.map_eq_some_iff.mp h
  have horder : t.order [] line = .ok o := by
    cases hr : t.order [] line with
    | error r => simp [hr, Except.toOption] at ho
    | ok o' => simpa [hr, Except.toOption] using ho
  exact ⟨⟨.plain 1 .one, line, o, horder⟩, rfl, rfl⟩

/-- Two tickets on one line cost what they cost on a line each, and an amount that is too large in
thousands is refused as it was entered. -/
theorem exact_or_refused_plain :
    (∃ (q q' : (Sample.plain.tariff .standard).Pending) (bet : Bet) (bets : List Bet),
      q.line = "12.34dd5".toList ∧ q'.line = "12dd5".toList ∧ q.reading = .ok bet ∧
        [q'.reading, q'.reading] = bets.map Except.ok ∧ bet.price.prize.value = 700000 ∧
        (bets.map fun b => b.price.stake.value).sum = bet.price.stake.value) ∧
    ∃ q : (Sample.plain.tariff .standard).Pending,
      q.line = "12dd79228162514264337593543951".toList ∧
        q.reading = .error ⟨.invalidStakeAmount "79228162514264337593543951", none⟩ := by
  have hthousand : (ofNat 1000 (by decide)).value = 1000 := by norm_num [value, signed, ofNat]
  constructor
  · have htwo : plainFactors? (Sample.plain.tariff .standard) "12.34dd5".toList =
        some ⟨.ofNat 5 (by decide), .ofNat 1000 (by decide), 2, 1, .one, .ofNat 70 (by decide)⟩ := by
      decide +kernel
    have hone : plainFactors? (Sample.plain.tariff .standard) "12dd5".toList =
        some ⟨.ofNat 5 (by decide), .ofNat 1000 (by decide), 1, 1, .one, .ofNat 70 (by decide)⟩ := by
      decide +kernel
    obtain ⟨q, hline, hq⟩ := exists_of_plainFactors? htwo
    obtain ⟨q', hline', hq'⟩ := exists_of_plainFactors? hone
    have hfits : q.factors.Fits := by
      rw [hq]
      constructor <;> decide
    have hshare : q'.factors.IsShare q.factors := by
      rw [hq, hq']
      exact ⟨rfl, rfl, by decide, le_refl 1, rfl, rfl⟩
    obtain ⟨hexact, -, -, -, -, hsplit⟩ := exact_or_refused q
    obtain ⟨bet, bets, hbet, hbets, hstakes, -⟩ := hsplit hfits [q', q'] (by simp [hshare])
    obtain ⟨b, hb, hprice⟩ := hexact hfits
    rw [hbet, Except.ok.injEq] at hb
    refine ⟨q, q', bet, bets, hline, hline', hbet, hbets, ?_, hstakes (by simp [hq, hq'])⟩
    rw [hb, hprice.prize, hq, hthousand]
    norm_num [value, signed, ofNat]
  · have hlarge : plainFactors? (Sample.plain.tariff .standard)
        "12dd79228162514264337593543951".toList = some ⟨.ofNat 79228162514264337593543951 (by decide),
          .ofNat 1000 (by decide), 1, 1, .one, .ofNat 70 (by decide)⟩ := by decide +kernel
    have hamount : ((Sample.plain.tariff .standard).index.find?
        "12dd79228162514264337593543951".toList).map (fun hit => String.ofList hit.amount) =
          some "79228162514264337593543951" := by decide +kernel
    obtain ⟨q, hline, hq⟩ := exists_of_plainFactors? hlarge
    have hproduct : 2 ^ 96 ≤ |q.factors.amount.value * q.factors.multiplier.value| := by
      rw [hq, hthousand]
      norm_num [value, signed, ofNat]
    obtain ⟨-, hrefused, -⟩ := exact_or_refused q
    obtain ⟨hit, hfound, h⟩ := hrefused _ _ .unit hproduct
    rw [hline] at hfound
    rw [hfound, Option.map_some, Option.some.injEq] at hamount
    exact ⟨q, hline, hamount ▸ h⟩

end Pending
end Tariff
end LotterySlip
