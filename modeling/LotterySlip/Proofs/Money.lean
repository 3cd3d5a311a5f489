import LotterySlip.Proofs.Config
import LotterySlip.Proofs.Sums
import LotterySlip.Proofs.Table

/-! The signs of the money on a slip. Amounts are positive, and so every sum of money has the sign of
the rates that it was multiplied with. Of these only the price rate of the settings is checked. -/
namespace LotterySlip
open Decimal

def PayoutRate.rates : PayoutRate → List Decimal
  | .flat rate => [rate]
  | .table rates => rates.entries.map fun e => e.2

def BetType.rates (b : BetType) : List Decimal :=
  b.customPayoutRate.toList ++ b.payoutRate.toList.flatMap PayoutRate.rates

def payoutRates (betTypes : List BetType) (options : Options) : List Decimal :=
  options.defaultPayoutRate :: betTypes.flatMap BetType.rates

theorem Table.mem_of_rateFor? {t : Table String Decimal} {region : Option Region} {digits : Nat}
    {rate : Decimal} (h : t.rateFor? region digits = some rate) :
    rate ∈ t.entries.map fun e => e.2 := by
  have hmem {k : String} (hk : t.get? k = some rate) : rate ∈ t.entries.map fun e => e.2 :=
    List.mem_map.mpr ⟨_, mem_of_get? hk, rfl⟩
  rw [rateFor?, Option.or_eq_some_iff, Option.or_eq_some_iff] at h
  rcases h with h | ⟨-, h | ⟨-, h⟩⟩
  · obtain ⟨r, -, hr⟩ := Option.bind_eq_some_iff.mp h
    exact hmem hr
  · exact hmem h
  · obtain ⟨r, -, hr⟩ := List.exists_of_findSome?_eq_some h
    exact hmem hr

theorem BetType.rateFor_mem (b : BetType) (region : Option Region) (digits : Nat)
    (fallback : Decimal) : b.rateFor region digits fallback ∈ fallback :: b.rates := by
  rw [rateFor, rates]
  cases hc : b.customPayoutRate with
  | some rate => simp
  | none =>
    cases hp : b.payoutRate with
    | none => simp
    | some payout =>
      cases payout with
      | flat rate => simp [PayoutRate.rates]
      | table entries =>
        simp only [Option.toList_none, List.nil_append, Option.toList_some, List.flatMap_singleton,
          PayoutRate.rates]
        cases hr : entries.rateFor? region digits with
        | none => exact List.mem_cons_self
        | some rate => exact List.mem_cons_of_mem _ (Table.mem_of_rateFor? hr)

theorem Decimal.value_nonneg_of_ofNat? {n : Nat} {d : Decimal} (h : ofNat? n = some d) :
    0 ≤ d.value :=
  value_nonneg ((ofParts?_eq_some_iff _ _ _ _).mp h).1

/-- The sums of money of a bet have the signs of the rates. -/
theorem Price.signedLike_of_compute? {amount multiplier priceRate payoutRate : Decimal}
    {tickets stations : Nat} {p : Price} (ha : 0 < amount.value)
    (h : compute? amount multiplier tickets stations priceRate payoutRate = some p) :
    SignedLike p.unit.value multiplier.value ∧
      SignedLike p.stake.value (multiplier.value * priceRate.value) ∧
      SignedLike p.prize.value (multiplier.value * payoutRate.value) := by
  simp only [compute?, Option.bind_eq_bind, Option.bind_eq_some_iff, Option.some.injEq] at h
  obtain ⟨unit, hunit, count, hcount, each, heach, places, hplaces, all, hall, stake, hstake, prize,
    hprize, rfl⟩ := h
  have hu : SignedLike unit.value multiplier.value :=
    (signedLike_of_mul? hunit).trans (.mul_nonneg_left ha.le)
  have hcounted {x y n : Decimal} {k : Nat} (hxy : x.mul? n = some y) (hn : ofNat? k = some n)
      (hx : SignedLike x.value multiplier.value) : SignedLike y.value multiplier.value := by
    refine (signedLike_of_mul? hxy).trans ?_
    rw [mul_comm]
    exact (SignedLike.mul_nonneg_left (value_nonneg_of_ofNat? hn)).trans hx
  have he := hcounted heach hcount hu
  exact ⟨hu, (signedLike_of_mul? hstake).trans ((hcounted hall hplaces he).mul_right _),
    (signedLike_of_mul? hprize).trans (he.mul_right _)⟩

structure Bet.SignsOf (betTypes : List BetType) (options : Options) (priceRate : Decimal)
    (bet : Bet) : Prop where
  unit : SignedLike bet.price.unit.value options.stakeMultiplier.value
  stake : SignedLike bet.price.stake.value (options.stakeMultiplier.value * priceRate.value)
  prize : SignedLike bet.price.prize.value (options.stakeMultiplier.value * bet.payoutRate.value)
  payoutRate_mem : bet.payoutRate ∈ payoutRates betTypes options

theorem Tariff.signsOf_of_readBet {t : Tariff} {ctx : LineContext} {line : List Char} {bet : Bet}
    (h : t.readBet ctx line = .ok bet) : bet.SignsOf t.betTypes t.options ctx.priceRate := by
  obtain ⟨hit, -, hread⟩ := (t.readBet_eq_ok_iff ctx line bet).mp h
  obtain ⟨b, numbers, amount, tickets, price, hb, -, ha, -, hp, rfl⟩ :=
    (t.readHit_eq_ok_iff ctx hit bet).mp hread
  obtain ⟨hunit, hstake, hprize⟩ :=
    Price.signedLike_of_compute? ((readAmount?_eq_some_iff _ _).mp ha).2 hp
  refine ⟨hunit, hstake, hprize, ?_⟩
  obtain ⟨i, -, hbi⟩ := List.mem_filterMap.mp (chooseBetType_mem hb)
  rcases List.mem_cons.mp (b.rateFor_mem ctx.pricingRegion (digitCount numbers)
    t.options.defaultPayoutRate) with he | hm
  · rw [he]
    exact List.mem_cons_self
  · exact List.mem_cons_of_mem _ (List.mem_flatMap.mpr ⟨b, List.mem_of_getElem? hbi, hm⟩)

structure Submission.SignsOf (betTypes : List BetType) (options : Options) (priceRate : Decimal)
    (s : Submission) : Prop where
  bets : ∀ l ∈ s.lines, ∀ bet, l.outcome = .ok bet → bet.SignsOf betTypes options priceRate
  units_nonneg : 0 ≤ options.stakeMultiplier.value → ∀ l ∈ s.lines, 0 ≤ l.unit.value
  stakes_nonneg : 0 ≤ options.stakeMultiplier.value * priceRate.value →
    (∀ l ∈ s.lines, 0 ≤ l.stake.value) ∧ 0 ≤ s.totalStake.value
  prizes_nonneg :
    (∀ r ∈ payoutRates betTypes options, 0 ≤ options.stakeMultiplier.value * r.value) →
      (∀ l ∈ s.lines, 0 ≤ l.prize.value) ∧ 0 ≤ s.totalPrize.value

/-- A sum of a line is not negative if that of its bet is not. -/
theorem BetLine.sum_nonneg {l : BetLine} {f : Bet → Decimal}
    (h : ∀ bet, l.outcome = .ok bet → 0 ≤ (f bet).value) : 0 ≤ (l.sum f).value := by
  rw [sum, bet?]
  cases ho : l.outcome with
  | ok bet => exact h bet ho
  | error e => exact value_zero.ge

theorem House.signsOf_of_submit {h : House} {accessible : List Station} {priceRate : Decimal}
    {text : String} {s : Submission} (hs : h.submit accessible priceRate text = .accepted s) :
    s.SignsOf h.tariff.betTypes h.tariff.options priceRate := by
  obtain ⟨layout, -, hc⟩ := (h.submit_eq_accepted_iff accessible priceRate text s).mp hs
  obtain ⟨-, -, -, hlines, -⟩ := (h.complete_eq_accepted_iff priceRate text layout s).mp hc
  obtain ⟨hstake, hprize⟩ := Submission.sumFrom?_of_submit hs
  have hbets : ∀ l ∈ s.lines, ∀ bet, l.outcome = .ok bet →
      bet.SignsOf h.tariff.betTypes h.tariff.options priceRate := by
    intro l hl bet hbet
    rw [hlines] at hl
    obtain ⟨b, -, rfl⟩ := List.mem_map.mp hl
    exact Tariff.signsOf_of_readBet ((Tariff.outcome_readLine _ _ _ _).mp hbet)
  have htotal {f : BetLine → Decimal} {total : Decimal} (hf : ∀ l ∈ s.lines, 0 ≤ (f l).value)
      (ht : sumFrom? .zero ((s.lines.filter BetLine.isValid).map f) = some total) :
      0 ≤ total.value := by
    refine sumFrom?_nonneg value_zero.ge (fun d hd => ?_) ht
    obtain ⟨l, hl, rfl⟩ := List.mem_map.mp hd
    exact hf l (List.mem_filter.mp hl).1
  refine ⟨hbets, fun hm l hl => ?_, fun hm => ?_, fun hm => ?_⟩
  · exact BetLine.sum_nonneg fun bet hbet => (hbets l hl bet hbet).unit.nonneg hm
  · have hlines : ∀ l ∈ s.lines, 0 ≤ l.stake.value := fun l hl =>
      BetLine.sum_nonneg fun bet hbet => (hbets l hl bet hbet).stake.nonneg hm
    exact ⟨hlines, htotal hlines hstake⟩
  · have hlines : ∀ l ∈ s.lines, 0 ≤ l.prize.value := fun l hl =>
      BetLine.sum_nonneg fun bet hbet =>
        (hbets l hl bet hbet).prize.nonneg (hm _ (hbets l hl bet hbet).payoutRate_mem)
    exact ⟨hlines, htotal hlines hprize⟩

open CommandLine

namespace Sample

def files (settings : String) : Files := fun path =>
  match path with
  | "c/stations.yaml" => .ok
    "stations:\n- id: 1\n  name: tp\n  region:\n    id: 3\n    name: nam\n    code: south\n"
  | "c/bet_types.yaml" => .ok "bet_types:\n- id: 1\n  name: dd\n  aliases: [dd]\n"
  | "c/settings.yaml" => .ok settings
  | _ => .error .missing

theorem house_files : (ConfigSource.directory "c").house (files "price_rate: 1") =
    .ok (plain, .standard) := by
  decide +kernel

end Sample

namespace CommandLine

/-- The price rate of the settings that a house has is not negative, as it is checked. The rate that is
given with a command is not, nor is any other; and where these are not negative, no money is. -/
theorem submitAt_signs (source : ConfigSource) (files : Files) (catalogs : Catalogs)
    (settings : Settings) (ids : List Int64) (priceRate : Option Decimal) (text : String)
    (s : Submission) (hload : source.house files = .ok (catalogs, settings))
    (hs : submitAt (catalogs, settings) ids priceRate text = .accepted s) :
    0 ≤ settings.priceRate.value ∧
      s.SignsOf catalogs.betTypes settings.options (priceRate.getD settings.priceRate) := by
  have hfault := settingsFault_of_house hload
  rw [Config.settingsFault_eq_none_iff] at hfault
  exact ⟨value_nonneg hfault.1, House.signsOf_of_submit hs⟩

/-- A slip of a house with files of its own, at a price rate of a half. -/
theorem submitAt_signs_half :
    let half : Decimal := ⟨false, 5, 1, by decide, by decide⟩
    ∃ settings s,
      (ConfigSource.directory "c").house (Sample.files "price_rate: 1") =
          .ok (Sample.plain, settings) ∧
        submitAt (Sample.plain, settings) [] (some half) "tp\n12dd1" = .accepted s ∧
        0 ≤ settings.priceRate.value ∧
        s.SignsOf Sample.plain.betTypes settings.options half := by
  intro half
  have hsome : (submitAt (Sample.plain, .standard) [] (some half) "tp\n12dd1").accepted?.isSome =
      true := by
    decide +kernel
  obtain ⟨s, hs⟩ := Option.isSome_iff_exists.mp hsome
  have h := (SubmissionResult.accepted?_eq_some_iff _ s).mp hs
  obtain ⟨hrate, hsigns⟩ := submitAt_signs _ _ _ _ _ _ _ _ Sample.house_files h
  exact ⟨_, s, Sample.house_files, h, hrate, hsigns⟩

/-- A price rate that is given with a command may be negative, and so may the multiplier in the
settings: either way there is a bet with a negative stake. -/
theorem exists_negative_stake :
    let minusOne : Decimal := ⟨true, 1, 0, by decide, by decide⟩
    let opposed := "price_rate: 1\noptions:\n  stake_multiplier: -1\n"
    Invocation.read? ["parse", "--config=c", "--price-rate=-1"] [] =
        some ⟨.pretty, some "c", .parse none [] (some minusOne)⟩ ∧
      (∃ house s, (ConfigSource.directory "c").house (Sample.files "price_rate: 1") = .ok house ∧
        submitAt house [] (some minusOne) "tp\n12dd1" = .accepted s ∧ s.totalStake.value < 0) ∧
      ∃ house s, (ConfigSource.directory "c").house (Sample.files opposed) = .ok house ∧
        submitAt house [] none "tp\n12dd1" = .accepted s ∧ s.totalStake.value < 0 := by
  intro minusOne opposed
  have hneg (result : SubmissionResult)
      (h : (result.accepted?.any fun s => s.totalStake.isNegative) = true) :
      ∃ s, result = .accepted s ∧ s.totalStake.value < 0 := by
    obtain ⟨s, hs, hn⟩ := (Option.any_eq_true _ _).mp h
    exact ⟨s, (SubmissionResult.accepted?_eq_some_iff _ s).mp hs, (value_neg_iff _).mpr hn⟩
  have hopposed : (ConfigSource.directory "c").house (Sample.files opposed) =
      .ok (Sample.plain, ⟨.one, { Options.standard with stakeMultiplier := minusOne }, .empty⟩) := by
    decide +kernel
  obtain ⟨s, hs, hv⟩ := hneg (submitAt (Sample.plain, .standard) [] (some minusOne) "tp\n12dd1")
    (by decide +kernel)
  obtain ⟨s', hs', hv'⟩ := hneg
    (submitAt (Sample.plain, ⟨.one, { Options.standard with stakeMultiplier := minusOne }, .empty⟩)
      [] none "tp\n12dd1") (by decide +kernel)
  exact ⟨by decide +kernel, ⟨_, s, Sample.house_files, hs, hv⟩, _, s', hopposed, hs', hv'⟩

end CommandLine
end LotterySlip
