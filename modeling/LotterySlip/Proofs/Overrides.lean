import LotterySlip.Proofs.Order
import LotterySlip.Proofs.Table
import LotterySlip.Submission

/-! Catalogs with overridden payout rates. Nothing but the rates is overridden, so that every line asks
for the same. -/
namespace LotterySlip

namespace Catalogs

theorem overrideRate_eq (o : PayoutOverrides) (b : BetType) :
    overrideRate o b = { b with customPayoutRate := (o.get? b.id).or b.customPayoutRate } := by
  rw [overrideRate]
  cases o.get? b.id <;> rfl

theorem overrideRate_of_get?_eq_none {o : PayoutOverrides} {b : BetType} (h : o.get? b.id = none) :
    overrideRate o b = b := by
  rw [overrideRate, h]

/-- Of two overrides for a bet type the later counts. -/
theorem applyOverrides_applyOverrides (c : Catalogs) {o₁ o₂ o : PayoutOverrides}
    (h : ∀ id, o.get? id = (o₂.get? id).or (o₁.get? id)) :
    (c.applyOverrides o₁).applyOverrides o₂ = c.applyOverrides o := by
  simp only [applyOverrides, List.map_map]
  congr 1
  refine List.map_congr_left fun b _ => ?_
  simp only [Function.comp_apply, overrideRate_eq, h, Option.or_assoc]

end Catalogs

/-- The index takes nothing but the aliases from the bet types. -/
theorem AliasIndex.ofBetTypes_map {f : BetType → BetType} (hf : ∀ b, (f b).aliases = b.aliases)
    (betTypes : List BetType) : ofBetTypes (betTypes.map f) = ofBetTypes betTypes := by
  have hdeclared : declared (betTypes.map f) = declared betTypes := by
    simp only [declared, List.zipIdx_map, List.foldl_map, Prod.map_fst, Prod.map_snd, hf, id]
  rw [ofBetTypes, hdeclared, ← ofBetTypes]

def Order.override (o : PayoutOverrides) (order : Order) : Order :=
  { order with betType := Catalogs.overrideRate o order.betType }

theorem Tariff.chooseBetType_map {f : BetType → BetType} (hname : ∀ b, (f b).name = b.name)
    (hregions : ∀ b, (f b).applicableRegions = b.applicableRegions) (candidates : List BetType)
    (regions : List Region) :
    chooseBetType (candidates.map f) regions = (chooseBetType candidates regions).map f := by
  have happlies (b : BetType) : (f b).appliesTo = b.appliesTo := by
    funext r
    rw [BetType.appliesTo, hregions, ← BetType.appliesTo]
  have hcovers : (fun b => (f b).covers regions) = fun b => b.covers regions := by
    funext b
    rw [BetType.covers, happlies, ← BetType.covers]
  unfold chooseBetType
  rw [List.find?_map, Function.comp_def, hcovers]
  cases candidates.find? fun b => b.covers regions with
  | some b => rfl
  | none =>
    cases candidates with
    | nil => rfl
    | cons b bs =>
      simp only [List.map_cons, Option.map_none, hname, missingRegion, happlies]
      rfl

/-- What a line asks for is the same at every stage, the bet type apart, which has another rate. -/
theorem Tariff.orderHit_applyOverrides (c : Catalogs) (o : PayoutOverrides) (options : Options)
    (regions : List Region) (hit : AliasHit) :
    ((c.applyOverrides o).tariff options).orderHit regions hit =
      ((c.tariff options).orderHit regions hit).map (Order.override o) := by
  have hcandidates : (hit.group.betTypes.filterMap fun i =>
      ((c.applyOverrides o).tariff options).betTypes[i]?) =
        (hit.group.betTypes.filterMap fun i => (c.tariff options).betTypes[i]?).map
          (Catalogs.overrideRate o) := by
    rw [List.map_filterMap]
    exact List.filterMap_congr fun i _ => List.getElem?_map
  have hchoice := chooseBetType_map (f := Catalogs.overrideRate o)
    (fun b => by rw [Catalogs.overrideRate_eq]) (fun b => by rw [Catalogs.overrideRate_eq])
    (hit.group.betTypes.filterMap fun i => (c.tariff options).betTypes[i]?) regions
  have hnumbers : ((c.applyOverrides o).tariff options).readNumbers hit.numbersText =
      (c.tariff options).readNumbers hit.numbersText := rfl
  have htickets (b : BetType) (numbers : List String) :
      ((c.applyOverrides o).tariff options).readTickets (Catalogs.overrideRate o b) numbers =
        (c.tariff options).readTickets b numbers := by
    rw [Catalogs.overrideRate_eq]
    rfl
  simp only [orderHit, hcandidates, hchoice, hnumbers]
  cases chooseBetType (hit.group.betTypes.filterMap fun i => (c.tariff options).betTypes[i]?)
    regions with
  | error e => rfl
  | ok b =>
    cases (c.tariff options).readNumbers hit.numbersText with
    | error r => rfl
    | ok numbers =>
      cases readAmount? hit.amount with
      | none => rfl
      | some amount =>
        simp only [Except.map, Except.mapError, bind, Except.bind, Option.elim, htickets]
        cases (c.tariff options).readTickets b numbers <;> rfl

theorem Tariff.order_applyOverrides (c : Catalogs) (o : PayoutOverrides) (options : Options)
    (regions : List Region) (line : List Char) :
    ((c.applyOverrides o).tariff options).order regions line =
      ((c.tariff options).order regions line).map (Order.override o) := by
  have hindex : ((c.applyOverrides o).tariff options).index = (c.tariff options).index :=
    AliasIndex.ofBetTypes_map (fun b => by rw [Catalogs.overrideRate_eq]) c.betTypes
  rw [order, order, hindex]
  cases (c.tariff options).index.find? line with
  | none => rfl
  | some hit => exact orderHit_applyOverrides c o options regions hit

end LotterySlip
