import LotterySlip.Proofs.Line
import LotterySlip.Proofs.Totals

/-! Prices and sums depend on the numbers only, not on the scales in which they are written. -/
namespace LotterySlip
open Decimal

theorem exists_of_map_value_eq {a b : Option Decimal} {d : Decimal}
    (h : b.map value = a.map value) (ha : a = some d) : ∃ e, b = some e ∧ e.value = d.value := by
  rw [ha, Option.map_some] at h
  obtain ⟨e, he, hv⟩ := Option.map_eq_some_iff.mp h
  exact ⟨e, he, hv⟩

structure Price.Same (p q : Price) : Prop where
  unit : p.unit.value = q.unit.value
  stake : p.stake.value = q.stake.value
  prize : p.prize.value = q.prize.value

theorem Price.compute?_congr {amount amount' multiplier priceRate payoutRate : Decimal}
    {tickets stations : Nat} {p : Price} (ha : amount'.value = amount.value)
    (h : compute? amount multiplier tickets stations priceRate payoutRate = some p) :
    ∃ q, compute? amount' multiplier tickets stations priceRate payoutRate = some q ∧
      q.Same p := by
  simp only [compute?, Option.bind_eq_bind, Option.bind_eq_some_iff, Option.some.injEq] at h
  obtain ⟨unit, hu, count, hc, each, he, places, hp, all, hall, stake, hs, prize, hz, rfl⟩ := h
  obtain ⟨unit', hu', hvu⟩ := exists_of_map_value_eq (map_value_mul?_congr ha rfl) hu
  obtain ⟨each', he', hve⟩ := exists_of_map_value_eq (map_value_mul?_congr hvu rfl) he
  obtain ⟨all', hall', hva⟩ := exists_of_map_value_eq (map_value_mul?_congr hve rfl) hall
  obtain ⟨stake', hs', hvs⟩ := exists_of_map_value_eq (map_value_mul?_congr hva rfl) hs
  obtain ⟨prize', hz', hvz⟩ := exists_of_map_value_eq (map_value_mul?_congr hve rfl) hz
  refine ⟨⟨unit', stake', prize'⟩, ?_, hvu, hvs, hvz⟩
  simp [compute?, hu', hc, he', hp, hall', hs', hz']

theorem sumFrom?_congr {start start' sum : Decimal} {ds es : List Decimal}
    (hstart : start'.value = start.value)
    (h : List.Forall₂ (fun e d => e.value = d.value) es ds) (hs : sumFrom? start ds = some sum) :
    ∃ sum', sumFrom? start' es = some sum' ∧ sum'.value = sum.value := by
  induction h generalizing start start' with
  | nil =>
    cases hs
    exact ⟨start', rfl, hstart⟩
  | cons hd _ ih =>
    rw [sumFrom?] at hs
    obtain ⟨s, hs₁, hs₂⟩ := Option.bind_eq_some_iff.mp hs
    obtain ⟨s', hs₁', hv⟩ := exists_of_map_value_eq (map_value_add?_congr hstart hd) hs₁
    obtain ⟨sum', hsum, hvsum⟩ := ih hv hs₂
    exact ⟨sum', by rw [sumFrom?, hs₁', Option.bind_some, hsum], hvsum⟩

structure Bet.Same (a b : Bet) : Prop where
  numbers : a.numbers = b.numbers
  tickets : a.tickets = b.tickets
  betType : a.betType = b.betType
  payoutRate : a.payoutRate = b.payoutRate
  amount : a.amount.value = b.amount.value
  price : a.price.Same b.price

def BetLine.Same (l m : BetLine) : Prop :=
  ∃ a b, l.outcome = .ok a ∧ m.outcome = .ok b ∧ a.Same b

theorem forall₂_betsOf {ls ms : List BetLine} (h : List.Forall₂ BetLine.Same ls ms) :
    List.Forall₂ Bet.Same (betsOf ls) (betsOf ms) := by
  induction h with
  | nil => exact .nil
  | @cons l m ls ms hlm _ ih =>
    obtain ⟨a, b, ha, hb, hab⟩ := hlm
    have hl : l.bet? = some a := by rw [BetLine.bet?, ha]; rfl
    have hm : m.bet? = some b := by rw [BetLine.bet?, hb]; rfl
    simp only [betsOf] at ih ⊢
    rw [List.filterMap_cons_some hl, List.filterMap_cons_some hm]
    exact .cons hab ih

theorem forall₂_map_price {f : Price → Decimal} {as bs : List Bet}
    (hf : ∀ p q : Price, p.Same q → (f p).value = (f q).value) (h : List.Forall₂ Bet.Same as bs) :
    List.Forall₂ (fun e d => e.value = d.value) (as.map fun b => f b.price)
      (bs.map fun b => f b.price) := by
  rw [List.forall₂_map_left_iff, List.forall₂_map_right_iff]
  exact h.imp fun a b hab => hf _ _ hab.price

/-- The same bets have the same sums. -/
theorem totals?_congr {ls ms : List BetLine} {stake prize : Decimal}
    (h : List.Forall₂ BetLine.Same ls ms) (ht : totals? ms = some (stake, prize)) :
    ∃ stake' prize', totals? ls = some (stake', prize') ∧ stake'.value = stake.value ∧
      prize'.value = prize.value := by
  simp only [totals?, Option.bind_eq_bind, Option.bind_eq_some_iff, Option.some.injEq,
    Prod.mk.injEq] at ht
  obtain ⟨s, hs, z, hz, rfl, rfl⟩ := ht
  have hbets := forall₂_betsOf h
  obtain ⟨stake', hs', hvs⟩ := sumFrom?_congr rfl
    (forall₂_map_price (fun _ _ hp => hp.stake) hbets) hs
  obtain ⟨prize', hz', hvz⟩ := sumFrom?_congr rfl
    (forall₂_map_price (fun _ _ hp => hp.prize) hbets) hz
  exact ⟨stake', prize', by simp [totals?, hs', hz'], hvs, hvz⟩

end LotterySlip
