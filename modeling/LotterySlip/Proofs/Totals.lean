import LotterySlip.Proofs.Decimal.Value
import LotterySlip.Sample
import LotterySlip.Submission

/-! The sums over the bets of a slip. Lines are priced one by one, each within the range of decimals,
but nothing guards their sums: a slip is answered exactly if no sum leaves the range on the way. -/
namespace LotterySlip
open Decimal

theorem sumFrom?_append (start : Decimal) (ds es : List Decimal) :
    sumFrom? start (ds ++ es) = (sumFrom? start ds).bind fun s => sumFrom? s es := by
  induction ds generalizing start with
  | nil => rfl
  | cons d ds ih =>
    simp only [List.cons_append, sumFrom?, Option.bind_assoc]
    exact Option.bind_congr fun s _ => ih s

def Overflows (start : Decimal) (ds : List Decimal) : Prop :=
  ∃ front d back sum, ds = front ++ d :: back ∧ sumFrom? start front = some sum ∧
    overflowBound ≤ |sum.value + d.value|

theorem sumFrom?_eq_none_iff (start : Decimal) (ds : List Decimal) :
    sumFrom? start ds = none ↔ Overflows start ds := by
  constructor
  · -- The sum so far is carried along until the number at which it leaves the range.
    intro h
    induction ds generalizing start with
    | nil => simp [sumFrom?] at h
    | cons d ds ih =>
      rw [sumFrom?] at h
      cases hd : start.add? d with
      | none => exact ⟨[], d, ds, start, rfl, rfl, (add?_eq_none_iff start d).mp hd⟩
      | some s =>
        rw [hd, Option.bind_some] at h
        obtain ⟨front, e, back, sum, rfl, hs, ho⟩ := ih s h
        refine ⟨d :: front, e, back, sum, rfl, ?_, ho⟩
        rw [sumFrom?, hd, Option.bind_some, hs]
  · rintro ⟨front, d, back, sum, rfl, hs, ho⟩
    rw [sumFrom?_append, hs, Option.bind_some, sumFrom?, (add?_eq_none_iff sum d).mpr ho,
      Option.bind_none]

theorem totals?_eq_none_iff (lines : List BetLine) :
    totals? lines = none ↔ Overflows .zero ((betsOf lines).map fun b => b.price.stake) ∨
      Overflows .zero ((betsOf lines).map fun b => b.price.prize) := by
  rw [← sumFrom?_eq_none_iff, ← sumFrom?_eq_none_iff, totals?]
  cases sumFrom? .zero ((betsOf lines).map fun b => b.price.stake) <;>
    cases sumFrom? .zero ((betsOf lines).map fun b => b.price.prize) <;>
    simp [bind, Option.bind]

namespace House

def bets (h : House) (priceRate : Decimal) (l : Layout) : List Bet :=
  betsOf ((h.readBody (.ofSelection l.selection priceRate) l.body).map fun r => r.1)

theorem complete_eq_totalOverflow_iff (h : House) (priceRate : Decimal) (text : String)
    (l : Layout) : h.complete priceRate text l = .totalOverflow ↔
      Overflows .zero ((h.bets priceRate l).map fun b => b.price.stake) ∨
        Overflows .zero ((h.bets priceRate l).map fun b => b.price.prize) := by
  rw [bets, ← totals?_eq_none_iff, complete]
  cases totals? ((h.readBody (.ofSelection l.selection priceRate) l.body).map fun r => r.1) <;> simp

end House

def SubmissionResult.isAnswer : SubmissionResult → Bool
  | .totalOverflow => false
  | _ => true

theorem SubmissionResult.isAnswer_eq_false_iff (r : SubmissionResult) :
    r.isAnswer = false ↔ r = .totalOverflow := by
  cases r <;> simp [isAnswer]

/-- A slip is answered exactly if no sum of the stakes or of the prizes of its bets leaves the range
of decimals on the way. -/
theorem submit_isAnswer_iff (h : House) (accessible : List Station) (priceRate : Decimal)
    (text : String) : (h.submit accessible priceRate text).isAnswer = true ↔
      ∀ l, h.layOut accessible (numberedLines text.toList) = .ok l →
        ¬ Overflows .zero ((h.bets priceRate l).map fun b => b.price.stake) ∧
          ¬ Overflows .zero ((h.bets priceRate l).map fun b => b.price.prize) := by
  rw [House.submit]
  cases hl : h.layOut accessible (numberedLines text.toList) with
  | error e => simp [SubmissionResult.isAnswer]
  | ok l =>
    simp only [Except.ok.injEq, forall_eq']
    rw [← Bool.not_eq_false, SubmissionResult.isAnswer_eq_false_iff,
      House.complete_eq_totalOverflow_iff, not_or]

/-- Two lines that are bets by themselves, and whose prizes together are too large. -/
theorem submit_two_large_prizes :
    (((Sample.plain.house .standard).submit Sample.plain.stations .one
      "tp\n12dd600000000000000000000000\n34dd600000000000000000000000").isAnswer) = false := by
  decide +kernel

end LotterySlip
