import Mathlib.Algebra.BigOperators.Group.List.Basic
import Mathlib.Algebra.Order.BigOperators.Group.List
import LotterySlip.Proofs.Decimal.Exact
import LotterySlip.Proofs.Decimal.Sign
import LotterySlip.Proofs.Isolation

/-! Sums of decimals from the left. They are rounded at every step. Where no number is negative, and the
exact sum can be written with the decimal places that occur, no sum on the way is rounded. -/
namespace LotterySlip
open Decimal

theorem sumFrom?_nonneg {start sum : Decimal} {ds : List Decimal} (hs : 0 ≤ start.value)
    (hd : ∀ d ∈ ds, 0 ≤ d.value) (h : sumFrom? start ds = some sum) : 0 ≤ sum.value := by
  induction ds generalizing start with
  | nil =>
    cases h
    exact hs
  | cons d ds ih =>
    obtain ⟨s, hadd, hrest⟩ := Option.bind_eq_some_iff.mp h
    exact ih (value_nonneg_of_add? hadd hs (hd d List.mem_cons_self))
      (fun e he => hd e (List.mem_cons_of_mem d he)) hrest

def exactSum (ds : List Decimal) : ℚ := (ds.map value).sum

def mostPlaces (ds : List Decimal) : Nat := (ds.map scale).foldr max 0

/-- Whether the exact sum has a mantissa of 96 bits with the decimal places that occur. -/
def SumFits (ds : List Decimal) : Prop := exactSum ds * 10 ^ mostPlaces ds < 2 ^ 96

theorem scale_le_mostPlaces {d : Decimal} {ds : List Decimal} (h : d ∈ ds) :
    d.scale ≤ mostPlaces ds := by
  induction h with
  | head => exact Nat.le_max_left _ _
  | tail e _ ih => exact ih.trans (Nat.le_max_right _ _)

theorem exactSum_nonneg {ds : List Decimal} (h : ∀ d ∈ ds, 0 ≤ d.value) : 0 ≤ exactSum ds := by
  apply List.sum_nonneg
  intro x hx
  obtain ⟨d, hd, rfl⟩ := List.mem_map.mp hx
  exact h d hd

theorem exactSum_perm {ds es : List Decimal} (h : es.Perm ds) : exactSum es = exactSum ds :=
  (h.map value).sum_eq

theorem mostPlaces_perm {ds es : List Decimal} (h : es.Perm ds) : mostPlaces es = mostPlaces ds :=
  (h.map scale).foldr_eq 0

theorem SumFits.perm {ds es : List Decimal} (h : es.Perm ds) (hf : SumFits ds) : SumFits es := by
  rwa [SumFits, exactSum_perm h, mostPlaces_perm h]

/-- The step is `exists_add?_eq`; what carries it along is that the sum so far, together with all that
is still to come, has a mantissa within the limits. -/
theorem exists_sumFrom?_eq (start : Decimal) {ds : List Decimal} {k : Nat}
    (hs : 0 ≤ start.value) (hd : ∀ d ∈ ds, 0 ≤ d.value) (hk : start.scale ≤ k)
    (hdk : ∀ d ∈ ds, d.scale ≤ k) (h : (start.value + exactSum ds) * 10 ^ k < mantissaLimit) :
    ∃ sum, sumFrom? start ds = some sum ∧ sum.value = start.value + exactSum ds := by
  induction ds generalizing start with
  | nil => exact ⟨start, rfl, by simp [exactSum]⟩
  | cons d ds ih =>
    have hnext : start.value + exactSum (d :: ds) = start.value + d.value + exactSum ds := by
      rw [exactSum, List.map_cons, List.sum_cons, ← add_assoc, exactSum]
    have hrest : 0 ≤ exactSum ds := exactSum_nonneg fun e he => hd e (List.mem_cons_of_mem d he)
    have hsum : 0 ≤ start.value + d.value := add_nonneg hs (hd d List.mem_cons_self)
    rw [hnext] at h ⊢
    have hstep : |start.value + d.value| * 10 ^ k < mantissaLimit := by
      rw [abs_of_nonneg hsum]
      exact lt_of_le_of_lt
        (mul_le_mul_of_nonneg_right (le_add_of_nonneg_right hrest) (by positivity)) h
    obtain ⟨s, hadd, hv, hscale⟩ := exists_add?_eq hk (hdk d List.mem_cons_self) hstep
    rw [← hv] at hsum h ⊢
    obtain ⟨sum, hfrom, hsumv⟩ := ih s hsum (fun e he => hd e (List.mem_cons_of_mem d he)) hscale
      (fun e he => hdk e (List.mem_cons_of_mem d he)) h
    exact ⟨sum, by rw [sumFrom?, hadd, Option.bind_some, hfrom], hsumv⟩

/-- A sum that fits is exact. -/
theorem SumFits.exists_sumFrom?_eq {ds : List Decimal} (h : SumFits ds)
    (hd : ∀ d ∈ ds, 0 ≤ d.value) :
    ∃ sum, sumFrom? .zero ds = some sum ∧ sum.value = exactSum ds := by
  have hlimit : ((mantissaLimit : ℕ) : ℚ) = 2 ^ 96 := by norm_num
  obtain ⟨sum, hsum, hv⟩ := LotterySlip.exists_sumFrom?_eq .zero value_zero.ge hd
    (Nat.zero_le (mostPlaces ds)) (fun d => scale_le_mostPlaces)
    (by rw [value_zero, zero_add, hlimit]; exact h)
  exact ⟨sum, hsum, by rw [hv, value_zero, zero_add]⟩

/-- In whatever order the numbers stand, a sum that fits is there and is the exact one. -/
theorem SumFits.sumFrom?_perm {ds es : List Decimal} (h : SumFits ds) (hd : ∀ d ∈ ds, 0 ≤ d.value)
    (hp : es.Perm ds) :
    (∃ sum, sumFrom? .zero es = some sum) ∧
      ∀ sum, sumFrom? .zero es = some sum → sum.value = exactSum ds := by
  obtain ⟨sum, hsum, hv⟩ := (h.perm hp).exists_sumFrom?_eq fun d hm => hd d (hp.subset hm)
  refine ⟨⟨sum, hsum⟩, fun sum' hsum' => ?_⟩
  obtain rfl := Option.some.inj (hsum.symm.trans hsum')
  rw [hv, exactSum_perm hp]

namespace Submission

def stakes (s : Submission) : List Decimal := (s.lines.filter BetLine.isValid).map BetLine.stake

def prizes (s : Submission) : List Decimal := (s.lines.filter BetLine.isValid).map BetLine.prize

theorem stakes_eq (s : Submission) : s.stakes = (betsOf s.lines).map fun b => b.price.stake :=
  (map_betsOf _ _).symm

theorem prizes_eq (s : Submission) : s.prizes = (betsOf s.lines).map fun b => b.price.prize :=
  (map_betsOf _ _).symm

/-- The sums of an accepted slip are those of its stakes and of its prizes. -/
theorem sumFrom?_of_submit {h : House} {accessible : List Station} {priceRate : Decimal}
    {text : String} {s : Submission} (hs : h.submit accessible priceRate text = .accepted s) :
    sumFrom? .zero s.stakes = some s.totalStake ∧ sumFrom? .zero s.prizes = some s.totalPrize := by
  obtain ⟨l, -, hc⟩ := (h.submit_eq_accepted_iff accessible priceRate text s).mp hs
  obtain ⟨htotals, -⟩ := (h.complete_eq_accepted_iff priceRate text l s).mp hc
  simp only [totals?, Option.bind_eq_bind, Option.bind_eq_some_iff, Option.some.injEq,
    Prod.mk.injEq] at htotals
  obtain ⟨stake, hstake, prize, hprize, rfl, rfl⟩ := htotals
  exact ⟨by rw [s.stakes_eq, hstake], by rw [s.prizes_eq, hprize]⟩

end Submission
end LotterySlip
