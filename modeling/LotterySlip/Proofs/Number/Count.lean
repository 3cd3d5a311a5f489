import Mathlib.Algebra.BigOperators.Ring.Finset
import Mathlib.Algebra.Order.BigOperators.Ring.Finset
import Mathlib.Data.Nat.Factorial.Basic
import LotterySlip.Proofs.Number.Walk

/-! How many rearrangements a number has: the factorial of its length divided by the factorials of the
multiplicities of its digits. -/
namespace LotterySlip.Number
open Text

def repetitions (s : Finset Char) (cs : List Char) : Nat := ∏ c ∈ s, (cs.count c).factorial

theorem repetitions_pos (s : Finset Char) (cs : List Char) : 0 < repetitions s cs :=
  Finset.prod_pos fun c _ => Nat.factorial_pos (cs.count c)

/-- One character fewer is one factor less. -/
theorem repetitions_eq_count_mul {s : Finset Char} {cs : List Char} {c : Char} (hs : c ∈ s)
    (hc : c ∈ cs) : repetitions s cs = cs.count c * repetitions s (cs.erase c) := by
  have hcount : (cs.count c).factorial = cs.count c * ((cs.erase c).count c).factorial := by
    rw [List.count_erase_self]
    exact (Nat.mul_factorial_pred (List.count_pos_iff.mpr hc).ne').symm
  have hothers : ∏ d ∈ s.erase c, (cs.count d).factorial =
      ∏ d ∈ s.erase c, ((cs.erase c).count d).factorial := by
    refine Finset.prod_congr rfl fun d hd => ?_
    rw [List.count_erase_of_ne (Finset.ne_of_mem_erase hd)]
  rw [repetitions, repetitions, ← Finset.mul_prod_erase s _ hs, hcount, hothers,
    ← Finset.mul_prod_erase s (fun d => ((cs.erase c).count d).factorial) hs, mul_assoc]

theorem toFinset_eraseDups (cs : List Char) : cs.eraseDups.toFinset = cs.toFinset := by
  ext c
  simp only [List.mem_toFinset, List.mem_eraseDups]

theorem length_arrangements_succ (n : Nat) (cs : List Char) :
    (arrangements (n + 1) cs).length = ∑ c ∈ cs.toFinset, (arrangements n (cs.erase c)).length := by
  rw [arrangements, List.length_flatMap, ← toFinset_eraseDups,
    List.sum_toFinset _ (nodup_eraseDups cs)]
  simp only [List.length_map]

/-- Every arrangement stands for as many orders of the characters as there are orders of the repeated
ones among themselves. -/
theorem length_arrangements_mul {s : Finset Char} {n : Nat} {cs : List Char} (hlen : cs.length = n)
    (hs : ∀ c ∈ cs, c ∈ s) : (arrangements n cs).length * repetitions s cs = n.factorial := by
  -- The product stays over one set while characters are taken away, as a count of zero adds nothing.
  induction n generalizing cs with
  | zero =>
    rw [List.length_eq_zero_iff.mp hlen]
    simp [arrangements, repetitions]
  | succ n ih =>
    have hfirst : ∀ c ∈ cs.toFinset, (arrangements n (cs.erase c)).length * repetitions s cs =
        cs.count c * n.factorial := by
      intro c hc
      rw [List.mem_toFinset] at hc
      have hrest : (cs.erase c).length = n := by
        rw [List.length_erase_of_mem hc, hlen, Nat.add_sub_cancel]
      rw [repetitions_eq_count_mul (hs c hc) hc, mul_left_comm,
        ih hrest fun d hd => hs d (List.mem_of_mem_erase hd)]
    calc (arrangements (n + 1) cs).length * repetitions s cs
        = ∑ c ∈ cs.toFinset, cs.count c * n.factorial := by
          rw [length_arrangements_succ, Finset.sum_mul]
          exact Finset.sum_congr rfl hfirst
      _ = (n + 1) * n.factorial := by
          rw [← Finset.sum_mul, List.sum_toFinset_count_eq_length, hlen]
      _ = (n + 1).factorial := (Nat.factorial_succ n).symm

theorem length_rearranged (number : String) : (rearranged number).length =
    number.toList.length.factorial / repetitions number.toList.toFinset number.toList := by
  have hperm := sorted_perm number.toList
  have hs : ∀ c ∈ sorted number.toList, c ∈ number.toList.toFinset := by
    intro c hc
    exact List.mem_toFinset.mpr (hperm.subset hc)
  have hrep : repetitions number.toList.toFinset (sorted number.toList) =
      repetitions number.toList.toFinset number.toList :=
    Finset.prod_congr rfl fun c _ => by rw [hperm.count_eq]
  have hmul := length_arrangements_mul hperm.length_eq hs
  rw [hrep] at hmul
  rw [rearranged, List.length_map, ← hmul, Nat.mul_div_cancel _ (repetitions_pos _ _)]

/-- The distinct rearrangements of a number, each once and in ascending order. -/
structure ListsRearrangements (number : String) (found : List String) : Prop where
  mem_iff : ∀ t, t ∈ found ↔ t.toList.Perm number.toList
  nodup : found.Nodup
  ascending : found.Pairwise (· < ·)

/-- The rearrangements of a number are found unless they are more than the limit; without a limit,
unless they cannot be counted in 64 bits. -/
theorem rearrangements?_eq_all (number : String) (limit : Nat) :
    ∃ found, ListsRearrangements number found ∧
      found.length = number.toList.length.factorial /
        ∏ c ∈ number.toList.toFinset, (number.toList.count c).factorial ∧
      rearrangements? number limit = (if limit < found.length then none else some found) ∧
      rearrangements number = if found.length < 2 ^ 64 then found else [] := by
  have hlimit (m : Nat) : rearrangements? number m =
      if m < (rearranged number).length then none else some (rearranged number) := by
    rw [rearrangements?_eq]
    split
    · next hle => rw [if_neg (Nat.not_lt.mpr hle)]
    · next hlt => rw [if_pos (Nat.not_le.mp hlt)]
  refine ⟨rearranged number, ⟨mem_rearranged_iff number, nodup_rearranged number,
    rearranged_ascending number⟩, length_rearranged number, hlimit limit, ?_⟩
  have hwords : countLimit = 2 ^ 64 := rfl
  rw [rearrangements, hlimit, hwords]
  split
  · next hlt => rw [if_neg (by omega)]; rfl
  · next hle => rw [if_pos (by omega)]; rfl

example : rearrangements? "1121" 4 = some ["1112", "1121", "1211", "2111"] ∧
    rearrangements? "1121" 3 = none := by
  cbv

end LotterySlip.Number
