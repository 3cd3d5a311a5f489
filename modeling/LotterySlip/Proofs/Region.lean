import Mathlib.Data.List.Basic
import LotterySlip.Region

/-! Sets of regions in listing order, and the names under which regions are read. -/
namespace LotterySlip.Region
open Text

theorem mem_sortedSet_iff (rs : List Region) (r : Region) : r ∈ sortedSet rs ↔ r ∈ rs := by
  have hall : r ∈ all := by cases r <;> decide
  simp [sortedSet, hall]

theorem sortedSet_congr {rs rs' : List Region} (h : ∀ r, r ∈ rs' ↔ r ∈ rs) :
    sortedSet rs' = sortedSet rs := by
  rw [sortedSet, sortedSet]
  refine List.filter_congr fun r _ => ?_
  rw [Bool.eq_iff_iff, List.contains_iff_mem, List.contains_iff_mem, h]

theorem sortedSet_eq_singleton {rs : List Region} {r : Region} (hne : rs ≠ [])
    (h : ∀ r' ∈ rs, r' = r) : sortedSet rs = [r] := by
  have hr : ∀ r', r' ∈ rs ↔ r' ∈ [r] := by
    obtain ⟨r₀, hr₀⟩ := List.exists_mem_of_ne_nil _ hne
    intro r'
    rw [List.mem_singleton]
    exact ⟨h r', fun e => e ▸ h r₀ hr₀ ▸ hr₀⟩
  rw [sortedSet_congr hr]
  cases r <;> rfl

theorem pairwise_sortedSet (rs : List Region) :
    (sortedSet rs).Pairwise fun a b => a.rank ≤ b.rank := by
  have hall : all.Pairwise fun a b => a.rank ≤ b.rank := by decide
  exact hall.sublist List.filter_sublist

/-- The first region of a set that passes a test comes before all others that do. -/
theorem of_find?_sortedSet {rs : List Region} {p : Region → Bool} {r : Region}
    (h : (sortedSet rs).find? p = some r) :
    r ∈ rs ∧ p r = true ∧ ∀ q ∈ rs, p q = true → r.rank ≤ q.rank := by
  have hranks := pairwise_sortedSet rs
  obtain ⟨hp, front, back, hsplit, hfront⟩ := List.find?_eq_some_iff_append.mp h
  refine ⟨(mem_sortedSet_iff rs r).mp (List.mem_of_find?_eq_some h), hp, ?_⟩
  intro q hq hpq
  have hq' : q ∈ front ++ r :: back := hsplit ▸ (mem_sortedSet_iff rs q).mpr hq
  rw [hsplit] at hranks
  rcases List.mem_append.mp hq' with hm | hm
  · have hnot := hfront q hm
    rw [hpq] at hnot
    cases hnot
  · rcases List.mem_cons.mp hm with rfl | hm
    · exact Nat.le_refl q.rank
    · have hback := (List.pairwise_append.mp hranks).2.1
      exact (List.pairwise_cons.mp hback).1 q hm

theorem ofName?_eq_some_iff (name : String) (r : Region) :
    ofName? name = some r ↔ name = r.key ∨ name = r.shorthand := by
  constructor
  · intro h
    have hr := List.find?_some h
    rw [Bool.or_eq_true, beq_iff_eq, beq_iff_eq] at hr
    exact hr.imp Eq.symm Eq.symm
  · rintro (rfl | rfl) <;> cases r <;> decide

def IsWritten (r : Region) (cs : List Char) : Prop :=
  (trim cs).map asciiLower = r.key.toList ∨ (trim cs).map asciiLower = r.shorthand.toList

theorem read?_eq_some_iff (cs : List Char) (r : Region) : read? cs = some r ↔ r.IsWritten cs := by
  have hname (name : String) : nameOf cs = name ↔ (trim cs).map asciiLower = name.toList := by
    rw [nameOf, ← String.toList_inj, String.toList_ofList]
  rw [read?, ofName?_eq_some_iff, hname, hname, IsWritten]

end LotterySlip.Region
