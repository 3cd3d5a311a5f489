import Mathlib.Data.List.Infix
import LotterySlip.Alias

/-! The places at which a key is found in a text. They are looked for from the left, and a place that
an earlier one reaches over is passed by, although the key stands there. -/
namespace LotterySlip
open Text

/-- A place of a key that counts: the key stands there, and no place that counts reaches over it. -/
def Counts (key text : List Char) (i : Nat) : Prop :=
  key <+: text.drop i ∧ ∀ j, j < i → Counts key text j → j + key.length ≤ i
termination_by i

theorem counts_iff (key text : List Char) (i : Nat) : Counts key text i ↔
    key <+: text.drop i ∧ ∀ j, j < i → Counts key text j → j + key.length ≤ i := by
  rw [Counts]

variable {key text : List Char}

theorem Counts.prefix_drop {i : Nat} (h : Counts key text i) : key <+: text.drop i :=
  ((counts_iff key text i).mp h).1

theorem exists_of_not_counts {i : Nat} (h : key <+: text.drop i) (hn : ¬ Counts key text i) :
    ∃ j, j < i ∧ Counts key text j ∧ i < j + key.length := by
  by_contra hnone
  apply hn
  rw [counts_iff]
  refine ⟨h, fun j hj hcj => ?_⟩
  by_contra hlt
  exact hnone ⟨j, hj, hcj, by omega⟩

/-- A key that begins with an end of its own, so that two places of it may overlap. -/
def OverlapsItself (key : List Char) : Prop :=
  ∃ n, 0 < n ∧ n < key.length ∧ key.drop n <+: key

instance (key : List Char) : Decidable (OverlapsItself key) :=
  decidable_of_iff (∃ n, n < key.length ∧ 0 < n ∧ key.drop n <+: key)
    (exists_congr fun _ => and_left_comm)

example : OverlapsItself ['d', 'd'] ∧ ¬ OverlapsItself ['d', 'a', 'o'] := by decide

theorem overlapsItself_of_prefix_drop {i j : Nat} (hi : key <+: text.drop i)
    (hj : key <+: text.drop j) (hlt : j < i) (hover : i < j + key.length) : OverlapsItself key := by
  refine ⟨i - j, by omega, by omega, ?_⟩
  obtain ⟨rest, hrest⟩ := hj
  have hend : key.drop (i - j) <+: text.drop i := by
    have hdrop : text.drop i = key.drop (i - j) ++ rest := by
      rw [← List.drop_append_of_le_length (by omega), hrest, List.drop_drop]
      congr 1
      omega
    rw [hdrop]
    exact List.prefix_append _ rest
  apply List.prefix_of_prefix_length_le hend hi
  rw [List.length_drop]
  exact Nat.sub_le _ _

/-- Every place of a key counts, unless the key overlaps itself. -/
theorem counts_of_not_overlapsItself (hkey : ¬ OverlapsItself key) {i : Nat}
    (h : key <+: text.drop i) : Counts key text i := by
  by_contra hn
  obtain ⟨j, hj, hcj, hover⟩ := exists_of_not_counts h hn
  exact hkey (overlapsItself_of_prefix_drop h hcj.prefix_drop hj hover)

theorem of_mem_occurrencesFrom {cs : List Char} {i skip j : Nat}
    (h : j ∈ occurrencesFrom key i skip cs) : ∃ k, j = i + k ∧ skip ≤ k ∧ key <+: cs.drop k := by
  -- Places are counted from the start of the text, so the induction carries the place along.
  induction cs generalizing i skip with
  | nil => simp [occurrencesFrom] at h
  | cons c cs ih =>
    have hrec {s : Nat} (hs : j ∈ occurrencesFrom key (i + 1) s cs) :
        ∃ k, j = i + (k + 1) ∧ s ≤ k ∧ key <+: (c :: cs).drop (k + 1) := by
      obtain ⟨k, hk, hle, hp⟩ := ih hs
      exact ⟨k, by omega, hle, hp⟩
    cases skip with
    | succ skip =>
      obtain ⟨k, hk, hle, hp⟩ := hrec h
      exact ⟨k + 1, hk, by omega, hp⟩
    | zero =>
      rw [occurrencesFrom] at h
      split at h
      · next hp =>
        rcases List.mem_cons.mp h with rfl | h
        · exact ⟨0, rfl, Nat.le_refl 0, List.isPrefixOf_iff_prefix.mp hp⟩
        · obtain ⟨k, hk, -, hp⟩ := hrec h
          exact ⟨k + 1, hk, Nat.zero_le _, hp⟩
      · obtain ⟨k, hk, -, hp⟩ := hrec h
        exact ⟨k + 1, hk, Nat.zero_le _, hp⟩

/-- The next place comes behind the end of the key. -/
theorem pairwise_occurrencesFrom (key : List Char) (i skip : Nat) (cs : List Char) :
    (occurrencesFrom key i skip cs).Pairwise fun j k => j + key.length ≤ k := by
  induction cs generalizing i skip with
  | nil => exact List.Pairwise.nil
  | cons c cs ih =>
    cases skip with
    | succ skip => exact ih (i + 1) skip
    | zero =>
      rw [occurrencesFrom]
      split
      · apply List.Pairwise.cons _ (ih (i + 1) (key.length - 1))
        intro j hj
        obtain ⟨k, rfl, hle, -⟩ := of_mem_occurrencesFrom hj
        omega
      · exact ih (i + 1) 0

/-- Nothing is missed but what an earlier place reaches over. -/
theorem mem_occurrencesFrom (hkey : key ≠ []) {cs : List Char} {i skip k : Nat} (hskip : skip ≤ k)
    (hp : key <+: cs.drop k)
    (hfree : ∀ j ∈ occurrencesFrom key i skip cs, j < i + k → j + key.length ≤ i + k) :
    i + k ∈ occurrencesFrom key i skip cs := by
  induction cs generalizing i skip k with
  | nil =>
    rw [List.drop_nil, List.prefix_nil] at hp
    exact absurd hp hkey
  | cons c cs ih =>
    have hrec {s n : Nat} (hs : s ≤ n) (hn : key <+: (c :: cs).drop (n + 1))
        (hf : ∀ j ∈ occurrencesFrom key (i + 1) s cs, j < i + (n + 1) →
          j + key.length ≤ i + (n + 1)) : i + (n + 1) ∈ occurrencesFrom key (i + 1) s cs := by
      have hplace : i + (n + 1) = i + 1 + n := by omega
      rw [hplace] at hf ⊢
      exact ih hs hn hf
    cases skip with
    | succ skip =>
      obtain ⟨n, rfl⟩ : ∃ n, k = n + 1 := ⟨k - 1, by omega⟩
      exact hrec (by omega) hp hfree
    | zero =>
      rw [occurrencesFrom] at hfree ⊢
      by_cases hc : key.isPrefixOf (c :: cs) = true
      · rw [if_pos hc] at hfree ⊢
        cases k with
        | zero => exact List.mem_cons_self
        | succ n =>
          have hover := hfree i List.mem_cons_self (by omega)
          apply List.mem_cons_of_mem
          apply hrec (by omega) hp
          intro j hj
          exact hfree j (List.mem_cons_of_mem i hj)
      · rw [if_neg hc] at hfree ⊢
        cases k with
        | zero => exact absurd (List.isPrefixOf_iff_prefix.mpr hp) hc
        | succ n => exact hrec (Nat.zero_le n) hp hfree

theorem pairwise_occurrences (key text : List Char) :
    (occurrences key text).Pairwise fun j k => j + key.length ≤ k :=
  pairwise_occurrencesFrom key 0 0 text

theorem of_mem_occurrences {i : Nat} (h : i ∈ occurrences key text) : key <+: text.drop i := by
  obtain ⟨k, rfl, -, hp⟩ := of_mem_occurrencesFrom h
  rwa [Nat.zero_add]

theorem add_length_le_of_mem_occurrences {i j : Nat} (hi : i ∈ occurrences key text)
    (hj : j ∈ occurrences key text) (hlt : j < i) : j + key.length ≤ i := by
  obtain ⟨before, behind, hsplit⟩ := List.append_of_mem hi
  have hpair := pairwise_occurrences key text
  rw [hsplit, List.pairwise_append, List.pairwise_cons] at hpair
  rw [hsplit, List.mem_append, List.mem_cons] at hj
  rcases hj with hj | rfl | hj
  · exact hpair.2.2 j hj i List.mem_cons_self
  · omega
  · have hbehind := hpair.2.1.1 j hj
    omega

/-- The places that are found are those that count. -/
theorem mem_occurrences_iff (hkey : key ≠ []) (i : Nat) :
    i ∈ occurrences key text ↔ Counts key text i := by
  induction i using Nat.strong_induction_on with
  | _ i ih =>
    rw [counts_iff]
    constructor
    · intro hi
      refine ⟨of_mem_occurrences hi, fun j hj hcj => ?_⟩
      exact add_length_le_of_mem_occurrences hi ((ih j hj).mpr hcj) hj
    · rintro ⟨hp, hfree⟩
      have hmem : 0 + i ∈ occurrencesFrom key 0 0 text := by
        apply mem_occurrencesFrom hkey (Nat.zero_le i) hp
        intro j hj hlt
        rw [Nat.zero_add] at hlt ⊢
        exact hfree j hlt ((ih j hlt).mp hj)
      rwa [Nat.zero_add] at hmem

end LotterySlip
