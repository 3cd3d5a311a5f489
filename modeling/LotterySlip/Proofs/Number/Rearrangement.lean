import Mathlib.Data.List.Nodup
import Mathlib.Data.String.Basic
import LotterySlip.Number.Rearrangement

/-! The rearrangements of a number as a list by itself: every character in turn stands first, and a
rearrangement of the others follows. They are all of its permutations, each once, in ascending
order. -/
namespace LotterySlip.Number

section Repetitions

variable {α : Type} [DecidableEq α]

theorem eraseDups_induction {p : List α → Prop} (nil : p [])
    (cons : ∀ a as, p (as.filter fun b => !b == a) → p (a :: as)) (as : List α) : p as := by
  -- Erasing the duplicates of the first element leaves a shorter list, not the tail.
  induction hn : as.length using Nat.strongRecOn generalizing as with
  | ind n ih =>
    cases as with
    | nil => exact nil
    | cons a as =>
      apply cons a as
      refine ih _ ?_ _ rfl
      have hle := List.length_filter_le (fun b => !b == a) as
      rw [← hn, List.length_cons]
      omega

theorem nodup_eraseDups (as : List α) : as.eraseDups.Nodup := by
  induction as using eraseDups_induction with
  | nil => exact List.nodup_nil
  | cons a as ih =>
    rw [List.eraseDups_cons, List.nodup_cons]
    refine ⟨fun hm => ?_, ih⟩
    simpa using (List.mem_filter.mp (List.mem_eraseDups.mp hm)).2

theorem eraseDups_sublist (as : List α) : as.eraseDups.Sublist as := by
  induction as using eraseDups_induction with
  | nil => exact .slnil
  | cons a as ih =>
    rw [List.eraseDups_cons]
    exact (ih.trans List.filter_sublist).cons_cons a

theorem eraseDups_of_nodup {as : List α} (h : as.Nodup) : as.eraseDups = as := by
  induction as with
  | nil => rfl
  | cons a as ih =>
    obtain ⟨ha, has⟩ := List.nodup_cons.mp h
    have hkept : (as.filter fun b => !b == a) = as := by
      rw [List.filter_eq_self]
      intro b hb
      simpa using fun e : b = a => ha (e ▸ hb)
    rw [List.eraseDups_cons, hkept, ih has]

end Repetitions

theorem sorted_perm (cs : List Char) : (sorted cs).Perm cs := List.mergeSort_perm _ _

theorem pairwise_sorted (cs : List Char) : (sorted cs).Pairwise (· ≤ ·) := by
  have h : (sorted cs).Pairwise fun a b => decide (a ≤ b) = true := by
    apply List.pairwise_mergeSort
    · intro a b c hab hbc
      simp only [decide_eq_true_eq] at *
      exact hab.trans hbc
    · intro a b
      simpa using le_total a b
  exact h.imp of_decide_eq_true

theorem eraseDups_ascending {cs : List Char} (h : cs.Pairwise (· ≤ ·)) :
    cs.eraseDups.Pairwise (· < ·) :=
  ((h.sublist (eraseDups_sublist cs)).and (nodup_eraseDups cs)).imp fun ⟨hle, hne⟩ =>
    lt_of_le_of_ne hle hne

def arrangements : Nat → List Char → List (List Char)
  | 0, _ => [[]]
  | n + 1, cs => cs.eraseDups.flatMap fun c => (arrangements n (cs.erase c)).map (c :: ·)

/-- Every permutation of the characters is listed, and nothing else. -/
theorem mem_arrangements_iff (cs ds : List Char) :
    ds ∈ arrangements cs.length cs ↔ ds.Perm cs := by
  induction hn : cs.length generalizing cs ds with
  | zero =>
    rw [List.length_eq_zero_iff.mp hn, arrangements, List.mem_singleton, List.perm_nil]
  | succ n ih =>
    have htail {c : Char} (hc : c ∈ cs) (es : List Char) :
        es ∈ arrangements n (cs.erase c) ↔ es.Perm (cs.erase c) := by
      apply ih
      rw [List.length_erase_of_mem hc, hn, Nat.add_sub_cancel]
    simp only [arrangements, List.mem_flatMap, List.mem_eraseDups, List.mem_map]
    constructor
    · rintro ⟨c, hc, es, hes, rfl⟩
      exact (((htail hc es).mp hes).cons c).trans (List.perm_cons_erase hc).symm
    · intro h
      cases ds with
      | nil =>
        rw [List.nil_perm.mp h] at hn
        cases hn
      | cons d ds =>
        have hd : d ∈ cs := h.subset List.mem_cons_self
        refine ⟨d, hd, ds, (htail hd ds).mpr ?_, rfl⟩
        exact (List.perm_cons d).mp (h.trans (List.perm_cons_erase hd))

/-- The first characters ascend, and behind each of them the rest does. -/
theorem arrangements_ascending {n : Nat} {cs : List Char} (h : cs.Pairwise (· ≤ ·)) :
    (arrangements n cs).Pairwise (· < ·) := by
  induction n generalizing cs with
  | zero => exact List.pairwise_singleton _ _
  | succ n ih =>
    rw [arrangements, List.pairwise_flatMap]
    refine ⟨fun c _ => ?_, (eraseDups_ascending h).imp fun {a b} hab => ?_⟩
    · rw [List.pairwise_map]
      apply (ih (h.sublist List.erase_sublist)).imp
      intro es fs hlt
      exact List.cons_lt_cons_iff.mpr (Or.inr ⟨rfl, hlt⟩)
    · intro ds hds es hes
      obtain ⟨fs, -, rfl⟩ := List.mem_map.mp hds
      obtain ⟨gs, -, rfl⟩ := List.mem_map.mp hes
      exact List.cons_lt_cons_iff.mpr (Or.inl hab)

def rearranged (number : String) : List String :=
  (arrangements number.toList.length (sorted number.toList)).map String.ofList

theorem mem_rearranged_iff (number ticket : String) :
    ticket ∈ rearranged number ↔ ticket.toList.Perm number.toList := by
  have hs := mem_arrangements_iff (sorted number.toList) ticket.toList
  rw [(sorted_perm number.toList).length_eq] at hs
  have hp : ticket.toList.Perm (sorted number.toList) ↔ ticket.toList.Perm number.toList :=
    ⟨fun h => h.trans (sorted_perm _), fun h => h.trans (sorted_perm _).symm⟩
  rw [← hp, ← hs, rearranged, List.mem_map]
  constructor
  · rintro ⟨cs, hcs, rfl⟩
    rwa [String.toList_ofList]
  · intro h
    exact ⟨ticket.toList, h, String.ofList_toList⟩

theorem rearranged_ascending (number : String) : (rearranged number).Pairwise (· < ·) := by
  rw [rearranged, List.pairwise_map]
  apply (arrangements_ascending (pairwise_sorted number.toList)).imp
  intro cs ds hlt
  rwa [String.lt_iff_toList_lt, String.toList_ofList, String.toList_ofList]

theorem nodup_rearranged (number : String) : (rearranged number).Nodup :=
  (rearranged_ascending number).imp fun hlt => ne_of_lt hlt

end LotterySlip.Number
