import LotterySlip.Proofs.Alias.Index

/-! The order in which aliases are searched for: longer keys first, and of keys as long as each other
the one that is declared first. Entering the aliases keeps the order in which they are declared, and
sorting them by length keeps it among equals. -/
namespace LotterySlip.AliasIndex
open Text

def declaredKeys (betTypes : List BetType) : List (List Char) :=
  (declarations betTypes).map declaredKey

theorem mem_declaredKeys_iff (betTypes : List BetType) (key : List Char) :
    key ∈ declaredKeys betTypes ↔ ∃ b ∈ betTypes, ∃ a ∈ b.aliases, foldKey a.toList = key := by
  rw [declaredKeys, List.mem_map]
  constructor
  · rintro ⟨⟨i, a⟩, hd, rfl⟩
    obtain ⟨b, hb, ha⟩ := (mem_declarations_iff betTypes i a).mp hd
    exact ⟨b, List.mem_of_getElem? hb, a, ha, rfl⟩
  · rintro ⟨b, hb, a, ha, rfl⟩
    obtain ⟨i, hi⟩ := List.mem_iff_getElem?.mp hb
    exact ⟨(i, a), (mem_declarations_iff betTypes i a).mpr ⟨b, hi, ha⟩, rfl⟩

/-- The groups have the keys that are declared and not empty. -/
theorem exists_group_iff (betTypes : List BetType) (key : List Char) :
    (∃ g ∈ (ofBetTypes betTypes).groups, g.key = key) ↔
      key ≠ [] ∧ key ∈ declaredKeys betTypes := by
  rw [← List.mem_map, (represents_ofBetTypes betTypes).key_mem, declaredKeys, List.mem_map]

theorem key_ne_nil {betTypes : List BetType} {g : AliasGroup}
    (hg : g ∈ (ofBetTypes betTypes).groups) : g.key ≠ [] :=
  ((exists_group_iff betTypes g.key).mp ⟨g, hg, rfl⟩).1

theorem key_mem_declaredKeys {betTypes : List BetType} {g : AliasGroup}
    (hg : g ∈ (ofBetTypes betTypes).groups) : g.key ∈ declaredKeys betTypes :=
  ((exists_group_iff betTypes g.key).mp ⟨g, hg, rfl⟩).2

/-- A key that is searched for before another one: it is longer, or it is as long and stands first in
the list of keys. -/
def Precedes (keys : List (List Char)) (k k' : List Char) : Prop :=
  byteLength k' < byteLength k ∨
    byteLength k' = byteLength k ∧ keys.idxOf k < keys.idxOf k'

theorem Precedes.byteLength_le {keys : List (List Char)} {k k' : List Char}
    (h : Precedes keys k k') : byteLength k' ≤ byteLength k := by
  rcases h with h | h <;> omega

theorem Precedes.not_precedes {keys : List (List Char)} {k k' : List Char}
    (h : Precedes keys k k') : ¬ Precedes keys k' k := by
  rintro (h' | h') <;> rcases h with h | h <;> omega

/-- Of two keys that are declared one precedes the other. -/
theorem precedes_or_precedes {keys : List (List Char)} {k k' : List Char} (hk : k ∈ keys)
    (hne : k ≠ k') : Precedes keys k k' ∨ Precedes keys k' k := by
  have hplace : keys.idxOf k ≠ keys.idxOf k' := fun he => hne ((List.idxOf_inj hk).mp he)
  rcases Nat.lt_trichotomy (byteLength k) (byteLength k') with h | h | h
  · exact Or.inr (Or.inl h)
  · rcases Nat.lt_or_gt_of_ne hplace with hlt | hlt
    · exact Or.inl (Or.inr ⟨h.symm, hlt⟩)
    · exact Or.inr (Or.inr ⟨h, hlt⟩)
  · exact Or.inl (Or.inl h)

/-- The groups stand in the order in which their keys are first declared. -/
theorem pairwise_idxOf_foldl (ds : List (Nat × String)) :
    ((ds.foldl (fun gs d => declare gs d.1 d.2) []).map AliasGroup.key).Pairwise fun k k' =>
      (ds.map declaredKey).idxOf k < (ds.map declaredKey).idxOf k' := by
  induction ds using List.reverseRecOn with
  | nil => exact List.Pairwise.nil
  | append_singleton ds d ih =>
    have hrep := represents_foldl ds
    rw [List.foldl_append, List.foldl_cons, List.foldl_nil, List.map_append, List.map_singleton]
    generalize ds.foldl (fun gs d => declare gs d.1 d.2) [] = gs at ih hrep
    have hmem {k : List Char} (hk : k ∈ gs.map AliasGroup.key) : k ∈ ds.map declaredKey :=
      List.mem_map.mpr ((hrep.key_mem k).mp hk).2
    have hkept : (gs.map AliasGroup.key).Pairwise fun k k' =>
        (ds.map declaredKey ++ [declaredKey d]).idxOf k <
          (ds.map declaredKey ++ [declaredKey d]).idxOf k' := by
      refine ih.imp_of_mem fun {k k'} hk hk' hlt => ?_
      rwa [List.idxOf_append_of_mem (hmem hk), List.idxOf_append_of_mem (hmem hk')]
    rw [declare]
    split
    · exact hkept
    · next hne =>
      have hkey : declaredKey d ≠ [] := fun e => hne (List.isEmpty_iff.mpr e)
      show ((enter d.1 d.2 (declaredKey d) gs).map AliasGroup.key).Pairwise _
      rw [map_key_enter]
      split
      · exact hkept
      · next hnew =>
        have hnot : declaredKey d ∉ ds.map declaredKey := by
          intro hd
          obtain ⟨e, he, hek⟩ := List.mem_map.mp hd
          exact hrep.declaredKey_ne hkey hnew e he hek
        apply List.pairwise_append.mpr
        refine ⟨hkept, List.pairwise_singleton _ _, fun k hk k' hk' => ?_⟩
        rw [List.mem_singleton.mp hk', List.idxOf_append_of_mem (hmem hk),
          List.idxOf_append_of_notMem hnot]
        have hlt := List.idxOf_lt_length_of_mem (hmem hk)
        omega

/-- Sorting leaves the groups of one length in the order in which they are declared. -/
theorem filter_length_groups (betTypes : List BetType) (n : Nat) :
    ((ofBetTypes betTypes).groups.filter fun g => byteLength g.key == n) =
      (declared betTypes).filter fun g => byteLength g.key == n := by
  have hequal : ((declared betTypes).filter fun g => byteLength g.key == n).Pairwise fun g h =>
      longerFirst g h = true := by
    apply (List.pairwise_of_forall fun _ _ => trivial :
      List.Pairwise (fun _ _ => True) _).imp_of_mem
    intro g h hg hh _
    simp only [List.mem_filter, beq_iff_eq] at hg hh
    simp only [longerFirst, decide_eq_true_eq]
    omega
  have hsub : ((declared betTypes).filter fun g => byteLength g.key == n).Sublist
      ((ofBetTypes betTypes).groups.filter fun g => byteLength g.key == n) := by
    have h := (List.sublist_mergeSort longerFirst_trans longerFirst_total hequal
      List.filter_sublist).filter fun g => byteLength g.key == n
    simp only [List.filter_filter, Bool.and_self] at h
    exact h
  have hperm := (List.mergeSort_perm (declared betTypes) longerFirst).filter
    fun g => byteLength g.key == n
  exact (hsub.eq_of_length hperm.length_eq.symm).symm

/-- The order of the search. -/
theorem pairwise_precedes (betTypes : List BetType) :
    (ofBetTypes betTypes).groups.Pairwise fun g h =>
      Precedes (declaredKeys betTypes) g.key h.key := by
  have hdeclared := pairwise_idxOf_foldl (declarations betTypes)
  rw [← declared_eq_foldl, List.pairwise_map] at hdeclared
  rw [List.pairwise_iff_forall_sublist]
  intro g h hgh
  have hlong := List.pairwise_iff_forall_sublist.mp (pairwise_ofBetTypes betTypes) hgh
  rcases Nat.lt_or_eq_of_le hlong with hlt | heq
  · exact Or.inl hlt
  · refine Or.inr ⟨heq, ?_⟩
    have hsame := hgh.filter fun f => byteLength f.key == byteLength g.key
    rw [filter_length_groups] at hsame
    have hboth : [g, h].filter (fun f => byteLength f.key == byteLength g.key) = [g, h] := by
      simp [heq]
    rw [hboth] at hsame
    exact List.pairwise_iff_forall_sublist.mp hdeclared (hsame.trans List.filter_sublist)

end LotterySlip.AliasIndex
