import Mathlib.Data.List.Nodup
import Mathlib.Data.List.Sort
import LotterySlip.Alias
import LotterySlip.Proofs.Text.Fold

/-! What the index of aliases holds: for every key one group, with the bet types that declare it. -/
namespace LotterySlip.AliasIndex
open Text

def declarations (betTypes : List BetType) : List (Nat × String) :=
  betTypes.zipIdx.flatMap fun b => b.1.aliases.map fun a => (b.2, a)

def declaredKey (d : Nat × String) : List Char := foldKey d.2.toList

theorem declared_eq_foldl (betTypes : List BetType) :
    declared betTypes = (declarations betTypes).foldl (fun gs d => declare gs d.1 d.2) [] := by
  rw [declared, declarations, List.foldl_flatMap]
  simp only [List.foldl_map]

theorem mem_declarations_iff (betTypes : List BetType) (i : Nat) (a : String) :
    (i, a) ∈ declarations betTypes ↔ ∃ b, betTypes[i]? = some b ∧ a ∈ b.aliases := by
  simp only [declarations, List.mem_flatMap, List.mem_map, Prod.mk.injEq, Prod.exists,
    List.mem_zipIdx_iff_getElem?]
  constructor
  · rintro ⟨b, j, hb, a', ha, rfl, rfl⟩
    exact ⟨b, hb, ha⟩
  · rintro ⟨b, hb, ha⟩
    exact ⟨b, i, hb, a, ha, rfl, rfl⟩

theorem map_key_enter (i : Nat) (label : String) (key : List Char) (gs : List AliasGroup) :
    (enter i label key gs).map AliasGroup.key =
      if key ∈ gs.map AliasGroup.key then gs.map AliasGroup.key
      else gs.map AliasGroup.key ++ [key] := by
  induction gs with
  | nil => rfl
  | cons g gs ih =>
    by_cases hg : g.key = key
    · simp only [enter, hg, if_true, List.map_cons]
      split <;> simp [hg]
    · rw [enter, if_neg hg, List.map_cons, ih, List.map_cons]
      have hk : key ≠ g.key := fun h => hg h.symm
      simp only [List.mem_cons, hk, false_or]
      split <;> simp

/-- A group with another key is left as it is. -/
theorem mem_enter_of_ne {i : Nat} {label : String} {key : List Char} {gs : List AliasGroup}
    {g : AliasGroup} (hg : g.key ≠ key) : g ∈ enter i label key gs ↔ g ∈ gs := by
  induction gs with
  | nil =>
    simp only [enter, List.mem_singleton, List.not_mem_nil, iff_false]
    rintro rfl
    exact hg rfl
  | cons h gs ih =>
    rw [enter]
    split
    · next hh =>
      have hne : g ≠ h := fun e => hg (e ▸ hh)
      have hne' : g ≠ { h with betTypes := h.betTypes ++ [i] } := fun e => hg (e ▸ hh)
      split <;> simp [hne, hne']
    · rw [List.mem_cons, List.mem_cons, ih]

/-- The group of the key is the one that was there, with the bet type in it, or a new one. -/
theorem of_mem_enter {i : Nat} {label : String} {key : List Char} {gs : List AliasGroup}
    {g : AliasGroup} (hn : (gs.map AliasGroup.key).Nodup) (hg : g ∈ enter i label key gs)
    (hk : g.key = key) :
    (∃ g₀ ∈ gs, g₀.key = key ∧ g.display = g₀.display ∧
      ∀ j, j ∈ g.betTypes ↔ j ∈ g₀.betTypes ∨ j = i) ∨
    (key ∉ gs.map AliasGroup.key ∧ g = ⟨key, String.ofList (trim label.toList), [i]⟩) := by
  induction gs with
  | nil =>
    right
    simpa [enter] using hg
  | cons h gs ih =>
    rw [List.map_cons, List.nodup_cons] at hn
    rw [enter] at hg
    split at hg
    · next hh =>
      left
      rcases List.mem_cons.mp hg with rfl | hg
      · refine ⟨h, List.mem_cons_self, hh, ?_, ?_⟩
        · split <;> rfl
        · intro j
          split
          · next hc =>
            have hi : i ∈ h.betTypes := by simpa using hc
            constructor
            · exact Or.inl
            · rintro (hj | rfl)
              · exact hj
              · exact hi
          · simp
      · exact absurd (List.mem_map.mpr ⟨g, hg, hk.trans hh.symm⟩) hn.1
    · next hh =>
      rcases List.mem_cons.mp hg with rfl | hg
      · exact absurd hk hh
      · rcases ih hn.2 hg with ⟨g₀, hm, h₀⟩ | ⟨hm, h₀⟩
        · exact Or.inl ⟨g₀, List.mem_cons_of_mem h hm, h₀⟩
        · refine Or.inr ⟨?_, h₀⟩
          rw [List.map_cons, List.mem_cons, not_or]
          exact ⟨fun e => hh e.symm, hm⟩

structure Represents (ds : List (Nat × String)) (gs : List AliasGroup) : Prop where
  keys_nodup : (gs.map AliasGroup.key).Nodup
  key_mem : ∀ k, k ∈ gs.map AliasGroup.key ↔ k ≠ [] ∧ ∃ d ∈ ds, declaredKey d = k
  first : ∀ g ∈ gs, ∃ d, (ds.find? fun d => declaredKey d == g.key) = some d ∧
    g.display = String.ofList (trim d.2.toList)
  betTypes : ∀ g ∈ gs, ∀ i, i ∈ g.betTypes ↔ ∃ d ∈ ds, d.1 = i ∧ declaredKey d = g.key

theorem represents_nil : Represents [] [] where
  keys_nodup := List.nodup_nil
  key_mem k := by simp
  first g hg := absurd hg List.not_mem_nil
  betTypes g hg := absurd hg List.not_mem_nil

theorem exists_mem_append_singleton {ds : List (Nat × String)} {d : Nat × String}
    {P : Nat × String → Prop} : (∃ e ∈ ds ++ [d], P e) ↔ (∃ e ∈ ds, P e) ∨ P d := by
  simp only [List.mem_append, List.mem_singleton, or_and_right, exists_or, exists_eq_left]

theorem find?_append_singleton_of_eq_some {ds : List (Nat × String)} {d e : Nat × String}
    {p : Nat × String → Bool} (h : ds.find? p = some e) : (ds ++ [d]).find? p = some e := by
  rw [List.find?_append, h, Option.some_or]

/-- A declaration with a new key is the first with its key. -/
theorem Represents.declaredKey_ne {ds : List (Nat × String)} {gs : List AliasGroup}
    (h : Represents ds gs) {key : List Char} (hkey : key ≠ []) (hm : key ∉ gs.map AliasGroup.key) :
    ∀ e ∈ ds, declaredKey e ≠ key :=
  fun e he hek => hm ((h.key_mem key).mpr ⟨hkey, e, he, hek⟩)

theorem Represents.display {ds : List (Nat × String)} {gs : List AliasGroup} (h : Represents ds gs)
    (g : AliasGroup) (hg : g ∈ gs) :
    ∃ d ∈ ds, declaredKey d = g.key ∧ g.display = String.ofList (trim d.2.toList) := by
  obtain ⟨d, hfind, hdisplay⟩ := h.first g hg
  have hkey := List.find?_some hfind
  rw [beq_iff_eq] at hkey
  exact ⟨d, List.mem_of_find?_eq_some hfind, hkey, hdisplay⟩

/-- A declaration without a key counts nowhere. -/
theorem Represents.skip {ds : List (Nat × String)} {gs : List AliasGroup} (h : Represents ds gs)
    {d : Nat × String} (hd : declaredKey d = []) : Represents (ds ++ [d]) gs := by
  have hne {k : List Char} (hk : k ≠ []) : declaredKey d ≠ k := fun e => hk (e ▸ hd)
  have hkey {g : AliasGroup} (hg : g ∈ gs) : g.key ≠ [] :=
    ((h.key_mem g.key).mp (List.mem_map_of_mem hg)).1
  refine ⟨h.keys_nodup, fun k => ?_, fun g hg => ?_, fun g hg i => ?_⟩
  · rw [h.key_mem, exists_mem_append_singleton]
    exact and_congr_right fun hk => (or_iff_left (hne hk)).symm
  · obtain ⟨e, he, hdisplay⟩ := h.first g hg
    exact ⟨e, find?_append_singleton_of_eq_some he, hdisplay⟩
  · rw [h.betTypes g hg, exists_mem_append_singleton]
    exact (or_iff_left fun e => hne (hkey hg) e.2).symm

/-- A declaration with a key goes into the group of its key. -/
theorem Represents.enter {ds : List (Nat × String)} {gs : List AliasGroup} (h : Represents ds gs)
    {d : Nat × String} (hd : declaredKey d ≠ []) :
    Represents (ds ++ [d]) (AliasIndex.enter d.1 d.2 (declaredKey d) gs) := by
  refine ⟨?_, fun k => ?_, fun g hg => ?_, fun g hg i => ?_⟩
  · rw [map_key_enter]
    split
    · exact h.keys_nodup
    · next hm =>
      rw [← List.concat_eq_append]
      exact h.keys_nodup.concat hm
  · have hm : k ∈ (AliasIndex.enter d.1 d.2 (declaredKey d) gs).map AliasGroup.key ↔
        k ∈ gs.map AliasGroup.key ∨ declaredKey d = k := by
      rw [map_key_enter]
      split
      · next hm => exact (or_iff_left_of_imp fun e => e ▸ hm).symm
      · rw [List.mem_append, List.mem_singleton, eq_comm]
    rw [hm, h.key_mem, exists_mem_append_singleton, and_or_left]
    exact or_congr_right (iff_and_self.mpr fun e => e ▸ hd)
  · by_cases hgk : g.key = declaredKey d
    · rcases of_mem_enter h.keys_nodup hg hgk with ⟨g₀, hg₀, hk₀, hd₀, -⟩ | ⟨hm, rfl⟩
      · obtain ⟨e, he, hdisplay⟩ := h.first g₀ hg₀
        rw [hk₀, ← hgk] at he
        exact ⟨e, find?_append_singleton_of_eq_some he, hd₀.trans hdisplay⟩
      · have hnone : (ds.find? fun e => declaredKey e == declaredKey d) = none := by
          rw [List.find?_eq_none]
          intro e he hek
          exact h.declaredKey_ne hd hm e he (beq_iff_eq.mp hek)
        refine ⟨d, ?_, rfl⟩
        rw [List.find?_append, hnone, Option.none_or]
        exact List.find?_cons_of_pos (beq_self_eq_true (declaredKey d))
    · obtain ⟨e, he, hdisplay⟩ := h.first g ((mem_enter_of_ne hgk).mp hg)
      exact ⟨e, find?_append_singleton_of_eq_some he, hdisplay⟩
  · rw [exists_mem_append_singleton]
    by_cases hgk : g.key = declaredKey d
    · rcases of_mem_enter h.keys_nodup hg hgk with ⟨g₀, hg₀, hk₀, -, hb₀⟩ | ⟨hm, rfl⟩
      · rw [hb₀, h.betTypes g₀ hg₀, hk₀, hgk, and_iff_left rfl, eq_comm (a := i)]
      · have hno : ¬ ∃ e ∈ ds, e.1 = i ∧ declaredKey e = declaredKey d := by
          rintro ⟨e, he, -, hek⟩
          exact h.declaredKey_ne hd hm e he hek
        rw [or_iff_right hno, List.mem_singleton, and_iff_left rfl, eq_comm]
    · rw [h.betTypes g ((mem_enter_of_ne hgk).mp hg)]
      exact (or_iff_left fun e => hgk e.2.symm).symm

theorem Represents.declare {ds : List (Nat × String)} {gs : List AliasGroup}
    (h : Represents ds gs) (d : Nat × String) :
    Represents (ds ++ [d]) (AliasIndex.declare gs d.1 d.2) := by
  by_cases hd : declaredKey d = []
  · have he : AliasIndex.declare gs d.1 d.2 = gs := if_pos (List.isEmpty_iff.mpr hd)
    rw [he]
    exact h.skip hd
  · have he : AliasIndex.declare gs d.1 d.2 = AliasIndex.enter d.1 d.2 (declaredKey d) gs :=
      if_neg fun e => hd (List.isEmpty_iff.mp e)
    rw [he]
    exact h.enter hd

theorem represents_foldl (ds : List (Nat × String)) :
    Represents ds (ds.foldl (fun gs d => AliasIndex.declare gs d.1 d.2) []) := by
  -- Declarations are entered from the left, so the last one is peeled off.
  induction ds using List.reverseRecOn with
  | nil => exact represents_nil
  | append_singleton ds d ih =>
    rw [List.foldl_append]
    exact ih.declare d

theorem Represents.perm {ds : List (Nat × String)} {gs hs : List AliasGroup}
    (h : Represents ds gs) (hp : hs.Perm gs) : Represents ds hs where
  keys_nodup := (hp.map _).nodup_iff.mpr h.keys_nodup
  key_mem k := by rw [(hp.map AliasGroup.key).mem_iff, h.key_mem]
  first g hg := h.first g (hp.mem_iff.mp hg)
  betTypes g hg := h.betTypes g (hp.mem_iff.mp hg)

theorem represents_ofBetTypes (betTypes : List BetType) :
    Represents (declarations betTypes) (ofBetTypes betTypes).groups := by
  have h := represents_foldl (declarations betTypes)
  rw [← declared_eq_foldl] at h
  exact h.perm (List.mergeSort_perm _ _)

/-- The alias that is shown has the key of its group. -/
theorem foldKey_display {betTypes : List BetType} {g : AliasGroup}
    (hg : g ∈ (ofBetTypes betTypes).groups) : foldKey g.display.toList = g.key := by
  obtain ⟨d, -, hkey, hdisplay⟩ := (represents_ofBetTypes betTypes).display g hg
  rw [hdisplay, String.toList_ofList, foldKey_trim, ← hkey, declaredKey]

/-- Every key is that of a declared alias. -/
theorem exists_alias_of_key {betTypes : List BetType} {g : AliasGroup}
    (hg : g ∈ (ofBetTypes betTypes).groups) :
    ∃ b ∈ betTypes, ∃ a ∈ b.aliases, g.key = foldKey a.toList := by
  obtain ⟨-, ⟨i, a⟩, hd, hkey⟩ :=
    ((represents_ofBetTypes betTypes).key_mem g.key).mp (List.mem_map_of_mem hg)
  obtain ⟨b, hb, ha⟩ := (mem_declarations_iff betTypes i a).mp hd
  exact ⟨b, List.mem_of_getElem? hb, a, ha, hkey.symm⟩

theorem longerFirst_trans (f g h : AliasGroup) (hfg : longerFirst f g = true)
    (hgh : longerFirst g h = true) : longerFirst f h = true := by
  simp only [longerFirst, decide_eq_true_eq] at *
  omega

theorem longerFirst_total (g h : AliasGroup) : (longerFirst g h || longerFirst h g) = true := by
  simp only [longerFirst, Bool.or_eq_true, decide_eq_true_eq]
  omega

/-- No key stands behind a shorter one. -/
theorem pairwise_ofBetTypes (betTypes : List BetType) :
    (ofBetTypes betTypes).groups.Pairwise fun g h => byteLength h.key ≤ byteLength g.key := by
  have h : (ofBetTypes betTypes).groups.Pairwise fun g h => longerFirst g h = true :=
    List.pairwise_mergeSort longerFirst_trans longerFirst_total (declared betTypes)
  exact h.imp fun hab => by simpa [longerFirst] using hab

/-- Aliases that are declared the longest first are left in order. -/
theorem groups_of_pairwise {betTypes : List BetType}
    (h : (declared betTypes).Pairwise fun g h => longerFirst g h = true) :
    (ofBetTypes betTypes).groups = declared betTypes :=
  List.mergeSort_of_pairwise h

theorem pairwise_places (betTypes : List BetType) :
    (betTypes.zipIdx.map Prod.snd).Pairwise fun i j => i < j := by
  rw [List.zipIdx_map_snd]
  exact List.pairwise_lt_range'

theorem pairwise_declarations (betTypes : List BetType) :
    (declarations betTypes).Pairwise fun d e => d.1 ≤ e.1 := by
  rw [declarations, List.pairwise_flatMap]
  constructor
  · intro b _
    rw [List.pairwise_map]
    exact List.pairwise_of_forall fun _ _ => Nat.le_refl b.2
  · apply (List.pairwise_map.mp (pairwise_places betTypes)).imp
    intro b c hlt d hd e he
    obtain ⟨_, -, rfl⟩ := List.mem_map.mp hd
    obtain ⟨_, -, rfl⟩ := List.mem_map.mp he
    exact hlt.le

theorem pairwise_betTypes_enter {i : Nat} {label : String} {key : List Char} {gs : List AliasGroup}
    (hgs : ∀ g ∈ gs, g.betTypes.Pairwise fun j k => j < k)
    (hle : ∀ g ∈ gs, ∀ j ∈ g.betTypes, j ≤ i) :
    ∀ g ∈ enter i label key gs, g.betTypes.Pairwise fun j k => j < k := by
  induction gs with
  | nil =>
    intro g hg
    rw [enter, List.mem_singleton] at hg
    rw [hg]
    exact List.pairwise_singleton _ i
  | cons h gs ih =>
    obtain ⟨hh, hrest⟩ := List.forall_mem_cons.mp hgs
    obtain ⟨hhle, hrestle⟩ := List.forall_mem_cons.mp hle
    rw [enter]
    split
    · refine List.forall_mem_cons.mpr ⟨?_, hrest⟩
      split
      · exact hh
      · next hc =>
        have hnew : i ∉ h.betTypes := fun hm => hc (List.contains_iff_mem.mpr hm)
        apply List.pairwise_append.mpr
        refine ⟨hh, List.pairwise_singleton _ i, fun j hj k hk => ?_⟩
        rw [List.mem_singleton.mp hk]
        apply lt_of_le_of_ne (hhle j hj)
        rintro rfl
        exact hnew hj
    · exact List.forall_mem_cons.mpr ⟨hh, ih hrest hrestle⟩

/-- The bet types of a group stand in catalog order, each once. -/
theorem pairwise_betTypes {betTypes : List BetType} {g : AliasGroup}
    (hg : g ∈ (ofBetTypes betTypes).groups) : g.betTypes.Pairwise fun i j => i < j := by
  have hfold (ds : List (Nat × String)) (hds : ds.Pairwise fun d e => d.1 ≤ e.1) :
      ∀ g ∈ ds.foldl (fun gs d => declare gs d.1 d.2) [], g.betTypes.Pairwise fun i j => i < j := by
    induction ds using List.reverseRecOn with
    | nil => exact fun g hg => absurd hg List.not_mem_nil
    | append_singleton ds d ih =>
      obtain ⟨hbefore, -, hlast⟩ := List.pairwise_append.mp hds
      rw [List.foldl_append, List.foldl_cons, List.foldl_nil, declare]
      split
      · exact ih hbefore
      · apply pairwise_betTypes_enter (ih hbefore)
        intro h hh j hj
        obtain ⟨e, he, rfl, -⟩ := ((represents_foldl ds).betTypes h hh j).mp hj
        exact hlast e he d (List.mem_singleton_self d)
  apply hfold (declarations betTypes) (pairwise_declarations betTypes)
  rw [← declared_eq_foldl]
  exact (List.mergeSort_perm _ _).mem_iff.mp hg

end LotterySlip.AliasIndex

namespace LotterySlip
open Text

def BetType.declares (key : List Char) (b : BetType) : Bool :=
  b.aliases.any fun a => foldKey a.toList == key

theorem BetType.declares_iff (key : List Char) (b : BetType) :
    b.declares key = true ↔ ∃ a ∈ b.aliases, foldKey a.toList = key := by
  simp only [declares, List.any_eq_true, beq_iff_eq]

theorem AliasIndex.mem_betTypes_iff {betTypes : List BetType} {g : AliasGroup}
    (hg : g ∈ (ofBetTypes betTypes).groups) (i : Nat) :
    i ∈ g.betTypes ↔ ∃ b, betTypes[i]? = some b ∧ b.declares g.key = true := by
  rw [(represents_ofBetTypes betTypes).betTypes g hg i]
  simp only [BetType.declares_iff]
  constructor
  · rintro ⟨⟨j, a⟩, hd, rfl, hkey⟩
    obtain ⟨b, hb, ha⟩ := (mem_declarations_iff betTypes j a).mp hd
    exact ⟨b, hb, a, ha, hkey⟩
  · rintro ⟨b, hb, a, ha, hkey⟩
    exact ⟨(i, a), (mem_declarations_iff betTypes i a).mpr ⟨b, hb, ha⟩, rfl, hkey⟩

/-- The places of a group are those of the bet types that declare its key. -/
theorem AliasIndex.betTypes_eq {betTypes : List BetType} {g : AliasGroup}
    (hg : g ∈ (ofBetTypes betTypes).groups) : g.betTypes =
      (betTypes.zipIdx.filter fun b => b.1.declares g.key).map Prod.snd := by
  have hasc := pairwise_betTypes hg
  have hasc' : ((betTypes.zipIdx.filter fun b => b.1.declares g.key).map Prod.snd).Pairwise
      fun i j => i < j := (pairwise_places betTypes).sublist (List.filter_sublist.map _)
  apply hasc.eq_of_mem_iff hasc'
  intro i
  rw [mem_betTypes_iff hg i]
  simp only [List.mem_map, List.mem_filter, Prod.exists, List.mem_zipIdx_iff_getElem?]
  constructor
  · rintro ⟨b, hb, hd⟩
    exact ⟨b, i, ⟨hb, hd⟩, rfl⟩
  · rintro ⟨b, j, ⟨hb, hd⟩, rfl⟩
    exact ⟨b, hb, hd⟩

/-- What a group stands for: the bet types that declare its key, in catalog order. -/
theorem AliasIndex.filterMap_betTypes {betTypes : List BetType} {g : AliasGroup}
    (hg : g ∈ (ofBetTypes betTypes).groups) :
    (g.betTypes.filterMap fun i => betTypes[i]?) = betTypes.filter (BetType.declares g.key) := by
  have hat : ∀ b ∈ betTypes.zipIdx.filter (fun b => b.1.declares g.key),
      betTypes[b.2]? = some b.1 := by
    intro b hb
    exact List.mem_zipIdx_iff_getElem?.mp (List.mem_filter.mp hb).1
  calc (g.betTypes.filterMap fun i => betTypes[i]?)
      = (betTypes.zipIdx.filter fun b => b.1.declares g.key).filterMap fun b => betTypes[b.2]? := by
        rw [betTypes_eq hg, List.filterMap_map]
        rfl
    _ = (betTypes.zipIdx.filter fun b => b.1.declares g.key).map Prod.fst := by
        rw [List.filterMap_congr hat]
        exact congrFun List.filterMap_eq_map _
    _ = betTypes.filter (BetType.declares g.key) := by
        have hfirst : (betTypes.zipIdx.map Prod.fst) = betTypes := List.zipIdx_map_fst 0 betTypes
        conv_rhs => rw [← hfirst, List.filter_map]
        rfl

/-- Every key is declared. -/
theorem AliasIndex.exists_declares {betTypes : List BetType} {g : AliasGroup}
    (hg : g ∈ (ofBetTypes betTypes).groups) : ∃ b ∈ betTypes, b.declares g.key = true := by
  obtain ⟨b, hb, a, ha, hkey⟩ := exists_alias_of_key hg
  exact ⟨b, hb, (b.declares_iff g.key).mpr ⟨a, ha, hkey.symm⟩⟩

end LotterySlip
