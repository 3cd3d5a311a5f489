import LotterySlip.Proofs.Alias.Precedence

/-! What the index makes of a catalog. Which keys it has and in which order, which bet types it lists
for a key and how it shows the key are all settled by the catalog: only one index holds it. -/
namespace LotterySlip.AliasIndex
open Text

/-- An index that holds a catalog. It has the keys that are declared and not empty, each once, in the
order of the search. For every key it lists the places of the bet types that declare it, in catalog
order, and shows the alias by which the key is first declared. -/
structure Holds (index : AliasIndex) (betTypes : List BetType) : Prop where
  nodup_keys : (index.groups.map AliasGroup.key).Nodup
  key_iff : ∀ key, (∃ g ∈ index.groups, g.key = key) ↔
    key ≠ [] ∧ ∃ b ∈ betTypes, ∃ a ∈ b.aliases, foldKey a.toList = key
  order : index.groups.Pairwise fun g h => Precedes (declaredKeys betTypes) g.key h.key
  ascending : ∀ g ∈ index.groups, g.betTypes.Pairwise fun i j => i < j
  mem_iff : ∀ g ∈ index.groups, ∀ i, i ∈ g.betTypes ↔
    ∃ b, betTypes[i]? = some b ∧ ∃ a ∈ b.aliases, foldKey a.toList = g.key
  display : ∀ g ∈ index.groups, ∃ a,
    ((betTypes.flatMap BetType.aliases).find? fun a => foldKey a.toList == g.key) = some a ∧
      g.display = String.ofList (trim a.toList)

theorem map_snd_declarations (betTypes : List BetType) :
    (declarations betTypes).map Prod.snd = betTypes.flatMap BetType.aliases := by
  have hplaces : betTypes.zipIdx.map Prod.fst = betTypes := List.zipIdx_map_fst 0 betTypes
  conv_rhs => rw [← hplaces, List.flatMap_map]
  rw [declarations, List.map_flatMap]
  congr 1
  funext b
  rw [List.map_map]
  exact List.map_id _

/-- The first alias with a key is that of the first declaration with it. -/
theorem find?_aliases (betTypes : List BetType) (key : List Char) :
    ((betTypes.flatMap BetType.aliases).find? fun a => foldKey a.toList == key) =
      ((declarations betTypes).find? fun d => declaredKey d == key).map Prod.snd := by
  rw [← map_snd_declarations, List.find?_map]
  rfl

theorem holds_ofBetTypes (betTypes : List BetType) : (ofBetTypes betTypes).Holds betTypes where
  nodup_keys := (represents_ofBetTypes betTypes).keys_nodup
  key_iff key := by rw [exists_group_iff, mem_declaredKeys_iff]
  order := pairwise_precedes betTypes
  ascending g hg := pairwise_betTypes hg
  mem_iff g hg i := by simp only [mem_betTypes_iff hg i, BetType.declares_iff]
  display g hg := by
    obtain ⟨d, hfind, hdisplay⟩ := (represents_ofBetTypes betTypes).first g hg
    exact ⟨d.2, by rw [find?_aliases, hfind, Option.map_some], hdisplay⟩

variable {betTypes : List BetType} {index index' : AliasIndex}

/-- Groups of one key are the same in all indices that hold the catalog. -/
theorem Holds.group_eq (h : index.Holds betTypes) (h' : index'.Holds betTypes) {g g' : AliasGroup}
    (hg : g ∈ index.groups) (hg' : g' ∈ index'.groups) (hkey : g'.key = g.key) : g' = g := by
  have hlisted : g'.betTypes = g.betTypes := by
    apply (h'.ascending g' hg').eq_of_mem_iff (h.ascending g hg)
    intro i
    rw [h'.mem_iff g' hg', h.mem_iff g hg, hkey]
  have hshown : g'.display = g.display := by
    obtain ⟨a, hfind, hdisplay⟩ := h.display g hg
    obtain ⟨a', hfind', hdisplay'⟩ := h'.display g' hg'
    rw [hkey, hfind, Option.some.injEq] at hfind'
    rw [hdisplay', hdisplay, hfind']
  calc g' = ⟨g'.key, g'.display, g'.betTypes⟩ := rfl
    _ = ⟨g.key, g.display, g.betTypes⟩ := by rw [hkey, hshown, hlisted]
    _ = g := rfl

theorem Holds.mem_of_mem (h : index.Holds betTypes) (h' : index'.Holds betTypes) {g : AliasGroup}
    (hg : g ∈ index.groups) : g ∈ index'.groups := by
  have hdeclared := (h.key_iff g.key).mp ⟨g, hg, rfl⟩
  obtain ⟨g', hg', hkey⟩ := (h'.key_iff g.key).mpr hdeclared
  exact h.group_eq h' hg hg' hkey ▸ hg'

/-- The order of the search leaves no choice where the groups stand. -/
theorem Holds.unique (h : index.Holds betTypes) (h' : index'.Holds betTypes) : index = index' := by
  have hperm : index.groups.Perm index'.groups :=
    (List.perm_ext_iff_of_nodup h.nodup_keys.of_map h'.nodup_keys.of_map).mpr fun _ =>
      ⟨h.mem_of_mem h', h'.mem_of_mem h⟩
  have hgroups : index.groups = index'.groups :=
    hperm.eq_of_pairwise (fun _ _ _ _ hab hba => absurd hba hab.not_precedes) h.order h'.order
  exact congrArg AliasIndex.mk hgroups

/-- The index of a catalog holds it, and no other index does. -/
theorem eq_ofBetTypes_iff (betTypes : List BetType) (index : AliasIndex) :
    index = ofBetTypes betTypes ↔ index.Holds betTypes := by
  constructor
  · rintro rfl
    exact holds_ofBetTypes betTypes
  · intro h
    exact h.unique (holds_ofBetTypes betTypes)

end LotterySlip.AliasIndex
