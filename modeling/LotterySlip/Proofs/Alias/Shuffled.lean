import Mathlib.Logic.Equiv.Defs
import LotterySlip.Proofs.Alias.Written

/-! Catalogs in another order. Which alias is found, and with which numbers and amount, does not depend
on the order in which bet types and aliases are declared, as long as no alias ends like an amount: of
two aliases that stand in one line the shorter ends the longer, so that none of them is as long as
another. -/
namespace LotterySlip
open Text

structure BetType.Realiases (b b' : BetType) : Prop where
  aliases : b.aliases.Perm b'.aliases
  rest : { b with aliases := [] } = { b' with aliases := [] }

/-- The same bet types in another order: the one at place `i` stands at place `σ i`, with its aliases in
any order. -/
def Shuffles {betTypes betTypes' : List BetType} (σ : Fin betTypes.length ≃ Fin betTypes'.length) :
    Prop :=
  ∀ i, (betTypes.get i).Realiases (betTypes'.get (σ i))

structure AliasHit.Same {m n : Nat} (σ : Fin m ≃ Fin n) (hit hit' : AliasHit) : Prop where
  key : hit'.group.key = hit.group.key
  numbersText : hit'.numbersText = hit.numbersText
  amount : hit'.amount = hit.amount
  betTypes : ∀ j, j ∈ hit'.group.betTypes ↔ ∃ i, (σ i).val = j ∧ i.val ∈ hit.group.betTypes

variable {betTypes betTypes' : List BetType} {line : List Char} {hit hit' : AliasHit}

theorem BetType.Realiases.symm {b b' : BetType} (h : b.Realiases b') : b'.Realiases b :=
  ⟨h.aliases.symm, h.rest.symm⟩

theorem BetType.Realiases.declares {b b' : BetType} (h : b.Realiases b') (key : List Char) :
    b'.declares key = b.declares key := by
  rw [Bool.eq_iff_iff, BetType.declares_iff, BetType.declares_iff]
  simp only [h.aliases.mem_iff]

namespace Shuffles

variable {σ : Fin betTypes.length ≃ Fin betTypes'.length}

theorem symm (h : Shuffles σ) : Shuffles σ.symm := by
  intro j
  have hj := (h (σ.symm j)).symm
  rwa [σ.apply_symm_apply] at hj

theorem mem_declaredKeys (h : Shuffles σ) {key : List Char}
    (hkey : key ∈ AliasIndex.declaredKeys betTypes) : key ∈ AliasIndex.declaredKeys betTypes' := by
  rw [AliasIndex.mem_declaredKeys_iff] at hkey ⊢
  obtain ⟨b, hb, a, ha, hk⟩ := hkey
  obtain ⟨i, rfl⟩ := List.mem_iff_get.mp hb
  exact ⟨_, List.get_mem _ (σ i), a, (h i).aliases.mem_iff.mp ha, hk⟩

theorem mem_groups (h : Shuffles σ) {g : AliasGroup}
    (hg : g ∈ (AliasIndex.ofBetTypes betTypes).groups) :
    ∃ g' ∈ (AliasIndex.ofBetTypes betTypes').groups, g'.key = g.key := by
  rw [AliasIndex.exists_group_iff]
  exact ⟨AliasIndex.key_ne_nil hg, h.mem_declaredKeys (AliasIndex.key_mem_declaredKeys hg)⟩

/-- Groups of one key list the same bet types. -/
theorem mem_betTypes_iff (h : Shuffles σ) {g g' : AliasGroup}
    (hg : g ∈ (AliasIndex.ofBetTypes betTypes).groups)
    (hg' : g' ∈ (AliasIndex.ofBetTypes betTypes').groups) (hkey : g'.key = g.key) (j : Nat) :
    j ∈ g'.betTypes ↔ ∃ i, (σ i).val = j ∧ i.val ∈ g.betTypes := by
  have hmoved (i : Fin betTypes.length) : (σ i).val ∈ g'.betTypes ↔ i.val ∈ g.betTypes := by
    have hdeclares : (betTypes'[(σ i).val]).declares g.key = (betTypes[i.val]).declares g.key :=
      (h i).declares g.key
    rw [AliasIndex.mem_betTypes_iff hg', AliasIndex.mem_betTypes_iff hg, hkey]
    simp only [List.getElem?_eq_getElem (Fin.is_lt _), Option.some.injEq, exists_eq_left',
      hdeclares]
  constructor
  · intro hj
    obtain ⟨b, hb, -⟩ := (AliasIndex.mem_betTypes_iff hg' j).mp hj
    have hlt : j < betTypes'.length := (List.getElem?_eq_some_iff.mp hb).1
    refine ⟨σ.symm ⟨j, hlt⟩, by rw [σ.apply_symm_apply], ?_⟩
    rw [← hmoved, σ.apply_symm_apply]
    exact hj
  · rintro ⟨i, rfl, hi⟩
    exact (hmoved i).mpr hi

theorem find?_eq_none (h : Shuffles σ)
    (hnone : (AliasIndex.ofBetTypes betTypes).find? line = none) :
    (AliasIndex.ofBetTypes betTypes').find? line = none := by
  rw [AliasIndex.find?_eq_none_iff] at hnone ⊢
  intro g' hg' i amount
  obtain ⟨g, hg, hkey⟩ := h.symm.mem_groups hg'
  rw [← hkey]
  exact hnone g hg i amount

end Shuffles

/-- No alias that stands in the line is longer than the one that is found. -/
theorem AliasIndex.byteLength_le_of_find? (h : (ofBetTypes betTypes).find? line = some hit)
    {g : AliasGroup} (hg : g ∈ (ofBetTypes betTypes).groups) {i : Nat} {amount : List Char}
    (hcounts : Counts g.key (fold (trim line)) i)
    (hstands : StandsAt g.key (fold (trim line)) i amount) :
    byteLength g.key ≤ byteLength hit.group.key := by
  obtain ⟨-, -, hbefore⟩ := find?_eq_some_iff.mp h
  by_contra hlt
  exact hbefore g hg (Or.inl (by omega)) i amount hcounts hstands

/-- Hits on one alias are at one place. -/
theorem AliasHit.IsAt.eq_of_key {i j : Nat} (h : hit.IsAt line i) (h' : hit'.IsAt line j)
    (hkey : hit'.group.key = hit.group.key) :
    hit'.numbersText = hit.numbersText ∧ hit'.amount = hit.amount := by
  have hstands' := h'.stands
  have hcounts' := h'.counts
  have hfirst' := h'.first
  rw [hkey] at hstands' hcounts' hfirst'
  have hij : i = j := by
    rcases Nat.lt_trichotomy i j with hlt | heq | hlt
    · exact absurd h.stands (hfirst' i _ hlt h.counts)
    · exact heq
    · exact absurd hstands' (h.first j _ hlt hcounts')
  subst hij
  obtain ⟨glyph, hglyph, hnumbers⟩ := h.source
  obtain ⟨glyph', hglyph', hnumbers'⟩ := h'.source
  rw [hglyph, Option.some.injEq] at hglyph'
  refine ⟨?_, hstands'.amount_unique h.stands⟩
  rw [hnumbers, hnumbers', hglyph']

/-- In both catalogs one alias is found. -/
theorem Shuffles.key_eq {σ : Fin betTypes.length ≃ Fin betTypes'.length} (h : Shuffles σ)
    (hkeys : ∀ key ∈ AliasIndex.declaredKeys betTypes, ∀ c ∈ key.getLast?, isFigure c = false)
    (hfind : (AliasIndex.ofBetTypes betTypes).find? line = some hit)
    (hfind' : (AliasIndex.ofBetTypes betTypes').find? line = some hit') :
    hit'.group.key = hit.group.key := by
  obtain ⟨hg, ⟨i, hat⟩, -⟩ := AliasIndex.find?_eq_some_iff.mp hfind
  obtain ⟨hg', ⟨j, hat'⟩, -⟩ := AliasIndex.find?_eq_some_iff.mp hfind'
  obtain ⟨g, hmem, hkey⟩ := h.mem_groups hg
  obtain ⟨g', hmem', hkey'⟩ := h.symm.mem_groups hg'
  have hplain {g : AliasGroup} (hg : g ∈ (AliasIndex.ofBetTypes betTypes).groups)
      (front : List Char) : EndsPlainly (front ++ g.key) := by
    apply endsPlainly_append_of_getLast? (AliasIndex.key_ne_nil hg)
    exact hkeys g.key (AliasIndex.key_mem_declaredKeys hg)
  have hle : byteLength hit'.group.key ≤ byteLength hit.group.key := by
    rw [← hkey']
    exact AliasIndex.byteLength_le_of_find? hfind hmem' (hkey' ▸ hat'.counts) (hkey' ▸ hat'.stands)
  have hge : byteLength hit.group.key ≤ byteLength hit'.group.key := by
    rw [← hkey]
    exact AliasIndex.byteLength_le_of_find? hfind' hmem (hkey ▸ hat.counts) (hkey ▸ hat.stands)
  exact hat'.stands.key_eq hat.stands (hkey' ▸ hplain hmem' _) (hplain hg _) (Nat.le_antisymm hle hge)

/-- The order of the catalog makes no difference to what is found, unless an alias ends like an
amount. -/
theorem AliasIndex.find?_shuffled (betTypes betTypes' : List BetType)
    (σ : Fin betTypes.length ≃ Fin betTypes'.length) (h : Shuffles σ)
    (hkeys : ∀ b ∈ betTypes, ∀ a ∈ b.aliases, ∀ c ∈ (foldKey a.toList).getLast?,
      c.isDigit = false ∧ c ≠ '.') (line : List Char) :
    Option.Rel (AliasHit.Same σ) ((ofBetTypes betTypes).find? line)
      ((ofBetTypes betTypes').find? line) := by
  cases hfind : (ofBetTypes betTypes).find? line with
  | none =>
    rw [h.find?_eq_none hfind]
    exact .none
  | some hit =>
    cases hfind' : (ofBetTypes betTypes').find? line with
    | none =>
      rw [h.symm.find?_eq_none hfind'] at hfind
      cases hfind
    | some hit' =>
      have hlast : ∀ key ∈ declaredKeys betTypes, ∀ c ∈ key.getLast?, isFigure c = false := by
        intro key hkey c hc
        obtain ⟨b, hb, a, ha, rfl⟩ := (mem_declaredKeys_iff betTypes key).mp hkey
        obtain ⟨hdigit, hpoint⟩ := hkeys b hb a ha c hc
        rw [isFigure, hdigit, Bool.false_or]
        simpa using hpoint
      have hkey := h.key_eq hlast hfind hfind'
      obtain ⟨hg, ⟨i, hat⟩, -⟩ := find?_eq_some_iff.mp hfind
      obtain ⟨hg', ⟨j, hat'⟩, -⟩ := find?_eq_some_iff.mp hfind'
      obtain ⟨hnumbers, hamount⟩ := hat.eq_of_key hat' hkey
      exact .some ⟨hkey, hnumbers, hamount, h.mem_betTypes_iff hg hg' hkey⟩

def Sample.sharing : List BetType := [
  ⟨1, "Đá", ["da", "dd"], [], false, none, none⟩,
  ⟨2, "Đá thẳng", ["DA"], [], false, none, none⟩]

def Sample.sharingReversed : List BetType := [
  ⟨2, "Đá thẳng", ["DA"], [], false, none, none⟩,
  ⟨1, "Đá", ["dd", "da"], [], false, none, none⟩]

/-- The alias they share is shown as it was declared first, and is the same alias. -/
theorem AliasIndex.find?_shuffled_sharing :
    ∃ σ : Fin Sample.sharing.length ≃ Fin Sample.sharingReversed.length, Shuffles σ ∧
      ∃ hit hit', (ofBetTypes Sample.sharing).find? "12.34da5".toList = some hit ∧
        (ofBetTypes Sample.sharingReversed).find? "12.34da5".toList = some hit' ∧
        hit.group.display = "da" ∧ hit'.group.display = "DA" ∧ hit.Same σ hit' := by
  have hfind : (ofBetTypes Sample.sharing).find? "12.34da5".toList =
      some ⟨⟨"da".toList, "da", [0, 1]⟩, "12.34".toList, "5".toList⟩ := by
    rw [AliasIndex.find?, groups_of_pairwise (by decide +kernel)]
    decide +kernel
  have hfind' : (ofBetTypes Sample.sharingReversed).find? "12.34da5".toList =
      some ⟨⟨"da".toList, "DA", [0, 1]⟩, "12.34".toList, "5".toList⟩ := by
    rw [AliasIndex.find?, groups_of_pairwise (by decide +kernel)]
    decide +kernel
  have hkeys : ∀ b ∈ Sample.sharing, ∀ a ∈ b.aliases, ∀ c ∈ (foldKey a.toList).getLast?,
      c.isDigit = false ∧ c ≠ '.' := by
    have hda : foldKey ['d', 'a'] = ['d', 'a'] := by decide +kernel
    have hdd : foldKey ['d', 'd'] = ['d', 'd'] := by decide +kernel
    have hDA : foldKey ['D', 'A'] = ['d', 'a'] := by decide +kernel
    simp [Sample.sharing, hda, hdd, hDA]
  let σ : Fin Sample.sharing.length ≃ Fin Sample.sharingReversed.length :=
    ⟨Fin.rev, Fin.rev, Fin.rev_rev, Fin.rev_rev⟩
  have hσ : Shuffles σ :=
    Fin.forall_fin_two.mpr ⟨⟨List.Perm.swap "dd" "da" [], rfl⟩, ⟨List.Perm.refl ["DA"], rfl⟩⟩
  have hsame := find?_shuffled _ _ σ hσ hkeys "12.34da5".toList
  rw [hfind, hfind'] at hsame
  cases hsame with
  | some hsame => exact ⟨σ, hσ, _, _, hfind, hfind', rfl, rfl, hsame⟩

end LotterySlip
