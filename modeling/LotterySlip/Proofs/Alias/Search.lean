import LotterySlip.Proofs.Alias.Amount
import LotterySlip.Proofs.Alias.Occurrence
import LotterySlip.Proofs.Alias.Precedence

/-! What a search finds. A hit is at a place of its alias that counts and that an amount follows, at
the first of them, and no alias that is searched for before has such a place. -/
namespace LotterySlip
open Text

/-- In a list in strict order a search finds the first element that will do. -/
theorem findSome?_eq_some_iff_of_pairwise {α β : Type} {r : α → α → Prop} {l : List α}
    (hl : l.Pairwise r) (hr : ∀ a b, r a b → ¬ r b a) {f : α → Option β} {b : β} :
    l.findSome? f = some b ↔ ∃ a ∈ l, f a = some b ∧ ∀ a' ∈ l, r a' a → f a' = none := by
  constructor
  · intro h
    obtain ⟨before, a, behind, rfl, ha, hnone⟩ := List.findSome?_eq_some_iff.mp h
    refine ⟨a, by simp, ha, fun a' ha' hlt => ?_⟩
    rw [List.pairwise_append, List.pairwise_cons] at hl
    rcases List.mem_append.mp ha' with ha' | ha'
    · exact hnone a' ha'
    · rcases List.mem_cons.mp ha' with rfl | ha'
      · exact absurd hlt (hr _ _ hlt)
      · exact absurd hlt (hr _ _ (hl.2.1.1 a' ha'))
  · rintro ⟨a, ha, hb, hnone⟩
    obtain ⟨before, behind, rfl⟩ := List.append_of_mem ha
    rw [List.pairwise_append] at hl
    apply List.findSome?_eq_some_iff.mpr
    refine ⟨before, a, behind, rfl, hb, fun a' ha' => ?_⟩
    exact hnone a' (List.mem_append_left _ ha') (hl.2.2 a' ha' a List.mem_cons_self)

structure StandsAt (key text : List Char) (i : Nat) (amount : List Char) : Prop where
  spells : SpellsAmount amount
  drop_eq : ∃ blanks, isBlankText blanks = true ∧ text.drop i = key ++ amount ++ blanks

variable {key text amount : List Char} {i : Nat}

theorem standsAt_iff : StandsAt key text i amount ↔
    key <+: text.drop i ∧ lastAmount? (text.drop (i + key.length)) = some amount := by
  constructor
  · rintro ⟨hspells, blanks, hblank, hdrop⟩
    rw [List.append_assoc] at hdrop
    refine ⟨hdrop ▸ List.prefix_append key _, ?_⟩
    rw [← List.drop_drop, hdrop, List.drop_left, lastAmount?_eq_some_iff]
    exact ⟨hspells, blanks, hblank, rfl⟩
  · rintro ⟨⟨behind, hbehind⟩, hamount⟩
    rw [← List.drop_drop, ← hbehind, List.drop_left, lastAmount?_eq_some_iff] at hamount
    obtain ⟨hspells, blanks, hblank, rfl⟩ := hamount
    exact ⟨hspells, blanks, hblank, by rw [← hbehind, List.append_assoc]⟩

namespace StandsAt

theorem prefix_drop (h : StandsAt key text i amount) : key <+: text.drop i :=
  (standsAt_iff.mp h).1

theorem exists_append (h : StandsAt key text i amount) : ∃ blanks, isBlankText blanks = true ∧
    text = text.take i ++ key ++ amount ++ blanks := by
  obtain ⟨blanks, hblanks, hdrop⟩ := h.drop_eq
  refine ⟨blanks, hblanks, ?_⟩
  rw [List.append_assoc, List.append_assoc, ← List.append_assoc key, ← hdrop,
    List.take_append_drop]

theorem lt_length (h : StandsAt key text i amount) : i < text.length := by
  obtain ⟨front, c, hamount, -⟩ := h.spells.exists_concat
  obtain ⟨blanks, -, hdrop⟩ := h.drop_eq
  have hlength := congrArg List.length hdrop
  rw [hamount] at hlength
  simp only [List.length_drop, List.length_append, List.length_singleton] at hlength
  omega

/-- A place of an alias has one amount. -/
theorem amount_unique {amount' : List Char} (h : StandsAt key text i amount)
    (h' : StandsAt key text i amount') : amount = amount' := by
  have hsome := (standsAt_iff.mp h).2
  rw [(standsAt_iff.mp h').2] at hsome
  exact (Option.some.inj hsome).symm

end StandsAt

/-- An alias found at place `i` of a folded line. It is the first of its places that count and have
an amount behind them, and the numbers end before the character that it comes from. -/
structure AliasHit.IsAt (hit : AliasHit) (line : List Char) (i : Nat) : Prop where
  stands : StandsAt hit.group.key (fold line) i hit.amount
  counts : Counts hit.group.key (fold line) i
  first : ∀ j amount, j < i → Counts hit.group.key (fold line) j →
    ¬ StandsAt hit.group.key (fold line) j amount
  source : ∃ glyph, (glyphs line)[i]? = some glyph ∧
    hit.numbersText = line.take glyph.source

namespace AliasGroup

variable {g : AliasGroup} {line : List Char} {hit : AliasHit}

def hitAt? (g : AliasGroup) (line : List Char) (i : Nat) : Option AliasHit := do
  let amount ← lastAmount? ((fold line).drop (i + g.key.length))
  let glyph ← (glyphs line)[i]?
  some ⟨g, line.take glyph.source, amount⟩

theorem find?_glyphs (g : AliasGroup) (line : List Char) : g.find? line (glyphs line) =
    (occurrences g.key (fold line)).findSome? (g.hitAt? line) := by
  rw [find?, map_char_glyphs]
  rfl

theorem hitAt?_eq_some_iff (h : g.key <+: (fold line).drop i) : g.hitAt? line i = some hit ↔
    hit.group = g ∧ StandsAt g.key (fold line) i hit.amount ∧
      ∃ glyph, (glyphs line)[i]? = some glyph ∧ hit.numbersText = line.take glyph.source := by
  simp only [hitAt?, Option.bind_eq_bind, Option.bind_eq_some_iff, Option.some.injEq]
  constructor
  · rintro ⟨amount, hamount, glyph, hglyph, rfl⟩
    exact ⟨rfl, standsAt_iff.mpr ⟨h, hamount⟩, glyph, hglyph, rfl⟩
  · rintro ⟨rfl, hstands, glyph, hglyph, hnumbers⟩
    refine ⟨hit.amount, (standsAt_iff.mp hstands).2, glyph, hglyph, ?_⟩
    rw [← hnumbers]

theorem hitAt?_eq_none_iff (h : g.key <+: (fold line).drop i) : g.hitAt? line i = none ↔
    ∀ amount, ¬ StandsAt g.key (fold line) i amount := by
  constructor
  · intro hnone amount hstands
    have hlt : i < (glyphs line).length := by
      rw [length_glyphs]
      exact hstands.lt_length
    have hsome : g.hitAt? line i = some ⟨g, line.take (glyphs line)[i].source, amount⟩ :=
      (hitAt?_eq_some_iff h).mpr ⟨rfl, hstands, _, List.getElem?_eq_getElem hlt, rfl⟩
    rw [hnone] at hsome
    cases hsome
  · intro hnot
    rw [Option.eq_none_iff_forall_not_mem]
    intro hit hhit
    exact hnot hit.amount ((hitAt?_eq_some_iff h).mp hhit).2.1

theorem group_of_find? (h : g.find? line (glyphs line) = some hit) : hit.group = g := by
  rw [find?_glyphs] at h
  obtain ⟨i, hi, hhit⟩ := List.exists_of_findSome?_eq_some h
  exact ((hitAt?_eq_some_iff (of_mem_occurrences hi)).mp hhit).1

theorem find?_eq_some_iff (hkey : g.key ≠ []) : g.find? line (glyphs line) = some hit ↔
    hit.group = g ∧ ∃ i, hit.IsAt line i := by
  have hlength : 0 < g.key.length := List.length_pos_of_ne_nil hkey
  have hpair : (occurrences g.key (fold line)).Pairwise fun i j => i < j :=
    (pairwise_occurrences g.key (fold line)).imp fun hij => by omega
  rw [find?_glyphs, findSome?_eq_some_iff_of_pairwise hpair fun _ _ => Nat.lt_asymm]
  constructor
  · rintro ⟨i, hi, hhit, hbefore⟩
    obtain ⟨rfl, hstands, hsource⟩ := (hitAt?_eq_some_iff (of_mem_occurrences hi)).mp hhit
    refine ⟨rfl, i, hstands, (mem_occurrences_iff hkey i).mp hi, fun j amount hj hcj => ?_, hsource⟩
    exact (hitAt?_eq_none_iff hcj.prefix_drop).mp
      (hbefore j ((mem_occurrences_iff hkey j).mpr hcj) hj) amount
  · rintro ⟨rfl, i, hat⟩
    refine ⟨i, (mem_occurrences_iff hkey i).mpr hat.counts, ?_, fun j hj hlt => ?_⟩
    · exact (hitAt?_eq_some_iff hat.counts.prefix_drop).mpr ⟨rfl, hat.stands, hat.source⟩
    · have hcj := (mem_occurrences_iff hkey j).mp hj
      exact (hitAt?_eq_none_iff hcj.prefix_drop).mpr fun amount => hat.first j amount hlt hcj

theorem find?_eq_none_iff (hkey : g.key ≠ []) : g.find? line (glyphs line) = none ↔
    ∀ i amount, Counts g.key (fold line) i → ¬ StandsAt g.key (fold line) i amount := by
  rw [find?_glyphs, List.findSome?_eq_none_iff]
  constructor
  · intro h i amount hcounts
    have hnone := h i ((mem_occurrences_iff hkey i).mpr hcounts)
    exact (hitAt?_eq_none_iff hcounts.prefix_drop).mp hnone amount
  · intro h i hi
    have hcounts := (mem_occurrences_iff hkey i).mp hi
    exact (hitAt?_eq_none_iff hcounts.prefix_drop).mpr fun amount => h i amount hcounts

end AliasGroup

namespace AliasIndex

variable {betTypes : List BetType} {line : List Char} {hit : AliasHit}

/-- What is found is a group of the index, however the index came about. -/
theorem group_mem_of_find? {index : AliasIndex} (h : index.find? line = some hit) :
    hit.group ∈ index.groups := by
  obtain ⟨g, hg, hfound⟩ := List.exists_of_findSome?_eq_some h
  exact AliasGroup.group_of_find? hfound ▸ hg

theorem find?_eq_some_iff : (ofBetTypes betTypes).find? line = some hit ↔
    hit.group ∈ (ofBetTypes betTypes).groups ∧ (∃ i, hit.IsAt (trim line) i) ∧
      ∀ g ∈ (ofBetTypes betTypes).groups,
        Precedes (declaredKeys betTypes) g.key hit.group.key → ∀ i amount,
          Counts g.key (fold (trim line)) i → ¬ StandsAt g.key (fold (trim line)) i amount := by
  rw [find?, findSome?_eq_some_iff_of_pairwise (pairwise_precedes betTypes)
    fun _ _ hlt => hlt.not_precedes]
  constructor
  · rintro ⟨g, hg, hhit, hbefore⟩
    obtain ⟨rfl, hat⟩ := (AliasGroup.find?_eq_some_iff (key_ne_nil hg)).mp hhit
    refine ⟨hg, hat, fun g' hg' hlt => ?_⟩
    exact (AliasGroup.find?_eq_none_iff (key_ne_nil hg')).mp (hbefore g' hg' hlt)
  · rintro ⟨hg, hat, hbefore⟩
    refine ⟨hit.group, hg, ?_, fun g' hg' hlt => ?_⟩
    · exact (AliasGroup.find?_eq_some_iff (key_ne_nil hg)).mpr ⟨rfl, hat⟩
    · exact (AliasGroup.find?_eq_none_iff (key_ne_nil hg')).mpr (hbefore g' hg' hlt)

theorem find?_eq_none_iff : (ofBetTypes betTypes).find? line = none ↔
    ∀ g ∈ (ofBetTypes betTypes).groups, ∀ i amount,
      Counts g.key (fold (trim line)) i → ¬ StandsAt g.key (fold (trim line)) i amount := by
  rw [find?, List.findSome?_eq_none_iff]
  constructor
  · intro h g hg
    exact (AliasGroup.find?_eq_none_iff (key_ne_nil hg)).mp (h g hg)
  · intro h g hg
    exact (AliasGroup.find?_eq_none_iff (key_ne_nil hg)).mpr (h g hg)

end AliasIndex
end LotterySlip
